import Footgun.Text.Quoted

/-! # Failures

A failure stops a run. It has a kind, which is part of what is printed, and a detail. -/

namespace Footgun

/-- What goes wrong. -/
inductive FailureKind where
  /-- A value that cannot be read. -/
  | badValue
  /-- A value of the wrong type. -/
  | wrongType
  /-- An operation that a value does not have. -/
  | noOperation
  /-- A key that is not there. -/
  | noKey
  /-- Something that went wrong on the way. -/
  | broken
  /-- A value that is nested too deeply. -/
  | tooDeep
  /-- The operating system refuses. -/
  | system
  /-- A file or directory is not there. -/
  | noFile
  /-- A file is in the way of a directory. -/
  | fileInTheWay
  /-- A directory is needed where a file stands. -/
  | noDirectory
  /-- A file is needed where a directory stands. -/
  | noPlainFile
  /-- Bytes that are no text. -/
  | noText
  /-- A file without a usable syntax tree. -/
  | noTree
  /-- Markup that closes what was not opened. -/
  | badMarkup
  deriving DecidableEq, Repr

/-- The printed name of a kind. -/
def FailureKind.name : FailureKind → String
  | badValue => "ValueError"
  | wrongType => "TypeError"
  | noOperation => "AttributeError"
  | noKey => "KeyError"
  | broken => "RuntimeError"
  | tooDeep => "RecursionError"
  | system => "OSError"
  | noFile => "FileNotFoundError"
  | fileInTheWay => "FileExistsError"
  | noDirectory => "NotADirectoryError"
  | noPlainFile => "IsADirectoryError"
  | noText => "UnicodeDecodeError"
  | noTree => "ParseFailure"
  | badMarkup => "MarkupError"

/-- Something that stops a run. -/
structure Failure where
  /-- What went wrong. -/
  kind : FailureKind
  /-- About what. -/
  detail : String
  deriving DecidableEq, Repr

/-- The text of a failure. A missing key is quoted. -/
def Failure.text (failure : Failure) : String :=
  if failure.kind = .noKey then Text.quoted failure.detail else failure.detail

/-- A failure in one line. -/
def Failure.summary (failure : Failure) : String :=
  s!"{failure.kind.name}: {failure.text}"

end Footgun
