import Footgun.Finding
import Footgun.Json.Writer

/-! # Reports

The report of a scan is a document with the findings in order and their number. -/

namespace Footgun

/-- A finding as an object. An empty message is left out. -/
def Finding.toJson (finding : Finding) : Json :=
  .obj ([
    ("file", .str finding.path),
    ("line", .int finding.position.line),
    ("column", .int finding.position.column),
    ("command", .str finding.command)] ++
    if finding.message = "" then [] else [("message", .str finding.message)])

namespace Output

/-- The document of a list of findings. -/
def reportJson (findings : List Finding) : Json :=
  .obj [("findings", .arr (findings.map Finding.toJson)), ("total", .int findings.length)]

/-- The text of a report. -/
def report (findings : List Finding) : String :=
  (reportJson findings).pretty

end Output

end Footgun
