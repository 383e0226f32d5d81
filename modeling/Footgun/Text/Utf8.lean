/-! # Text in bytes

`decode?` reads bytes as UTF-8 and refuses anything else; `decodeLossy` leaves out the bytes that do
not belong to a well-formed character. -/

namespace Footgun.Text

/-- The text that the bytes encode, if they are well-formed UTF-8. -/
def decode? (bytes : ByteArray) : Option String :=
  String.fromUTF8? bytes

/-- Decoding succeeds exactly on encodings. -/
theorem decode?_eq_some_iff {bytes : ByteArray} {text : String} :
    decode? bytes = some text ↔ text.toByteArray = bytes := by
  unfold decode? String.fromUTF8?
  constructor
  · intro h
    split at h
    · simp only [Option.some.injEq] at h
      subst h
      rfl
    · simp at h
  · rintro rfl
    rw [dif_pos text.isValidUTF8]
    rfl

/-- The characters that are well-formed from an offset on, bytes in between left out. -/
def lossyFrom (bytes : ByteArray) (offset : Nat) : List Char :=
  if offset < bytes.size then
    match bytes.utf8DecodeChar? offset with
    | some c => c :: lossyFrom bytes (offset + c.utf8Size)
    | none => lossyFrom bytes (offset + 1)
  else []
termination_by bytes.size - offset
decreasing_by
  · have := c.utf8Size_pos
    omega
  · omega

/-- The text that remains of the bytes when those outside well-formed characters are left out. -/
def decodeLossy (bytes : ByteArray) : String :=
  String.ofList (lossyFrom bytes 0)

end Footgun.Text
