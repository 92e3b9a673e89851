/-!
# Bytes and text

What travels over a connection is a list of bytes; what the heads of messages
say is text. Text is written as UTF-8 and read back only if it is valid UTF-8.

* `ofText` and `text?` undo each other (`text?_ofText`, `ofText_of_text?`);
* writing one text after another is writing their concatenation
  (`ofText_append`).
-/

namespace Gateway

/-- What a connection carries. -/
abbrev Bytes : Type := List UInt8

namespace Bytes

/-- The UTF-8 bytes of a text. -/
def ofText (s : String) : Bytes :=
  s.toByteArray.data.toList

/-- The text that the bytes spell, if they are valid UTF-8. -/
def text? (bs : Bytes) : Option String :=
  String.fromUTF8? ⟨bs.toArray⟩

/-- Carriage return. -/
def cr : UInt8 := 13

/-- Line feed. -/
def lf : UInt8 := 10

/-- The line end of heads and chunk lines. -/
def crlf : Bytes := [cr, lf]

/-- The text of the bytes as pairs of hexadecimal digits. -/
def hexText (bs : Bytes) : String :=
  String.ofList (bs.flatMap fun b =>
    [Nat.digitChar (b.toNat / 16), Nat.digitChar (b.toNat % 16)])

/-- **What was written as text reads back.** -/
@[simp]
theorem text?_ofText (s : String) : text? (ofText s) = some s := by
  have h : (⟨(ofText s).toArray⟩ : ByteArray) = s.toByteArray := by
    apply ByteArray.ext
    simp [ofText]
  unfold text?
  rw [h, String.fromUTF8?, dif_pos s.isValidUTF8]
  rfl

/-- **Bytes that read as a text are the bytes of that text.** -/
theorem ofText_of_text? {bs : Bytes} {s : String}
    (h : text? bs = some s) : ofText s = bs := by
  simp only [text?, String.fromUTF8?] at h
  split at h
  · cases h; rfl
  · cases h

@[simp]
theorem ofText_append (s t : String) :
    ofText (s ++ t) = ofText s ++ ofText t := by
  simp [ofText, String.toByteArray_append]

@[simp]
theorem ofText_empty : ofText "" = [] := rfl

end Bytes

end Gateway
