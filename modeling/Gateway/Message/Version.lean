import Gateway.Message.Flaw

/-!
# Protocol versions
-/

namespace Gateway

/-- The protocol versions that the gateway speaks. -/
inductive Version where
  /-- Version 1.0, where a connection ends after one exchange unless both sides
  want more. -/
  | http10
  /-- Version 1.1, where a connection goes on unless one side wants it
  closed. -/
  | http11
  deriving DecidableEq, Repr, Inhabited

namespace Version

/-- The text of a version in a start line. -/
def text : Version → String
  | .http10 => "HTTP/1.0"
  | .http11 => "HTTP/1.1"

/-- Reads a version; only the exact texts of the two versions count. -/
def ofText (s : String) : Except Flaw Version :=
  if s = "HTTP/1.1" then .ok .http11
  else if s = "HTTP/1.0" then .ok .http10
  else .error .unsupportedVersion

/-- **A version reads back from its text.** -/
@[simp]
theorem ofText_text (v : Version) : ofText v.text = .ok v := by
  cases v <;> simp [ofText, text]

theorem eq_text_of_ofText {s : String} {v : Version}
    (h : ofText s = .ok v) : s = v.text := by
  unfold ofText at h
  split at h
  · cases h; assumption
  · split at h
    · cases h; assumption
    · cases h

end Version

end Gateway
