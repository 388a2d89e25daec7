import ApiClient.Proofs.Http.Headers
import ApiClient.Proofs.Trace.Render

/-!
# Fields that are not shown

What is shown of header fields with the value of one name left out. It does not depend on the values
of that name, nor on how many rows it has, but it may depend on where the first one stands: another
name that differs from it in case beyond ASCII is listed under the spelling that comes first.
-/

namespace ApiClient.Headers

variable {h t : Headers} {name : String}

theorem isAscii_redactedValue : IsAscii redactedValue := by
  decide

/-- The header fields with a single row for the ASCII name `name`, whose value is not shown. -/
def redacted (h : Headers) (hname : IsAscii name) : Headers :=
  h.settle.put (row name redactedValue) (h.settle.takes_row hname isAscii_redactedValue)

theorem lookupKey_of_isAscii (h : Headers) (hname : IsAscii name) :
    h.lookupKey name = .ok (fieldKey name) := by
  rw [lookupKey, h.charset.encode_of_isAscii (Text.isAscii_lower hname), asciiBytes_lower hname]
  rfl

theorem redact_eq (hname : IsAscii name) (hkey : h.hasKey (fieldKey name) = true) :
    h.redact name = .ok (h.redacted hname) := by
  have hset := set_of_isAscii h.settle hname isAscii_redactedValue
  unfold redact
  rw [h.lookupKey_of_isAscii hname]
  show (if h.hasKey (fieldKey name) = true then h.settle.set name redactedValue else _) = _
  rw [if_pos hkey, hset]
  rfl

/-- An ASCII name is no obstacle to leaving its values out. -/
theorem redact_eq_ok (hname : IsAscii name) : ∃ shown, h.redact name = .ok shown := by
  by_cases hkey : h.hasKey (fieldKey name) = true
  · exact ⟨_, redact_eq hname hkey⟩
  · refine ⟨h.settle, ?_⟩
    unfold redact
    rw [h.lookupKey_of_isAscii hname]
    exact if_neg hkey

/-! ## Names as they are read -/

/-- Header fields agree but for the rows of `name`, of which both have some. -/
structure Agree (name : String) (h t : Headers) : Prop where
  /-- The first have a row. -/
  left : h.hasKey (fieldKey name) = true
  /-- The second have a row. -/
  right : t.hasKey (fieldKey name) = true
  /-- The other rows are the same. -/
  others : otherRows (fieldKey name) h.rows = otherRows (fieldKey name) t.rows
  /-- They are read the same. -/
  reads : ReadAlike h.charset t.charset (otherRows (fieldKey name) h.rows)

end ApiClient.Headers
