import Mathlib.Tactic.SplitIfs
import ApiClient.Json.Printer
import ApiClient.Proofs.Json.Text

/-!
# Printed JSON texts

What is written for a value stands for the value, if the value is one that a text can give exactly:
it has no floating point numbers, no integer with more digits than are read, and no object with two
fields of one name.
-/

namespace ApiClient.Json

/-! ## Strings -/

theorem map_toLower_hexPadded {n : Nat} (h : n < 0x20) :
    (Text.hexPadded 4 n).map Char.toLower = hex4 n := by
  have hall : ∀ n < 0x20, (Text.hexPadded 4 n).map Char.toLower = hex4 n := by decide
  exact hall n h

theorem charText_escapeChar (c : Char) : CharText c (escapeChar c) := by
  unfold escapeChar
  split_ifs with hquote hbackslash hnewline hreturn htab hfeed hback hcontrol
  · exact .escape (by rw [hquote]; decide)
  · exact .escape (by rw [hbackslash]; decide)
  · exact .escape (by rw [hnewline]; decide)
  · exact .escape (by rw [hreturn]; decide)
  · exact .escape (by rw [htab]; decide)
  · exact .escape (by rw [hfeed]; decide)
  · exact .escape (by rw [hback]; decide)
  · exact .unit (Nat.lt_trans hcontrol (by decide)) (map_toLower_hexPadded hcontrol)
  · exact .plain hquote hbackslash (Nat.le_of_not_lt hcontrol)

theorem charsText_escapeChar (s : List Char) : CharsText s (s.flatMap escapeChar) := by
  induction s with
  | nil => exact .nil
  | cons c s ih =>
    rw [List.flatMap_cons]
    exact .cons (charText_escapeChar c) ih

theorem stringText_printString (s : String) : StringText s (printString s) :=
  .quoted (charsText_escapeChar s.toList)

/-! ## Values -/

mutual

/-- A text gives the value exactly. -/
def Exact : Json → Prop
  | int n => (Nat.toDigits 10 n.natAbs).length ≤ Integer.maxDigits
  | float _ => False
  | arr items => ExactItems items
  | obj fields => (fields.map Prod.fst).Nodup ∧ ExactFields fields
  | _ => True

/-- A text gives the items of an array exactly. -/
def ExactItems : List Json → Prop
  | [] => True
  | v :: rest => v.Exact ∧ ExactItems rest

/-- A text gives the fields of an object exactly. -/
def ExactFields : List (String × Json) → Prop
  | [] => True
  | (_, v) :: rest => v.Exact ∧ ExactFields rest

end

theorem blanks_nil : Blanks [] :=
  fun _ hc => absurd hc List.not_mem_nil

theorem fieldWritten_print (name : String) {v : Json} {t : List Char} (h : Written v t) :
    FieldWritten (name, v) (printString name ++ ':' :: t) := by
  have hfield := FieldWritten.field (stringText_printString name) blanks_nil blanks_nil h blanks_nil
  simpa only [List.append_nil, List.nil_append, List.append_assoc, List.cons_append] using hfield

mutual

/-- Such a value has a printed text, which stands for it. -/
theorem exists_print_of_exact (v : Json) (h : v.Exact) : ∃ t, v.print? = some t ∧ Written v t := by
  cases v with
  | null => exact ⟨_, rfl, .null⟩
  | bool b =>
    refine ⟨_, rfl, ?_⟩
    rw [← apply_ite String.toList]
    exact .bool b
  | int n => exact ⟨_, rfl, .int h⟩
  | float x => exact absurd h id
  | str s => exact ⟨_, rfl, .str (stringText_printString s)⟩
  | arr items =>
    obtain ⟨t, hprint, hitems⟩ := exists_printItems_of_exact items h
    refine ⟨'[' :: t ++ [']'], by rw [print?, hprint]; rfl, ?_⟩
    rcases hitems with ⟨rfl, rfl⟩ | hitems
    · exact .noItems blanks_nil
    · show Written _ ('[' :: [] ++ (t ++ [']']))
      exact .arr blanks_nil hitems
  | obj fields =>
    obtain ⟨t, hprint, hfields⟩ := exists_printFields_of_exact fields h.2
    refine ⟨'\x7b' :: t ++ ['\x7d'], by rw [print?, hprint]; rfl, ?_⟩
    rcases hfields with ⟨rfl, rfl⟩ | hfields
    · exact .noFields blanks_nil
    · show Written _ ('\x7b' :: [] ++ (t ++ ['\x7d']))
      exact .obj blanks_nil h.1 hfields

theorem exists_printItems_of_exact (items : List Json) (h : ExactItems items) :
    ∃ t, printItems? items = some t ∧
      (items = [] ∧ t = [] ∨ ItemsWritten items (t ++ [']'])) := by
  match items with
  | [] => exact ⟨[], rfl, .inl ⟨rfl, rfl⟩⟩
  | [v] =>
    obtain ⟨t, hprint, hv⟩ := exists_print_of_exact v h.1
    refine ⟨t, by rw [printItems?, hprint], .inr ?_⟩
    simpa only [List.append_nil] using ItemsWritten.last hv blanks_nil
  | v :: w :: items =>
    obtain ⟨t, hprint, hv⟩ := exists_print_of_exact v h.1
    obtain ⟨ts, hprints, hitems⟩ := exists_printItems_of_exact (w :: items) h.2
    obtain ⟨⟨⟩, -⟩ | hitems := hitems
    refine ⟨t ++ ',' :: ts, by rw [printItems?, hprint, hprints]; rfl, .inr ?_⟩
    have hmore := ItemsWritten.more hv blanks_nil blanks_nil hitems
    simpa only [List.append_nil, List.nil_append, List.append_assoc, List.cons_append] using hmore

theorem exists_printFields_of_exact (fields : List (String × Json)) (h : ExactFields fields) :
    ∃ t, printFields? fields = some t ∧
      (fields = [] ∧ t = [] ∨ FieldsWritten fields (t ++ ['\x7d'])) := by
  match fields with
  | [] => exact ⟨[], rfl, .inl ⟨rfl, rfl⟩⟩
  | [(name, v)] =>
    obtain ⟨t, hprint, hv⟩ := exists_print_of_exact v h.1
    refine ⟨printString name ++ ':' :: t, by rw [printFields?, hprint]; rfl, .inr ?_⟩
    exact .last (fieldWritten_print name hv)
  | (name, v) :: f :: fields =>
    obtain ⟨t, hprint, hv⟩ := exists_print_of_exact v h.1
    obtain ⟨ts, hprints, hfields⟩ := exists_printFields_of_exact (f :: fields) h.2
    obtain ⟨⟨⟩, -⟩ | hfields := hfields
    refine ⟨printString name ++ ':' :: t ++ ',' :: ts,
      by rw [printFields?, hprint, hprints]; rfl, .inr ?_⟩
    have hmore := FieldsWritten.more (fieldWritten_print name hv) blanks_nil hfields
    simpa only [List.append_nil, List.nil_append, List.append_assoc, List.cons_append] using hmore

end

end ApiClient.Json
