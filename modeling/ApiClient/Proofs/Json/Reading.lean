import ApiClient.Json.Bytes
import ApiClient.Proofs.Json.Printing
import ApiClient.Proofs.Json.Tokens
import ApiClient.Proofs.Text.Ascii

/-!
# Reading JSON texts

A text that stands for a value is read as that value, with blanks around it and in UTF-8, unless the
value is nested too deep.
-/

namespace ApiClient.Json

variable {s t rest : List Char} {c : Char} {n : Nat}

/-! ## Values -/

/-- The text of a number, up to what follows the integer digits, begins with a sign or a digit. -/
theorem exists_cons_of_digits (negative : Bool) (n : Nat) (s : List Char) :
    ∃ c s', sign negative ++ Nat.toDigits 10 n ++ s = c :: s' ∧
      (isDigit c = true ∨ c = '-') ∧ word? (c :: s') = none := by
  obtain ⟨c, digits, hdigits⟩ := List.exists_cons_of_ne_nil (Nat.toDigits_ne_nil (n := n) (b := 10))
  have hdigit : isDigit c = true :=
    isDigit_of_mem_toDigits (n := n) (hdigits ▸ List.mem_cons_self)
  obtain ⟨hplain, hminus⟩ := word?_of_isDigit hdigit (digits ++ s)
  rw [hdigits]
  cases negative with
  | true => exact ⟨'-', _, rfl, Or.inr rfl, hminus⟩
  | false => exact ⟨c, _, rfl, Or.inl hdigit, hplain⟩

theorem not_special_of_isDigit (h : isDigit c = true ∨ c = '-') :
    isBlank c = false ∧ c ∉ ['"', '[', ']', '\x7b'] := by
  have hother : ∀ d, isDigit d = false ∧ d ≠ '-' → c ≠ d := by
    rintro d ⟨hdigit, hminus⟩ rfl
    rcases h with h | h
    · rw [hdigit] at h
      cases h
    · exact hminus h
  constructor
  · rw [← Bool.not_eq_true, isBlank_iff, not_or, not_or, not_or]
    exact ⟨hother _ (by decide), hother _ (by decide), hother _ (by decide), hother _ (by decide)⟩
  · simp only [List.mem_cons, List.not_mem_nil, or_false, not_or]
    exact ⟨hother _ (by decide), hother _ (by decide), hother _ (by decide), hother _ (by decide)⟩

theorem value_of_isDigit (fuel depth : Nat) (hc : isDigit c = true ∨ c = '-')
    (hword : word? (c :: s) = none) : value (fuel + 1) depth (c :: s) = number (c :: s) := by
  obtain ⟨-, hspecial⟩ := not_special_of_isDigit hc
  simp only [List.mem_cons, List.not_mem_nil, or_false, not_or] at hspecial
  obtain ⟨hquote, hbracket, -, hbrace⟩ := hspecial
  simp only [value, if_neg hquote, if_neg hbracket, if_neg hbrace, hword]

theorem value_of_digits (fuel depth : Nat) (negative : Bool) (n : Nat) (s : List Char) :
    value (fuel + 1) depth (sign negative ++ Nat.toDigits 10 n ++ s) =
      number (sign negative ++ Nat.toDigits 10 n ++ s) := by
  obtain ⟨c, s', htext, hc, hword⟩ := exists_cons_of_digits negative n s
  rw [htext]
  exact value_of_isDigit fuel depth hc hword

/-- The text of a value begins with a character that is no blank and no closing bracket. -/
theorem exists_cons_of_written {v : Json} (h : Written v t) :
    ∃ c s, t = c :: s ∧ isBlank c = false ∧ c ≠ ']' := by
  have hdigits : ∀ (negative : Bool) (n : Nat) (s : List Char),
      ∃ c s', sign negative ++ Nat.toDigits 10 n ++ s = c :: s' ∧ isBlank c = false ∧ c ≠ ']' := by
    intro negative n s
    obtain ⟨c, s', htext, hc, -⟩ := exists_cons_of_digits negative n s
    obtain ⟨hblank, hspecial⟩ := not_special_of_isDigit hc
    refine ⟨c, s', htext, hblank, ?_⟩
    rintro rfl
    exact hspecial (by decide)
  cases h with
  | int h =>
    rename_i n
    rw [toList_toString]
    simpa only [List.append_nil] using hdigits (n < 0) n.natAbs []
  | float h =>
    obtain ⟨-, -, -⟩ := h
    rw [List.append_assoc]
    exact hdigits _ _ _
  | str h =>
    obtain ⟨-⟩ := h
    exact ⟨'"', _, rfl, by decide, by decide⟩
  | bool b =>
    cases b with
    | true => exact ⟨'t', _, rfl, by decide, by decide⟩
    | false => exact ⟨'f', _, rfl, by decide, by decide⟩
  | noItems => exact ⟨'[', _, rfl, by decide, by decide⟩
  | arr => exact ⟨'[', _, rfl, by decide, by decide⟩
  | noFields => exact ⟨'\x7b', _, rfl, by decide, by decide⟩
  | obj => exact ⟨'\x7b', _, rfl, by decide, by decide⟩
  | null => exact ⟨'n', _, rfl, by decide, by decide⟩
  | nan => exact ⟨'N', _, rfl, by decide, by decide⟩
  | infinity => exact ⟨'I', _, rfl, by decide, by decide⟩
  | minusInfinity => exact ⟨'-', _, rfl, by decide, by decide⟩

/-- The fields of an object as they are read: each is put behind those before it, or takes the place
of one with its name. -/
def collect (known fields : List (String × Json)) : List (String × Json) :=
  fields.foldl (fun known f => setField known f.1 f.2) known

theorem setField_of_not_mem {known : List (String × Json)} {name : String} {v : Json}
    (h : name ∉ known.map Prod.fst) : setField known name v = known ++ [(name, v)] := by
  induction known with
  | nil => rfl
  | cons f known ih =>
    obtain ⟨key, old⟩ := f
    rw [List.map_cons, List.mem_cons, not_or] at h
    rw [setField, if_neg fun hkey => h.1 hkey.symm, ih h.2, List.cons_append]

/-- Fields with distinct names are read as they are. -/
theorem collect_of_nodup {known fields : List (String × Json)}
    (h : ((known ++ fields).map Prod.fst).Nodup) : collect known fields = known ++ fields := by
  induction fields generalizing known with
  | nil => exact (List.append_nil known).symm
  | cons f fields ih =>
    have hnew : f.1 ∉ known.map Prod.fst := by
      rw [List.map_append, List.map_cons, List.nodup_append] at h
      exact fun hmem => h.2.2 f.1 hmem f.1 List.mem_cons_self rfl
    rw [List.append_cons] at h ⊢
    rw [← ih h, collect, List.foldl_cons, setField_of_not_mem hnew]
    rfl

/-! ### Steps -/

section Steps

variable {fuel depth : Nat} {v : Json} {vs : List Json} {known known' : List (String × Json)}
  {name : String} {after inner : List Char}

theorem items_of_bracket (hvalue : value fuel depth s = .ok (v, after))
    (hafter : skipBlanks after = ']' :: rest) : items (fuel + 1) depth s = .ok ([v], rest) := by
  simp only [items, hvalue, hafter, bind, Except.bind]
  rfl

theorem items_of_comma (hvalue : value fuel depth s = .ok (v, after))
    (hafter : skipBlanks after = ',' :: inner)
    (hitems : items fuel depth (skipBlanks inner) = .ok (vs, rest)) :
    items (fuel + 1) depth s = .ok (v :: vs, rest) := by
  simp only [items, hvalue, hafter, hitems, bind, Except.bind]
  rfl

theorem fields_of_brace (hname : string s = .ok (name, after))
    (hcolon : skipBlanks after = ':' :: inner) {end_ : List Char}
    (hvalue : value fuel depth (skipBlanks inner) = .ok (v, end_))
    (hend : skipBlanks end_ = '\x7d' :: rest) :
    fields (fuel + 1) depth known ('"' :: s) = .ok (setField known name v, rest) := by
  simp only [fields, hname, hcolon, hvalue, hend, bind, Except.bind]
  rfl

theorem fields_of_comma (hname : string s = .ok (name, after))
    (hcolon : skipBlanks after = ':' :: inner) {end_ more : List Char}
    (hvalue : value fuel depth (skipBlanks inner) = .ok (v, end_))
    (hend : skipBlanks end_ = ',' :: more) :
    fields (fuel + 1) depth known ('"' :: s) =
      fields fuel depth (setField known name v) (skipBlanks more) := by
  simp only [fields, hname, hcolon, hvalue, hend, bind, Except.bind]

theorem value_of_no_items (h : skipBlanks inner = ']' :: rest) :
    value (fuel + 1) (depth + 1) ('[' :: inner) = .ok (.arr [], rest) := by
  have hquote : '[' ≠ '"' := by decide
  simp only [value, if_neg hquote, if_true, Nat.add_one_ne_zero, if_false, h]

theorem value_of_items (h : skipBlanks inner = c :: s) (hc : c ≠ ']')
    (hitems : items fuel depth (c :: s) = .ok (vs, rest)) :
    value (fuel + 1) (depth + 1) ('[' :: inner) = .ok (.arr vs, rest) := by
  have hquote : '[' ≠ '"' := by decide
  simp only [value, if_neg hquote, if_true, Nat.add_one_ne_zero, if_false, h]
  split
  · rename_i heq
    cases heq
    exact absurd rfl hc
  · rw [Nat.add_sub_cancel, hitems]
    rfl

theorem value_of_no_fields (h : skipBlanks inner = '\x7d' :: rest) :
    value (fuel + 1) (depth + 1) ('\x7b' :: inner) = .ok (.obj [], rest) := by
  have hother : '\x7b' ≠ '"' ∧ '\x7b' ≠ '[' := by decide
  simp only [value, if_neg hother.1, if_neg hother.2, if_true, Nat.add_one_ne_zero, if_false, h]

theorem value_of_brace (h : skipBlanks inner = '"' :: s) :
    value (fuel + 1) (depth + 1) ('\x7b' :: inner) =
      fields fuel depth [] ('"' :: s) >>= fun (fs, rest) => .ok (.obj fs, rest) := by
  have hother : '\x7b' ≠ '"' ∧ '\x7b' ≠ '[' := by decide
  simp only [value, if_neg hother.1, if_neg hother.2, if_true, Nat.add_one_ne_zero, if_false, h]
  rfl

theorem value_of_fields {fs : List (String × Json)} (h : skipBlanks inner = '"' :: s)
    (hfields : fields fuel depth [] ('"' :: s) = .ok (fs, rest)) :
    value (fuel + 1) (depth + 1) ('\x7b' :: inner) = .ok (.obj fs, rest) := by
  rw [value_of_brace h, hfields]
  rfl

end Steps

/-! ### Runs -/

/-- What the texts of values, of items and of fields are read as with some fuel, if the values are
not nested too deep. -/
structure ReadWith (fuel : Nat) : Prop where
  /-- A value is read up to the end of its text. -/
  value : ∀ {v : Json} {t : List Char} {depth : Nat}, Written v t → 2 * t.length < fuel →
    v.depth ≤ depth → ∀ {rest}, Ends rest → value fuel depth (t ++ rest) = .ok (v, rest)
  /-- Items are read up to the closing bracket. -/
  items : ∀ {vs : List Json} {t : List Char} {depth : Nat}, ItemsWritten vs t →
    2 * t.length < fuel → itemsDepth vs ≤ depth → ∀ rest,
      items fuel depth (t ++ rest) = .ok (vs, rest)
  /-- Fields are read up to the closing brace. -/
  fields : ∀ {fs : List (String × Json)} {t : List Char} {depth : Nat}, FieldsWritten fs t →
    2 * t.length < fuel → fieldsDepth fs ≤ depth → ∀ known rest,
      fields fuel depth known (t ++ rest) = .ok (collect known fs, rest)

variable {fuel depth : Nat} {fs : List (String × Json)} {vs : List Json} {v : Json}

theorem exists_cons_of_itemsWritten (h : ItemsWritten vs t) :
    ∃ c s, t = c :: s ∧ isBlank c = false ∧ c ≠ ']' := by
  cases h with
  | last h hb =>
    obtain ⟨c, s, rfl, hc⟩ := exists_cons_of_written h
    exact ⟨c, _, rfl, hc⟩
  | more h hb hb' hitems =>
    obtain ⟨c, s, rfl, hc⟩ := exists_cons_of_written h
    exact ⟨c, _, rfl, hc⟩

theorem skipBlanks_of_written {b : List Char} (hb : Blanks b) (h : Written v t)
    (rest : List Char) : skipBlanks (b ++ (t ++ rest)) = t ++ rest := by
  obtain ⟨c, s, rfl, hc, -⟩ := exists_cons_of_written h
  exact skipBlanks_append_cons hb hc

theorem readWith_items (ih : ReadWith fuel) (h : ItemsWritten vs t)
    (hfuel : 2 * t.length < fuel + 1) (hdepth : itemsDepth vs ≤ depth) (rest : List Char) :
    items (fuel + 1) depth (t ++ rest) = .ok (vs, rest) := by
  cases h with
  | last h hb =>
    rename_i v t b
    simp only [List.length_append, List.length_singleton] at hfuel
    obtain ⟨hdepth, -⟩ := Nat.max_le.mp hdepth
    have hends : Ends (b ++ ']' :: rest) := ends_append_cons hb (by decide)
    have htext : t ++ b ++ [']'] ++ rest = t ++ (b ++ ']' :: rest) := by simp
    rw [htext]
    exact items_of_bracket (ih.value h (by omega) hdepth hends)
      (skipBlanks_append_cons hb (by decide))
  | more h hb hb' hitems =>
    rename_i v vs t b b' ts
    simp only [List.length_append, List.length_cons] at hfuel
    obtain ⟨hdepth, hmore⟩ := Nat.max_le.mp hdepth
    obtain ⟨c, s, hts, hc, -⟩ := exists_cons_of_itemsWritten hitems
    have hends : Ends (b ++ ',' :: (b' ++ (ts ++ rest))) := ends_append_cons hb (by decide)
    have hskip : skipBlanks (b' ++ (ts ++ rest)) = ts ++ rest := by
      rw [hts]
      exact skipBlanks_append_cons hb' hc
    have htext : t ++ b ++ ',' :: b' ++ ts ++ rest = t ++ (b ++ ',' :: (b' ++ (ts ++ rest))) := by
      simp
    rw [htext]
    refine items_of_comma (ih.value h (by omega) hdepth hends)
      (skipBlanks_append_cons hb (by decide)) ?_
    rw [hskip]
    exact ih.items hitems (by omega) hmore rest

/-- A field with the delimiter behind it is a name, a colon and the text of its value. -/
theorem exists_parts_of_fieldWritten {f : String × Json} (h : FieldWritten f t) {d : Char}
    (hd : d = ',' ∨ d = '\x7d') (rest : List Char) :
    ∃ s after inner text end_, t ++ d :: rest = '"' :: s ∧ string s = .ok (f.1, after) ∧
      skipBlanks after = ':' :: inner ∧ skipBlanks inner = text ++ end_ ∧ Written f.2 text ∧
      text.length ≤ t.length ∧ Ends end_ ∧ skipBlanks end_ = d :: rest := by
  obtain ⟨hname, hb, hb', h, hb''⟩ := h
  rename_i name v n b b' text b''
  have hblank : isBlank d = false ∧ (d = ',' ∨ d = ']' ∨ d = '\x7d') := by
    rcases hd with rfl | rfl
    all_goals decide
  obtain ⟨inner, rfl, hstring⟩ :=
    string_of_stringText hname (b ++ ':' :: (b' ++ (text ++ (b'' ++ d :: rest))))
  refine ⟨_, _, _, text, _, by simp, hstring, skipBlanks_append_cons hb (by decide),
    skipBlanks_of_written hb' h _, h, ?_, ends_append_cons hb'' hblank.2,
    skipBlanks_append_cons hb'' hblank.1⟩
  simp only [List.length_append, List.length_cons]
  omega

/-- A field is read up to the delimiter behind it. -/
theorem readWith_field (ih : ReadWith fuel) {f : String × Json} (h : FieldWritten f t)
    (hfuel : 2 * t.length < fuel) (hdepth : f.2.depth ≤ depth) {d : Char}
    (hd : d = ',' ∨ d = '\x7d') (rest : List Char) :
    ∃ s after inner end_, t ++ d :: rest = '"' :: s ∧ string s = .ok (f.1, after) ∧
      skipBlanks after = ':' :: inner ∧ value fuel depth (skipBlanks inner) = .ok (f.2, end_) ∧
      skipBlanks end_ = d :: rest := by
  obtain ⟨s, after, inner, text, end_, htext, hname, hcolon, hinner, hwritten, hlength, hends,
    hend⟩ := exists_parts_of_fieldWritten h hd rest
  refine ⟨s, after, inner, end_, htext, hname, hcolon, ?_, hend⟩
  rw [hinner]
  exact ih.value hwritten (by omega) hdepth hends

theorem exists_cons_of_fieldsWritten (h : FieldsWritten fs t) : ∃ s, t = '"' :: s := by
  have hfield : ∀ {f : String × Json} {t : List Char}, FieldWritten f t → ∃ s, t = '"' :: s := by
    intro f t h
    obtain ⟨⟨-⟩, -, -, -, -⟩ := h
    exact ⟨_, rfl⟩
  cases h with
  | last h =>
    obtain ⟨s, rfl⟩ := hfield h
    exact ⟨_, rfl⟩
  | more h =>
    obtain ⟨s, rfl⟩ := hfield h
    exact ⟨_, rfl⟩

theorem readWith_fields (ih : ReadWith fuel) (h : FieldsWritten fs t)
    (hfuel : 2 * t.length < fuel + 1) (hdepth : fieldsDepth fs ≤ depth)
    (known : List (String × Json)) (rest : List Char) :
    fields (fuel + 1) depth known (t ++ rest) = .ok (collect known fs, rest) := by
  cases h with
  | last h =>
    rename_i f t
    simp only [List.length_append, List.length_singleton] at hfuel
    obtain ⟨hdepth, -⟩ := Nat.max_le.mp hdepth
    obtain ⟨s, after, inner, end_, htext, hname, hcolon, hvalue, hend⟩ :=
      readWith_field ih h (by omega) hdepth (Or.inr rfl) rest
    rw [List.append_assoc, List.singleton_append, htext]
    exact fields_of_brace hname hcolon hvalue hend
  | more h hb hfields =>
    rename_i f fs t b ts
    simp only [List.length_append, List.length_cons] at hfuel
    obtain ⟨hdepth, hmore⟩ := Nat.max_le.mp hdepth
    obtain ⟨s, after, inner, end_, htext, hname, hcolon, hvalue, hend⟩ :=
      readWith_field ih h (by omega) hdepth (Or.inl rfl) (b ++ (ts ++ rest))
    obtain ⟨s', hts⟩ := exists_cons_of_fieldsWritten hfields
    have hskip : skipBlanks (b ++ (ts ++ rest)) = ts ++ rest := by
      rw [hts]
      exact skipBlanks_append_cons hb (by decide)
    have happend : t ++ ',' :: b ++ ts ++ rest = t ++ ',' :: (b ++ (ts ++ rest)) := by simp
    rw [happend, htext, fields_of_comma hname hcolon hvalue hend, hskip]
    exact ih.fields hfields (by omega) hmore _ rest

theorem readWith_value (ih : ReadWith fuel) (h : Written v t) (hfuel : 2 * t.length < fuel + 1)
    (hdepth : v.depth ≤ depth) (hrest : Ends rest) :
    value (fuel + 1) depth (t ++ rest) = .ok (v, rest) := by
  cases h with
  | null => rfl
  | bool b =>
    cases b with
    | true => rfl
    | false => rfl
  | nan => rfl
  | infinity => rfl
  | minusInfinity => rfl
  | int h =>
    rename_i n
    have hnumber := number_of_int h hrest
    rw [toList_toString] at hnumber ⊢
    rw [value_of_digits, hnumber]
  | float h =>
    have hnumber := number_of_floatText h hrest
    obtain ⟨hfraction, hpower, -⟩ := h
    rw [List.append_assoc, List.append_assoc] at hnumber ⊢
    rw [value_of_digits, hnumber]
  | str h =>
    obtain ⟨inner, rfl, hstring⟩ := string_of_stringText h rest
    rw [List.cons_append]
    simp only [value, if_true, hstring]
    rfl
  | noItems hb =>
    rename_i b
    obtain ⟨depth, rfl⟩ := Nat.exists_eq_add_of_le' hdepth
    have htext : '[' :: b ++ [']'] ++ rest = '[' :: (b ++ ']' :: rest) := by simp
    rw [htext]
    exact value_of_no_items (skipBlanks_append_cons hb (by decide))
  | arr hb h =>
    rename_i vs b t
    simp only [List.length_append, List.length_cons] at hfuel
    obtain ⟨depth, rfl⟩ := Nat.exists_eq_add_of_le' (Nat.le_trans (Nat.le_add_left 1 _) hdepth)
    have hitems := ih.items h (by omega) (Nat.le_of_succ_le_succ hdepth) rest
    obtain ⟨c, s, rfl, hc, hbracket⟩ := exists_cons_of_itemsWritten h
    have htext : '[' :: b ++ c :: s ++ rest = '[' :: (b ++ c :: (s ++ rest)) := by simp
    rw [htext]
    exact value_of_items (skipBlanks_append_cons hb hc) hbracket hitems
  | noFields hb =>
    rename_i b
    obtain ⟨depth, rfl⟩ := Nat.exists_eq_add_of_le' hdepth
    have htext : '\x7b' :: b ++ ['\x7d'] ++ rest = '\x7b' :: (b ++ '\x7d' :: rest) := by simp
    rw [htext]
    exact value_of_no_fields (skipBlanks_append_cons hb (by decide))
  | obj hb hnames h =>
    rename_i fs b t
    simp only [List.length_append, List.length_cons] at hfuel
    obtain ⟨depth, rfl⟩ := Nat.exists_eq_add_of_le' (Nat.le_trans (Nat.le_add_left 1 _) hdepth)
    have hfields := ih.fields h (by omega) (Nat.le_of_succ_le_succ hdepth) [] rest
    have hcollect : collect [] fs = [] ++ fs := collect_of_nodup hnames
    rw [hcollect, List.nil_append] at hfields
    obtain ⟨s, rfl⟩ := exists_cons_of_fieldsWritten h
    have htext : '\x7b' :: b ++ '"' :: s ++ rest = '\x7b' :: (b ++ '"' :: (s ++ rest)) := by simp
    rw [htext]
    exact value_of_fields (skipBlanks_append_cons hb (by decide)) hfields

/-- Texts are read as what they stand for, with more fuel than twice their length. -/
theorem readWith (fuel : Nat) : ReadWith fuel := by
  induction fuel with
  | zero =>
    exact {
      value := fun _ hfuel => absurd hfuel (Nat.not_lt_zero _)
      items := fun _ hfuel => absurd hfuel (Nat.not_lt_zero _)
      fields := fun _ hfuel => absurd hfuel (Nat.not_lt_zero _) }
  | succ fuel ih =>
    exact {
      value := fun h hfuel hdepth _ hrest => readWith_value ih h hfuel hdepth hrest
      items := fun h hfuel hdepth => readWith_items ih h hfuel hdepth
      fields := fun h hfuel hdepth => readWith_fields ih h hfuel hdepth }

theorem encode_cons_of_ascii (hc : c.toNat < 0x80) (s : List Char) :
    Text.Utf8.encode (c :: s) = UInt8.ofNat c.toNat :: Text.Utf8.encode s := by
  rw [Text.Utf8.encode, List.flatMap_cons, utf8EncodeChar_of_ascii hc]
  rfl

theorem head?_encode_ne_zero (hs : s.head? ≠ some '\x00') :
    (Text.Utf8.encode s).head? ≠ some 0 := by
  cases s with
  | nil => exact nofun
  | cons c s =>
    obtain ⟨b, tail, hbytes, hhead⟩ := Text.Utf8.head_utf8EncodeChar c
    rw [Text.Utf8.encode, List.flatMap_cons, hbytes, List.cons_append, List.head?_cons]
    intro hzero
    obtain rfl : b = 0 := Option.some.inj hzero
    have hnul : Text.Utf8.Head.char (Char.ofNat 0) 1 = .char c (tail.length + 1) := hhead []
    injection hnul with hnul
    exact hs (congrArg some hnul.symm)

/-- Bytes are in UTF-8 if they begin with an ASCII character and another one, neither of them
NUL. -/
theorem detect_of_ascii {b : UInt8} {bytes : List UInt8} (hb : b ≠ 0 ∧ b < 0x80)
    (hbytes : bytes.head? ≠ some 0) : BodyEncoding.detect (b :: bytes) = .utf8 0 := by
  have hmark : ∀ m, ¬ (m ≠ 0 ∧ m < 0x80) → b ≠ m := by
    rintro m hm rfl
    exact hm hb
  have hmarked : markedEncoding? (b :: bytes) = none := by
    unfold markedEncoding?
    split
    · rename_i heq; cases heq; exact absurd rfl (hmark 0x00 (by decide))
    · rename_i heq; cases heq; exact absurd rfl (hmark 0xFF (by decide))
    · rename_i heq; cases heq; exact absurd rfl (hmark 0xFE (by decide))
    · rename_i heq; cases heq; exact absurd rfl (hmark 0xFF (by decide))
    · rename_i heq; cases heq; exact absurd rfl (hmark 0xEF (by decide))
    · rfl
  rw [BodyEncoding.detect, hmarked, Option.getD_none]
  unfold zerosEncoding
  split
  · rename_i heq
    cases heq
    rw [if_neg hb.1, if_neg fun hzero => hbytes (congrArg some hzero)]
  · rename_i heq
    cases heq
    rw [if_neg hb.1, if_neg fun hzero => hbytes (congrArg some hzero)]
  · rfl

theorem bodyText_encode (hc : 0 < c.toNat ∧ c.toNat < 0x80) (hs : s.head? ≠ some '\x00') :
    bodyText (Text.Utf8.encode (c :: s)) = .ok (c :: s) := by
  have hall : ∀ n < 0x80, 0 < n → UInt8.ofNat n ≠ 0 ∧ UInt8.ofNat n < 0x80 := by decide
  have hdetect : BodyEncoding.detect (Text.Utf8.encode (c :: s)) = .utf8 0 := by
    rw [encode_cons_of_ascii hc.2]
    exact detect_of_ascii (hall c.toNat hc.2 hc.1) (head?_encode_ne_zero hs)
  unfold bodyText
  rw [hdetect]
  exact Text.Utf8.decodeFrom_encode true (c :: s) 0

theorem head?_append_of_blanks {b : List Char} (hb : Blanks b) (hc : c ≠ '\x00') :
    (b ++ c :: s).head? ≠ some '\x00' := by
  cases b with
  | nil => exact fun h => hc (Option.some.inj h)
  | cons d b =>
    intro h
    cases h
    exact absurd (hb '\x00' List.mem_cons_self) (by decide)

/-- The text of an object begins with a brace and another character that is not NUL. -/
theorem exists_brace_of_written (h : Written (.obj fs) t) (rest : List Char) :
    ∃ s, t ++ rest = '\x7b' :: s ∧ s.head? ≠ some '\x00' := by
  cases h with
  | noFields hinner =>
    rename_i inner
    refine ⟨inner ++ '\x7d' :: rest, by simp, ?_⟩
    exact head?_append_of_blanks hinner (by decide)
  | obj hinner hnames hfields =>
    rename_i inner t
    obtain ⟨s, rfl⟩ := exists_cons_of_fieldsWritten hfields
    refine ⟨inner ++ '"' :: (s ++ rest), by simp, ?_⟩
    exact head?_append_of_blanks hinner (by decide)

theorem head?_escapeChar (c : Char) (s : List Char) :
    (escapeChar c ++ s).head? ≠ some '\x00' := by
  have hnul : escapeChar '\x00' = '\\' :: 'u' :: Text.hexPadded 4 0 := rfl
  unfold escapeChar
  split_ifs with hquote hbackslash hnewline hreturn htab hfeed hback hcontrol
  all_goals first
    | exact fun h => absurd (Option.some.inj h) (by decide)
    | skip
  intro h
  obtain rfl : c = '\x00' := Option.some.inj h
  exact hcontrol (by decide)

/-! ## Texts and bytes -/

variable [Platform]

/-- A text that stands for a value, with blanks around it, is read as that value, unless the value
is nested too deep. -/
theorem readChars_of_written {b b' : List Char} (hb : Blanks b) (hb' : Blanks b')
    (h : Written v t) (hdepth : v.depth ≤ Platform.nesting) :
    readChars (b ++ t ++ b') = .ok v := by
  have hvalue : value (2 * (b ++ t ++ b').length + 2) Platform.nesting (t ++ b') = .ok (v, b') := by
    refine (readWith _).value h ?_ hdepth (ends_of_blanks hb')
    simp only [List.length_append]
    omega
  have hskip : skipBlanks b' = [] := by
    simpa only [List.append_nil] using skipBlanks_append (s := []) hb' fun _ hc => by cases hc
  have hfront : skipBlanks (b ++ t ++ b') = t ++ b' := by
    rw [List.append_assoc]
    exact skipBlanks_of_written hb h b'
  unfold readChars
  rw [hfront, hvalue]
  simp only [hskip]

/-- Blanks, a brace and more begin with two ASCII characters. -/
theorem readBytes_of_brace {b : List Char} (hb : Blanks b) (hs : s.head? ≠ some '\x00') :
    readBytes (Text.Utf8.encode (b ++ '\x7b' :: s)) =
      (readChars (b ++ '\x7b' :: s)).mapError .text := by
  have htext : bodyText (Text.Utf8.encode (b ++ '\x7b' :: s)) = .ok (b ++ '\x7b' :: s) := by
    cases b with
    | nil => exact bodyText_encode (by decide) hs
    | cons d b =>
      have hd : 0 < d.toNat ∧ d.toNat < 0x80 := by
        rcases hb d List.mem_cons_self with rfl | rfl | rfl | rfl
        all_goals decide
      have hb : Blanks b := fun c hc => hb c (List.mem_cons_of_mem _ hc)
      exact bodyText_encode hd (head?_append_of_blanks hb (by decide))
  unfold readBytes
  rw [htext]

/-- The bytes of a text that stands for an object, with blanks around it, are read as that object,
unless it is nested too deep. -/
theorem readBytes_of_written {fields : List (String × Json)} {b b' : List Char} (hb : Blanks b)
    (hb' : Blanks b') (h : Written (.obj fields) t)
    (hdepth : (obj fields).depth ≤ Platform.nesting) :
    readBytes (Text.Utf8.encode (b ++ t ++ b')) = .ok (.obj fields) := by
  have hread := readChars_of_written hb hb' h hdepth
  obtain ⟨s, hs, hhead⟩ := exists_brace_of_written h b'
  rw [List.append_assoc, hs] at hread ⊢
  rw [readBytes_of_brace hb hhead, hread]
  rfl

/-- The bytes of a string are read as that string. -/
theorem readBytes_printString (s : String) :
    readBytes (Text.Utf8.encode (printString s)) = .ok (.str s) := by
  have hhead : (s.toList.flatMap escapeChar ++ ['"']).head? ≠ some '\x00' := by
    cases s.toList with
    | nil => exact fun h => absurd (Option.some.inj h) (by decide)
    | cons c rest =>
      rw [List.flatMap_cons, List.append_assoc]
      exact head?_escapeChar c _
  -- with a zero byte behind the quotation mark the bytes would be taken for UTF-16
  have htext : bodyText (Text.Utf8.encode (printString s)) = .ok (printString s) :=
    bodyText_encode (by decide) hhead
  have hchars := readChars_of_written blanks_nil blanks_nil (.str (stringText_printString s))
    (Nat.zero_le _)
  rw [List.nil_append, List.append_nil] at hchars
  rw [readBytes, htext]
  exact congrArg (Except.mapError ReadError.text) hchars

end ApiClient.Json
