import Mathlib.Data.List.TakeWhile
import Mathlib.Data.Nat.Digits.Defs
import ApiClient.Number.Integer

/-!
# What texts denote integers

The grammar of integer texts, and that reading accepts it: blanks around a sign and digits, with
single underscores between digits and a bound on their number.
-/

namespace ApiClient.Integer

open Text

/-- Digits of any script and their values; a single underscore may stand between two digits. -/
inductive DigitsText : List Char → List Nat → Prop
  | one {c : Char} {d : Nat} (h : digitValue? c = some d) : DigitsText [c] [d]
  | next {c : Char} {d : Nat} {s : List Char} {ds : List Nat} (h : digitValue? c = some d)
      (hs : DigitsText s ds) : DigitsText (c :: s) (d :: ds)
  | underscore {c : Char} {d : Nat} {s : List Char} {ds : List Nat} (h : digitValue? c = some d)
      (hs : DigitsText s ds) : DigitsText (c :: '_' :: s) (d :: ds)

/-- A sign, and whether it is negative. -/
inductive SignText : List Char → Bool → Prop
  | none : SignText [] false
  | plus : SignText ['+'] false
  | minus : SignText ['-'] true

/-- A text denotes an integer. -/
def Denotes (text : String) (n : Int) : Prop :=
  ∃ before sign body after negative digits,
    text.toList = before ++ (sign ++ (body ++ after)) ∧
      (∀ c ∈ before, isMargin c = true) ∧ (∀ c ∈ after, isMargin c = true) ∧
      SignText sign negative ∧ DigitsText body digits ∧ digits.length ≤ maxDigits ∧
      n = (if negative then -1 else 1) * ((Nat.ofDigits 10 digits.reverse : Nat) : Int)

theorem ofDigits_eq (digits : List Nat) : ofDigits digits = Nat.ofDigits 10 digits.reverse := by
  rw [Nat.ofDigits_eq_foldr, List.foldr_reverse, ofDigits]
  have hstep : (fun n d => n * 10 + d : Nat → Nat → Nat) = fun n d => d + 10 * n := by
    funext n d
    omega
  simp only [hstep, Nat.cast_id]

/-! ## Characters -/

theorem digitValue?_of_isMargin {c : Char} (h : isMargin c = true) : digitValue? c = none := by
  have hapart : ∀ r ∈ blankRanges, ∀ z ∈ digitZeros, r.2 < z ∨ z + 10 ≤ r.1 := by decide
  have hblank : isBlank c = true := (Bool.and_eq_true_iff.mp h).1
  obtain ⟨⟨lo, hi⟩, hr, hc⟩ := List.any_eq_true.mp hblank
  have hc : lo ≤ c.toNat ∧ c.toNat ≤ hi := by simpa using hc
  rw [digitValue?, Option.map_eq_none_iff, List.find?_eq_none]
  intro z hz hdigit
  have hdigit : z ≤ c.toNat ∧ c.toNat < z + 10 := by simpa using hdigit
  rcases hapart _ hr z hz with h | h
  · omega
  · omega

theorem ne_of_digit {c : Char} {d : Nat} (h : digitValue? c = some d) :
    c ≠ '_' ∧ c ≠ '+' ∧ c ≠ '-' := by
  have hmarks : digitValue? '_' = none ∧ digitValue? '+' = none ∧ digitValue? '-' = none := by
    decide
  refine ⟨?_, ?_, ?_⟩
  · rintro rfl
    rw [hmarks.1] at h
    cases h
  · rintro rfl
    rw [hmarks.2.1] at h
    cases h
  · rintro rfl
    rw [hmarks.2.2] at h
    cases h

theorem not_isMargin_of_digit {c : Char} {d : Nat} (h : digitValue? c = some d) :
    isMargin c = false := by
  by_contra hmargin
  rw [digitValue?_of_isMargin (by simpa using hmargin)] at h
  cases h

theorem DigitsText.exists_cons {s : List Char} {ds : List Nat} (h : DigitsText s ds) :
    ∃ c d rest, s = c :: rest ∧ digitValue? c = some d := by
  cases h with
  | one h => exact ⟨_, _, _, rfl, h⟩
  | next h hs => exact ⟨_, _, _, rfl, h⟩
  | underscore h hs => exact ⟨_, _, _, rfl, h⟩

/-! ## Runs of digits -/

/-- A run of digits is a text of digits. -/
theorem digitsText_of_digitRun {s rest : List Char} {ds : List Nat}
    (h : digitRun s = some (ds, rest)) : ∃ body, s = body ++ rest ∧ DigitsText body ds := by
  induction s using digitRun.induct generalizing ds with
  | case1 => cases h
  | case2 c s hc =>
    rw [digitRun, hc] at h
    cases h
  | case3 c d hc =>
    rw [digitRun, hc] at h
    cases h
    exact ⟨[c], rfl, .one hc⟩
  | case4 c d hc s ih =>
    rw [digitRun, hc] at h
    dsimp only at h
    rw [if_pos rfl] at h
    obtain ⟨⟨more, left⟩, hmore, heq⟩ := Option.map_eq_some_iff.mp h
    cases heq
    obtain ⟨body, rfl, hbody⟩ := ih hmore
    exact ⟨c :: '_' :: body, rfl, .underscore hc hbody⟩
  | case5 c d hc e s he hdigit ih =>
    rw [digitRun, hc] at h
    dsimp only at h
    rw [if_neg he, if_pos hdigit] at h
    obtain ⟨⟨more, left⟩, hmore, heq⟩ := Option.map_eq_some_iff.mp h
    cases heq
    obtain ⟨body, hsplit, hbody⟩ := ih hmore
    exact ⟨c :: body, by rw [hsplit, List.cons_append], .next hc hbody⟩
  | case6 c d hc e s he hdigit =>
    rw [digitRun, hc] at h
    dsimp only at h
    rw [if_neg he, if_neg hdigit] at h
    cases h
    exact ⟨[c], rfl, .one hc⟩

/-- A text of digits is a run up to a rest that begins with neither a digit nor an underscore. -/
theorem digitRun_of_digitsText {body rest : List Char} {ds : List Nat} (h : DigitsText body ds)
    (hrest : ∀ c ∈ rest.head?, digitValue? c = none ∧ c ≠ '_') :
    digitRun (body ++ rest) = some (ds, rest) := by
  induction h with
  | @one c d hc =>
    cases rest with
    | nil => simp only [List.append_nil, digitRun, hc]
    | cons e rest =>
      obtain ⟨hdigit, hline⟩ := hrest e rfl
      simp [digitRun, hc, hdigit, hline]
  | @next c d s ds hc hs ih =>
    obtain ⟨e, value, more, rfl, he⟩ := hs.exists_cons
    rw [List.cons_append, List.cons_append, digitRun, hc]
    dsimp only
    rw [if_neg (ne_of_digit he).1, if_pos (by rw [he]; rfl), ← List.cons_append, ih]
    rfl
  | @underscore c d s ds hc hs ih =>
    rw [List.cons_append, List.cons_append, digitRun, hc]
    dsimp only
    rw [if_pos rfl, ih]
    rfl

/-! ## Reading -/

theorem signText_of_signOf {s rest : List Char} {negative : Bool}
    (h : signOf s = (negative, rest)) : ∃ sign, s = sign ++ rest ∧ SignText sign negative := by
  unfold signOf at h
  split at h
  · cases h
    exact ⟨_, rfl, .minus⟩
  · cases h
    exact ⟨_, rfl, .plus⟩
  · cases h
    exact ⟨[], rfl, .none⟩

theorem signOf_of_signText {sign : List Char} {negative : Bool} {c : Char} {d : Nat}
    (h : SignText sign negative) (hc : digitValue? c = some d) (rest : List Char) :
    signOf (sign ++ c :: rest) = (negative, c :: rest) := by
  cases h with
  | plus => rfl
  | minus => rfl
  | none =>
    obtain ⟨-, hplus, hminus⟩ := ne_of_digit hc
    rw [List.nil_append]
    unfold signOf
    split
    · rename_i heq
      cases heq
      exact absurd rfl hminus
    · rename_i heq
      cases heq
      exact absurd rfl hplus
    · rfl

/-- What stands in front of the first character that is no margin is skipped. -/
theorem dropWhile_isMargin {before : List Char} {c : Char} (rest : List Char)
    (hbefore : ∀ c ∈ before, isMargin c = true) (hc : isMargin c = false) :
    (before ++ c :: rest).dropWhile isMargin = c :: rest := by
  rw [List.dropWhile_append_of_pos hbefore, List.dropWhile_cons_of_neg (by simp [hc])]

/-- Reading accepts the texts that denote an integer. -/
theorem read_eq_ok_iff {text : String} {n : Int} : read text = .ok n ↔ Denotes text n := by
  have hvalue : ∀ (negative : Bool) (digits : List Nat),
      (if negative then -(ofDigits digits : Int) else ofDigits digits) =
        (if negative then -1 else 1) * ((Nat.ofDigits 10 digits.reverse : Nat) : Int) := by
    intro negative digits
    rw [ofDigits_eq]
    cases negative <;> simp
  constructor
  · intro h
    unfold read at h
    obtain ⟨negative, body, hsign⟩ : ∃ negative body,
        signOf (text.toList.dropWhile isMargin) = (negative, body) := ⟨_, _, rfl⟩
    rw [hsign] at h
    dsimp only at h
    split at h
    · cases h
    · rename_i digits rest hrun
      split at h
      · cases h
      · rename_i hlength
        split at h
        · rename_i hrest
          cases h
          obtain ⟨sign, hdrop, hsignText⟩ := signText_of_signOf hsign
          obtain ⟨digitsText, rfl, hdigits⟩ := digitsText_of_digitRun hrun
          refine ⟨text.toList.takeWhile isMargin, sign, digitsText, rest, negative, digits, ?_,
            fun c hc => List.mem_takeWhile_imp hc, List.all_eq_true.mp hrest, hsignText, hdigits,
            Nat.le_of_not_lt hlength, hvalue negative digits⟩
          rw [← hdrop, List.takeWhile_append_dropWhile]
        · cases h
  · rintro ⟨before, sign, body, after, negative, digits, htext, hbefore, hafter, hsign, hdigits,
      hlength, rfl⟩
    obtain ⟨c, d, more, hbody, hc⟩ := hdigits.exists_cons
    have hdrop : text.toList.dropWhile isMargin = sign ++ (body ++ after) := by
      rw [htext, hbody]
      cases hsign with
      | none => exact dropWhile_isMargin _ hbefore (not_isMargin_of_digit hc)
      | plus => exact dropWhile_isMargin _ hbefore (by decide)
      | minus => exact dropWhile_isMargin _ hbefore (by decide)
    have hsignOf : signOf (sign ++ (body ++ after)) = (negative, body ++ after) := by
      rw [hbody, List.cons_append]
      exact signOf_of_signText hsign hc _
    have hrun : digitRun (body ++ after) = some (digits, after) := by
      refine digitRun_of_digitsText hdigits fun c hc => ?_
      have hmargin := hafter c (List.mem_of_mem_head? hc)
      refine ⟨digitValue?_of_isMargin hmargin, ?_⟩
      rintro rfl
      exact absurd hmargin (by decide)
    unfold read
    rw [hdrop, hsignOf]
    dsimp only
    rw [hrun]
    dsimp only
    rw [if_neg (Nat.not_lt.mpr hlength), if_pos (List.all_eq_true.mpr hafter), hvalue]

end ApiClient.Integer
