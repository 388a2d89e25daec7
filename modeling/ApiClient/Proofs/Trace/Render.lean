import Mathlib.Algebra.GroupWithZero.Nat
import Mathlib.Algebra.Order.BigOperators.Group.List
import Mathlib.Algebra.Order.Group.Nat
import Mathlib.Data.List.Induction
import Mathlib.Data.List.Nodup
import ApiClient.Trace

/-!
# The text of header fields

The text of header fields groups their rows by names. `groupsOf_eq` says what the group of a name
is: the spelling that comes first, and all values in order. So the text depends only on which rows
there are and which spelling comes first for each name.
-/

namespace ApiClient

/-- Sorting leaves texts in ascending order. -/
theorem pairwise_mergeSort (l : List String) :
    (l.mergeSort (fun v w => decide (v ≤ w))).Pairwise fun v w => v ≤ w := by
  have hpairwise : (l.mergeSort (fun v w => decide (v ≤ w))).Pairwise
      fun v w => decide (v ≤ w) = true :=
    List.pairwise_mergeSort
      (fun a b c hab hbc => by
        simpa using String.le_trans (by simpa using hab) (by simpa using hbc))
      (fun a b => by simpa using String.le_total a b) l
  exact hpairwise.imp fun h => by simpa using h

/-- What texts are sorted to does not depend on their order. -/
theorem mergeSort_eq_of_perm {l m : List String} (h : l.Perm m) :
    l.mergeSort (fun v w => decide (v ≤ w)) = m.mergeSort (fun v w => decide (v ≤ w)) := by
  refine List.Perm.eq_of_pairwise (fun _ _ _ _ hab hba => String.le_antisymm hab hba)
    (pairwise_mergeSort l) (pairwise_mergeSort m) ?_
  exact (List.mergeSort_perm l _).trans (h.trans (List.mergeSort_perm m _).symm)

namespace HeaderGroup

/-! ## Groups -/

/-- The groups of rows that are given by names and values. -/
def groupsOf (pairs : List (String × String)) : List HeaderGroup :=
  pairs.foldl (fun groups p => add p.1 p.2 groups) []

/-- The spelling of a name that comes first. -/
def spelling? (pairs : List (String × String)) (key : String) : Option String :=
  (pairs.find? fun p => Text.lower p.1 = key).map Prod.fst

/-- The values of a name, in order. -/
def valuesAt (pairs : List (String × String)) (key : String) : List String :=
  (pairs.filter fun p => Text.lower p.1 = key).map Prod.snd

/-- The group of a name. -/
def groupAt (pairs : List (String × String)) (key : String) : HeaderGroup where
  key
  name := (spelling? pairs key).getD ""
  values := valuesAt pairs key

/-- Adding a value changes the group of its name, or makes one. -/
theorem of_mem_add {name value : String} {g : HeaderGroup} {groups : List HeaderGroup}
    (hnodup : (groups.map key).Nodup) (hg : g ∈ add name value groups) :
      g ∈ groups ∧ g.key ≠ Text.lower name ∨
      (∃ f ∈ groups, f.key = Text.lower name ∧ g = { f with values := f.values ++ [value] }) ∨
      (∀ f ∈ groups, f.key ≠ Text.lower name) ∧
        g = { key := Text.lower name, name, values := [value] } := by
  induction groups with
  | nil => exact Or.inr (Or.inr ⟨by simp, List.mem_singleton.mp hg⟩)
  | cons f rest ih =>
    obtain ⟨hnew, hnodup⟩ := List.nodup_cons.mp hnodup
    unfold add at hg
    by_cases hf : f.key = Text.lower name
    · rw [if_pos hf] at hg
      rcases List.mem_cons.mp hg with rfl | hg
      · exact Or.inr (Or.inl ⟨f, List.mem_cons_self, hf, rfl⟩)
      · have hother : g.key ≠ f.key := fun h => hnew (h ▸ List.mem_map_of_mem hg)
        exact Or.inl ⟨List.mem_cons_of_mem f hg, hf ▸ hother⟩
    · rw [if_neg hf] at hg
      rcases List.mem_cons.mp hg with rfl | hg
      · exact Or.inl ⟨List.mem_cons_self, hf⟩
      · rcases ih hnodup hg with ⟨hg, hkey⟩ | ⟨e, he, hkey, rfl⟩ | ⟨hnone, rfl⟩
        · exact Or.inl ⟨List.mem_cons_of_mem f hg, hkey⟩
        · exact Or.inr (Or.inl ⟨e, List.mem_cons_of_mem f he, hkey, rfl⟩)
        · exact Or.inr (Or.inr ⟨List.forall_mem_cons.mpr ⟨hf, hnone⟩, rfl⟩)

theorem map_key_add (name value : String) (groups : List HeaderGroup) :
    (add name value groups).map key =
      if Text.lower name ∈ groups.map key then groups.map key
      else groups.map key ++ [Text.lower name] := by
  induction groups with
  | nil => simp [add]
  | cons f rest ih =>
    unfold add
    by_cases hf : f.key = Text.lower name
    · rw [if_pos hf, if_pos (by simp [hf])]
      rfl
    · rw [if_neg hf, List.map_cons, ih]
      by_cases hrest : Text.lower name ∈ rest.map key
      · rw [if_pos hrest, if_pos (by rw [List.map_cons]; exact List.mem_cons_of_mem _ hrest)]
        rfl
      · have hnone : Text.lower name ∉ (f :: rest).map key := by
          rw [List.map_cons, List.mem_cons]
          rintro (h | h)
          · exact hf h.symm
          · exact hrest h
        rw [if_neg hrest, if_neg hnone]
        rfl

theorem groupsOf_concat (pairs : List (String × String)) (p : String × String) :
    groupsOf (pairs ++ [p]) = add p.1 p.2 (groupsOf pairs) := by
  rw [groupsOf, List.foldl_append]
  rfl

theorem nodup_groupsOf (pairs : List (String × String)) : ((groupsOf pairs).map key).Nodup := by
  induction pairs using List.reverseRecOn with
  | nil => exact List.nodup_nil
  | append_singleton pairs p ih =>
    rw [groupsOf_concat, map_key_add]
    split
    · exact ih
    · rename_i hnew
      exact List.nodup_append.mpr ⟨ih, List.nodup_singleton _, fun a ha b hb h =>
        hnew (List.mem_singleton.mp hb ▸ h ▸ ha)⟩

theorem mem_map_key_groupsOf (pairs : List (String × String)) (k : String) :
    k ∈ (groupsOf pairs).map key ↔ ∃ p ∈ pairs, Text.lower p.1 = k := by
  induction pairs using List.reverseRecOn with
  | nil => simp [groupsOf]
  | append_singleton pairs p ih =>
    have hconcat : (∃ q ∈ pairs ++ [p], Text.lower q.1 = k) ↔
        (∃ q ∈ pairs, Text.lower q.1 = k) ∨ Text.lower p.1 = k := by
      simp [or_and_right, exists_or]
    rw [groupsOf_concat, map_key_add, hconcat, ← ih]
    split
    · rename_i hold
      constructor
      · exact Or.inl
      · rintro (h | rfl)
        · exact h
        · exact hold
    · rw [List.mem_append, List.mem_singleton, eq_comm (b := Text.lower p.1)]

theorem groupAt_concat_of_ne {pairs : List (String × String)} {p : String × String} {k : String}
    (h : Text.lower p.1 ≠ k) : groupAt (pairs ++ [p]) k = groupAt pairs k := by
  have hfind : spelling? (pairs ++ [p]) k = spelling? pairs k := by
    rw [spelling?, spelling?, List.find?_append]
    simp [h]
  have hvalues : valuesAt (pairs ++ [p]) k = valuesAt pairs k := by
    rw [valuesAt, valuesAt, List.filter_append]
    simp [h]
  rw [groupAt, groupAt, hfind, hvalues]

/-- A group has the first spelling of its name and all its values. -/
theorem eq_groupAt_of_mem {pairs : List (String × String)} {g : HeaderGroup}
    (hg : g ∈ groupsOf pairs) : g = groupAt pairs g.key := by
  induction pairs using List.reverseRecOn generalizing g with
  | nil => cases hg
  | append_singleton pairs p ih =>
    have hvalues : valuesAt (pairs ++ [p]) (Text.lower p.1) =
        valuesAt pairs (Text.lower p.1) ++ [p.2] := by
      rw [valuesAt, valuesAt, List.filter_append]
      simp
    rw [groupsOf_concat] at hg
    rcases of_mem_add (nodup_groupsOf pairs) hg with ⟨hg, hkey⟩ | ⟨f, hf, hkey, rfl⟩ | ⟨hnone, rfl⟩
    · rw [groupAt_concat_of_ne hkey.symm]
      exact ih hg
    · have hrow : ∃ q ∈ pairs, Text.lower q.1 = Text.lower p.1 :=
        (mem_map_key_groupsOf pairs _).mp (hkey ▸ List.mem_map_of_mem hf)
      have hspelling : spelling? (pairs ++ [p]) (Text.lower p.1) =
          spelling? pairs (Text.lower p.1) := by
        rw [spelling?, spelling?, List.find?_append, Option.or_of_isSome]
        rw [List.find?_isSome]
        simpa using hrow
      have hf := ih hf
      rw [hkey] at hf
      show { f with values := f.values ++ [p.2] } = groupAt (pairs ++ [p]) f.key
      rw [hkey, hf, groupAt, groupAt, hspelling, hvalues]
    · have hnone : ∀ q ∈ pairs, ¬ Text.lower q.1 = Text.lower p.1 := by
        intro q hq h
        obtain ⟨f, hf, hkey⟩ := List.mem_map.mp ((mem_map_key_groupsOf pairs _).mpr ⟨q, hq, h⟩)
        exact hnone f hf hkey
      have hspelling : spelling? (pairs ++ [p]) (Text.lower p.1) = some p.1 := by
        rw [spelling?, List.find?_append, List.find?_eq_none.mpr (by simpa using hnone)]
        simp
      have hempty : valuesAt pairs (Text.lower p.1) = [] := by
        rw [valuesAt, List.filter_eq_nil_iff.mpr (by simpa using hnone), List.map_nil]
      show _ = groupAt (pairs ++ [p]) (Text.lower p.1)
      rw [groupAt, hspelling, hvalues, hempty]
      rfl

/-- The groups of rows are those of their names. -/
theorem groupsOf_eq (pairs : List (String × String)) :
    groupsOf pairs = ((groupsOf pairs).map key).map (groupAt pairs) := by
  rw [List.map_map]
  exact ((List.map_congr_left fun g hg => (eq_groupAt_of_mem hg).symm).trans (List.map_id _)).symm

/-! ## First spellings -/

variable {pairs rows : List (String × String)}

theorem entries_eq (pairs : List (String × String)) : (groupsOf pairs).map entry =
    ((groupsOf pairs).map key).map fun k => (groupAt pairs k).entry :=
  (congrArg (List.map entry) (groupsOf_eq pairs)).trans List.map_map

/-- The entry of a name does not depend on the order of its values, but on their first spelling. -/
theorem entry_groupAt_of_perm (h : pairs.Perm rows) (k : String) :
    ∃ text, (groupAt pairs k).entry = (spelling? pairs k).getD "" ++ text ∧
      (groupAt rows k).entry = (spelling? rows k).getD "" ++ text := by
  have hvalues : (valuesAt pairs k).Perm (valuesAt rows k) := (h.filter _).map _
  let values := ", ".intercalate
    (((valuesAt rows k).mergeSort fun v w => v ≤ w).map fun v => "'" ++ v ++ "'")
  refine ⟨": " ++ if 1 < (valuesAt rows k).length then "[" ++ values ++ "]" else values, ?_, ?_⟩
  · unfold entry groupAt
    simp only
    rw [mergeSort_eq_of_perm hvalues, hvalues.length_eq, String.append_assoc]
  · unfold entry groupAt
    simp only
    rw [String.append_assoc]

theorem map_key_groupsOf_perm (h : pairs.Perm rows) :
    ((groupsOf pairs).map key).Perm ((groupsOf rows).map key) := by
  rw [List.perm_ext_iff_of_nodup (nodup_groupsOf pairs) (nodup_groupsOf rows)]
  intro k
  rw [mem_map_key_groupsOf, mem_map_key_groupsOf]
  exact exists_congr fun p => and_congr_left fun _ => h.mem_iff

/-- The text of rows does not depend on their order, but on which spelling of a name comes first. -/
theorem entries_perm (h : pairs.Perm rows)
    (hspelling : ∀ k, spelling? pairs k = spelling? rows k) :
    ((groupsOf pairs).map entry).Perm ((groupsOf rows).map entry) := by
  have hentry : (fun k => (groupAt pairs k).entry) = fun k => (groupAt rows k).entry := by
    funext k
    obtain ⟨text, hpairs, hrows⟩ := entry_groupAt_of_perm h k
    rw [hpairs, hrows, hspelling k]
  rw [entries_eq, entries_eq, hentry]
  exact (map_key_groupsOf_perm h).map _

end HeaderGroup

/-! ## The text -/

namespace Headers

/-- The rows as names and values. -/
def pairs (h : Headers) : List (String × String) :=
  h.rows.map fun r =>
    (String.ofList (h.charset.decode r.name), String.ofList (h.charset.decode r.value))

theorem groups_eq (h : Headers) : h.groups = HeaderGroup.groupsOf h.pairs := by
  rw [groups, HeaderGroup.groupsOf, pairs, List.foldl_map]

/-- The text of header fields does not depend on the order of their rows, but on which spelling of
a name comes first. -/
theorem render_eq_of_perm {h t : Headers} (hperm : h.pairs.Perm t.pairs)
    (hspelling : ∀ k, HeaderGroup.spelling? h.pairs k = HeaderGroup.spelling? t.pairs k) :
    h.render = t.render := by
  rw [render, render, groups_eq, groups_eq,
    mergeSort_eq_of_perm (HeaderGroup.entries_perm hperm hspelling)]

end Headers

/-! ## Spellings that differ -/

namespace Headers

end Headers

end ApiClient
