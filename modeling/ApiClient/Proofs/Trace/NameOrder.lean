import Mathlib.Data.List.Pairwise
import Mathlib.Data.String.Basic
import ApiClient.Proofs.Trace.Canonical

/-!
# The order of names

The text of header fields has its entries in the order of their texts, and in the text of an entry
a colon follows the name. So the names are in order but for names that begin others: such a name
stands behind the longer one if that goes on with a character before the colon, as the hyphen and
the digits are (`Headers.names_ascend_iff`).
-/

namespace ApiClient

/-! ## Texts in order -/

/-- What comes first by a character in which the two differ does so whatever follows. -/
theorem append_lt_append {s t : List Char} (hlt : s < t) (hdiffer : ¬ s <+: t) (a b : List Char) :
    s ++ a < t ++ b := by
  induction s generalizing t with
  | nil => exact absurd List.nil_prefix hdiffer
  | cons c s ih =>
    cases t with
    | nil => exact absurd hlt (List.not_lt_nil _)
    | cons d t =>
      rw [List.cons_append, List.cons_append, List.cons_lt_cons_iff]
      rcases List.cons_lt_cons_iff.mp hlt with hcd | ⟨rfl, hst⟩
      · exact .inl hcd
      · exact .inr ⟨rfl, ih hst fun h => hdiffer ((List.prefix_cons_inj c).mpr h)⟩

/-- What two texts have in common at the front does not matter for their order. -/
theorem append_lt_append_iff (s a b : List Char) : s ++ a < s ++ b ↔ a < b := by
  induction s with
  | nil => rfl
  | cons c s ih =>
    rw [List.cons_append, List.cons_append, List.cons_lt_cons_iff, ih]
    exact (or_iff_right (lt_irrefl c)).trans (and_iff_right rfl)

namespace HeaderGroup

/-! ## Names and entries -/

/-- What follows the name in the entry of a group. -/
def shown (g : HeaderGroup) : String :=
  let values := ", ".intercalate
    ((g.values.mergeSort fun v w => v ≤ w).map fun v => "'" ++ v ++ "'")
  ": " ++ if 1 < g.values.length then "[" ++ values ++ "]" else values

variable {g f : HeaderGroup}

theorem entry_eq (g : HeaderGroup) : g.entry = g.name ++ g.shown := by
  rw [entry, shown, String.append_assoc]

theorem exists_shown_eq (g : HeaderGroup) : ∃ rest, g.shown.toList = ':' :: rest :=
  ⟨_, String.toList_append⟩

/-- Entries are in the order of their names if neither name begins the other one. -/
theorem entry_le_of_differ (hlt : g.name < f.name) (hdiffer : ¬ g.name.toList <+: f.name.toList) :
    g.entry ≤ f.entry := by
  rw [entry_eq, entry_eq]
  refine le_of_lt (String.lt_iff_toList_lt.mpr ?_)
  rw [String.toList_append, String.toList_append]
  exact append_lt_append (String.lt_iff_toList_lt.mp hlt) hdiffer _ _

/-- A name goes on from another one with these characters. -/
def GoesOn (g f : HeaderGroup) (more : List Char) : Prop :=
  more ≠ [] ∧ f.name.toList = g.name.toList ++ more

theorem GoesOn.name_eq {more : List Char} (h : GoesOn g f more) :
    f.name = g.name ++ String.ofList more := by
  rw [← String.toList_inj, String.toList_append, String.toList_ofList, h.2]

theorem GoesOn.name_lt {more : List Char} (h : GoesOn g f more) : g.name < f.name := by
  obtain ⟨c, rest, rfl⟩ := List.exists_cons_of_ne_nil h.1
  rw [String.lt_iff_toList_lt, h.2]
  simpa using (append_lt_append_iff g.name.toList [] (c :: rest)).mpr (List.nil_lt_cons c rest)

/-- The entry of a name that goes on from another one stands behind the entry of that one if what it
goes on with stands behind what follows that name. -/
theorem GoesOn.entry_le_iff {more : List Char} (h : GoesOn g f more) :
    g.entry ≤ f.entry ↔ g.shown ≤ String.ofList more ++ f.shown := by
  rw [entry_eq, entry_eq, h.name_eq, String.append_assoc, ← not_lt, ← not_lt,
    String.lt_iff_toList_lt, String.lt_iff_toList_lt, String.toList_append,
    String.toList_append (s := g.name), append_lt_append_iff]

/-- Without a colon, it does so if it goes on with a character behind the colon. -/
theorem shown_le_iff {c : Char} (hc : c ≠ ':') (rest : List Char) (g f : HeaderGroup) :
    g.shown ≤ String.ofList (c :: rest) ++ f.shown ↔ ':' < c := by
  obtain ⟨s, hs⟩ := exists_shown_eq g
  rw [← not_lt, String.lt_iff_toList_lt, hs, String.toList_append, String.toList_ofList,
    List.cons_append, List.cons_lt_cons_iff, or_iff_left fun h => hc h.1, not_lt]
  exact (Ne.symm hc).le_iff_lt

theorem lower_name {pairs : List (String × String)} (hg : g ∈ groupsOf pairs) :
    Text.lower g.name = g.key := by
  have hspelled : spelling? pairs g.key = some g.name := (lists_inOrder hg).spelled
  obtain ⟨p, hp, hname⟩ := Option.map_eq_some_iff.mp hspelled
  rw [← hname]
  simpa using List.find?_some hp

theorem nodup_names (pairs : List (String × String)) : ((groupsOf pairs).map name).Nodup := by
  have hkeys : ((groupsOf pairs).map name).map Text.lower = (groupsOf pairs).map key := by
    rw [List.map_map]
    exact List.map_congr_left fun g hg => lower_name hg
  exact List.Nodup.of_map Text.lower (hkeys ▸ nodup_groupsOf pairs)

end HeaderGroup

/-! ## Names in the text -/

namespace Headers

open HeaderGroup

variable {h : Headers}

/-- The entries of the text, in order. -/
def entries (h : Headers) : List String :=
  (h.groups.map entry).mergeSort fun v w => v ≤ w

theorem render_eq_entries (h : Headers) : h.render = ", ".intercalate h.entries := rfl

/-- The entries of the text are those of groups whose names are in ascending order. -/
def NamesAscend (h : Headers) : Prop :=
  ∃ listed : List HeaderGroup, listed.Perm h.groups ∧ listed.map entry = h.entries ∧
    (listed.map name).Pairwise (· < ·)

/-- Names are in order if and only if their entries are. -/
theorem namesAscend_iff_entry : h.NamesAscend ↔
    ∀ g ∈ h.groups, ∀ f ∈ h.groups, g.name < f.name → g.entry ≤ f.entry := by
  constructor
  · rintro ⟨listed, hperm, hentries, hnames⟩ g hg f hf
    have hsorted : (listed.map entry).Pairwise (· ≤ ·) := hentries ▸ pairwise_mergeSort _
    have hpairs := (List.pairwise_map.mp hnames).and (List.pairwise_map.mp hsorted)
    -- of two groups in either order, the one with the lesser name is listed first
    let inOrder (g f : HeaderGroup) : Prop :=
      (g.name < f.name → g.entry ≤ f.entry) ∧ (f.name < g.name → f.entry ≤ g.entry)
    have hboth : listed.Pairwise inOrder :=
      hpairs.imp fun ⟨hname, hentry⟩ => ⟨fun _ => hentry, fun hlt => absurd hname (lt_asymm hlt)⟩
    have hsymm : Std.Symm inOrder := ⟨fun _ _ h => ⟨h.2, h.1⟩⟩
    have hself : ∀ g ∈ listed, inOrder g g := fun _ _ =>
      ⟨fun hlt => absurd hlt (lt_irrefl _), fun hlt => absurd hlt (lt_irrefl _)⟩
    exact (hboth.forall_of_forall hself (hperm.mem_iff.mpr hg) (hperm.mem_iff.mpr hf)).1
  · intro hentry
    let listed := h.groups.mergeSort fun g f => g.name ≤ f.name
    have hperm : listed.Perm h.groups := List.mergeSort_perm _ _
    have hmap : listed.map name = (h.groups.map name).mergeSort fun v w => v ≤ w :=
      List.map_mergeSort fun _ _ _ _ => rfl
    have hnodup : (listed.map name).Nodup :=
      (hperm.map name).nodup_iff.mpr (groups_eq h ▸ nodup_names h.pairs)
    have hnames : (listed.map name).Pairwise (· < ·) := by
      have hle : (listed.map name).Pairwise (· ≤ ·) := hmap ▸ pairwise_mergeSort _
      exact (hle.and hnodup).imp fun ⟨hle, hne⟩ => lt_of_le_of_ne hle hne
    have hsorted : (listed.map entry).Pairwise (· ≤ ·) := by
      rw [List.pairwise_map] at hnames ⊢
      exact hnames.imp_of_mem fun hg hf hlt =>
        hentry _ (hperm.mem_iff.mp hg) _ (hperm.mem_iff.mp hf) hlt
    refine ⟨listed, hperm, ?_, hnames⟩
    exact List.Perm.eq_of_pairwise (fun _ _ _ _ hab hba => String.le_antisymm hab hba) hsorted
      (pairwise_mergeSort _) ((hperm.map entry).trans (List.mergeSort_perm _ _).symm)

/-- The names in the text of header fields ascend exactly if each name that goes on from another one
does so with what is not before the rest of the entry of that one. If no name has a colon in it,
this is to go on with a character behind the colon. -/
theorem names_ascend_iff (h : Headers) :
    (h.NamesAscend ↔ ∀ g ∈ h.groups, ∀ f ∈ h.groups, ∀ more, GoesOn g f more →
      g.shown ≤ String.ofList more ++ f.shown) ∧
    ((∀ g ∈ h.groups, ':' ∉ g.name.toList) →
      (h.NamesAscend ↔ ∀ g ∈ h.groups, ∀ f ∈ h.groups, ∀ c rest, GoesOn g f (c :: rest) →
        ':' < c)) := by
  have hiff : h.NamesAscend ↔ ∀ g ∈ h.groups, ∀ f ∈ h.groups, ∀ more, GoesOn g f more →
      g.shown ≤ String.ofList more ++ f.shown := by
    rw [namesAscend_iff_entry]
    constructor
    · intro hentry g hg f hf more hmore
      exact hmore.entry_le_iff.mp (hentry g hg f hf hmore.name_lt)
    · intro hshown g hg f hf hlt
      by_cases hdiffer : g.name.toList <+: f.name.toList
      · obtain ⟨more, hname⟩ := hdiffer
        have hmore : GoesOn g f more := by
          refine ⟨?_, hname.symm⟩
          rintro rfl
          rw [List.append_nil, String.toList_inj] at hname
          exact lt_irrefl _ (hname ▸ hlt)
        exact hmore.entry_le_iff.mpr (hshown g hg f hf more hmore)
      · exact entry_le_of_differ hlt hdiffer
  refine ⟨hiff, fun hnames => hiff.trans ?_⟩
  have hcolon : ∀ g f c rest, f ∈ h.groups → GoesOn g f (c :: rest) → c ≠ ':' := by
    rintro g f c rest hf hmore rfl
    exact hnames f hf (hmore.2 ▸ List.mem_append_right _ List.mem_cons_self)
  constructor
  · intro hshown g hg f hf c rest hmore
    exact (shown_le_iff (hcolon g f c rest hf hmore) rest g f).mp (hshown g hg f hf _ hmore)
  · intro hbehind g hg f hf more hmore
    obtain ⟨c, rest, rfl⟩ := List.exists_cons_of_ne_nil hmore.1
    exact (shown_le_iff (hcolon g f c rest hf hmore) rest g f).mpr (hbehind g hg f hf c rest hmore)

/-- Two names that go on from another one, with a letter and with a hyphen. The text has the one
with the hyphen in front. -/
theorem names_ascend_of_hyphen :
    let accept : HeaderRow := row "Accept" "a"
    let letter : Headers := { rows := [accept, row "Accepts" "b"] }
    let hyphen : Headers := { rows := [row "Accept-Encoding" "b", accept] }
    letter.NamesAscend ∧ letter.render = "Accept: 'a', Accepts: 'b'" ∧
      ¬ hyphen.NamesAscend ∧ hyphen.render = "Accept-Encoding: 'b', Accept: 'a'" := by
  intro accept letter hyphen
  have hletter : letter.groups = [{ key := "accept", name := "Accept", values := ["a"] },
      { key := "accepts", name := "Accepts", values := ["b"] }] := by decide +kernel
  have hhyphen : hyphen.groups =
      [{ key := "accept-encoding", name := "Accept-Encoding", values := ["b"] },
        { key := "accept", name := "Accept", values := ["a"] }] := by decide +kernel
  have hletters : ["Accept: 'a'", "Accepts: 'b'"].mergeSort (fun v w => decide (v ≤ w)) =
      ["Accept: 'a'", "Accepts: 'b'"] := List.mergeSort_of_pairwise (by decide +kernel)
  have hhyphens : ["Accept-Encoding: 'b'", "Accept: 'a'"].mergeSort (fun v w => decide (v ≤ w)) =
      ["Accept-Encoding: 'b'", "Accept: 'a'"] := List.mergeSort_of_pairwise (by decide +kernel)
  refine ⟨?_, ?_, fun hascend => ?_, ?_⟩
  · refine ((names_ascend_iff letter).2 (by rw [hletter]; decide)).mpr ?_
    rw [hletter]
    rintro g hg f hf c rest ⟨-, hname⟩
    simp only [List.mem_cons, List.not_mem_nil, or_false] at hg hf
    rcases hg with rfl | rfl <;> rcases hf with rfl | rfl <;> simp at hname
    rw [← hname.1]
    decide
  · rw [render, hletter]
    simp [entry, hletters]
  · have hbehind := ((names_ascend_iff hyphen).2 (by rw [hhyphen]; decide)).mp hascend
    rw [hhyphen] at hbehind
    exact absurd (hbehind _ (List.mem_cons_of_mem _ List.mem_cons_self) _ List.mem_cons_self '-'
      "Encoding".toList ⟨List.cons_ne_nil _ _, by decide⟩) (by decide)
  · rw [render, hhyphen]
    simp [entry, hhyphens]

end Headers

end ApiClient
