import ApiClient.Proofs.Trace.Render

/-!
# Entries of header fields

The text of header fields has one entry for each name, with the spelling of it that comes first and
with all its values in ascending order. So two orders of the same rows have the same text as soon as
they agree on the spellings (`Headers.render_canonical`).
-/

namespace ApiClient

namespace HeaderGroup

/-- The group with its values in ascending order. -/
def inOrder (g : HeaderGroup) : HeaderGroup :=
  { g with values := g.values.mergeSort fun v w => v ≤ w }

/-- The text of a group: a single value in quotes, or several as they stand and in brackets. -/
def text (g : HeaderGroup) : String :=
  let values := ", ".intercalate (g.values.map fun v => "'" ++ v ++ "'")
  g.name ++ ": " ++ if 1 < g.values.length then "[" ++ values ++ "]" else values

theorem text_inOrder (g : HeaderGroup) : g.inOrder.text = g.entry := by
  unfold text entry inOrder
  rw [List.length_mergeSort]

/-- `e` has the values of its name among `pairs`, each as often as it stands there and in ascending
order, and the spelling that comes first. -/
structure Lists (e : HeaderGroup) (pairs : List (String × String)) : Prop where
  spelled : spelling? pairs e.key = some e.name
  values : e.values.Perm (valuesAt pairs e.key)
  ascending : e.values.Pairwise (· ≤ ·)

theorem lists_inOrder {pairs : List (String × String)} {g : HeaderGroup}
    (hg : g ∈ groupsOf pairs) : g.inOrder.Lists pairs := by
  have hgroup : g = groupAt pairs g.key := eq_groupAt_of_mem hg
  have hname : (spelling? pairs g.key).getD "" = g.name := (congrArg name hgroup).symm
  have hvalues : valuesAt pairs g.key = g.values := (congrArg HeaderGroup.values hgroup).symm
  obtain ⟨p, hp, hkey⟩ := (mem_map_key_groupsOf pairs g.key).mp (List.mem_map_of_mem hg)
  have hfound : (spelling? pairs g.key).isSome := by
    rw [spelling?, Option.isSome_map, List.find?_isSome]
    exact ⟨p, hp, by simpa using hkey⟩
  constructor
  case spelled =>
    obtain ⟨n, hn⟩ := Option.isSome_iff_exists.mp hfound
    rw [hn, Option.getD_some] at hname
    exact hname ▸ hn
  case values =>
    show (g.values.mergeSort _).Perm (valuesAt pairs g.key)
    rw [hvalues]
    exact List.mergeSort_perm g.values _
  case ascending => exact pairwise_mergeSort g.values

/-- The entries of rows in the order of their texts. -/
theorem exists_sorted_entries (pairs : List (String × String)) : ∃ entries : List HeaderGroup,
    ((groupsOf pairs).map entry).mergeSort (fun v w => decide (v ≤ w)) = entries.map text ∧
      entries.Perm ((groupsOf pairs).map inOrder) := by
  have hsort := List.map_mergeSort (r := fun e f => decide (text e ≤ text f))
    (s := fun v w => decide (v ≤ w)) (f := text) (l := (groupsOf pairs).map inOrder)
    fun _ _ _ _ => rfl
  refine ⟨((groupsOf pairs).map inOrder).mergeSort fun e f => decide (text e ≤ text f), ?_,
    List.mergeSort_perm _ _⟩
  have htexts : (groupsOf pairs).map entry = (groupsOf pairs).map (text ∘ inOrder) :=
    List.map_congr_left fun g _ => (text_inOrder g).symm
  rw [hsort, List.map_map, htexts]

end HeaderGroup

namespace Headers

/-- The character set of rows does not depend on their order. -/
theorem deduce_eq_of_perm {rows others : List HeaderRow} (h : rows.Perm others) :
    deduce rows = deduce others := by
  unfold deduce coversAll
  simp only [h.all_eq]

/-- The text of header fields depends only on which rows there are and on which spelling of a name
comes first. It has one entry for each name, in the order of their texts, and each holds that
spelling and all values of the name in ascending order. -/
theorem render_canonical (h : Headers) :
    (∀ t : Headers, t.settled = h.settled → t.rows.Perm h.rows →
      (∀ key, HeaderGroup.spelling? t.pairs key = HeaderGroup.spelling? h.pairs key) →
      t.render = h.render) ∧
    ∃ entries : List HeaderGroup, h.render = ", ".intercalate (entries.map HeaderGroup.text) ∧
      (entries.map HeaderGroup.text).Pairwise (· ≤ ·) ∧
      (entries.map HeaderGroup.key).Nodup ∧
      (∀ key, key ∈ entries.map HeaderGroup.key ↔ ∃ p ∈ h.pairs, Text.lower p.1 = key) ∧
      ∀ e ∈ entries, e.Lists h.pairs := by
  constructor
  · intro t hsettled hrows hspelling
    have hcharset : t.charset = h.charset := by
      rw [charset, charset, hsettled, deduce_eq_of_perm hrows]
    have hpairs : t.pairs.Perm h.pairs := by
      rw [pairs, pairs, hcharset]
      exact hrows.map _
    exact render_eq_of_perm hpairs hspelling
  · obtain ⟨entries, htexts, hperm⟩ := HeaderGroup.exists_sorted_entries h.pairs
    have hkeys : (entries.map HeaderGroup.key).Perm
        ((HeaderGroup.groupsOf h.pairs).map HeaderGroup.key) := by
      have hkeys := hperm.map HeaderGroup.key
      rwa [List.map_map] at hkeys
    refine ⟨entries, ?_, ?_, ?_, ?_, ?_⟩
    · rw [render, groups_eq, htexts]
    · rw [← htexts]
      exact pairwise_mergeSort _
    · exact hkeys.nodup_iff.mpr (HeaderGroup.nodup_groupsOf h.pairs)
    · intro key
      rw [hkeys.mem_iff, HeaderGroup.mem_map_key_groupsOf]
    · intro e he
      obtain ⟨g, hg, rfl⟩ := List.mem_map.mp (hperm.mem_iff.mp he)
      exact HeaderGroup.lists_inOrder hg

/-- Two orders of a name with three rows, one of them in another spelling, among rows of a second
name. -/
theorem render_canonical_of_two_orders :
    let h : Headers := { rows := [row "Foo" "Baz", row "x-a" "1", row "FOO" "Bar", row "Foo" "Baz"] }
    let t : Headers := { rows := [row "x-a" "1", row "Foo" "Baz", row "Foo" "Baz", row "FOO" "Bar"] }
    t.settled = h.settled ∧ t.rows.Perm h.rows ∧
      (∀ key, HeaderGroup.spelling? t.pairs key = HeaderGroup.spelling? h.pairs key) ∧
      t.render = h.render ∧ h.render = "Foo: ['Bar', 'Baz', 'Baz'], x-a: '1'" := by
  intro h t
  have hperm : t.rows.Perm h.rows := by decide +kernel
  have hspelling : ∀ key, HeaderGroup.spelling? t.pairs key = HeaderGroup.spelling? h.pairs key := by
    have ht : t.pairs = [("x-a", "1"), ("Foo", "Baz"), ("Foo", "Baz"), ("FOO", "Bar")] := by
      decide +kernel
    have hh : h.pairs = [("Foo", "Baz"), ("x-a", "1"), ("FOO", "Bar"), ("Foo", "Baz")] := by
      decide +kernel
    have hfoo : Text.lower "Foo" = "foo" := by decide +kernel
    have hupper : Text.lower "FOO" = "foo" := by decide +kernel
    have hother : Text.lower "x-a" = "x-a" := by decide +kernel
    intro key
    rw [ht, hh]
    by_cases hkey : "foo" = key
    · subst hkey
      simp [HeaderGroup.spelling?, hfoo, hother]
    · simp [HeaderGroup.spelling?, List.find?_cons, hfoo, hupper, hother, hkey]
  have htext : h.render = "Foo: ['Bar', 'Baz', 'Baz'], x-a: '1'" := by
    have hgroups : h.groups = [{ key := "foo", name := "Foo", values := ["Baz", "Bar", "Baz"] },
        { key := "x-a", name := "x-a", values := ["1"] }] := by decide +kernel
    have hvalues : ["Baz", "Bar", "Baz"].mergeSort (fun v w => decide (v ≤ w)) =
        ["Bar", "Baz", "Baz"] :=
      (mergeSort_eq_of_perm (.swap "Bar" "Baz" ["Baz"])).trans
        (List.mergeSort_of_pairwise (by decide +kernel))
    have hentries : ["Foo: ['Bar', 'Baz', 'Baz']", "x-a: '1'"].mergeSort
        (fun v w => decide (v ≤ w)) = ["Foo: ['Bar', 'Baz', 'Baz']", "x-a: '1'"] :=
      List.mergeSort_of_pairwise (by decide +kernel)
    rw [render, hgroups]
    simp [HeaderGroup.entry, hvalues, hentries]
  exact ⟨rfl, hperm, hspelling, (render_canonical h).1 t rfl hperm hspelling, htext⟩

end Headers

end ApiClient
