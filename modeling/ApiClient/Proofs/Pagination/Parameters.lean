import ApiClient.Proofs.Pagination.Course
import ApiClient.Proofs.Pagination.Pace
import Mathlib.Data.List.Induction
import Mathlib.Data.List.Nodup

/-!
# The parameters of a walk

Every page of a walk is asked for with the size and the parameters that the walk began with, if the
pages of the listing say what they were asked for with: the request for the page after a page
repeats what that page says (`Behind.direct_eq`). The query of such a request has the number of the
page, the size, and each key of the parameters with its last value.
-/

namespace ApiClient

/-! ## Queries -/

/-- The value of a key: that of the last parameter that sets it. -/
def Parameter.lastValue (params : List Parameter) (key : String) : String :=
  ((params.reverse.find? fun p => p.key = key).map Parameter.value).getD ""

theorem Parameter.lastValue_concat (params : List Parameter) (p : Parameter) (key : String) :
    lastValue (params ++ [p]) key = if key = p.key then p.value else lastValue params key := by
  by_cases h : key = p.key
  · simp [lastValue, h]
  · simp [lastValue, h, Ne.symm h]

namespace Query

/-- What parameters add to a query: each of their keys with its last value, in the order in which
the keys appear first. -/
def filters (params : List Parameter) : Query :=
  (params.map Parameter.key).eraseDups.map fun key => (key, Parameter.lastValue params key)

theorem eraseDups_concat (keys : List String) (key : String) :
    (keys ++ [key]).eraseDups =
      if key ∈ keys.eraseDups then keys.eraseDups else keys.eraseDups ++ [key] := by
  rw [List.eraseDups_append]
  by_cases h : key ∈ keys
  · simp [List.removeAll, h]
  · simp [List.removeAll, h, List.eraseDups_cons]

theorem nodup_eraseDups (keys : List String) : keys.eraseDups.Nodup := by
  induction keys using List.reverseRecOn with
  | nil => exact List.nodup_nil
  | append_singleton keys key ih =>
    rw [eraseDups_concat]
    split
    · exact ih
    · rename_i hkey
      rw [← List.concat_eq_append]
      exact ih.concat hkey

/-- Sets a key of a query with distinct keys whose values go by them. -/
theorem set_map {keys : List String} (hkeys : keys.Nodup) (valueOf : String → String)
    (key value : String) :
    set key value (keys.map fun k => (k, valueOf k)) =
      (if key ∈ keys then keys else keys ++ [key]).map fun k =>
        (k, if k = key then value else valueOf k) := by
  induction keys with
  | nil => simp [set]
  | cons k rest ih =>
    obtain ⟨hk, hrest⟩ := List.nodup_cons.mp hkeys
    by_cases h : k = key
    · subst h
      have hsame : ∀ k' ∈ rest, (k', valueOf k') = (k', if k' = k then value else valueOf k') := by
        intro k' hmem
        have hne : k' ≠ k := fun heq => hk (heq ▸ hmem)
        rw [if_neg hne]
      simpa [set] using List.map_congr_left hsame
    · simp [set, h, ih hrest, Ne.symm h]
      split <;> simp [h]

theorem filters_concat (params : List Parameter) (p : Parameter) :
    filters (params ++ [p]) = (filters params).set p.key p.value := by
  rw [filters, filters, set_map (nodup_eraseDups _), List.map_append, List.map_singleton,
    eraseDups_concat]
  exact List.map_congr_left fun key _ => by rw [Parameter.lastValue_concat]

/-- The query of a list request: page, limit and what the parameters add, if these set other
keys. -/
theorem ofPage_eq (page limit : Int) {params : List Parameter}
    (hparams : ∀ p ∈ params, p.key ≠ "page" ∧ p.key ≠ "limit") :
    ofPage page limit params =
      ("page", toString page) :: ("limit", toString limit) :: filters params := by
  induction params using List.reverseRecOn with
  | nil => rfl
  | append_singleton params p ih =>
    obtain ⟨hpage, hlimit⟩ := hparams p (by simp)
    have hbefore := ih fun q hq => hparams q (List.mem_append_left _ hq)
    rw [ofPage] at hbefore ⊢
    rw [List.foldl_append, hbefore, filters_concat]
    simp [set, Ne.symm hpage, Ne.symm hlimit]

end Query

/-! ## Requests -/

variable {α : Type} {listing : Pageable α} {call : PageCall α} {calls : List (PageCall α)}
  {pages : List (Page α)} {page : Page α} {params : List Parameter} {pageSize : Int}

/-- The pages of a listing say what they were asked for with, and the page after a page is asked for
by what that page says. -/
structure Pageable.Echoing (listing : Pageable α) : Prop where
  /-- A page that is asked for by its number. -/
  get : ∀ calls num limit params page, listing (calls ++ [.get num limit params]) = .ok page →
    page.num = num ∧ page.size = limit ∧ page.options = params
  /-- The page after a page. -/
  next : ∀ calls page,
    listing (calls ++ [.next page]) = listing (calls ++ [(PageCall.next page).direct])

/-- A page says what its call asks for. -/
theorem Pageable.Echoing.direct_eq (h : listing.Echoing)
    (hpage : listing (calls ++ [call]) = .ok page) :
    call.direct = .get page.num page.size page.options := by
  cases call with
  | get num limit params =>
    obtain ⟨rfl, rfl, rfl⟩ := h.get _ _ _ _ _ hpage
    rfl
  | next before =>
    rw [h.next] at hpage
    obtain ⟨hnum, hsize, hoptions⟩ := h.get _ _ _ _ _ hpage
    rw [hnum, hsize, hoptions]
    rfl

/-- Every call of a walk asks for its page with the size and the parameters of the first one. -/
theorem Behind.direct_eq (h : Behind listing (.first pageSize params) calls pages)
    (hechoing : listing.Echoing) {i : Nat} (hi : i < calls.length) :
    calls[i].direct = .get (i + 1) pageSize params := by
  have hlength := h.length_eq
  induction i with
  | zero =>
    simp only [h.calls_eq, List.getElem_cons_zero]
    rfl
  | succ i ih =>
    have hpage := h.answers i (by omega)
    rw [List.take_add_one, List.getElem?_eq_getElem (by omega)] at hpage
    -- the page behind the call before says what that call asked for
    have hsays := (ih (by omega)).symm.trans (hechoing.direct_eq hpage)
    injection hsays with hnum hsize hoptions
    simp only [h.calls_eq, List.getElem_cons_succ, List.getElem_map, PageCall.direct, ← hnum,
      ← hsize, ← hoptions]
    push_cast
    rfl

/-- The parameters of a scan and of a stream reach all of their requests. Where the pages of a
listing say what they were asked for with, and the page after a page is asked for by what that page
says, the request for every page that a scan or a stream gets to has the number of that page, and
the size and the parameters that it began with. Its query has the number, the size, and each key of
the parameters with the value of the last parameter that sets it, in the order in which the keys
appear first. -/
theorem Pageable.requests_carry_parameters (listing : Pageable α) (hechoing : listing.Echoing)
    (params : List Parameter) (hparams : ∀ p ∈ params, p.key ≠ "page" ∧ p.key ≠ "limit")
    (pageSize : Int) :
    (∀ (condition : Condition α) (fuel i : Nat)
        (hi : i < (Scan.run listing condition params pageSize fuel).calls.length),
      ((Scan.run listing condition params pageSize fuel).calls[i]).direct =
        .get (i + 1) pageSize params) ∧
    (∀ (actions : List Action) (s : Stream α) (replies : List (Reply α)),
      Stream.start.run? listing (.first pageSize params) actions = some (s, replies) →
        ∀ (i : Nat) (hi : i < s.calls.length),
          s.calls[i].direct = .get (i + 1) pageSize params) ∧
    ∀ num : Int, Query.ofPage num pageSize params =
      ("page", toString num) :: ("limit", toString pageSize) :: Query.filters params := by
  refine ⟨fun condition fuel i hi => ?_, fun actions s replies hrun i hi => ?_, fun num => ?_⟩
  · cases fuel with
    | zero => cases hi
    | succ fuel =>
      obtain ⟨pages, hcourse⟩ := Scan.exists_course listing condition params pageSize fuel
      exact hcourse.behind.direct_eq hechoing hi
  · rcases (Stream.Paced.run hrun).returned with hnone | ⟨seen, hasked, -⟩
    · simp [hnone] at hi
    · obtain ⟨pages, hbehind, -⟩ := hasked.exists_behind
      exact hbehind.direct_eq hechoing hi
  · exact Query.ofPage_eq num pageSize hparams

/-- The pages of a list say what they were asked for with. -/
theorem Listing.echoing_getItems (items : List α) :
    (Pageable.ofGet (getItems items)).Echoing where
  get calls num limit params page h := by
    simp only [Pageable.ofGet, List.getLast?_concat, Option.map_some, PageCall.direct,
      getItems] at h
    split at h <;> cases h
    exact ⟨rfl, rfl, rfl⟩
  next calls page := by
    simp only [Pageable.ofGet, List.getLast?_concat, Option.map_some, PageCall.direct]

/-- A scan and a stream of three items in pages of two, with a key that is set twice, get to the
second page. -/
theorem Pageable.requests_carry_parameters_of_second_page :
    let listing : Pageable Nat := .ofGet (Listing.getItems [7, 8, 9])
    let params : List Parameter := [⟨"search", "a"⟩, ⟨"tag", "x"⟩, ⟨"search", "b"⟩]
    let actions : List Action :=
      [.begin, .answer, .request 0, .put, .take 0, .return 0, .proceed, .proceed,
        .request 1, .put, .take 1, .return 1, .proceed, .proceed]
    listing.Echoing ∧ (∀ p ∈ params, p.key ≠ "page" ∧ p.key ≠ "limit") ∧
      (∃ call, (Scan.run listing .never params 2 2).calls[1]? = some call ∧
        call.direct = .get 2 2 params) ∧
      (∃ s call, Stream.start.run? listing (.first 2 params) actions =
          some (s, [.item 7, .item 8]) ∧ s.calls[1]? = some call ∧ call.direct = .get 2 2 params) ∧
      Query.ofPage 2 2 params =
        [("page", "2"), ("limit", "2"), ("search", "b"), ("tag", "x")] := by
  intro listing params actions
  have hechoing : listing.Echoing := Listing.echoing_getItems [7, 8, 9]
  have hparams : ∀ p ∈ params, p.key ≠ "page" ∧ p.key ≠ "limit" := by decide
  obtain ⟨hscan, hstream, hquery⟩ := requests_carry_parameters listing hechoing params hparams 2
  have hrun : Stream.start.run? listing (.first 2 params) actions =
    some (_, [.item 7, .item 8]) := rfl
  have hcalls : 1 < (Scan.run listing .never params 2 2).calls.length := by decide
  refine ⟨hechoing, hparams, ⟨_, List.getElem?_eq_getElem hcalls, hscan .never 2 1 hcalls⟩,
    ⟨_, _, hrun, rfl, hstream actions _ _ hrun 1 (by decide)⟩, ?_⟩
  rw [hquery]
  decide

end ApiClient
