import ApiClient.Outside

/-!
# Pages

A listing is fetched page by page. Each page knows its number, how many items were asked for, how
many pages there are, and the parameters it was asked for with, which the request for the page
after it repeats.
-/

namespace ApiClient

/-- A parameter of a list request: sets a key of its query. -/
structure Parameter where
  /-- The key. -/
  key : String
  /-- The value. -/
  value : String
  deriving DecidableEq, Repr

/-- The query of a list request, in order; keys are distinct. -/
abbrev Query := List (String × String)

namespace Query

/-- Sets a key, in its place if it exists, else at the end. -/
def set (key value : String) : Query → Query
  | [] => [(key, value)]
  | (k, v) :: rest => if k = key then (k, value) :: rest else (k, v) :: set key value rest

/-- The query of a list request: page, limit and what the parameters set, in turn. -/
def ofPage (page limit : Int) (params : List Parameter) : Query :=
  params.foldl (fun query p => query.set p.key p.value)
    [("page", toString page), ("limit", toString limit)]

end Query

/-- A fetched page. -/
structure Page (α : Type) where
  /-- The number of the page, from one. -/
  num : Int
  /-- The number of items asked for. -/
  size : Int
  /-- The number of pages. -/
  total : Int
  /-- The items, in order. -/
  content : List α
  /-- The parameters that the page was asked for with. -/
  options : List Parameter
  deriving DecidableEq, Repr

/-- Whether there are pages after a page. -/
def Page.hasNext {α : Type} (p : Page α) : Bool :=
  p.num < p.total

/-- Whether a walk ends with a page once all its items are visited. -/
def Page.isLast {α : Type} (p : Page α) : Bool :=
  p.content.isEmpty || !p.hasNext

/-- A call on a listing. -/
inductive PageCall (α : Type)
  /-- Asks for a page by its number. -/
  | get (page limit : Int) (params : List Parameter)
  /-- Asks for the page after a page. -/
  | next (page : Page α)
  deriving DecidableEq, Repr

/-- The first call of a walk. -/
def PageCall.first {α : Type} (pageSize : Int) (params : List Parameter) : PageCall α :=
  .get 1 pageSize params

/-- The call that a call amounts to where the page after a page is asked for by its number: the
same size and the same parameters. -/
def PageCall.direct {α : Type} : PageCall α → PageCall α
  | .get page limit params => .get page limit params
  | .next p => .get (p.num + 1) p.size p.options

/-- A listing: its answer to a call depends on the calls made so far, the last one being the call
itself. -/
abbrev Pageable (α : Type) := List (PageCall α) → Except Outside (Page α)

end ApiClient
