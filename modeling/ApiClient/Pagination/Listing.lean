import ApiClient.Pagination.Page

/-!
# Listings in memory

Listings that need no server: a list cut into pages of the size asked for, and a list of pages
given one by one. Either answers by the page number alone.
-/

namespace ApiClient

/-- A listing whose answer to a call depends on what is asked for, and that asks for the page after
a page by its number. -/
def Pageable.ofGet {α : Type}
    (get : Int → Int → List Parameter → Except Outside (Page α)) : Pageable α := fun calls =>
  match calls.getLast?.map PageCall.direct with
  | some (.get page limit params) => get page limit params
  | _ => .error { kind := .runtime, text := "" }

namespace Listing

/-- The number of pages of `size` items that `count` items fill. -/
def pageCount (count : Nat) (size : Int) : Int :=
  -(-(count : Int)).fdiv size

/-- The place in a list of `count` items that a number means: a negative one counts from the end,
and no place lies outside of the list. -/
def place (count : Nat) (number : Int) : Nat :=
  if number < 0 then (count + number).toNat else min number.toNat count

/-- The items from one place up to another. -/
def slice {α : Type} (items : List α) (start stop : Int) : List α :=
  (items.take (place items.length stop)).drop (place items.length start)

/-- The page of a list cut into pages of the size asked for. -/
def pageOfItems {α : Type} (items : List α) (page limit : Int) (params : List Parameter) :
    Page α where
  num := page
  size := limit
  total := pageCount items.length limit
  content := slice items ((page - 1) * limit) ((page - 1) * limit + limit)
  options := params

/-- The failure of a request for pages of no size. -/
def noSize : Outside where
  kind := .arithmetic
  text := "integer division or modulo by zero"

/-- The page of a list cut into pages of the size asked for, which cannot be zero. -/
def getItems {α : Type} (items : List α) (page limit : Int) (params : List Parameter) :
    Except Outside (Page α) :=
  if limit = 0 then .error noSize else .ok (pageOfItems items page limit params)

/-- The failure of a request for a page outside of a listing. -/
def noPage (page : Int) : Outside where
  kind := .runtime
  text := "no page " ++ toString page

/-- A page given as such. What is left out goes by the request. -/
structure GivenPage (α : Type) where
  /-- The items. -/
  content : List α
  /-- The number of the page. -/
  num : Option Int
  /-- The size of the page. -/
  size : Option Int
  /-- The number of pages. -/
  total : Option Int
  /-- Whether the page keeps the parameters it was asked for with. -/
  keepsOptions : Bool
  deriving DecidableEq, Repr

/-- The page of a list of given pages. -/
def pageOfPages {α : Type} (pages : List (GivenPage α)) (page limit : Int)
    (params : List Parameter) : Except Outside (Page α) :=
  match if 1 ≤ page then pages[(page - 1).toNat]? else none with
  | none => .error (noPage page)
  | some given =>
    .ok {
      num := given.num.getD page
      size := given.size.getD limit
      total := given.total.getD pages.length
      content := given.content
      options := if given.keepsOptions then params else [] }

end Listing

end ApiClient
