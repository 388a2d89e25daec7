import ApiClient.Pagination.Page

/-!
# Scanning a listing

A scan shows the items of a listing to a condition, in order, until the condition is met. A page is
fetched only when every item of the page before it was shown. Failures of the listing and of the
condition end the scan.
-/

namespace ApiClient

/-- A condition on items: its answer to an item depends on the items shown to it before. -/
abbrev Condition (α : Type) := List α → α → Except Outside Bool

/-- How a scan ends. -/
inductive ScanEnd
  /-- The condition was met. -/
  | met
  /-- The condition was met at no item. -/
  | neverMet
  /-- The listing or the condition failed. -/
  | failed (e : Outside)
  deriving DecidableEq, Repr

/-- What a scan has done. -/
structure Scan (α : Type) where
  /-- The items shown to the condition, in order. -/
  seen : List α
  /-- The calls made on the listing, in order. -/
  calls : List (PageCall α)
  /-- How it ended, if it has ended. -/
  outcome : Option ScanEnd
  deriving DecidableEq, Repr

namespace Scan

/-- Shows items to a condition until it is met: the items shown so far, and how the scan ends with
them if it does. -/
def visit {α : Type} (condition : Condition α) (seen : List α) : List α →
    List α × Option ScanEnd
  | [] => (seen, none)
  | a :: rest =>
    match condition seen a with
    | .error e => (seen ++ [a], some (.failed e))
    | .ok true => (seen ++ [a], some .met)
    | .ok false => visit condition (seen ++ [a]) rest

/-- Continues a scan with the call `call`, for at most `fuel` pages. -/
def continueWith {α : Type} (listing : Pageable α) (condition : Condition α) :
    Nat → List α → List (PageCall α) → PageCall α → Scan α
  | 0, seen, calls, _ => { seen, calls, outcome := none }
  | fuel + 1, seen, calls, call =>
    let calls := calls ++ [call]
    match listing calls with
    | .error e => { seen, calls, outcome := some (.failed e) }
    | .ok page =>
      match visit condition seen page.content with
      | (seen, some outcome) => { seen, calls, outcome := some outcome }
      | (seen, none) =>
        if page.isLast then { seen, calls, outcome := some .neverMet }
        else continueWith listing condition fuel seen calls (.next page)

/-- The first `fuel` pages of a scan. -/
def run {α : Type} (listing : Pageable α) (condition : Condition α) (params : List Parameter)
    (pageSize : Int) (fuel : Nat) : Scan α :=
  continueWith listing condition fuel [] [] (.first pageSize params)

end Scan

/-- The number of items asked for per page, unless a caller says otherwise. -/
def defaultPageSize : Int := 10

end ApiClient
