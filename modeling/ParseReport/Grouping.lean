/-!
Grouping by a key, with the groups in the order in which their keys first occur.
-/

namespace ParseReport

/-- Puts an element into the group of its key, which is a new last one if there is none. -/
def addToGroup {κ α : Type} [DecidableEq κ] (k : κ) (a : α) :
    List (κ × List α) → List (κ × List α)
  | [] => [(k, [a])]
  | (k', members) :: groups =>
    if k = k' then (k', members ++ [a]) :: groups
    else (k', members) :: addToGroup k a groups

/-- The groups of a list by a key; members keep their order. -/
def groupBy {κ α : Type} [DecidableEq κ] (key : α → κ) (items : List α) : List (κ × List α) :=
  items.foldl (fun groups a => addToGroup (key a) a groups) []

/-- The distinct elements of a list in the order in which they first occur. -/
def distinct {α : Type} [DecidableEq α] (items : List α) : List α :=
  (groupBy id items).map Prod.fst

end ParseReport
