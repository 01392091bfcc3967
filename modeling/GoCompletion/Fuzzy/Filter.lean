import GoCompletion.Fuzzy.Score

/-!
# Refiltering

Items are kept whose key scores well enough against a query, the best ones first and equally good ones
in the order in which they came. Items without a key, or with an empty one, are dropped whatever the
query.
-/

namespace GoCompletion

variable {α : Type}

/-- The least score that an item is kept with. -/
def scoreCutoff : Rat := 3 / 4

/-- The items that have a key, each with its key. -/
def keyed (key : α → Option Text) (items : List α) : List (α × Text) :=
  items.filterMap fun item =>
    match key item with
    | some (c :: r) => some (item, c :: r)
    | _ => none

/-- The items that fit the query, the best ones first. An empty query fits every item with a key. -/
def fuzzyFilter (key : α → Option Text) (query : Text) (items : List α) : List α :=
  if query.isEmpty then (keyed key items).map (·.1)
  else
    let scored := (keyed key items).map fun p => (p.1, score query p.2)
    let kept := scored.filter fun p => scoreCutoff ≤ p.2
    (kept.mergeSort fun a b => b.2 ≤ a.2).map (·.1)

end GoCompletion
