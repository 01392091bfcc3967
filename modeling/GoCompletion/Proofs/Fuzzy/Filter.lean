import GoCompletion.Fuzzy.Filter
import Mathlib.Data.List.FinRange

/-!
# Refiltering selects

A refiltered list is a selection: each of its items stands at a place of its own in the list that was
filtered (`fuzzyFilter_eq_map_get`), however many equal items there are.

Places are kept track of by filtering them in place of the items. That comes to the same, since an item
is judged by its key alone (`fuzzyFilter_map`).
-/

namespace GoCompletion

variable {α β : Type}

theorem keyed_map (f : α → β) (key : β → Option Text) (items : List α) :
    keyed key (items.map f) =
      (keyed (fun a => key (f a)) items).map fun p => (f p.1, p.2) := by
  induction items with
  | nil => rfl
  | cons a items ih =>
    simp only [keyed, List.map_cons, List.filterMap_cons] at ih ⊢
    rcases key (f a) with _ | _ | ⟨c, r⟩
    · exact ih
    · exact ih
    · rw [ih]
      rfl

/-- **An item is judged by its key alone**: filtering what a function gives is the same as filtering
first. -/
theorem fuzzyFilter_map (f : α → β) (key : β → Option Text) (query : Text) (items : List α) :
    fuzzyFilter key query (items.map f) =
      (fuzzyFilter (fun a => key (f a)) query items).map f := by
  unfold fuzzyFilter
  split
  · rw [keyed_map, List.map_map, List.map_map]
    rfl
  · -- scores go along with the items, and sorting looks at nothing else
    have hsort : ∀ scored : List (α × Rat),
        (scored.mergeSort fun a b => decide (b.2 ≤ a.2)).map (fun p => (f p.1, p.2)) =
          (scored.map fun p => (f p.1, p.2)).mergeSort fun a b => decide (b.2 ≤ a.2) :=
      fun scored => List.map_mergeSort fun _ _ _ _ => rfl
    have hscored : ((keyed key (items.map f)).map fun p => (p.1, score query p.2)) =
        ((keyed (fun a => key (f a)) items).map fun p => (p.1, score query p.2)).map
          fun p => (f p.1, p.2) := by
      rw [keyed_map, List.map_map, List.map_map]
      rfl
    simp only [hscored]
    generalize (keyed (fun a => key (f a)) items).map (fun p => (p.1, score query p.2)) = scored
    rw [List.filter_map, ← hsort, List.map_map, List.map_map]
    rfl

/-- The items that have a key, in order. -/
theorem map_fst_keyed_sublist (key : α → Option Text) (items : List α) :
    List.Sublist ((keyed key items).map (·.1)) items := by
  induction items with
  | nil => exact List.Sublist.refl _
  | cons a items ih =>
    simp only [keyed, List.filterMap_cons] at ih ⊢
    rcases key a with _ | _ | ⟨c, r⟩
    · exact ih.cons a
    · exact ih.cons a
    · exact ih.cons_cons a

/-- A refiltered list holds every item at most as often as the list that was filtered. -/
theorem fuzzyFilter_subperm (key : α → Option Text) (query : Text) (items : List α) :
    List.Subperm (fuzzyFilter key query items) items := by
  have hkeyed := map_fst_keyed_sublist key items
  unfold fuzzyFilter
  split
  · exact hkeyed.subperm
  · refine ((List.mergeSort_perm _ _).map _).subperm.trans ?_
    refine ((List.filter_sublist.map _).trans ?_).subperm
    rw [List.map_map]
    exact hkeyed

/-- **A refiltered list is a selection** of places, each of them taken once. -/
theorem fuzzyFilter_eq_map_get (key : α → Option Text) (query : Text) (items : List α) :
    ∃ places : List (Fin items.length), places.Nodup ∧
      fuzzyFilter key query items = places.map items.get := by
  refine ⟨fuzzyFilter (fun i => key (items.get i)) query (List.finRange items.length), ?_, ?_⟩
  · obtain ⟨chosen, hp, hs⟩ := fuzzyFilter_subperm (fun i => key (items.get i)) query
      (List.finRange items.length)
    exact hp.nodup (hs.nodup (List.nodup_finRange _))
  · rw [← fuzzyFilter_map, List.map_get_finRange]

end GoCompletion
