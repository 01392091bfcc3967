import GoCompletion.Proofs.Fuzzy.Place

/-!
# What is selected

An item is kept for its own sake: it has a key and the query fits that (`fits_iff`). **Leaving other items out
changes nothing else** (`fuzzyFilter_filter`), and neither does selecting again (`fuzzyFilter_fuzzyFilter`).

For the first of these, items are told apart by their places: an order in which the better of two comes first, and
of two equally good ones that which came first, is an order of places that no other list of the same places has.
-/

namespace GoCompletion

variable {α : Type} {key : α → Option Text} {query : Text}

theorem fits_iff {item : α} :
    fits key query item = true ↔ ∃ k, key item = some k ∧ k ≠ [] ∧ scoreCutoff ≤ score query k := by
  cases hkey : key item with
  | none => simp [fits, hkey]
  | some k => simp [fits, rating, hkey]

theorem mem_fuzzyFilter_iff (hne : query ≠ []) {items : List α} {item : α} :
    item ∈ fuzzyFilter key query items ↔ item ∈ items ∧ fits key query item = true := by
  rw [fuzzyFilter_eq_mergeSort hne, (List.mergeSort_perm _ _).mem_iff, List.mem_filter]

/-- **Selecting again changes nothing**: all that is kept fits, and is in order. -/
theorem fuzzyFilter_fuzzyFilter (hne : query ≠ []) (items : List α) :
    fuzzyFilter key query (fuzzyFilter key query items) = fuzzyFilter key query items := by
  have hfits : (fuzzyFilter key query items).filter (fits key query) = fuzzyFilter key query items :=
    List.filter_eq_self.mpr fun _ hmem => ((mem_fuzzyFilter_iff hne).mp hmem).2
  rw [fuzzyFilter_eq_mergeSort hne (fuzzyFilter key query items), hfits]
  refine List.mergeSort_of_pairwise ?_
  rw [fuzzyFilter_eq_mergeSort hne items]
  exact (pairwise_mergeSort_score (rating key query) _).imp decide_eq_true

/-- What is selected of places in order, when some are left out. -/
theorem fuzzyFilter_filter_of_places {n : Nat} (key : Fin n → Option Text) (hne : query ≠ [])
    {places : List (Fin n)} (h : places.Pairwise (· < ·)) (p : Fin n → Bool) :
    fuzzyFilter key query (places.filter p) = (fuzzyFilter key query places).filter p := by
  have hperm : (fuzzyFilter key query (places.filter p)).Perm ((fuzzyFilter key query places).filter p) := by
    rw [fuzzyFilter_eq_mergeSort hne, fuzzyFilter_eq_mergeSort hne]
    refine (List.mergeSort_perm _ _).trans (.trans ?_ ((List.mergeSort_perm _ _).filter p).symm)
    rw [List.filter_filter, List.filter_filter]
    exact .of_eq (List.filter_congr fun _ _ => Bool.and_comm _ _)
  refine hperm.eq_of_pairwise ?_ (pairwise_fuzzyFilter key hne (h.filter p))
    ((pairwise_fuzzyFilter key hne h).filter p)
  -- no two places come before each other
  rintro i j - - (hlt | ⟨heq, hlt⟩) (hgt | ⟨heq', hgt⟩)
  · exact absurd hlt (not_lt_of_gt hgt)
  · exact absurd heq' hlt.ne'
  · exact absurd heq hgt.ne'
  · exact absurd hlt (not_lt_of_gt hgt)

/-- **What is kept of some items does not depend on the others**: it is the same whether these are left out before
or behind, and in the same order. -/
theorem fuzzyFilter_filter (hne : query ≠ []) (items : List α) (p : α → Bool) :
    fuzzyFilter key query (items.filter p) = (fuzzyFilter key query items).filter p := by
  have hitems : items.filter p = ((List.finRange items.length).filter (p ∘ items.get)).map items.get := by
    rw [← List.filter_map, List.map_get_finRange]
  calc fuzzyFilter key query (items.filter p)
    _ = (fuzzyFilter (fun i => key (items.get i)) query
          ((List.finRange items.length).filter (p ∘ items.get))).map items.get := by
      rw [hitems, fuzzyFilter_map]
    _ = ((places key query items).filter (p ∘ items.get)).map items.get := by
      rw [fuzzyFilter_filter_of_places _ hne (List.pairwise_lt_finRange items.length), places]
    _ = (fuzzyFilter key query items).filter p := by
      rw [← List.filter_map, map_get_places]

/-- **Refiltering is a stable selection.** What is kept stands at places of its own in the list that is filtered:
the places of the items that have a key, not an empty one, whose score against the query is at least three quarters.
The better of two comes first, and of two equally good ones that which came first. Selecting again changes nothing,
and whether, and in which order, some items are kept does not depend on others. -/
theorem fuzzyFilter_stableSelection (key : α → Option Text) (hne : query ≠ []) (items : List α) :
    (∃ kept : List (Fin items.length), fuzzyFilter key query items = kept.map items.get ∧ kept.Nodup ∧
      (∀ i, i ∈ kept ↔ ∃ k, key (items.get i) = some k ∧ k ≠ [] ∧ 3 / 4 ≤ score query k) ∧
      kept.Pairwise fun i j =>
        rating key query (items.get j) < rating key query (items.get i) ∨
          rating key query (items.get j) = rating key query (items.get i) ∧ i < j) ∧
      fuzzyFilter key query (fuzzyFilter key query items) = fuzzyFilter key query items ∧
      ∀ p : α → Bool, fuzzyFilter key query (items.filter p) = (fuzzyFilter key query items).filter p := by
  refine ⟨⟨places key query items, map_get_places.symm, ?_, fun i => ?_, pairwise_places key items hne⟩,
    fuzzyFilter_fuzzyFilter hne items, fuzzyFilter_filter hne items⟩
  · exact (pairwise_places key items hne).imp fun hij => by
      rcases hij with hlt | ⟨-, hlt⟩
      · rintro rfl
        exact lt_irrefl _ hlt
      · exact hlt.ne
  · rw [mem_places_iff hne, fits_iff, scoreCutoff]

/-- Equal items are each kept, and neither an item without a key nor one whose key is empty is. -/
theorem fuzzyFilter_stableSelection_repeated :
    let items : List (Option Text) := ["Sprint".toList, none, "Errorf".toList, some [], "Sprint".toList]
    let query := "pr".toList
    query ≠ [] ∧
      (∃ kept : List (Fin items.length), fuzzyFilter id query items = kept.map items.get ∧ kept.Nodup ∧
        ∀ i : Fin items.length, i ∈ kept ↔ i.val = 0 ∨ i.val = 4) ∧
      fuzzyFilter id query (fuzzyFilter id query items) = fuzzyFilter id query items ∧
      fuzzyFilter id query (items.filter Option.isSome) = (fuzzyFilter id query items).filter Option.isSome := by
  intro items query
  have hne : query ≠ [] := by decide
  have hfound : 3 / 4 ≤ score query "Sprint".toList := by decide +kernel
  have hunlike : ¬ 3 / 4 ≤ score query "Errorf".toList := by decide +kernel
  obtain ⟨⟨kept, hkept, hnodup, hmem, -⟩, hagain, hothers⟩ := fuzzyFilter_stableSelection id hne items
  refine ⟨hne, ⟨kept, hkept, hnodup, fun i => (hmem i).trans ?_⟩, hagain, hothers _⟩
  match i with
  | 0 | 4 => exact iff_of_true ⟨_, rfl, by decide, hfound⟩ (by decide)
  | 1 => exact iff_of_false (fun ⟨_, hkey, _⟩ => nomatch hkey) (by decide)
  | 2 => exact iff_of_false (fun ⟨_, hkey, _, hscore⟩ => hunlike (Option.some.inj hkey ▸ hscore)) (by decide)
  | 3 => exact iff_of_false (fun ⟨_, hkey, hempty, _⟩ => hempty (Option.some.inj hkey).symm) (by decide)

end GoCompletion
