import GoCompletion.Proofs.Fuzzy.Filter
import GoCompletion.Proofs.Fuzzy.Score

/-!
# The order of what is kept

A query keeps the items that fit it, in the order of their scores (`fuzzyFilter_eq_mergeSort`). Told by the
places of the items in the list that is filtered (`places`), **the better of two comes first, and of two equally
good ones that which came first** (`pairwise_places`).

An item that contains the query is as good as an item can be. So it is kept, and only items as good as it, from
in front of it, come before it (`contained_first`): typing on loses nothing of what is typed.
-/

namespace GoCompletion

variable {α : Type}

/-! ## Sorting by scores -/

section Sorting

variable (f : α → Rat)

theorem score_trans (a b c : α) (hab : decide (f b ≤ f a) = true) (hbc : decide (f c ≤ f b) = true) :
    decide (f c ≤ f a) = true :=
  decide_eq_true ((of_decide_eq_true hbc).trans (of_decide_eq_true hab))

theorem score_total (a b : α) : (decide (f b ≤ f a) || decide (f a ≤ f b)) = true := by
  rw [Bool.or_eq_true]
  exact (le_total (f b) (f a)).imp decide_eq_true decide_eq_true

/-- The better of two comes first. -/
theorem pairwise_mergeSort_score (items : List α) :
    (items.mergeSort fun a b => f b ≤ f a).Pairwise fun a b => f b ≤ f a :=
  (List.pairwise_mergeSort (score_trans f) (score_total f) items).imp of_decide_eq_true

/-- **Equally good items stay in order**: sorting by scores leaves alone what the items of one score are. -/
theorem filter_mergeSort_score (items : List α) (v : Rat) :
    (items.mergeSort fun a b => f b ≤ f a).filter (fun a => f a = v) = items.filter fun a => f a = v := by
  have hequal : (items.filter fun a => f a = v).Pairwise fun a b => decide (f b ≤ f a) = true := by
    refine List.pairwise_of_forall_mem_list fun a ha b hb => decide_eq_true ?_
    have hav := of_decide_eq_true (List.mem_filter.mp ha).2
    have hbv := of_decide_eq_true (List.mem_filter.mp hb).2
    exact (hbv.trans hav.symm).le
  -- those of one score are sorted as they stand, so they are a part of what is sorted, and all of that score
  have hpart := (List.sublist_mergeSort (score_trans f) (score_total f) hequal List.filter_sublist).filter
    fun a => decide (f a = v)
  rw [List.filter_filter] at hpart
  refine (List.Sublist.eq_of_length ?_ ?_).symm
  · simpa using hpart
  · exact ((List.mergeSort_perm items _).filter _).length_eq.symm

end Sorting

/-! ## What is kept -/

/-- The score of an item. -/
def rating (key : α → Option Text) (query : Text) (item : α) : Rat := score query ((key item).getD [])

/-- The item has a key, and the query fits it. -/
def fits (key : α → Option Text) (query : Text) (item : α) : Bool :=
  !((key item).getD []).isEmpty && decide (scoreCutoff ≤ rating key query item)

/-- **What is kept** are the items that fit, in the order of their scores. -/
theorem fuzzyFilter_eq_mergeSort {key : α → Option Text} {query : Text} (hne : query ≠ []) (items : List α) :
    fuzzyFilter key query items =
      (items.filter (fits key query)).mergeSort fun a b => rating key query b ≤ rating key query a := by
  let rated : α → α × Rat := fun a => (a, rating key query a)
  have hkept : ((keyed key items).map fun p => (p.1, score query p.2)).filter (fun p => scoreCutoff ≤ p.2) =
      (items.filter (fits key query)).map rated := by
    induction items with
    | nil => rfl
    | cons a items ih =>
      rcases hkey : key a with _ | _ | ⟨c, r⟩
      · simpa [keyed, fits, rated, hkey] using ih
      · simpa [keyed, fits, rated, hkey] using ih
      · by_cases hfits : scoreCutoff ≤ score query (c :: r)
        · simpa [keyed, fits, rated, rating, hkey, hfits] using ih
        · simpa [keyed, fits, rated, rating, hkey, hfits] using ih
  have hsort : ((items.filter (fits key query)).map rated).mergeSort (fun a b => b.2 ≤ a.2) =
      ((items.filter (fits key query)).mergeSort fun a b => rating key query b ≤ rating key query a).map rated :=
    (List.map_mergeSort (f := rated) fun _ _ _ _ => rfl).symm
  unfold fuzzyFilter
  rw [List.isEmpty_eq_false_iff.mpr hne, if_neg Bool.false_ne_true]
  dsimp only
  rw [hkept, hsort, List.map_map]
  exact List.map_id _

/-- **The better of two comes first**, and two equally good ones are related as they were, one after the other. -/
theorem pairwise_fuzzyFilter {r : α → α → Prop} (key : α → Option Text) {query : Text} (hne : query ≠ [])
    {items : List α} (h : items.Pairwise r) :
    (fuzzyFilter key query items).Pairwise fun a b =>
      rating key query b < rating key query a ∨ rating key query b = rating key query a ∧ r a b := by
  let f : α → Rat := rating key query
  rw [fuzzyFilter_eq_mergeSort hne, List.pairwise_iff_forall_sublist]
  intro a b hab
  have hle : f b ≤ f a := List.pairwise_iff_forall_sublist.mp (pairwise_mergeSort_score f _) hab
  refine hle.lt_or_eq.imp id fun heq => ⟨heq, ?_⟩
  -- two of one score stand as they stood
  have hsame := hab.filter fun c => decide (f c = f a)
  have hboth : [a, b].filter (fun c => decide (f c = f a)) = [a, b] :=
    List.filter_eq_self.mpr
      (List.forall_mem_cons.mpr ⟨decide_eq_true rfl, List.forall_mem_singleton.mpr (decide_eq_true heq)⟩)
  rw [filter_mergeSort_score, hboth] at hsame
  exact List.pairwise_iff_forall_sublist.mp h (hsame.trans (List.filter_sublist.trans List.filter_sublist))

/-! ## Places -/

/-- The places of the items that are kept, in the order in which these are kept. -/
def places (key : α → Option Text) (query : Text) (items : List α) : List (Fin items.length) :=
  fuzzyFilter (fun i => key (items.get i)) query (List.finRange items.length)

variable {key : α → Option Text} {query : Text} {items : List α}

/-- What is kept are the items at these places. -/
theorem map_get_places : (places key query items).map items.get = fuzzyFilter key query items := by
  rw [places, ← fuzzyFilter_map, List.map_get_finRange]

theorem mem_places_iff (hne : query ≠ []) {i : Fin items.length} :
    i ∈ places key query items ↔ fits key query (items.get i) = true := by
  rw [places, fuzzyFilter_eq_mergeSort hne, (List.mergeSort_perm _ _).mem_iff, List.mem_filter]
  exact and_iff_right (List.mem_finRange i)

/-- **The better of two comes first, and of two equally good ones that which came first.** -/
theorem pairwise_places (key : α → Option Text) (items : List α) (hne : query ≠ []) :
    (places key query items).Pairwise fun i j =>
      rating key query (items.get j) < rating key query (items.get i) ∨
        rating key query (items.get j) = rating key query (items.get i) ∧ i < j :=
  pairwise_fuzzyFilter (fun i => key (items.get i)) hne (List.pairwise_lt_finRange items.length)

/-- **What contains the query comes first.** An item whose key contains the query, whatever the case of the
letters of ASCII, is kept and has the greatest score there is; what is kept before it came before it and has
that score as well, and of what is kept behind it, all that has that score came behind it. -/
theorem contained_first (key : α → Option Text) (items : List α) (hne : query ≠ [])
    (hquery : ∀ c ∈ query, c.isAlphanum = true) (i : Fin items.length)
    (h : ContainsIgnoringCase ((key (items.get i)).getD []) query) :
    (∀ item, rating key query item ≤ 1) ∧
      (places key query items).map items.get = fuzzyFilter key query items ∧
        ∃ before after, places key query items = before ++ i :: after ∧ rating key query (items.get i) = 1 ∧
          (∀ j ∈ before, rating key query (items.get j) = 1 ∧ j < i) ∧
            ∀ j ∈ after, rating key query (items.get j) = 1 → i < j := by
  have hrating : rating key query (items.get i) = 1 := score_of_contains hne hquery h
  have hkey : (key (items.get i)).getD [] ≠ [] := by
    intro hkey
    rw [ContainsIgnoringCase, hkey] at h
    exact hne (List.map_eq_nil_iff.mp (List.infix_nil.mp h))
  have hfits : fits key query (items.get i) = true := by
    rw [fits, List.isEmpty_eq_false_iff.mpr hkey, hrating]
    decide +kernel
  obtain ⟨before, after, hplaces⟩ := List.append_of_mem ((mem_places_iff hne).mpr hfits)
  have hpairs := pairwise_places key items hne
  rw [hplaces, List.pairwise_append, List.pairwise_cons] at hpairs
  obtain ⟨-, ⟨hafter, -⟩, hbefore⟩ := hpairs
  refine ⟨fun item => score_le_one _ _, map_get_places, before, after, hplaces, hrating, fun j hj => ?_,
    fun j hj hone => ?_⟩
  · obtain hlt | ⟨heq, hlt⟩ := hbefore j hj i List.mem_cons_self
    · exact absurd (hrating ▸ hlt) (not_lt_of_ge (score_le_one _ _))
    · exact ⟨heq.symm.trans hrating, hlt⟩
  · obtain hlt | ⟨-, hlt⟩ := hafter j hj
    · exact absurd (hone.trans hrating.symm) hlt.ne
    · exact hlt

/-- A key that the query contains scores as well as one that contains the query, and stays in front of it. -/
theorem contained_first_print :
    let items := ["P".toList, "fmt".toList, "Sprint".toList]
    let first : Fin items.length := ⟨0, by decide⟩
    let last : Fin items.length := ⟨2, by decide⟩
    let query := "pR".toList
    (query ≠ [] ∧ (∀ c ∈ query, c.isAlphanum = true) ∧ ContainsIgnoringCase "Sprint".toList query) ∧
      ∃ before after, places some query items = before ++ last :: after ∧ first ∈ before ∧
        rating some query "Sprint".toList = 1 ∧
          ∀ j ∈ before, rating some query (items.get j) = 1 ∧ j < last := by
  intro items first last query
  have hne : query ≠ [] := by decide
  have hquery : ∀ c ∈ query, c.isAlphanum = true := List.all_eq_true.mp (by decide)
  have hcontains : ContainsIgnoringCase "Sprint".toList query := by decide
  obtain ⟨-, -, before, after, hplaces, hrating, hbefore, hafter⟩ :=
    contained_first some items hne hquery last hcontains
  have hfirst : first ∈ before ++ last :: after := by
    rw [← hplaces, mem_places_iff hne]
    decide +kernel
  refine ⟨⟨hne, hquery, hcontains⟩, before, after, hplaces, ?_, hrating, hbefore⟩
  rcases List.mem_append.mp hfirst with h | h
  · exact h
  · rcases List.mem_cons.mp h with h | h
    · exact absurd h (by decide)
    · cases hafter first h (by decide +kernel)

end GoCompletion
