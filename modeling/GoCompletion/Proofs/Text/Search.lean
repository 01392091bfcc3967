import GoCompletion.Text.Basic

/-!
# Looking for a text in a text

What the searching and cutting of texts comes to when the text at hand is put together from known parts:
a text that stands somewhere is an infix (`contains_iff_infix`), a cut at a single character is the one
behind the last part that has no such character (`cut_singleton_append`), in front of a cut at the first place
there is no other (`prefix_of_cut`), and there is none behind a cut at the last place
(`length_le_of_cutLast`).
-/

namespace GoCompletion

namespace Text

theorem contains_iff_infix {t s : Text} : contains t s = true ↔ s <:+: t := by
  induction t with
  | nil => simp [contains]
  | cons c r ih =>
    rw [contains, Bool.or_eq_true, ih, List.isPrefixOf_iff_prefix, List.infix_cons_iff]

theorem not_infix_of_contains {t s : Text} (h : contains t s = false) : ¬ s <:+: t := by
  rw [← contains_iff_infix, h]
  exact Bool.false_ne_true

theorem startsWith_iff_prefix {t s : Text} : startsWith t s = true ↔ s <+: t :=
  List.isPrefixOf_iff_prefix

/-! ## Stretches of one kind -/

section Stretches

variable {p : Char → Bool} {s t : Text}

/-- A stretch ends in front of a character that is not of its kind. -/
theorem takeWhile_append_cons {c : Char} (hc : p c = false) (s t : Text) :
    (s ++ c :: t).takeWhile p = s.takeWhile p := by
  induction s with
  | nil => exact List.takeWhile_cons_of_neg (by simp [hc])
  | cons d s ih => rw [List.cons_append, List.takeWhile_cons, List.takeWhile_cons, ih]

theorem takeWhile_append_of_head (hs : ∀ c ∈ s, p c = true) (ht : ∀ c ∈ t.head?, p c = false) :
    (s ++ t).takeWhile p = s := by
  have htake : t.takeWhile p = [] := by
    cases t with
    | nil => rfl
    | cons c r => exact List.takeWhile_cons_of_neg (by simp [ht c rfl])
  rw [List.takeWhile_append_of_pos hs, htake, List.append_nil]

/-- What is behind a stretch, if it does not go on with a character of that kind. -/
theorem dropWhile_append_of_head (hs : ∀ c ∈ s, p c = true) (ht : ∀ c ∈ t.head?, p c = false) :
    (s ++ t).dropWhile p = t := by
  rw [List.dropWhile_append_of_pos hs]
  cases t with
  | nil => rfl
  | cons c r => exact List.dropWhile_cons_of_neg (by simp [ht c rfl])

end Stretches

/-! ## Cuts at a single character -/

theorem cut_singleton_append {c : Char} {s : Text} (h : c ∉ s) (t : Text) :
    cut [c] (s ++ c :: t) = some (s, t) := by
  induction s with
  | nil => simp [cut]
  | cons d s ih =>
    have hne : c ≠ d := fun he => h (he ▸ List.mem_cons_self)
    rw [List.cons_append, cut, if_neg (by simp [List.isPrefixOf, hne]),
      ih fun hm => h (List.mem_cons_of_mem d hm), Option.map_some]

theorem cut_singleton_eq_none {c : Char} {t : Text} (h : c ∉ t) : cut [c] t = none := by
  induction t with
  | nil => rfl
  | cons d t ih =>
    have hne : c ≠ d := fun he => h (he ▸ List.mem_cons_self)
    rw [cut, if_neg (by simp [List.isPrefixOf, hne]), ih fun hm => h (List.mem_cons_of_mem d hm),
      Option.map_none]

/-- The cut at a character is the one at the first place where it stands. -/
theorem not_mem_of_cut_singleton {c : Char} {t a b : Text} (h : cut [c] t = some (a, b)) : c ∉ a := by
  have hm : c ∈ t := by
    rw [← cut_eq_some h]
    simp
  obtain ⟨u, v, rfl, hu⟩ := List.eq_append_cons_of_mem hm
  rw [cut_singleton_append hu] at h
  cases h
  exact hu

/-! ## Cuts at the first place -/

theorem not_infix_of_cut {s t : Text} (hs : s ≠ []) (h : cut s t = none) : ¬ s <:+: t := by
  induction t with
  | nil => exact fun hi => hs (List.infix_nil.mp hi)
  | cons c r ih =>
    rw [cut] at h
    split at h
    · cases h
    · next hp =>
      rw [List.infix_cons_iff, not_or]
      exact ⟨fun hi => hp (List.isPrefixOf_iff_prefix.mpr hi), ih (Option.map_eq_none_iff.mp h)⟩

/-- There is a cut exactly where there is a place. -/
theorem cut_eq_none_iff {s t : Text} (hs : s ≠ []) : cut s t = none ↔ ¬ s <:+: t := by
  refine ⟨not_infix_of_cut hs, fun h => ?_⟩
  cases hcut : cut s t with
  | none => rfl
  | some parts => exact absurd ⟨parts.1, parts.2, cut_eq_some hcut⟩ h

/-- **The cut at the first place**: there is no other place in front of it. -/
theorem prefix_of_cut {s t a b u v : Text} (h : cut s t = some (a, b)) (ht : t = u ++ s ++ v) : a <+: u := by
  induction t generalizing a u with
  | nil => cases h
  | cons c r ih =>
    rw [cut] at h
    split at h
    · obtain ⟨rfl, -⟩ := Prod.mk.inj (Option.some.inj h)
      exact List.nil_prefix
    · next hp =>
      obtain ⟨⟨a', b'⟩, hcut, he⟩ := Option.map_eq_some_iff.mp h
      obtain ⟨rfl, rfl⟩ := Prod.mk.inj he
      cases u with
      | nil =>
        rw [ht, List.nil_append] at hp
        exact absurd (List.isPrefixOf_iff_prefix.mpr (List.prefix_append s v)) hp
      | cons d u =>
        obtain ⟨rfl, hr⟩ := List.cons.inj ht
        exact List.cons_prefix_cons.mpr ⟨rfl, ih hcut hr⟩

/-! ## Pieces by their first cut -/

theorem pieces_of_cut_eq_none {s t : Text} (h : cut s t = none) : pieces s t = [t] := by
  unfold pieces
  split
  · rfl
  · split
    · rfl
    · next hc => rw [h] at hc; cases hc

theorem pieces_of_cut_eq_some {s t a b : Text} (hs : s ≠ []) (h : cut s t = some (a, b)) :
    pieces s t = a :: pieces s b := by
  rw [pieces, dif_neg hs]
  split
  · next hc => rw [h] at hc; cases hc
  · next hc =>
    rw [h] at hc
    cases hc
    rfl

/-- The pieces at a character are those in front of one place where it stands and those behind it. -/
theorem pieces_singleton_append (c : Char) (s t : Text) :
    pieces [c] (s ++ c :: t) = pieces [c] s ++ pieces [c] t := by
  fun_induction pieces [c] s with
  | case1 => contradiction
  | case2 s _ hcut =>
    have hs : c ∉ s := by
      intro hm
      obtain ⟨u, v, rfl, hu⟩ := List.eq_append_cons_of_mem hm
      rw [cut_singleton_append hu] at hcut
      cases hcut
    exact pieces_of_cut_eq_some (List.cons_ne_nil _ _) (cut_singleton_append hs t)
  | case3 s _ a b hcut _ ih =>
    have hsplit : s ++ c :: t = a ++ c :: (b ++ c :: t) := by
      rw [← cut_eq_some hcut]
      simp
    rw [hsplit, pieces_of_cut_eq_some (List.cons_ne_nil _ _)
      (cut_singleton_append (not_mem_of_cut_singleton hcut) _), ih, List.cons_append]

/-! ## Cuts at the last place -/

theorem not_infix_of_cutLast {s t : Text} (hs : s ≠ []) (h : cutLast s t = none) : ¬ s <:+: t := by
  induction t with
  | nil => exact fun hi => hs (List.infix_nil.mp hi)
  | cons c r ih =>
    rw [cutLast] at h
    split at h
    · cases h
    · next hr =>
      split at h
      · cases h
      · next hp =>
        rw [List.infix_cons_iff, not_or]
        exact ⟨fun hi => hp (List.isPrefixOf_iff_prefix.mpr hi), ih hr⟩

/-- **The cut at the last place**: there is no other place further behind. -/
theorem length_le_of_cutLast {s t a b u v : Text} (hs : s ≠ []) (h : cutLast s t = some (a, b))
    (ht : t = u ++ s ++ v) : u.length ≤ a.length := by
  induction t generalizing a u with
  | nil => cases h
  | cons c r ih =>
    rw [cutLast] at h
    cases u with
    | nil => exact Nat.zero_le _
    | cons d u =>
      obtain ⟨rfl, hr⟩ := List.cons.inj ht
      split at h
      · next hc =>
        cases h
        exact Nat.succ_le_succ (ih hc hr)
      · next hc => exact absurd ⟨u, v, hr.symm⟩ (not_infix_of_cutLast hs hc)

end Text

end GoCompletion
