import GoCompletion.Fuzzy.Score
import Mathlib.Algebra.Order.Field.Rat

/-!
# What scores say

The length that the rows work out is that of a longest common subsequence (`commonLength_isGreatest`), so that no
similarity is greater than one, and that of a text with itself is one. A text is compared with every stretch
of a longer one that is as long as itself, which makes **one the score of whatever is contained**
(`score_eq_one_of_isInfix`) and the greatest score there is (`score_le_one`).

Letters and digits of ASCII stay what they are when texts are normalised, but for their case, and stay
together (`map_toLower_infix_normalise`). So a key that contains a query, whatever the case, has the greatest
score (`score_of_contains`).
-/

namespace GoCompletion

/-! ## Longest common subsequences -/

theorem subsequenceStep_ne_nil (c : Char) (t : Text) (row : List Nat) : subsequenceStep c t row ≠ [] := by
  unfold subsequenceStep
  split <;> exact List.cons_ne_nil _ _

/-- A row begins with the length for the whole text. -/
theorem exists_subsequenceRow (s t : Text) : ∃ row, subsequenceRow s t = commonLength s t :: row := by
  have hne : subsequenceRow s t ≠ [] := by
    cases s with
    | nil => exact List.cons_ne_nil _ _
    | cons c s => exact subsequenceStep_ne_nil c t _
  obtain ⟨n, row, hrow⟩ := List.exists_cons_of_ne_nil hne
  refine ⟨row, ?_⟩
  rw [commonLength, hrow, List.headD_cons]

/-- The row for a text with one character more in front is that of the text with one length more in front. -/
theorem subsequenceRow_cons_right (s t : Text) (d : Char) :
    subsequenceRow s (d :: t) = commonLength s (d :: t) :: subsequenceRow s t := by
  induction s with
  | nil => rfl
  | cons c s ih =>
    obtain ⟨row, hrow⟩ := exists_subsequenceRow s t
    have hstep : subsequenceRow (c :: s) (d :: t) = subsequenceStep c (d :: t) (subsequenceRow s (d :: t)) :=
      rfl
    have htail : subsequenceRow (c :: s) t = subsequenceStep c t (subsequenceRow s t) := rfl
    rw [commonLength, hstep, htail, ih, hrow]
    rfl

theorem commonLength_nil_right (s : Text) : commonLength s [] = 0 := by
  cases s <;> rfl

/-- The recursion of the length over both texts. -/
theorem commonLength_cons_cons (c d : Char) (s t : Text) :
    commonLength (c :: s) (d :: t) =
      if c = d then commonLength s t + 1 else max (commonLength s (d :: t)) (commonLength (c :: s) t) := by
  obtain ⟨row, hrow⟩ := exists_subsequenceRow s t
  have hstep : subsequenceRow (c :: s) (d :: t) = subsequenceStep c (d :: t) (subsequenceRow s (d :: t)) := rfl
  have htail : (subsequenceStep c t (commonLength s t :: row)).headD 0 = commonLength (c :: s) t := by
    rw [← hrow]
    rfl
  rw [commonLength, hstep, subsequenceRow_cons_right, hrow, subsequenceStep, htail, List.headD_cons]

/-- **The length is that of a longest common subsequence**: there is one that long, and none is longer. -/
theorem commonLength_isGreatest (s t : Text) :
    (∃ w : Text, List.Sublist w s ∧ List.Sublist w t ∧ w.length = commonLength s t) ∧
      ∀ w : Text, List.Sublist w s → List.Sublist w t → w.length ≤ commonLength s t := by
  induction s generalizing t with
  | nil =>
    refine ⟨⟨[], .refl _, List.nil_sublist _, rfl⟩, fun w hs _ => ?_⟩
    rw [List.sublist_nil.mp hs]
    exact Nat.zero_le _
  | cons c s ihs =>
    induction t with
    | nil =>
      refine ⟨⟨[], List.nil_sublist _, .refl _, (commonLength_nil_right _).symm⟩, fun w _ ht => ?_⟩
      rw [List.sublist_nil.mp ht]
      exact Nat.zero_le _
    | cons d t iht =>
      rw [commonLength_cons_cons]
      by_cases hcd : c = d
      · -- the two characters are a pair, and a common subsequence loses no more than one without them
        subst hcd
        obtain ⟨⟨w, hws, hwt, hw⟩, hgreatest⟩ := ihs t
        rw [if_pos rfl]
        refine ⟨⟨c :: w, hws.cons_cons c, hwt.cons_cons c, by rw [List.length_cons, hw]⟩, fun v hvs hvt => ?_⟩
        have htail := hgreatest v.tail hvs.tail hvt.tail
        rw [List.length_tail] at htail
        omega
      · obtain ⟨⟨u, hus, hut, hu⟩, hleft⟩ := ihs (d :: t)
        obtain ⟨⟨w, hws, hwt, hw⟩, hright⟩ := iht
        rw [if_neg hcd]
        constructor
        · rcases Nat.le_total (commonLength s (d :: t)) (commonLength (c :: s) t) with hle | hle
          · exact ⟨w, hws, hwt.cons d, by rw [Nat.max_eq_right hle, hw]⟩
          · exact ⟨u, hus.cons c, hut, by rw [Nat.max_eq_left hle, hu]⟩
        · -- a common subsequence does without one of the two characters
          intro v hvs hvt
          by_cases hv : List.Sublist v s
          · exact Nat.le_trans (hleft v hv hvt) (Nat.le_max_left _ _)
          · refine Nat.le_trans (hright v hvs ?_) (Nat.le_max_right _ _)
            cases hvs with
            | cons _ h => exact absurd h hv
            | cons_cons _ _ =>
              cases hvt with
              | cons _ h => exact h
              | cons_cons _ _ => exact absurd rfl hcd

theorem commonLength_le_left (s t : Text) : commonLength s t ≤ s.length := by
  obtain ⟨⟨w, hws, -, hw⟩, -⟩ := commonLength_isGreatest s t
  exact hw ▸ hws.length_le

theorem commonLength_le_right (s t : Text) : commonLength s t ≤ t.length := by
  obtain ⟨⟨w, -, hwt, hw⟩, -⟩ := commonLength_isGreatest s t
  exact hw ▸ hwt.length_le

theorem commonLength_self (s : Text) : commonLength s s = s.length :=
  Nat.le_antisymm (commonLength_le_left s s) ((commonLength_isGreatest s s).2 s (.refl s) (.refl s))

/-! ## Similarity -/

theorem similarity_le_one (s t : Text) : similarity s t ≤ 1 := by
  unfold similarity
  split
  · exact le_refl 1
  · refine div_le_one_of_le₀ (Nat.cast_le.mpr ?_) (Nat.cast_nonneg _)
    have hleft := commonLength_le_left s t
    have hright := commonLength_le_right s t
    omega

theorem similarity_self (s : Text) : similarity s s = 1 := by
  unfold similarity
  split
  · rfl
  · next hlength =>
    rw [commonLength_self, Nat.two_mul]
    exact div_self (Nat.cast_ne_zero.mpr hlength)

/-! ## Windows -/

/-- A text is compared with every stretch that is as long as itself. -/
theorem mem_windows_of_isInfix {s t : Text} (h : s <:+: t) : s ∈ windows s.length t := by
  obtain ⟨a, b, rfl⟩ := h
  refine List.mem_append_left _ (List.mem_append_right _ (List.mem_map.mpr ⟨a.length, ?_, ?_⟩))
  · rw [List.mem_range]
    simp only [List.length_append]
    omega
  · rw [List.append_assoc, List.drop_left, List.take_left]

/-- The greatest of some scores is one that is among them, or the one that it begins with. -/
theorem foldl_greater (f : Text → Rat) (ws : List Text) (best : Rat) :
    let top := ws.foldl (fun best w => greater best (f w)) best
    (top = best ∨ ∃ w ∈ ws, top = f w) ∧ best ≤ top ∧ ∀ w ∈ ws, f w ≤ top := by
  induction ws generalizing best with
  | nil => exact ⟨.inl rfl, le_refl best, nofun⟩
  | cons w ws ih =>
    obtain ⟨hmem, hbest, hall⟩ := ih (greater best (f w))
    have hgreater : (greater best (f w) = best ∨ greater best (f w) = f w) ∧ best ≤ greater best (f w) ∧
        f w ≤ greater best (f w) := by
      unfold greater
      split
      · next hle => exact ⟨.inr rfl, hle, le_refl _⟩
      · next hle => exact ⟨.inl rfl, le_refl _, le_of_not_ge hle⟩
    obtain ⟨hone, hleft, hright⟩ := hgreater
    refine ⟨?_, hleft.trans hbest, List.forall_mem_cons.mpr ⟨hright.trans hbest, hall⟩⟩
    obtain htop | ⟨v, hv, htop⟩ := hmem
    · obtain h | h := hone
      · exact .inl (htop.trans h)
      · exact .inr ⟨w, List.mem_cons_self, htop.trans h⟩
    · exact .inr ⟨v, List.mem_cons_of_mem w hv, htop⟩

theorem bestWindow_le_one (s t : Text) : bestWindow s t ≤ 1 := by
  obtain ⟨h | ⟨w, -, h⟩, -, -⟩ := foldl_greater (similarity s) (windows s.length t) 0
  · exact h.trans_le zero_le_one
  · exact h.trans_le (similarity_le_one s w)

/-- What is contained is found. -/
theorem bestWindow_of_isInfix {s t : Text} (h : s <:+: t) : bestWindow s t = 1 := by
  obtain ⟨-, -, hall⟩ := foldl_greater (similarity s) (windows s.length t) 0
  refine le_antisymm (bestWindow_le_one s t) ?_
  rw [← similarity_self s]
  exact hall s (mem_windows_of_isInfix h)

/-! ## Scores -/

theorem greater_le {a b c : Rat} (ha : a ≤ c) (hb : b ≤ c) : greater a b ≤ c := by
  unfold greater
  split
  · exact hb
  · exact ha

/-- **No score is greater than one.** -/
theorem score_le_one (query key : Text) : score query key ≤ 1 := by
  unfold score
  dsimp only
  split_ifs
  · exact le_refl 1
  · exact zero_le_one
  · exact bestWindow_le_one _ _
  · exact bestWindow_le_one _ _
  · exact greater_le (bestWindow_le_one _ _) (bestWindow_le_one _ _)

/-- **What contains a query has the score one.** -/
theorem score_eq_one_of_isInfix {query key : Text} (hne : normalise query ≠ [])
    (h : normalise query <:+: normalise key) : score query key = 1 := by
  have hkey : normalise key ≠ [] := by
    intro hkey
    rw [hkey] at h
    exact hne (List.infix_nil.mp h)
  have hle := h.length_le
  unfold score
  dsimp only
  rw [List.isEmpty_eq_false_iff.mpr hne, List.isEmpty_eq_false_iff.mpr hkey, Bool.false_and, Bool.false_or,
    if_neg Bool.false_ne_true, if_neg Bool.false_ne_true]
  split
  · exact bestWindow_of_isInfix h
  · next hlt =>
    -- of two texts that are equally long, one contains the other only if they are the same
    have heq : normalise query = normalise key := h.eq_of_length (by omega)
    rw [if_neg (by omega), heq, bestWindow_of_isInfix (List.infix_refl _), greater, if_pos (le_refl 1)]

/-! ## Normalised texts -/

/-- A stretch that has no character of a kind is left when such characters are dropped in front of it. -/
theorem infix_dropWhile {p : Char → Bool} {s t : Text} (hs : ∀ c ∈ s, p c = false) (h : s <:+: t) :
    s <:+: t.dropWhile p := by
  obtain ⟨a, b, rfl⟩ := h
  cases s with
  | nil => exact List.nil_infix
  | cons c s =>
    have hkept : (c :: s ++ b).dropWhile p = c :: s ++ b :=
      List.dropWhile_cons_of_neg (by simp [hs c List.mem_cons_self])
    rw [List.append_assoc, List.dropWhile_append, hkept]
    split
    · exact List.infix_append' [] (c :: s) b
    · exact ⟨a.dropWhile p, b, List.append_assoc _ _ _⟩

theorem length_trimSpaces_le (t : Text) : (trimSpaces t).length ≤ t.length := by
  have hfront := (List.dropWhile_sublist (fun c => c == ' ') (l := t)).length_le
  have hback := (List.dropWhile_sublist (fun c => c == ' ')
    (l := (t.dropWhile (· == ' ')).reverse)).length_le
  rw [List.length_reverse] at hback
  rw [trimSpaces, List.length_reverse]
  exact hback.trans hfront

/-- Spaces at the two ends are taken off, and nothing that has no space in it. -/
theorem infix_trimSpaces {s t : Text} (hs : ' ' ∉ s) (h : s <:+: t) : s <:+: trimSpaces t := by
  have hspace : ∀ {u : Text}, ' ' ∉ u → ∀ c ∈ u, (c == ' ') = false := fun hu c hc =>
    beq_eq_false_iff_ne.mpr fun he => hu (he ▸ hc)
  have hfront := infix_dropWhile (hspace hs) h
  have hback : s.reverse <:+: ((t.dropWhile (· == ' ')).reverse.dropWhile (· == ' ')) :=
    infix_dropWhile (hspace (mt List.mem_reverse.mp hs)) (List.reverse_infix.mpr hfront)
  rw [← List.reverse_reverse s, trimSpaces]
  exact List.reverse_infix.mpr hback

/-- The letters and digits of ASCII have small numbers. -/
theorem toNat_lt_of_isAlphanum {c : Char} (h : c.isAlphanum = true) : c.toNat < 128 := by
  have hle : ∀ {d : Char}, c ≤ d → d.toNat < 128 → c.toNat < 128 := fun hc hd => Nat.lt_of_le_of_lt hc hd
  obtain halpha | hdigit := Bool.or_eq_true_iff.mp h
  · obtain hupper | hlower := Bool.or_eq_true_iff.mp halpha
    · exact hle (of_decide_eq_true hupper : _ ∧ c ≤ 'Z').2 (by decide)
    · exact hle (of_decide_eq_true (Bool.and_eq_true_iff.mp hlower).2 : c ≤ 'z') (by decide)
  · exact hle (of_decide_eq_true (Bool.and_eq_true_iff.mp hdigit).2 : c ≤ '9') (by decide)

/-- A letter or digit of ASCII stays one when texts are normalised, in lower case. -/
theorem normalised_of_isAlphanum {c : Char} (h : c.isAlphanum = true) :
    isAlphanumeric c = true ∧ lowercase c = c.toLower ∧ c ≠ ' ' := by
  have hascii : ∀ n < 128, (Char.ofNat n).isAlphanum = true →
      isAlphanumeric (Char.ofNat n) = true ∧ lowercase (Char.ofNat n) = (Char.ofNat n).toLower ∧
        Char.ofNat n ≠ ' ' := by decide +kernel
  have hc := hascii c.toNat (toNat_lt_of_isAlphanum h)
  rw [Char.ofNat_toNat] at hc
  exact hc h

/-- Lower case makes letters and digits of ASCII of these, and of nothing else. -/
theorem isAlphanum_toLower_iff {c : Char} : c.toLower.isAlphanum = true ↔ c.isAlphanum = true := by
  constructor
  · intro h
    unfold Char.toLower at h
    split at h
    · next hupper =>
      have hcapital : c.isUpper = true := decide_eq_true hupper
      have halpha : c.isAlpha = true := Bool.or_eq_true_iff.mpr (.inl hcapital)
      exact Bool.or_eq_true_iff.mpr (.inl halpha)
    · exact h
  · intro h
    have hascii : ∀ n < 128, (Char.ofNat n).isAlphanum = true →
        (Char.ofNat n).toLower.isAlphanum = true := by decide +kernel
    have hc := hascii c.toNat (toNat_lt_of_isAlphanum h)
    rw [Char.ofNat_toNat] at hc
    exact hc h

/-- A stretch of letters and digits of ASCII stands in the normalised text in lower case. -/
theorem map_toLower_infix_normalise {s t : Text} (hs : ∀ c ∈ s, c.isAlphanum = true) (h : s <:+: t) :
    s.map Char.toLower <:+: normalise t := by
  have hsame : s.map (fun c => if isAlphanumeric c then c else ' ') = s :=
    (List.map_congr_left fun c hc => if_pos (normalised_of_isAlphanum (hs c hc)).1).trans (List.map_id s)
  have hlower : s.map lowercase = s.map Char.toLower :=
    List.map_congr_left fun c hc => (normalised_of_isAlphanum (hs c hc)).2.1
  have hspace : ' ' ∉ s := fun hm => (normalised_of_isAlphanum (hs _ hm)).2.2 rfl
  have htrimmed := infix_trimSpaces hspace (hsame ▸ h.map fun c => if isAlphanumeric c then c else ' ')
  rw [← hlower]
  exact htrimmed.map lowercase

/-- A key contains a query, whatever the case of the letters of ASCII. -/
def ContainsIgnoringCase (key query : Text) : Prop := query.map Char.toLower <:+: key.map Char.toLower

instance (key query : Text) : Decidable (ContainsIgnoringCase key query) :=
  inferInstanceAs (Decidable (_ <:+: _))

/-- **A key that contains a query has the score one**, if the query is a word of letters and digits of ASCII. -/
theorem score_of_contains {key query : Text} (hne : query ≠ []) (hquery : ∀ c ∈ query, c.isAlphanum = true)
    (h : ContainsIgnoringCase key query) : score query key = 1 := by
  obtain ⟨found, hfound, heq⟩ := List.infix_map_iff.mp h
  have hchars : ∀ c ∈ found, c.isAlphanum = true := by
    intro c hc
    have hm : c.toLower ∈ query.map Char.toLower := heq ▸ List.mem_map_of_mem hc
    obtain ⟨d, hd, hlower⟩ := List.mem_map.mp hm
    rw [← isAlphanum_toLower_iff, ← hlower, isAlphanum_toLower_iff]
    exact hquery d hd
  have hnormalised : normalise query = query.map Char.toLower := by
    have hwithin := map_toLower_infix_normalise hquery (List.infix_refl query)
    refine (hwithin.eq_of_length_le ?_).symm
    rw [normalise, List.length_map, List.length_map]
    exact (length_trimSpaces_le _).trans (List.length_map _).le
  refine score_eq_one_of_isInfix ?_ ?_
  · rw [hnormalised]
    exact mt List.map_eq_nil_iff.mp hne
  · rw [hnormalised, heq]
    exact map_toLower_infix_normalise hchars hfound

end GoCompletion
