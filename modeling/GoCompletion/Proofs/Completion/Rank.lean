import GoCompletion.Completion.Item
import Mathlib.Algebra.Group.Nat.Defs
import Mathlib.Data.List.Basic

/-!
# Ranks in order

Editors sort items by the texts of their ranks. Texts of equally many digits are in the order of their numbers
(`Text.padded_lt_padded`), so items keep the order of their suggestions as long as `rankWidth` digits are enough
for all ranks, **and no longer**: the first rank with one more digit begins with a one and comes before the last
one without (`pairwise_sortText_iff`).
-/

namespace GoCompletion

namespace Text

/-! ## Filled up numbers -/

/-- The last digit of a number stands behind the others. -/
theorem padded_succ (w n : Nat) : padded (w + 2) n = padded (w + 1) (n / 10) ++ [(n % 10).digitChar] := by
  by_cases hn : n < 10
  · have hlast : n % 10 = n := Nat.mod_eq_of_lt hn
    have hfront : n / 10 = 0 := Nat.div_eq_of_lt hn
    have hzero : padded (w + 1) 0 = List.replicate (w + 1) '0' := List.replicate_succ'.symm
    rw [hlast, hfront, hzero, padded, ofNat, Nat.toDigits_of_lt_base hn]
    rfl
  · have hfill : w + 2 - ((ofNat (n / 10)).length + 1) = w + 1 - (ofNat (n / 10)).length := by omega
    have hdigits : ofNat n = ofNat (n / 10) ++ [(n % 10).digitChar] :=
      Nat.toDigits_of_base_le (by decide) (by omega)
    rw [padded, padded, hdigits, List.length_append, List.length_singleton, hfill, List.append_assoc]

/-- A number that is not too long is filled up to the length that is asked for. -/
theorem length_padded {w n : Nat} (h : n < 10 ^ (w + 1)) : (padded (w + 1) n).length = w + 1 := by
  have hle : (ofNat n).length ≤ w + 1 := (Nat.length_toDigits_le_iff (by decide) (by omega)).mpr h
  rw [padded, List.length_append, List.length_replicate, Nat.sub_add_cancel hle]

/-- Of texts of one length, the order does not depend on what stands behind them. -/
theorem append_lt_append {s t : Text} (h : s < t) (hlength : s.length = t.length) (u v : Text) :
    s ++ u < t ++ v := by
  induction s generalizing t with
  | nil =>
    rw [List.length_eq_zero_iff.mp hlength.symm] at h
    exact absurd h (List.lt_irrefl [])
  | cons c s ih =>
    cases t with
    | nil => cases hlength
    | cons d t =>
      refine List.cons_lt_cons_iff.mpr ((List.cons_lt_cons_iff.mp h).imp id fun ⟨heq, hlt⟩ => ⟨heq, ?_⟩)
      exact ih hlt (Nat.succ.inj hlength)

theorem digitChar_lt_digitChar {a b : Nat} (hab : a < b) (hb : b < 10) : a.digitChar < b.digitChar := by
  have hdigits : ∀ b < 10, ∀ a < b, a.digitChar < b.digitChar := by decide
  exact hdigits b hb a hab

/-- **Numbers that are filled up to one length are in order as texts.** -/
theorem padded_lt_padded {w a b : Nat} (hab : a < b) (hb : b < 10 ^ (w + 1)) :
    padded (w + 1) a < padded (w + 1) b := by
  induction w generalizing a b with
  | zero =>
    have hdigit : ∀ {n : Nat}, n < 10 → padded 1 n = [n.digitChar] := by
      intro n hn
      rw [padded, ofNat, Nat.toDigits_of_lt_base hn]
      rfl
    rw [hdigit (by omega), hdigit (by omega)]
    exact List.cons_lt_cons_iff.mpr (.inl (digitChar_lt_digitChar hab (by omega)))
  | succ w ih =>
    have hfront : b / 10 < 10 ^ (w + 1) := Nat.div_lt_of_lt_mul (by rw [← Nat.pow_succ']; exact hb)
    rw [padded_succ, padded_succ]
    -- the digits in front decide, and the last one if they are the same
    obtain hlt | heq : a / 10 < b / 10 ∨ a / 10 = b / 10 := by omega
    · exact append_lt_append (ih hlt hfront)
        ((length_padded (by omega)).trans (length_padded hfront).symm) _ _
    · rw [heq]
      exact List.append_left_lt
        (List.cons_lt_cons_iff.mpr (.inl (digitChar_lt_digitChar (by omega) (by omega))))

end Text

namespace CompletionItem

/-- The text that an item is sorted by is that of its rank. -/
theorem sortText_getElem (p : Position) (ss : List Suggestion) {i : Nat}
    (h : i < ((ofSuggestions p ss).map (·.sortText)).length) :
    ((ofSuggestions p ss).map (·.sortText))[i] = Text.padded rankWidth i := by
  rw [List.getElem_map]
  simp only [ofSuggestions, List.getElem_mapIdx]
  rfl

theorem length_sortTexts (p : Position) (ss : List Suggestion) :
    ((ofSuggestions p ss).map (·.sortText)).length = ss.length := by
  rw [List.length_map, ofSuggestions, List.length_mapIdx]

/-- The rank of a hundred thousand comes before the one in front of it. -/
theorem not_pairwise_sortText (p : Position) {ss : List Suggestion} (h : 100000 < ss.length) :
    ¬ ((ofSuggestions p ss).map (·.sortText)).Pairwise (· < ·) := by
  intro hsorted
  have hlength : 100000 < ((ofSuggestions p ss).map (·.sortText)).length := by
    rwa [length_sortTexts]
  have hlt := List.pairwise_iff_getElem.mp hsorted 99999 100000 (by omega) hlength (by decide)
  rw [sortText_getElem, sortText_getElem] at hlt
  exact absurd hlt (by decide)

/-- **Sorted by their texts, items are in the order of their suggestions exactly if these are no more than a
hundred thousand.** -/
theorem pairwise_sortText_iff (p : Position) (ss : List Suggestion) :
    ((ofSuggestions p ss).map (·.sortText)).Pairwise (· < ·) ↔ ss.length ≤ 100000 := by
  constructor
  · intro hsorted
    by_contra hlong
    exact not_pairwise_sortText p (Nat.lt_of_not_le hlong) hsorted
  · intro hshort
    rw [List.pairwise_iff_getElem]
    intro i j hi hj hij
    rw [length_sortTexts] at hj
    rw [sortText_getElem, sortText_getElem]
    exact Text.padded_lt_padded hij (by omega)

/-- Of a hundred thousand and one suggestions, the last one is sorted in front of the one before it. -/
theorem sortText_sixDigits :
    ¬ ((ofSuggestions ⟨0, 0⟩ (List.replicate 100001 {})).map (·.sortText)).Pairwise (· < ·) := by
  refine not_pairwise_sortText _ ?_
  rw [List.length_replicate]
  decide

end CompletionItem

end GoCompletion
