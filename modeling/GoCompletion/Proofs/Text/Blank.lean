import GoCompletion.Text.Blank
import Mathlib.Data.List.Chain
import Mathlib.Data.List.TakeWhile

/-!
# Blank characters, stripped and left out

Two ways to disregard the blank characters of a text:

* `withoutBlanks` leaves all of them out. Stripping cannot be seen through it (`withoutBlanks_strip`),
  so it is the measure of what a reader that strips keeps of a text.
* A text is **trimmed** when stripping leaves it as it is; that is so exactly when neither of its ends
  is blank (`strip_eq_self_iff`).

A **tidy** text has blanks between other characters only, one at a time, and never in front of a comma.
Cut at a comma and a blank, it has nothing to strip on either side (`Tidy.cut`).
-/

namespace GoCompletion

namespace Text

/-! ## Leaving blanks out -/

/-- The text without any of its blank characters. -/
def withoutBlanks (t : Text) : Text := t.filter (!GoCompletion.isBlank ·)

@[simp] theorem withoutBlanks_nil : withoutBlanks [] = [] := rfl

@[simp] theorem withoutBlanks_append (s t : Text) :
    withoutBlanks (s ++ t) = withoutBlanks s ++ withoutBlanks t := List.filter_append ..

/-- Nothing is left exactly of blank texts. -/
theorem withoutBlanks_eq_nil_iff {t : Text} : withoutBlanks t = [] ↔ isBlank t = true := by
  simp [withoutBlanks, isBlank, List.filter_eq_nil_iff]

theorem withoutBlanks_stripStart (t : Text) : withoutBlanks (stripStart t) = withoutBlanks t := by
  induction t with
  | nil => rfl
  | cons c r ih =>
    by_cases hc : GoCompletion.isBlank c = true
    · rw [stripStart, List.dropWhile_cons_of_pos hc, withoutBlanks, withoutBlanks,
        List.filter_cons_of_neg (by simpa using hc)]
      exact ih
    · rw [stripStart, List.dropWhile_cons_of_neg hc]

theorem withoutBlanks_stripEnd (t : Text) : withoutBlanks (stripEnd t) = withoutBlanks t := by
  have h := withoutBlanks_stripStart t.reverse
  simp only [withoutBlanks, stripStart, List.filter_reverse] at h
  rw [withoutBlanks, stripEnd, List.filter_reverse, h, List.reverse_reverse, withoutBlanks]

/-- **Stripping takes nothing but blanks.** -/
theorem withoutBlanks_strip (t : Text) : withoutBlanks (strip t) = withoutBlanks t := by
  rw [strip, withoutBlanks_stripEnd, withoutBlanks_stripStart]

/-! ## Trimmed texts -/

theorem stripStart_eq_self_iff {t : Text} :
    stripStart t = t ↔ ∀ c ∈ t.head?, GoCompletion.isBlank c = false := by
  cases t with
  | nil => simp [stripStart]
  | cons c r => simp [stripStart, List.dropWhile_eq_self_iff]

theorem stripEnd_eq_self_iff {t : Text} :
    stripEnd t = t ↔ ∀ c ∈ t.getLast?, GoCompletion.isBlank c = false := by
  rw [← List.head?_reverse, ← stripStart_eq_self_iff, stripEnd, stripStart]
  constructor
  · intro h
    rw [← List.reverse_inj, List.reverse_reverse, h]
  · intro h
    rw [h, List.reverse_reverse]

/-- Stripping leaves alone exactly the texts that have no blank at either end. -/
theorem strip_eq_self_iff {t : Text} :
    strip t = t ↔ (∀ c ∈ t.head?, GoCompletion.isBlank c = false) ∧
      ∀ c ∈ t.getLast?, GoCompletion.isBlank c = false := by
  constructor
  · intro h
    have hs : stripStart t = t := by
      refine (List.dropWhile_sublist _).eq_of_length_le ?_
      calc t.length = (strip t).length := by rw [h]
        _ ≤ (stripStart t).length := by
          have := (List.dropWhile_sublist GoCompletion.isBlank (l := (stripStart t).reverse)).length_le
          simpa [strip, stripEnd] using this
    refine ⟨stripStart_eq_self_iff.mp hs, stripEnd_eq_self_iff.mp ?_⟩
    rw [strip, hs] at h
    exact h
  · rintro ⟨hs, he⟩
    rw [strip, stripStart_eq_self_iff.mpr hs, stripEnd_eq_self_iff.mpr he]

theorem strip_prefix_stripStart (t : Text) : strip t <+: stripStart t := by
  rw [← List.reverse_suffix, strip, stripEnd, List.reverse_reverse]
  exact List.dropWhile_suffix _

/-- **Stripping twice is stripping once.** -/
theorem strip_strip (t : Text) : strip (strip t) = strip t := by
  have hfirst : ∀ s : Text, ∀ c ∈ (stripStart s).head?, GoCompletion.isBlank c = false := by
    intro s c hc
    have hnot := List.head?_dropWhile_not GoCompletion.isBlank s
    rwa [show (s.dropWhile GoCompletion.isBlank).head? = some c from hc] at hnot
  refine strip_eq_self_iff.mpr ⟨fun c hc => hfirst t c ?_, fun c hc => hfirst (stripStart t).reverse c ?_⟩
  · obtain ⟨r, hr⟩ := strip_prefix_stripStart t
    rw [← hr, List.head?_append, Option.mem_def.mp hc, Option.some_or]
    rfl
  · rwa [strip, stripEnd, List.getLast?_reverse] at hc

/-- A trimmed text stays so behind one that is not empty and does not begin with a blank. -/
theorem strip_append_eq_self {s t : Text} (hs : s ≠ [])
    (hb : ∀ c ∈ s.head?, GoCompletion.isBlank c = false) (hne : t ≠ []) (ht : strip t = t) :
    strip (s ++ t) = s ++ t := by
  refine strip_eq_self_iff.mpr ⟨fun c hc => hb c ?_, fun c hc => (strip_eq_self_iff.mp ht).2 c ?_⟩
  · rwa [List.head?_append_of_ne_nil _ hs] at hc
  · rwa [List.getLast?_append_of_ne_nil _ hne] at hc

/-- A trimmed text that is not empty has a character that is not blank. -/
theorem isBlank_eq_false_of_strip {t : Text} (h : strip t = t) (hne : t ≠ []) :
    isBlank t = false := by
  cases t with
  | nil => exact absurd rfl hne
  | cons c r =>
    have hc := (strip_eq_self_iff.mp h).1 c rfl
    simp [isBlank, hc]

/-! ## Tidy texts -/

/-- Blanks stand between other characters only, one at a time, and never in front of a comma. -/
structure Tidy (t : Text) : Prop where
  /-- the first character is not blank -/
  start : ∀ c ∈ t.head?, GoCompletion.isBlank c = false
  /-- the last character is not blank -/
  stop : ∀ c ∈ t.getLast?, GoCompletion.isBlank c = false
  /-- behind a blank there is neither a comma nor another blank -/
  inner : t.IsChain fun c d => GoCompletion.isBlank c = true → d ≠ ',' ∧ GoCompletion.isBlank d = false

instance (t : Text) : Decidable t.Tidy :=
  -- only the characters at the ends are looked at, not all there are
  decidable_of_iff
    (t.head?.all (fun c => !GoCompletion.isBlank c) = true ∧
      t.getLast?.all (fun c => !GoCompletion.isBlank c) = true ∧
      t.IsChain fun c d => GoCompletion.isBlank c = true → d ≠ ',' ∧ GoCompletion.isBlank d = false) <| by
    simp only [Option.all_eq_true, Bool.not_eq_true']
    exact ⟨fun h => ⟨h.1, h.2.1, h.2.2⟩, fun h => ⟨h.start, h.stop, h.inner⟩⟩

/-- Stripping leaves a tidy text alone. -/
theorem Tidy.strip_eq {t : Text} (h : t.Tidy) : strip t = t := strip_eq_self_iff.mpr ⟨h.start, h.stop⟩

/-- A tidy text is blank only if it is empty. -/
theorem Tidy.eq_nil_of_isBlank {t : Text} (h : t.Tidy) (hb : isBlank t = true) : t = [] := by
  by_contra hne
  rw [isBlank_eq_false_of_strip h.strip_eq hne] at hb
  cases hb

/-- **A tidy text cut at a comma and a blank**: in front of it nothing can be stripped, and behind it the
text is tidy again. -/
theorem Tidy.cut {a b : Text} (h : Tidy (a ++ [',', ' '] ++ b)) : strip a = a ∧ b.Tidy := by
  have hi := h.inner
  rw [List.isChain_append, List.isChain_append] at hi
  obtain ⟨⟨-, -, hcomma⟩, hb, hblank⟩ := hi
  refine ⟨strip_eq_self_iff.mpr ⟨fun c hc => h.start c ?_, fun c hc => ?_⟩,
    fun c hc => ?_, fun c hc => h.stop c ?_, hb⟩
  · rw [List.append_assoc, List.head?_append, Option.mem_def.mp hc]
    rfl
  · -- a blank at the end of `a` would stand in front of the comma
    rw [← Bool.not_eq_true]
    exact fun hbl => (hcomma c hc ',' rfl hbl).1 rfl
  · -- a blank at the start of `b` would stand behind another one
    exact (hblank ' ' (by simp) c hc (by decide)).2
  · rw [List.getLast?_append, Option.mem_def.mp hc]
    rfl

end Text

end GoCompletion
