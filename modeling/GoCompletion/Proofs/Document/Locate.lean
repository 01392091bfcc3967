import GoCompletion.Document.Basic

/-!
# Where positions lie

The index of a position lies in the text, whatever the lines end with and however far to the right the
position is: on a line, no more characters are counted than there are. Behind the last line the units of
that line are counted in place of its characters. **A position lies behind the end of the text exactly if
it is behind the last line, and a character of that line has two units** (`Document.locate_le_length_iff`).
-/

namespace GoCompletion

/-- A text has as many units as characters only if each character is a single unit. -/
theorem Utf16.units_le_length_iff (t : Text) :
    units t ≤ t.length ↔ ∀ c ∈ t, c.toNat < 0x10000 := by
  induction t with
  | nil => simp [units]
  | cons c r ih =>
    have hunits : units (c :: r) = charUnits c + units r := rfl
    have hr := length_le_units r
    rw [List.forall_mem_cons, ← ih, hunits, List.length_cons, charUnits]
    split <;> omega

theorem Utf16.charsFor_le_length (n : Nat) (t : Text) : charsFor n t ≤ t.length := by
  induction t generalizing n with
  | nil => exact Nat.le_refl 0
  | cons c r ih =>
    rw [charsFor]
    split
    · exact Nat.zero_le _
    · exact Nat.succ_le_succ (ih _)

namespace Document

/-! ## Lines and their lengths -/

/-- A text is what stands above one of its lines, that line, and what stands below. -/
theorem eq_above_append {t : Text} {i : Nat} (h : i < t.lines.length) :
    t = (t.lines.take i).flatten ++ (t.lines[i] ++ (t.lines.drop (i + 1)).flatten) := by
  have hlines : t.lines = t.lines.take i ++ t.lines[i] :: t.lines.drop (i + 1) := by
    rw [← List.drop_eq_getElem_cons h, List.take_append_drop]
  calc t = t.lines.flatten := (Text.flatten_lines t).symm
    _ = (t.lines.take i ++ t.lines[i] :: t.lines.drop (i + 1)).flatten := congrArg List.flatten hlines
    _ = _ := by rw [List.flatten_append, List.flatten_cons]

theorem lengthOf_append (ls ms : List Text) : lengthOf (ls ++ ms) = lengthOf ls + lengthOf ms :=
  Text.total_append List.length ls ms

/-- Lines are as long as they are together. -/
theorem lengthOf_eq_length_flatten (ls : List Text) : lengthOf ls = ls.flatten.length := by
  induction ls with
  | nil => rfl
  | cons l ls ih =>
    rw [List.flatten_cons, List.length_append, ← ih]
    rfl

/-- A text is as long as its lines. -/
theorem lengthOf_lines (t : Text) : lengthOf t.lines = t.length := by
  rw [lengthOf_eq_length_flatten, Text.flatten_lines]

/-- The last line is behind all the others. -/
theorem lengthOf_dropLast_lines (t : Text) :
    lengthOf t.lines.dropLast + (t.lines.getLastD []).length = t.length := by
  rw [← lengthOf_lines t]
  rcases List.eq_nil_or_concat t.lines with hnil | ⟨ls, l, hlast⟩
  · rw [hnil]
    rfl
  · rw [hlast, List.concat_eq_append, lengthOf_append, List.dropLast_concat, List.getLastD_concat]
    rfl

/-- Without its break of two characters a line is no longer than with it. -/
theorem length_plainLine_le (l : Text) : (plainLine l).length ≤ l.length := by
  unfold plainLine
  split
  · next h =>
    have hlength := (List.isSuffixOf_iff_suffix.mp h).length_le
    simp only [List.length_cons, List.length_nil] at hlength
    simp only [List.length_append, List.length_take, List.length_cons, List.length_nil]
    omega
  · exact Nat.le_refl _

/-! ## Positions -/

/-- The position is behind the last line, and a character of that line has two units. -/
def Overruns (t : Text) (p : Position) : Prop :=
  t.lines.length ≤ p.line ∧ ∃ c ∈ t.lines.getLastD [], 0x10000 ≤ c.toNat

instance (t : Text) (p : Position) : Decidable (Overruns t p) :=
  decidable_of_iff
    (t.lines.length ≤ p.line ∧ ((t.lines.getLastD []).any fun c => 0x10000 ≤ c.toNat) = true)
    (by simp [Overruns])

/-- On a line, no more characters are counted than there are. -/
theorem locate_le_length_of_lt {t : Text} {p : Position} (h : p.line < t.lines.length) :
    (locate t p).1 ≤ t.length := by
  have hlength : lengthOf (t.lines.take p.line) + t.lines[p.line].length ≤ t.length := by
    have hwhole := congrArg List.length (eq_above_append h)
    rw [List.length_append, List.length_append, ← lengthOf_eq_length_flatten] at hwhole
    omega
  have hchars : ∀ n, Utf16.charsFor n (plainLine t.lines[p.line]) ≤ t.lines[p.line].length := fun n =>
    Nat.le_trans (Utf16.charsFor_le_length n _) (length_plainLine_le _)
  simp only [locate, List.getElem?_eq_getElem h]
  split <;> exact Nat.le_trans (Nat.add_le_add_left (hchars _) _) hlength

/-- Behind the last line, the units of that line are counted in place of its characters. -/
theorem locate_le_length_iff_of_ge {t : Text} {p : Position} (h : t.lines.length ≤ p.line) :
    (locate t p).1 ≤ t.length ↔ ∀ c ∈ t.lines.getLastD [], c.toNat < 0x10000 := by
  simp only [locate, List.getElem?_eq_none h]
  rw [← lengthOf_dropLast_lines t, Nat.add_le_add_iff_left, Utf16.units_le_length_iff]

/-- **A position lies in the text** unless it overruns. -/
theorem locate_le_length_iff (t : Text) (p : Position) : (locate t p).1 ≤ t.length ↔ ¬ Overruns t p := by
  unfold Overruns
  by_cases h : t.lines.length ≤ p.line
  · rw [locate_le_length_iff_of_ge h]
    simp [h]
  · have hlt := Nat.lt_of_not_le h
    simp [h, locate_le_length_of_lt hlt]

end Document

end GoCompletion
