import GoCompletion.Text.Basic

/-!
# UTF-16 units

Editors count the characters of a line in units of UTF-16: one for a character of the basic plane, two
for any other, which are a pair of surrogates.

An escape may spell a surrogate that has no partner. That is no character, and yet a text with it goes
on: one of the private characters U+10D800 to U+10DFFF stands for it (`charOfUnit`), and is told from other
characters when the text is shown (`surrogateOf?`). A text that holds one of these private characters itself is not
told from one with the surrogate.
-/

namespace GoCompletion

namespace Utf16

/-- The number of units of a character. -/
def charUnits (c : Char) : Nat := if c.toNat < 0x10000 then 1 else 2

/-- The number of units of a text. -/
def units (t : Text) : Nat := Text.total charUnits t

theorem units_append (s t : Text) : units (s ++ t) = units s + units t :=
  Text.total_append charUnits s t

/-- A text has as many units as characters, or more. -/
theorem length_le_units (t : Text) : t.length ≤ units t := by
  induction t with
  | nil => exact Nat.le_refl 0
  | cons c r ih =>
    have hc : 1 ≤ charUnits c := by
      unfold charUnits
      split <;> decide
    simp only [units, Text.total_cons, List.length_cons] at ih ⊢
    omega

/-- The number of characters at the start of a text that it takes to have `n` units or more; all of them
when the text has fewer. A place inside a character counts that character. -/
def charsFor (n : Nat) : Text → Nat
  | [] => 0
  | c :: r => if n = 0 then 0 else charsFor (n - charUnits c) r + 1

/-! ## Surrogates -/

/-- The unit is the first one of a surrogate pair. -/
def isHighSurrogate (n : Nat) : Bool := 0xD800 ≤ n && n ≤ 0xDBFF

/-- The unit is the second one of a surrogate pair. -/
def isLowSurrogate (n : Nat) : Bool := 0xDC00 ≤ n && n ≤ 0xDFFF

/-- The unit is half of a surrogate pair. -/
def isSurrogate (n : Nat) : Bool := isHighSurrogate n || isLowSurrogate n

/-- The character of a surrogate pair. -/
def charOfPair (high low : Nat) : Char :=
  Char.ofNat (0x10000 + (high - 0xD800) * 0x400 + (low - 0xDC00))

/-- How far a surrogate is from the character that stands for it. -/
def standInDistance : Nat := 0x100000

/-- The character of a number that is not above the last character. -/
def charOfUnit (n : Nat) : Char :=
  if isSurrogate n then Char.ofNat (n + standInDistance) else Char.ofNat n

/-- The surrogate that a character stands for. Whether the private character was written itself is not known. -/
def surrogateOf? (c : Char) : Option Nat :=
  let n := c.toNat - standInDistance
  if isSurrogate n then some n else none

/-- A character that stands for a surrogate stands for that one. -/
theorem surrogateOf?_charOfUnit {n : Nat} (h : isSurrogate n = true) :
    surrogateOf? (charOfUnit n) = some n := by
  have hn : 0xD800 ≤ n ∧ n ≤ 0xDFFF := by
    simp only [isSurrogate, isHighSurrogate, isLowSurrogate, Bool.or_eq_true, Bool.and_eq_true,
      decide_eq_true_eq] at h
    omega
  have hv : (n + standInDistance).isValidChar := Or.inr ⟨by simp only [standInDistance]; omega,
    by simp only [standInDistance]; omega⟩
  have hc : (charOfUnit n).toNat = n + standInDistance := by
    rw [charOfUnit, if_pos h, Char.ofNat, dif_pos hv]
    rfl
  rw [surrogateOf?, hc, Nat.add_sub_cancel]
  exact if_pos h

end Utf16

end GoCompletion
