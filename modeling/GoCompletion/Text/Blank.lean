import GoCompletion.Text.Basic

/-!
# Blank characters

A character is **blank** when Unicode counts it among the white space or among the separators of the
bidirectional algorithm: the ASCII blanks, the four information separators, the next-line control, the
no-break space and the typographic spaces. Core's white space is a part of it
(`isBlank_of_isWhitespace`).

Stripping takes blank characters off the ends of a text, and nothing else.
-/

namespace GoCompletion

/-- Whether a number lies in one of some ranges, both ends included. The ranges are in rising order, so
the search ends at the first one that begins above the number. -/
def inRanges (n : Nat) : List (Nat × Nat) → Bool
  | [] => false
  | (lo, hi) :: rest => if n < lo then false else if n ≤ hi then true else inRanges n rest

/-- The ranges of the blank characters. -/
def blankRanges : List (Nat × Nat) := [
  (0x0009, 0x000D), (0x001C, 0x0020), (0x0085, 0x0085), (0x00A0, 0x00A0), (0x1680, 0x1680),
  (0x2000, 0x200A), (0x2028, 0x2029), (0x202F, 0x202F), (0x205F, 0x205F), (0x3000, 0x3000)]

/-- The character is blank. -/
def isBlank (c : Char) : Bool := inRanges c.toNat blankRanges

theorem isBlank_of_isWhitespace {c : Char} (h : c.isWhitespace = true) : isBlank c = true := by
  simp only [Char.isWhitespace, Bool.or_eq_true, decide_eq_true_eq] at h
  rcases h with ((rfl | rfl) | rfl) | rfl <;> decide

namespace Text

/-- Every character of the text is blank; so is the empty text. -/
def isBlank (t : Text) : Bool := t.all GoCompletion.isBlank

/-- The text without the blank characters at its start. -/
def stripStart (t : Text) : Text := t.dropWhile GoCompletion.isBlank

/-- The text without the blank characters at its end. -/
def stripEnd (t : Text) : Text := (t.reverse.dropWhile GoCompletion.isBlank).reverse

/-- The text without the blank characters at its two ends. -/
def strip (t : Text) : Text := stripEnd (stripStart t)

@[simp] theorem strip_nil : strip [] = [] := rfl

end Text

end GoCompletion
