import GoCompletion.Text.Basic

/-!
# Lines

A text is cut into lines behind every line break: a newline, a carriage return with or without one, the
vertical tab, the form feed, three of the information separators, the next-line control and the line and
paragraph separators. The breaks stay with their lines, so **the lines are the text again**
(`flatten_lines`); a text that ends in a break has no empty line behind it.
-/

namespace GoCompletion

/-- The character ends a line by itself. -/
def isLineBreak (c : Char) : Bool :=
  c == '\n' || c == '\r' || c == '\x0B' || c == '\x0C' || c == '\x1C' || c == '\x1D' || c == '\x1E' ||
    c == '\u0085' || c == '\u2028' || c == '\u2029'

namespace Text

/-- A character at the start of the first of some lines. -/
def onFirstLine (c : Char) : List Text → List Text
  | [] => [[c]]
  | l :: ls => (c :: l) :: ls

/-- The lines of a text, with their breaks. -/
def lines : Text → List Text
  | [] => []
  | c :: r =>
    if c = '\r' ∧ r.head? = some '\n' then onFirstLine c (lines r)
    else if isLineBreak c then [c] :: lines r
    else onFirstLine c (lines r)

theorem flatten_onFirstLine (c : Char) (ls : List Text) :
    (onFirstLine c ls).flatten = c :: ls.flatten := by
  cases ls <;> rfl

theorem flatten_lines (t : Text) : (lines t).flatten = t := by
  induction t with
  | nil => rfl
  | cons c r ih =>
    simp only [lines]
    split
    · rw [flatten_onFirstLine, ih]
    · split
      · simp [ih]
      · rw [flatten_onFirstLine, ih]

/-- A line without its break. -/
def withoutBreak (l : Text) : Text := (l.reverse.dropWhile isLineBreak).reverse

/-- The lines of a text, without their breaks. -/
def bareLines (t : Text) : List Text := (lines t).map withoutBreak

end Text

end GoCompletion
