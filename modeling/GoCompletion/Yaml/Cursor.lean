import GoCompletion.Text.Basic

/-!
# Walking through YAML text

A cursor stands in front of a character of a text and knows its line and column, by which YAML tells
nesting. Nothing is read behind the end of the text: there, `peek` is absent.
-/

namespace GoCompletion

namespace Yaml

/-- The character breaks a line. -/
def isBreak (c : Char) : Bool :=
  c == '\n' || c == '\r' || c == '\u0085' || c == '\u2028' || c == '\u2029'

/-- There is a line break, or nothing. -/
def breakOrEnd : Option Char → Bool
  | none => true
  | some c => isBreak c

/-- There is a space or a line break, or nothing. -/
def spaceOrEnd : Option Char → Bool
  | none => true
  | some c => c == ' ' || isBreak c

/-- There is a space, a tab or a line break, or nothing. -/
def blankOrEnd : Option Char → Bool
  | none => true
  | some c => c == ' ' || c == '\t' || isBreak c

/-- The character is a digit of ASCII, a letter of ASCII, a dash or an underscore. -/
def isNameChar (c : Char) : Bool := c.isAlphanum || c == '-' || c == '_'

/-- A place in a text. -/
structure Cursor where
  /-- what is left of the text -/
  rest : Text
  /-- the characters in front -/
  index : Nat := 0
  /-- the lines in front -/
  line : Nat := 0
  /-- the characters in front on the same line -/
  column : Nat := 0

namespace Cursor

/-- The character `n` places ahead. -/
def peek (c : Cursor) (n : Nat) : Option Char := c.rest[n]?

/-- The character right ahead. -/
def head (c : Cursor) : Option Char := c.rest.head?

/-- The cursor behind one character. A byte order mark takes no column. -/
def next (c : Cursor) : Cursor :=
  match c.rest with
  | [] => c
  | ch :: r =>
    if ch != '\r' && isBreak ch || ch == '\r' && r.head? != some '\n' then
      { rest := r, index := c.index + 1, line := c.line + 1, column := 0 }
    else
      { rest := r, index := c.index + 1, line := c.line
        column := if ch == '\uFEFF' then c.column else c.column + 1 }

/-- The cursor behind `n` characters. -/
def skip (c : Cursor) : Nat → Cursor
  | 0 => c
  | n + 1 => c.next.skip n

/-- The characters ahead for which `p` holds, and the cursor behind them. -/
def span (c : Cursor) (p : Char → Bool) : Text × Cursor :=
  let t := c.rest.takeWhile p
  (t, c.skip t.length)

/-- The cursor behind the spaces ahead. -/
def skipSpaces (c : Cursor) : Cursor := (c.span (· == ' ')).2

/-- The cursor behind the comment ahead, if there is one. -/
def skipComment (c : Cursor) : Cursor :=
  if c.head = some '#' then (c.span (!isBreak ·)).2 else c

/-- The line break ahead as it counts in a text, empty when there is none, and the cursor behind it. -/
def lineBreak (c : Cursor) : Text × Cursor :=
  match c.rest with
  | '\r' :: '\n' :: _ => (['\n'], c.skip 2)
  | ch :: _ =>
    if ch == '\u2028' || ch == '\u2029' then ([ch], c.next)
    else if isBreak ch then (['\n'], c.next)
    else ([], c)
  | [] => ([], c)

/-- Three of the character `ch` and a blank or the end are ahead. -/
def atMarker (c : Cursor) (ch : Char) : Bool :=
  c.rest.take 3 == [ch, ch, ch] && blankOrEnd (c.peek 3)

/-- A mark of the start or the end of a document is ahead. -/
def atDocumentMarker (c : Cursor) : Bool := c.atMarker '-' || c.atMarker '.'

/-- The cursor behind the rest of a line on which only spaces and a comment are left. -/
def endLine? (c : Cursor) : Option Cursor :=
  let c := c.skipSpaces.skipComment
  if breakOrEnd c.head then some c.lineBreak.2 else none

end Cursor

end Yaml

end GoCompletion
