import GoCompletion.Path.Basic
import GoCompletion.Path.Uri
import GoCompletion.Text.Lines
import GoCompletion.Text.Utf16

/-!
# Documents and positions

A document is a text with a URI. Editors name places in it by a line and by the UTF-16 units in front on
that line; `locate` finds the character of such a position.

A position that is too far to the right on its line is **moved to the last character of the line**, line
break included, and stays there. Behind the last line there is only the end, and its index counts the
last line in UTF-16 units.
-/

namespace GoCompletion

/-- A position in a document, as editors give it. -/
structure Position where
  /-- the number of lines in front -/
  line : Nat
  /-- the number of UTF-16 units in front on the line -/
  character : Nat
  deriving DecidableEq, Repr

namespace Position

/-- The greatest number that a position may be made of. -/
def greatestNumber : Int := 2147483647

/-- One of the numbers of a position; `name` is the word for it. -/
def number (name : String) (n : Int) : Except Fault Nat :=
  if 0 ≤ n ∧ n ≤ greatestNumber then .ok n.toNat
  else
    .error (.badValue ("Position.".toList ++ name.toList ++
      " should be in range [0:2147483647], but was ".toList ++ Text.ofInt n ++ ['.']))

/-- The position of two numbers. -/
def ofNumbers (line character : Int) : Except Fault Position :=
  (number "line" line).bind fun l => (number "character" character).map fun c => ⟨l, c⟩

end Position

/-- A document. -/
structure Document where
  /-- what editors call it -/
  uri : Text
  /-- the path of its file -/
  path : Text
  /-- its text -/
  text : Text
  deriving DecidableEq, Repr

namespace Document

/-- The document with a URI and a text. -/
def ofText (uri text : Text) : Except Fault Document :=
  (Uri.ofText uri).map fun u => { uri, path := u.filePath, text }

/-- A line whose break is two characters, with a newline in place of them. -/
def plainLine (l : Text) : Text :=
  if l.endsWith ['\r', '\n'] then l.take (l.length - 2) ++ ['\n'] else l

/-- The number of characters of some lines. -/
def lengthOf (ls : List Text) : Nat := Text.total List.length ls

/-- The index of the character at a position of a text, and the position that it is taken for. -/
def locate (t : Text) (p : Position) : Nat × Position :=
  let lines := t.lines
  match lines[p.line]? with
  | none => (lengthOf lines.dropLast + Utf16.units (lines.getLastD []), p)
  | some l =>
    let l := plainLine l
    let units := Utf16.units l
    -- the line break counts as a unit of its line
    let p := if units < p.character then { p with character := units - 1 } else p
    (lengthOf (lines.take p.line) + Utf16.charsFor p.character l, p)

end Document

end GoCompletion
