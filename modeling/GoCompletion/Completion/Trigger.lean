import GoCompletion.Text.Word

/-!
# What is completed

A completion is about the word that ends at the cursor, or about the punctuation there, and it was asked
for by hand, by a character, or because a list was incomplete.
-/

namespace GoCompletion

/-- The character may stand inside a word that is completed. -/
def isWordOrDash (c : Char) : Bool := isWord c || c == '-'

/-- The character is punctuation that a completion may be about. -/
def isPunctuation (c : Char) : Bool := ".:;[\x7b(< ".toList.contains c

/-- A text without the newline at its end. -/
def withoutNewline (t : Text) : Text := if t.endsWith ['\n'] then t.dropLast else t

/-- The word or the punctuation at the end of a text. A word begins with a word character. -/
def wordAtEnd (t : Text) : Text :=
  let r := (withoutNewline t).reverse
  match r with
  | [] => []
  | c :: _ =>
    if isWordOrDash c then ((r.takeWhile isWordOrDash).reverse).dropWhile (!isWord ·)
    else (r.takeWhile isPunctuation).reverse

/-- What a completion was asked for by. -/
inductive Trigger where
  /-- by hand -/
  | invoked
  /-- by a character -/
  | character
  /-- by more typing behind an incomplete list -/
  | incomplete
  deriving DecidableEq, Repr

/-- The completion was asked for by hand; editors that do not tell ask only so. -/
def isManual (t : Option Trigger) : Bool := t = none || t = some .invoked

/-- The completion goes on with the word of the one before. -/
def isContinued (t : Option Trigger) : Bool := t = some .incomplete

end GoCompletion
