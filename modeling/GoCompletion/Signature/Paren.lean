import GoCompletion.Fault
import GoCompletion.Signature.Basic

/-!
# Matching parens

A func type is cut at the paren that closes its parameter list: the first closing paren at which as
many parens have been closed as opened (`closing`). `FuncText` is a func type cut there: its parameter list
and its returns, without the parens around them (`FuncText.ofText`).
-/

namespace GoCompletion

/-- The place, counted from the start of the text, of the first `)` that brings the number of open
parens, `count` at the start, to zero. -/
def closingFrom (count : Int) : Text → Option Nat
  | [] => none
  | c :: r =>
    if c = '(' then (closingFrom (count + 1) r).map (· + 1)
    else if c = ')' then
      if count - 1 = 0 then some 0 else (closingFrom (count - 1) r).map (· + 1)
    else (closingFrom count r).map (· + 1)

/-- The position of the paren that closes the one at position `start`, if the parens balance. -/
def closing (t : Text) (start : Nat) : Option Nat :=
  (closingFrom 0 (t.drop start)).map (· + start)

/-- The position of the paren that closes the one at position `start`, which may be counted from the end
by a negative number; from the end of the text the search then goes on at its start, and positions are
counted in the same way. -/
def closingAt (t : Text) (start : Int) : Except Fault (Option Int) :=
  if 0 ≤ start then .ok ((closing t start.toNat).map Int.ofNat)
  else if start.natAbs ≤ t.length then
    .ok ((closingFrom 0 (t.drop (t.length - start.natAbs) ++ t)).map fun i => start + i)
  else .error .outOfRange

/-- A func type, cut at the paren that closes its parameter list. -/
structure FuncText where
  /-- the text between the parens of the parameter list -/
  args : Text
  /-- the text of the returns, without the parens around it; absent when nothing follows -/
  returns : Option Text

namespace FuncText

/-- The returns in what follows a parameter list: one character, a blank in a well-formed type, is
skipped; parens around the rest are taken off. -/
def returnsOf (rest : Text) : Option Text :=
  match rest.drop 1 with
  | [] => none
  | c :: r => if c = '(' then some r.dropLast else some (c :: r)

/-- A func type cut at its closing paren; nothing when the text is no func type or its parens do not
balance. -/
def ofText (t : Text) : Option FuncText :=
  if Text.startsWith t funcToken then
    (closing t 4).map fun close =>
      { args := Text.slice t 5 close, returns := returnsOf (t.drop (close + 1)) }
  else none

end FuncText

end GoCompletion
