import GoCompletion.Text.Basic

/-!
# Base64

Bytes written in base64: four characters are three bytes, and the last group is filled up with equals
signs. Other characters are passed over, and so are equals signs that end no group; what stands behind
the ones that do is not read.
-/

namespace GoCompletion

namespace Base64

/-- The value of a character of base64. -/
def valueOf? (c : Char) : Option Nat :=
  if c.isUpper then some (c.toNat - 'A'.toNat)
  else if c.isLower then some (c.toNat - 'a'.toNat + 26)
  else if c.isDigit then some (c.toNat - '0'.toNat + 52)
  else if c = '+' then some 62
  else if c = '/' then some 63
  else none

/-- The values that are written, up to the end of the last group: `place` is the number of them in the
open group, and `fill` the number of equals signs right in front. -/
def valuesFrom (place fill : Nat) : Text → List Nat
  | [] => []
  | c :: r =>
    if c = '=' then
      if place < 2 then valuesFrom place fill r
      else if place + fill + 1 ≥ 4 then []
      else valuesFrom place (fill + 1) r
    else
      match valueOf? c with
      | some v => v :: valuesFrom ((place + 1) % 4) 0 r
      | none => valuesFrom place fill r

/-- The last group is closed, by a fourth character or by equals signs. -/
def isClosed (place fill : Nat) : Text → Bool
  | [] => place = 0
  | c :: r =>
    if c = '=' then
      if place < 2 then isClosed place fill r
      else if place + fill + 1 ≥ 4 then true
      else isClosed place (fill + 1) r
    else if (valueOf? c).isSome then isClosed ((place + 1) % 4) 0 r
    else isClosed place fill r

/-- The bytes of values, four of which are three bytes. -/
def bytesOf : List Nat → List UInt8
  | a :: b :: c :: d :: r =>
    (a * 4 + b / 16).toUInt8 :: (b % 16 * 16 + c / 4).toUInt8 :: (c % 4 * 64 + d).toUInt8 :: bytesOf r
  | [a, b, c] => [(a * 4 + b / 16).toUInt8, (b % 16 * 16 + c / 4).toUInt8]
  | [a, b] => [(a * 4 + b / 16).toUInt8]
  | _ => []

/-- The bytes that a text is in base64; absent if its last group is not closed. -/
def decode? (t : Text) : Option (List UInt8) :=
  if isClosed 0 0 t then some (bytesOf (valuesFrom 0 0 t)) else none

end Base64

end GoCompletion
