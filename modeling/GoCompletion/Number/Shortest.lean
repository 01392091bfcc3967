import GoCompletion.Number.Binary64
import GoCompletion.Text.Basic

/-!
# Shortest decimals

A binary64 number is written with **the fewest decimal digits that round back to it**, and among those
with the ones nearest to it. `shortest` tries the grids of one digit, two digits and so on: on each, only
the two decimals around the number can be the nearest one that rounds back.

`render` lays the digits out: positional notation where the point is near the digits, scientific notation
elsewhere, and always a mark that tells the number from an integer.
-/

namespace GoCompletion

/-- A decimal number `0.d₁d₂… · 10 ^ point`. -/
structure Decimal where
  /-- the digits, the first and the last one not zero -/
  digits : Text
  /-- where the decimal point stands, counted from the first digit -/
  point : Int
  deriving DecidableEq, Repr

namespace Decimal

/-- The decimal `n · 10 ^ exponent`, without zeros at its end. -/
def ofNat (n : Nat) (exponent : Int) : Decimal :=
  let ds := Text.ofNat n
  { digits := (ds.reverse.dropWhile (· == '0')).reverse, point := ds.length + exponent }

end Decimal

namespace Binary64

/-- The place of the decimal point of `num / den`, for quotients that are not below `10 ^ -400`. -/
def decimalPoint (num den : Nat) : Int :=
  ((Text.ofNat (num * Nat.pow 10 400 / den)).length : Int) - 400

/-- The decimal with at most `count` digits that is nearest to the finite positive number
`m · 2 ^ e`, if it rounds back to it. A tie goes to the even last digit. -/
def decimal? (m : Nat) (e : Int) (count : Nat) : Option Decimal :=
  let (num, den) := scale m 1 (-e)
  let exponent := decimalPoint num den - count
  let (n, d) :=
    if exponent < 0 then (num * Nat.pow 10 (-exponent).toNat, den)
    else (num, den * Nat.pow 10 exponent.toNat)
  let readsBack := fun k => ofDecimal false k exponent = .finite false m e
  let below := n / d
  let nearest := roundHalfEven n d
  let other := if nearest = below then below + 1 else below
  if readsBack nearest then some (.ofNat nearest exponent)
  else if readsBack other then some (.ofNat other exponent)
  else none

/-- The fewest digits that read back as the finite positive number `m · 2 ^ e`; seventeen always do. -/
def shortest (m : Nat) (e : Int) : Decimal :=
  ((List.range' 1 17).findSome? (decimal? m e)).getD ⟨[], 0⟩

/-- The decimal point is written among the digits from here on … -/
def leastPositionalPoint : Int := -3

/-- … up to here; outside, the number is written with an exponent. -/
def greatestPositionalPoint : Int := 16

/-- Digits with the decimal point at its place. -/
def positional (d : Decimal) : Text :=
  if d.point ≤ 0 then ['0', '.'] ++ List.replicate (-d.point).toNat '0' ++ d.digits
  else
    let n := d.point.toNat
    if d.digits.length ≤ n then
      d.digits ++ List.replicate (n - d.digits.length) '0' ++ ['.', '0']
    else d.digits.take n ++ ['.'] ++ d.digits.drop n

/-- Digits with the decimal point behind the first one, and an exponent of at least two digits with its
sign. -/
def scientific (d : Decimal) : Text :=
  let e := d.point - 1
  let mark := if d.digits.length ≤ 1 then [] else ['.']
  d.digits.take 1 ++ mark ++ d.digits.drop 1 ++ ['e', if e < 0 then '-' else '+'] ++
    Text.padded 2 e.natAbs

/-- The text of a number. -/
def render : Binary64 → Text
  | .nan => "nan".toList
  | .infinite negative => (if negative then ['-'] else []) ++ "inf".toList
  | .finite negative m e =>
    let sign := if negative then ['-'] else []
    if m = 0 then sign ++ ['0', '.', '0']
    else
      let d := shortest m e
      if leastPositionalPoint ≤ d.point ∧ d.point ≤ greatestPositionalPoint then
        sign ++ positional d
      else sign ++ scientific d

end Binary64

end GoCompletion
