/-!
# Binary64 numbers

The numbers of the IEEE 754 format binary64, as what they are: a sign, an integer of at most 53 bits and
a power of two, or an infinity, or no number at all. They arise by **rounding an exact quotient to the
nearest one, a tie to the even one** (`ofRatio`), and all of it is done in natural numbers.
-/

namespace GoCompletion

/-- The quotient of two numbers, rounded to the nearest integer, a tie to the even one. -/
def roundHalfEven (num den : Nat) : Nat :=
  let q := num / den
  let r := num % den
  if 2 * r > den ∨ (2 * r = den ∧ q % 2 = 1) then q + 1 else q

/-- A number of the format binary64. -/
inductive Binary64 where
  /-- not a number -/
  | nan
  /-- an infinity, negative or positive -/
  | infinite (negative : Bool)
  /-- `± mantissa · 2 ^ exponent`; zero has a sign as well -/
  | finite (negative : Bool) (mantissa : Nat) (exponent : Int)
  deriving DecidableEq, Repr

namespace Binary64

/-- Positive zero. -/
def zero : Binary64 := .finite false 0 0

/-- The least exponent of a finite number. -/
def leastExponent : Int := -1074

/-- The greatest exponent of a finite number with a mantissa of 53 bits. -/
def greatestExponent : Int := 971

/-- The least mantissa of 53 bits. -/
def leastMantissa : Nat := Nat.pow 2 52

/-- A fraction scaled by a power of two, as numerator and denominator. -/
def scale (num den : Nat) (exponent : Int) : Nat × Nat :=
  if exponent < 0 then (num * Nat.pow 2 (-exponent).toNat, den)
  else (num, den * Nat.pow 2 exponent.toNat)

/-- The exponent with which a positive quotient is written: the one that leaves it 53 bits in front of
the point, and not below the least one. -/
def exponentOf (num den : Nat) : Int :=
  let e : Int := (num.log2 : Int) - den.log2 - 52
  let (n, d) := scale num den e
  max (if n / d < leastMantissa then e - 1 else e) leastExponent

/-- The number nearest to `± num / den`, for a denominator that is not zero. What rounds to more than
the greatest finite number is infinite. -/
def ofRatio (negative : Bool) (num den : Nat) : Binary64 :=
  if num = 0 then .finite negative 0 0
  else
    let e := exponentOf num den
    let (n, d) := scale num den e
    let m := roundHalfEven n d
    let (m, e) := if m = 2 * leastMantissa then (leastMantissa, e + 1) else (m, e)
    if m = 0 then .finite negative 0 0
    else if e > greatestExponent then .infinite negative
    else .finite negative m e

/-- The number nearest to `± digits · 10 ^ exponent`. An exponent far outside the range of the format
decides the result before any power is taken. -/
def ofDecimal (negative : Bool) (digits : Nat) (exponent : Int) : Binary64 :=
  if digits = 0 then .finite negative 0 0
  else if exponent > 400 then .infinite negative
  else if exponent + (digits.log2 : Int) < -1200 then .finite negative 0 0
  else if exponent < 0 then ofRatio negative digits (Nat.pow 10 (-exponent).toNat)
  else ofRatio negative (digits * Nat.pow 10 exponent.toNat) 1

/-- The number nearest to an integer, which may be an infinity. -/
def ofInt (i : Int) : Binary64 := ofRatio (i < 0) i.natAbs 1

/-- The exact value of a finite number, apart from its sign, as numerator and denominator. -/
def magnitude : Binary64 → Nat × Nat
  | .finite _ m e => scale m 1 (-e)
  | _ => (0, 1)

/-- The exact value of a finite number, as numerator and denominator. -/
def ratio? : Binary64 → Option (Int × Nat)
  | .finite negative m e =>
    let r := magnitude (.finite negative m e)
    some (if negative then -(r.1 : Int) else r.1, r.2)
  | _ => none

/-- The number is below zero, or the negative one of the two zeros. -/
def isNegative : Binary64 → Bool
  | .nan => false
  | .infinite negative => negative
  | .finite negative _ _ => negative

/-- A number with the other sign. -/
def neg : Binary64 → Binary64
  | .nan => .nan
  | .infinite negative => .infinite !negative
  | .finite negative m e => .finite (!negative) m e

/-- The sum of two numbers, rounded. A sum of nothing is positive, unless both numbers are negative. -/
def add : Binary64 → Binary64 → Binary64
  | .nan, _ => .nan
  | _, .nan => .nan
  | .infinite s, .infinite t => if s = t then .infinite s else .nan
  | .infinite s, _ => .infinite s
  | _, .infinite t => .infinite t
  | .finite s m e, .finite t n f =>
    match ratio? (.finite s m e), ratio? (.finite t n f) with
    | some x, some y =>
      let sum := x.1 * y.2 + y.1 * x.2
      if sum = 0 then .finite (s && t) 0 0 else ofRatio (sum < 0) sum.natAbs (x.2 * y.2)
    | _, _ => .nan

/-- The product of two numbers, rounded. -/
def mul (x y : Binary64) : Binary64 :=
  let negative := x.isNegative != y.isNegative
  match x, y with
  | .nan, _ => .nan
  | _, .nan => .nan
  | .infinite _, .finite _ m _ => if m = 0 then .nan else .infinite negative
  | .finite _ m _, .infinite _ => if m = 0 then .nan else .infinite negative
  | .infinite _, .infinite _ => .infinite negative
  | .finite .., .finite .. =>
    ofRatio negative (x.magnitude.1 * y.magnitude.1) (x.magnitude.2 * y.magnitude.2)

/-- The number is an infinity. -/
def isInfinite : Binary64 → Bool
  | .infinite _ => true
  | _ => false

/-- The number is greater than zero. -/
def isPositive : Binary64 → Bool
  | .nan => false
  | .infinite negative => !negative
  | .finite negative m _ => !negative && m != 0

/-- The number is one of the two zeros. -/
def isZero : Binary64 → Bool
  | .finite _ m _ => m == 0
  | _ => false

end Binary64

end GoCompletion
