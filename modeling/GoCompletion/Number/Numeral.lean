import GoCompletion.Fault
import GoCompletion.Number.Binary64
import GoCompletion.Text.Word

/-!
# Numerals

What a text has to look like to be read as a number (`Numeral.integer`, `Numeral.decimal`). Blanks around
a number are passed over, and the decimal digits of every script count. An integer may stand in another
base, with the mark of its base in front or without; a number may be an infinity, or none at all, by name.

Decimal digits are counted before they are read: **a number of more than 4300 digits is not read**
(`Numeral.ofDigits`).
-/

namespace GoCompletion

namespace Numeral

/-- The greatest number of decimal digits that are read or shown. -/
def mostDigits : Nat := 4300

/-! ## The characters of numerals -/

/-- A character of a numeral in ASCII: every decimal digit counts, and outside ASCII every blank. -/
def plainChar (c : Char) : Char :=
  if c.toNat < 0x7F then c
  else if isBlank c then ' '
  else
    match digitValue c with
    | some n => Char.ofNat ('0'.toNat + n)
    | none => '?'

/-- The character is passed over around a number. -/
def isGap (c : Char) : Bool :=
  c == ' ' || c == '\t' || c == '\n' || c == '\x0B' || c == '\x0C' || c == '\r'

/-- A text in the characters of numerals, without the gaps around it. -/
def trimmed (t : Text) : Text :=
  (((t.map plainChar).dropWhile isGap).reverse.dropWhile isGap).reverse

/-- The value of a digit: letters in either case follow the decimal digits. -/
def valueOf? (base : Nat) (c : Char) : Option Nat :=
  let n? : Option Nat :=
    if c.isDigit then some (c.toNat - '0'.toNat)
    else if c.isLower then some (c.toNat - 'a'.toNat + 10)
    else if c.isUpper then some (c.toNat - 'A'.toNat + 10)
    else none
  n?.filter (· < base)

/-- The number that digits of a base spell, most significant first; other characters count zero. -/
def numberOf (base : Nat) (ds : Text) : Nat :=
  ds.foldl (fun n d => base * n + (valueOf? base d).getD 0) 0

/-- A sign at the start of a text, as whether it is negative, and what is left behind it. -/
def sign : Text → Bool × Text
  | '-' :: r => (true, r)
  | '+' :: r => (false, r)
  | r => (false, r)

/-! ## Integers -/

/-- The letters that mark a base, behind a zero. -/
def markLetters (base : Nat) : Text :=
  if base = 2 then ['b', 'B']
  else if base = 8 then ['o', 'O']
  else if base = 16 then ['x', 'X']
  else []

/-- A text without the mark of its base. -/
def unmarked (base : Nat) : Text → Text
  | '0' :: c :: r => if (markLetters base).elem c then r else '0' :: c :: r
  | t => t

/-- There are more decimal digits than are read. Digits of other bases are read however many they are. -/
def tooMany (count : Nat) : Fault :=
  .badValue ("Exceeds the limit (4300 digits) for integer string conversion: value has ".toList ++
    Text.ofNat count ++
    " digits; use sys.set_int_max_str_digits() to increase the limit".toList)

/-- The number that decimal digits spell, if they are not too many. -/
def ofDigits (ds : Text) : Except Fault Nat :=
  if ds.length > mostDigits then .error (tooMany ds.length) else .ok (numberOf 10 ds)

/-- A text is no integer. Of a long text only the beginning is shown. -/
def badInteger (base : Nat) (t : Text) : Fault :=
  .badValue ("invalid literal for int() with base ".toList ++ Text.ofNat base ++ ": ".toList ++
    (Text.quoted t).take 200)

/-- The integer that a text spells in a base. -/
def integer (base : Nat) (t : Text) : Except Fault Int :=
  let (negative, u) := sign (trimmed t)
  let u := unmarked base u
  let isDigit (c : Char) : Bool := (valueOf? base c).isSome
  let ds := u.takeWhile isDigit
  if base = 10 ∧ ds.length > mostDigits then .error (tooMany ds.length)
  else if ds.isEmpty || !(u.dropWhile isDigit).isEmpty then .error (badInteger base t)
  else .ok (if negative then -(numberOf base ds : Int) else numberOf base ds)

/-! ## Decimal numbers -/

/-- The names of an infinity, in small letters. -/
def infinityNames : List Text := ["inf".toList, "infinity".toList]

/-- The name of what is no number, in small letters. -/
def nanName : Text := "nan".toList

/-- An exponent, up to the end of the text: none is zero. -/
def exponent? : Text → Option Int
  | [] => some 0
  | c :: r =>
    let (negative, ds) := sign r
    if (c == 'e' || c == 'E') && !ds.isEmpty && ds.all Char.isDigit then
      some (if negative then -(numberOf 10 ds : Int) else numberOf 10 ds)
    else none

/-- The number that digits with a point and an exponent spell, up to the end of the text. -/
def scientific? (t : Text) : Option Binary64 :=
  let whole := t.takeWhile Char.isDigit
  let (fraction, r) :=
    match t.dropWhile Char.isDigit with
    | '.' :: r => (r.takeWhile Char.isDigit, r.dropWhile Char.isDigit)
    | r => ([], r)
  if (whole ++ fraction).isEmpty then none
  else
    (exponent? r).map fun e =>
      .ofDecimal false (numberOf 10 (whole ++ fraction)) (e - fraction.length)

/-- The number that a text without a sign spells. -/
def magnitude? (t : Text) : Option Binary64 :=
  let name := t.map Char.toLower
  if infinityNames.elem name then some (.infinite false)
  else if name = nanName then some .nan
  else scientific? t

/-- The number that a text spells. -/
def decimal (t : Text) : Except Fault Binary64 :=
  let (negative, u) := sign (trimmed t)
  match magnitude? u with
  | some x => .ok (if negative then x.neg else x)
  | none => .error (.badValue ("could not convert string to float: ".toList ++ Text.quoted t))

end Numeral

end GoCompletion
