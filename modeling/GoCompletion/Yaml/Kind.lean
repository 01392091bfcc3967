import GoCompletion.Yaml.Moment

/-!
# The kinds of YAML nodes

A plain scalar is a truth value, a number, a point in time or no value at all when it has the form of
one, and a text otherwise (`Kind.ofScalar`). The forms are those of YAML 1.1: `yes` and `off` are truth
values, `0x10`, `017` and `1:30` are integers, and a number with an exponent needs a point and a sign.
A newline may follow what has a form, unless nothing is in front of it.
-/

namespace GoCompletion

namespace Yaml

/-- The kinds of nodes. -/
inductive Kind where
  | null
  | bool
  | int
  | float
  | bytes
  | moment
  /-- the key of entries that are taken over -/
  | merge
  /-- the key of the value that a mapping has as a scalar -/
  | default
  | str
  | seq
  | map
  | set
  /-- pairs in a row, whether their keys are told apart or not -/
  | pairs
  | unknown
  deriving DecidableEq, Repr

/-- The start of the tags of the kinds. -/
def kindStem : Text := "tag:yaml.org,2002:".toList

/-- The kinds by the ends of their tags. -/
def kindNames : List (Text × Kind) := [
  ("null".toList, .null), ("bool".toList, .bool), ("int".toList, .int), ("float".toList, .float),
  ("binary".toList, .bytes), ("timestamp".toList, .moment), ("merge".toList, .merge),
  ("value".toList, .default), ("str".toList, .str), ("seq".toList, .seq), ("map".toList, .map),
  ("set".toList, .set), ("omap".toList, .pairs), ("pairs".toList, .pairs)]

/-- The kind of a tag that is written out. -/
def Kind.ofTag (tag : Text) : Kind :=
  ((kindNames.find? fun n => tag = kindStem ++ n.1).map (·.2)).getD .unknown

/-! ## Forms -/

/-- A text without the sign at its start. -/
def unsigned : Text → Text
  | '-' :: r => r
  | '+' :: r => r
  | t => t

/-- All characters satisfy `p`, and there is one. -/
def someAll (p : Char → Bool) (t : Text) : Bool := !t.isEmpty && t.all p

/-- A digit or an underscore. -/
def isSpacedDigit (c : Char) : Bool := c.isDigit || c == '_'

/-- A digit between one and nine, then digits and underscores. -/
def isSpacedNumber : Text → Bool
  | c :: r => c.isDigit && c != '0' && r.all isSpacedDigit
  | [] => false

/-- One or two digits that are less than sixty. -/
def isSixtieth : Text → Bool
  | [c] => c.isDigit
  | [c, d] => '0' ≤ c && c ≤ '5' && d.isDigit
  | _ => false

/-- The texts that are no value. -/
def nullForms : List Text := ["~".toList, "null".toList, "Null".toList, "NULL".toList, []]

/-- The texts that are truth values, in small letters. -/
def boolForms : List (Text × Bool) := [
  ("yes".toList, true), ("no".toList, false), ("true".toList, true), ("false".toList, false),
  ("on".toList, true), ("off".toList, false)]

/-- The truth value that a text spells in small letters. -/
def boolOf? (t : Text) : Option Bool := (boolForms.find? fun f => f.1 = t).map (·.2)

/-- A text in small letters, with a capital, or in capitals. -/
def isUniform (t : Text) : Bool :=
  match t with
  | [] => true
  | c :: r => r.all Char.isLower || (c.isUpper && r.all Char.isUpper)

/-- A truth value. -/
def isBool (t : Text) : Bool := isUniform t && (boolOf? (t.map Char.toLower)).isSome

/-- An integer. -/
def isInt (t : Text) : Bool :=
  match unsigned t with
  | '0' :: 'b' :: r => someAll (fun c => c == '0' || c == '1' || c == '_') r
  | '0' :: 'x' :: r => someAll (fun c => (Json.hexDigit? c).isSome || c == '_') r
  | '0' :: r => r.all fun c => ('0' ≤ c && c ≤ '7') || c == '_'
  | u =>
    match Text.pieces [':'] u with
    | n :: sixtieths => isSpacedNumber n && sixtieths.all isSixtieth
    | [] => false

/-- An exponent with its sign, or nothing. -/
def isExponent : Text → Bool
  | [] => true
  | c :: s :: r => (c == 'e' || c == 'E') && (s == '+' || s == '-') && someAll Char.isDigit r
  | _ => false

/-- Digits and underscores, then an exponent or nothing. -/
def isFractionTail (t : Text) : Bool := isExponent (t.dropWhile isSpacedDigit)

/-- A digit, then digits and underscores. -/
def isSpacedDigits : Text → Bool
  | c :: r => c.isDigit && r.all isSpacedDigit
  | [] => false

/-- A number in sixtieths with a point. -/
def isSixtiethsWithPoint (t : Text) : Bool :=
  match Text.cut ['.'] t with
  | some (whole, fraction) =>
    match Text.pieces [':'] whole with
    | n :: s :: sixtieths =>
      isSpacedDigits n && (s :: sixtieths).all isSixtieth && fraction.all isSpacedDigit
    | _ => false
  | none => false

/-- The indicators that are scalars of a kind of their own, which nothing is known of. -/
def indicatorForms : List Text := [['!'], ['&'], ['*']]

/-- The ways to write an infinity, behind its sign. -/
def infinityForms : List Text := [".inf".toList, ".Inf".toList, ".INF".toList]

/-- The ways to write what is no number. -/
def nanForms : List Text := [".nan".toList, ".NaN".toList, ".NAN".toList]

/-- A number that is no integer. -/
def isFloat (t : Text) : Bool :=
  let u := unsigned t
  infinityForms.contains u || nanForms.contains t || isSixtiethsWithPoint u ||
    (match Text.cut ['.'] u with
      | some (whole, r) => isSpacedDigits whole && isFractionTail r
      | none => false) ||
    (match t with
      | '.' :: c :: r => c.isDigit && isFractionTail r
      | _ => false)

/-! ## The kind of a scalar -/

/-- The kind of a scalar whose form tells it. -/
def Kind.ofForm (t : Text) : Kind :=
  if nullForms.contains t then .null
  else if isBool t then .bool
  else if isFloat t then .float
  else if isInt t then .int
  else if isMoment t then .moment
  else if t = ['<', '<'] then .merge
  else if t = ['='] then .default
  else if indicatorForms.contains t then .unknown
  else .str

/-- The kind of a plain scalar. -/
def Kind.ofScalar (t : Text) : Kind :=
  if t = ['\n'] then .str else Kind.ofForm (withoutNewline t)

end Yaml

end GoCompletion
