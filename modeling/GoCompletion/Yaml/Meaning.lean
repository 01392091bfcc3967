import GoCompletion.Text.Base64
import GoCompletion.Text.Cased
import GoCompletion.Yaml.Halt
import GoCompletion.Yaml.Kind

/-!
# What YAML scalars mean

The value of a scalar of a known kind (`Kind.value`). A scalar may be said to be of a kind without having
the form of one; then it spells no value, and that is a fault. Underscores in numbers count for nothing.
-/

namespace GoCompletion

namespace Yaml

/-- The sign at the start of a number, as whether it is negative, and what is left behind it. There has to
be something. -/
def signed (t : Text) : Except Fault (Bool × Text) :=
  match t with
  | [] => .error .outOfRange
  | _ => .ok (Numeral.sign t)

/-- The sum of numbers, each of which counts sixty times as much as the one behind it. -/
def sixtieths (t : Text) : Except Fault Int :=
  ((Text.pieces [':'] t).mapM (Numeral.integer 10)).map fun ns => ns.foldl (fun n d => 60 * n + d) 0

/-- The integer that a text without its sign spells: a mark or a zero in front tells the base. -/
def unsignedInt (t : Text) : Except Fault Int :=
  match t with
  | [] => .error .outOfRange
  | ['0'] => .ok 0
  | '0' :: 'b' :: r => Numeral.integer 2 r
  | '0' :: 'x' :: r => Numeral.integer 16 r
  | '0' :: _ => Numeral.integer 8 t
  | _ => if t.elem ':' then sixtieths t else Numeral.integer 10 t

/-- The integer that a text spells. -/
def intOf (t : Text) : Except Fault Int :=
  (signed (t.filter (· != '_'))).bind fun u =>
    (unsignedInt u.2).map fun n => if u.1 then -n else n

/-- The sum of numbers, each of which counts sixty times as much as the one behind it, added up from the
last one; every step is rounded. What the first one counts may be too large for that. -/
def roundedSixtieths (t : Text) : Except Fault Binary64 :=
  ((Text.pieces [':'] t).mapM Numeral.decimal).bind fun xs =>
    let step (sum : Except Fault (Binary64 × Nat)) (x : Binary64) : Except Fault (Binary64 × Nat) :=
      sum.bind fun s =>
        let weight := Binary64.ofInt s.2
        if weight.isInfinite then .error .numberTooLarge
        else .ok (s.1.add (x.mul weight), s.2 * 60)
    (xs.reverse.foldl step (.ok (.zero, 1))).map (·.1)

/-- The number that a text in small letters without its sign spells. -/
def unsignedFloat (t : Text) : Except Fault Binary64 :=
  if t = ".inf".toList then .ok (.infinite false)
  else if t = ".nan".toList then .ok .nan
  else if t.elem ':' then roundedSixtieths t
  else Numeral.decimal t

/-- The number that a text spells. -/
def floatOf (t : Text) : Except Fault Binary64 :=
  (signed (Text.lower (t.filter (· != '_')))).bind fun u =>
    (unsignedFloat u.2).map fun x => if u.1 then x.neg else x

/-- The text is the name of what is no number, of which there is only one. -/
def isNanName (t : Text) : Bool := unsigned (Text.lower (t.filter (· != '_'))) = ".nan".toList

/-- The truth value that a text spells. -/
def boolOf (t : Text) : Except Fault Bool :=
  match boolOf? (Text.lower t) with
  | some b => .ok b
  | none => .error (.unknownWord (Text.lower t))

/-- The bytes that a text in ASCII is in base64. -/
def bytesOf? (t : Text) : Option (List UInt8) :=
  if t.all (·.toNat < 0x80) then Base64.decode? t else none

/-- The value of a scalar of a kind. -/
def Kind.value (k : Kind) (t : Text) : Result Datum :=
  match k with
  | .null => .ok .null
  | .bool => (orFault (boolOf t)).map .bool
  | .int => (orFault (intOf t)).map .int
  | .float => (orFault (floatOf t)).map .float
  | .bytes => (orRefuse (bytesOf? t)).map .bytes
  | .moment => (orFault (momentOf t)).map .moment
  | .str => .ok (.text t)
  | .merge | .default | .seq | .map | .set | .pairs | .unknown => refuse

end Yaml

end GoCompletion
