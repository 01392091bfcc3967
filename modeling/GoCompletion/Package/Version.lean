import GoCompletion.Number.Numeral

/-!
# Versions of Go

The first `go` in a text that two numbers with a point between them follow tells the version. What is
vendored can be imported since version 1.6, and in version 1.5 if the experiment is switched on.
-/

namespace GoCompletion

/-- A version of Go, as it is written. -/
structure GoVersion where
  /-- the digits in front of the point -/
  major : Text
  /-- the digits behind it -/
  minor : Text
  deriving DecidableEq, Repr

namespace GoVersion

/-- The version that a text begins with. -/
def atStart? (t : Text) : Option GoVersion :=
  match t with
  | 'g' :: 'o' :: r =>
    let major := r.takeWhile isDigit
    match r.dropWhile isDigit with
    | '.' :: r =>
      let minor := r.takeWhile isDigit
      if major.isEmpty || minor.isEmpty then none else some { major, minor }
    | _ => none
  | _ => none

/-- The first version in a text. -/
def find? : Text → Option GoVersion
  | [] => none
  | c :: r =>
    match atStart? (c :: r) with
    | some v => some v
    | none => find? r

/-- The number that digits of a version spell. -/
def numberOf (ds : Text) : Except Fault Nat := Numeral.ofDigits (ds.map Numeral.plainChar)

/-- What is vendored can be imported with a version. -/
def allowsVendoring (experiment : Bool) (major minor : Nat) : Bool :=
  major > 1 || (major == 1 && (minor ≥ 6 || (minor == 5 && experiment)))

/-- The word for versions under development. -/
def develWord : Text := "devel".toList

/-- What is vendored can be imported: with the version that a text tells, or with one under development
if it tells none. -/
def vendors (experiment : Bool) (output : Text) : Except Fault Bool :=
  match find? output with
  | none => .ok (output.contains develWord)
  | some v =>
    (numberOf v.major).bind fun major =>
      (numberOf v.minor).map fun minor => allowsVendoring experiment major minor

end GoVersion

end GoCompletion
