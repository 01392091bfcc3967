import GoCompletion.Fault

/-!
# Reading that ends early

A YAML text may have no value for two reasons: it is no YAML, or holds something that is unknown here, and
then it is **refused** and says nothing; or something in it spells no value, and that is a **fault**, which
ends whatever wanted the value. Of two reasons the one that is met first counts, so a text is read no
further than it is needed.
-/

namespace GoCompletion

namespace Yaml

/-- Why reading ends without a value. -/
inductive Halt where
  /-- the text is no YAML, or has no meaning here -/
  | refused
  /-- something in the text spells no value -/
  | fault (cause : Fault)
  deriving DecidableEq, Repr

/-- A result, or the reason why there is none. -/
abbrev Result (α : Type) : Type := Except Halt α

/-- A refusal. -/
def refuse {α : Type} : Result α := .error .refused

/-- A fault. -/
def fault {α : Type} (cause : Fault) : Result α := .error (.fault cause)

/-- The value that is given; a refusal where there is none. -/
def orRefuse {α : Type} : Option α → Result α
  | some a => .ok a
  | none => refuse

/-- The value or the fault that is given. -/
def orFault {α : Type} (r : Except Fault α) : Result α := r.mapError .fault

/-- What a text says that may be refused: nothing then. -/
def Result.toExcept {α : Type} : Result α → Except Fault (Option α)
  | .ok a => .ok (some a)
  | .error .refused => .ok none
  | .error (.fault cause) => .error cause

end Yaml

end GoCompletion
