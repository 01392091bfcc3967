import GoCompletion.Proofs.Fault
import GoCompletion.Yaml.Meaning

/-!
# What something that spells no value comes to

Reading YAML ends early because the text is refused, or with a fault. **The faults of a YAML text are few**
(`Yaml.Slip`): a scalar does not have the form of its kind, the number of a character is too large, or nodes
lie too deep within each other. Results with no other fault are `Confined`, and so is what is made of them; of
the values of scalars it is shown here (`Yaml.Kind.confined_value`).
-/

namespace GoCompletion

namespace Yaml

/-- What a YAML text comes to in which something spells no value. -/
inductive Slip : Fault → Prop
  /-- a text or a number in it does not have the form that it has to -/
  | form (message : Text) : Slip (.badValue message)
  /-- there is nothing where a number has to be -/
  | nothing : Slip .outOfRange
  /-- a part of a number counts too much -/
  | number : Slip .numberTooLarge
  /-- the number of a character is too large to be looked at -/
  | character : Slip .codeTooLarge
  /-- a text is no word for a truth value -/
  | word (t : Text) : Slip (.unknownWord t)
  /-- a text does not have the form of a point in time -/
  | moment : Slip .notMoment
  /-- there are entries in place of the text of a point in time -/
  | entries : Slip .entriesForMoment
  /-- nodes lie too deep within each other -/
  | depth : Slip (.tooDeep [])

/-- The text is refused, or something in it has slipped. -/
def Halt.IsSlip : Halt → Prop
  | .refused => True
  | .fault e => Slip e

/-- The only faults of the result are slips. -/
abbrev Confined {α : Type} (r : Result α) : Prop := FailsOnly Halt.IsSlip r

section Confined

variable {α : Type}

theorem confined_refuse : Confined (refuse : Result α) := .error trivial

theorem confined_fault {e : Fault} (h : Slip e) : Confined (fault e : Result α) := .error h

theorem confined_orRefuse (o : Option α) : Confined (orRefuse o) := by
  cases o with
  | none => exact confined_refuse
  | some a => exact .ok a

theorem confined_orFault {r : Except Fault α} (h : FailsOnly Slip r) : Confined (orFault r) := by
  cases r with
  | ok a => exact .ok a
  | error e => exact .error (h e rfl)

end Confined

/-! ## The values of scalars -/

theorem slips_ofDigits (ds : Text) : FailsOnly Slip (Numeral.ofDigits ds) :=
  .ite (.error (.form _)) (.ok _)

theorem slips_integer (base : Nat) (t : Text) : FailsOnly Slip (Numeral.integer base t) :=
  .ite (.error (.form _)) (.ite (.error (.form _)) (.ok _))

theorem slips_decimal (t : Text) : FailsOnly Slip (Numeral.decimal t) := by
  unfold Numeral.decimal
  dsimp only
  split
  · exact .ok _
  · exact .error (.form _)

theorem slips_signed (t : Text) : FailsOnly Slip (signed t) := by
  cases t with
  | nil => exact .error .nothing
  | cons c r => exact .ok _

theorem slips_unsignedInt (t : Text) : FailsOnly Slip (unsignedInt t) := by
  unfold unsignedInt
  split
  · exact .error .nothing
  · exact .ok _
  · exact slips_integer _ _
  · exact slips_integer _ _
  · exact slips_integer _ _
  · exact .ite (.map (.mapM (slips_integer 10) _) _) (slips_integer _ _)

theorem slips_roundedSixtieths (t : Text) : FailsOnly Slip (roundedSixtieths t) := by
  refine .bind (.mapM slips_decimal _) fun xs => .map (.foldl (fun r x hr => ?_) _ (.ok _)) _
  exact .bind hr fun s => .ite (.error .number) (.ok _)

theorem slips_unsignedFloat (t : Text) : FailsOnly Slip (unsignedFloat t) :=
  .ite (.ok _) (.ite (.ok _) (.ite (slips_roundedSixtieths t) (slips_decimal t)))

theorem slips_boolOf (t : Text) : FailsOnly Slip (boolOf t) := by
  unfold boolOf
  split
  · exact .ok _
  · exact .error (.word _)

theorem slips_momentOf (t : Text) : FailsOnly Slip (momentOf t) := by
  unfold momentOf
  split
  · exact .error .moment
  · split
    · exact .error (.form _)
    · exact .ok _

/-- **The value of a scalar** of any kind. -/
theorem Kind.confined_value (k : Kind) (t : Text) : Confined (k.value t) := by
  cases k with
  | null => exact .ok _
  | str => exact .ok _
  | bool => exact .map (confined_orFault (slips_boolOf t)) _
  | int => exact .map (confined_orFault (.bind (slips_signed _) fun u => .map (slips_unsignedInt u.2) _)) _
  | float => exact .map (confined_orFault (.bind (slips_signed _) fun u => .map (slips_unsignedFloat u.2) _)) _
  | bytes => exact .map (confined_orRefuse _) _
  | moment => exact .map (confined_orFault (slips_momentOf t)) _
  | merge | default | seq | map | set | pairs | unknown => exact confined_refuse

end Yaml

end GoCompletion
