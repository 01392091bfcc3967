import GoCompletion.Datum.Basic

/-!
# Candidates

What the completion daemon proposes: a name with its class and its type, or, in place of the first
candidate, the word that tells that the daemon itself is in trouble.
-/

namespace GoCompletion

/-- A candidate of the daemon. -/
structure Candidate where
  /-- the class, such as `func`, `package` or `var` -/
  cls : Text
  /-- the name -/
  name : Text
  /-- the text of the type -/
  type : Text := []
  deriving DecidableEq, Repr

namespace Candidate

/-- The text under a key, as it is shown. -/
def fieldOf (d : Datum) (key : String) : Text := ((d.get? key.toList).getD .null).shownOrEmpty

/-- The candidate that a datum is. What is no mapping is a name. -/
def ofDatum (d : Datum) : Candidate :=
  match d with
  | .map _ => { cls := fieldOf d "class", name := fieldOf d "name", type := fieldOf d "type" }
  | _ => { cls := [], name := d.shownOrEmpty }

/-- The word of a daemon in trouble. -/
def panicWord : Text := "PANIC".toList

/-- The candidate tells that the daemon is in trouble. -/
def isPanic (c : Candidate) : Bool :=
  c.cls == panicWord && c.type == panicWord && c.name == panicWord

/-- The candidate that tells that the daemon is in trouble: the same word three times. -/
def panic : Candidate := { cls := "PANIC".toList, name := "PANIC".toList, type := "PANIC".toList }

theorem isPanic_iff {c : Candidate} : c.isPanic = true ↔ c = panic := by
  obtain ⟨cls, name, type⟩ := c
  simp [isPanic, panic, panicWord, and_assoc, and_comm (a := name = _)]

/-- The class of funcs. -/
def funcClass : Text := "func".toList

end Candidate

end GoCompletion
