import GoCompletion.Signature.Paren
import GoCompletion.Signature.Segments

/-!
# Reading signatures

Reading a type is **total**: whatever does not look like a func type is a signature that is no func and
keeps its text. Nested func types are read down to a fixed number of levels, behind which a func type
is kept as plain text; so reading always ends, also on texts made to nest without end.
-/

namespace GoCompletion

/-- How many levels of func types below the outermost one are taken apart. -/
def nestingLimit : Nat := 64

/-- A type that is not taken apart; a blank one has no name. -/
def Signature.plain (t : Text) : Signature := if Text.isBlank t then {} else { name := t }

/-- The parameter that a segment spells: a func type or another type alone, or an identifier, a blank
and a type. `read` takes func types apart. -/
def Parameter.ofSegment (read : Text → Signature) (segment : Text) : Parameter :=
  if Text.startsWith segment funcToken then typed [] segment
  else
    -- the first blank ends the identifier
    match Text.cut [' '] segment with
    | none => { name := segment, type := .plain segment }
    | some (identifier, type) =>
      if Text.startsWith type funcToken then typed identifier type
      else { name := segment, identifier, type := .plain type }
where
  /-- a parameter with a type that begins like a func type -/
  typed (identifier type : Text) : Parameter :=
    let s := read type
    if s.isFunc then { name := segment, identifier, isFunc := true, type := .signature s }
    else { name := segment, identifier, type := .plain type }

/-- A type, with func types taken apart on the given number of levels. -/
def Signature.ofTextWithin : Nat → Text → Signature
  | 0, t => .plain t
  | levels + 1, t =>
    match FuncText.ofText t with
    | none => .plain t
    | some f =>
      { isFunc := true
        name := t
        args := (segmentsOf f.args).map (Parameter.ofSegment (ofTextWithin levels))
        returns := (segmentsOf (f.returns.getD [])).map
          (Parameter.ofSegment (ofTextWithin levels)) }

/-- A type: the outermost func type and those nested in it up to the limit are taken apart. -/
def Signature.ofText (t : Text) : Signature := .ofTextWithin (nestingLimit + 1) t

/-- The parameters of the text of a parameter list that stands by itself. -/
def parametersOf (t : Text) : List Parameter :=
  (segmentsOf t).map (Parameter.ofSegment Signature.ofText)

end GoCompletion
