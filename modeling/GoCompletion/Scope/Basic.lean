import GoCompletion.Scope.Construct
import GoCompletion.Scope.Import

/-!
# Scopes

The scopes of a character are the scope of all Go source, the scope of import paths where it belongs to
one, and the scope of its comment or literal, from the outside inwards. A selector picks scopes out by
the classes, separated by dots, that a scope has to have.
-/

namespace GoCompletion

/-- The scope of all Go source. -/
def sourceScope : Text := "source.go".toList

/-- The scope of import paths. -/
def importScope : Text := "entity.name.import.go".toList

/-- Only strings can be import paths. -/
def Construct.isString : Construct → Bool
  | .doubleString | .rawString => true
  | _ => false

/-- The scopes of the character at position `i`, the outermost first. Outside the text there is only
the scope of the source. -/
def scopesAt (t : Text) (i : Nat) : List Text :=
  match constructAt t i with
  | none => [sourceScope]
  | some (kind, start) =>
    if kind.isString && isImportPath (t.take start) then [sourceScope, importScope, kind.scope]
    else [sourceScope, kind.scope]

/-- The classes of a selector or scope. -/
def classesOf (t : Text) : List Text := Text.pieces ['.'] t

/-- The selector has a class, and all its classes are among those of one of the scopes. -/
def selectorMatches (selector : Text) (scopes : List Text) : Bool :=
  let classes := (classesOf (Text.strip selector)).filter (!·.isEmpty)
  !classes.isEmpty && scopes.any fun scope => classes.all (classesOf scope).contains

end GoCompletion
