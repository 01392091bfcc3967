import GoCompletion.Import.Clause
import GoCompletion.Text.Utf8

/-!
# Adding an import

An import joins the first import block, right behind its opening paren, or else follows the line of the
package clause; a text with neither cannot take one. Nothing else of the text changes. The cursor, a
number of bytes, moves along with the text that stands in front of it.
-/

namespace GoCompletion

/-- The position behind what `after` finds at the first line start where it finds something; the text
starts at position `i`, at a line start or not. -/
def firstAtLineStart (after : Text → Option Text) (i : Nat) (atStart : Bool) : Text → Option Nat
  | [] => none
  | c :: r =>
    match if atStart then after (c :: r) else none with
    | some rest => some (i + ((c :: r).length - rest.length))
    | none => firstAtLineStart after (i + 1) (c == '\n') r

/-- A place for an import: its position, and what has to stand in front of the quoted path. -/
structure ImportSite where
  /-- the position at which the import is put in -/
  position : Nat
  /-- what is put in front of the quoted path -/
  lead : Text
  deriving DecidableEq, Repr

/-- The place for an import in a text. -/
def importSite (t : Text) : Option ImportSite :=
  match firstAtLineStart afterBlockOpening 0 true t with
  | some k => some ⟨k, ['\n', '\t']⟩
  | none =>
    (firstAtLineStart afterPackageClause 0 true t).map fun k => ⟨k, "\n\nimport ".toList⟩

/-- A text with an import added and the cursor moved along. -/
structure AddedImport where
  /-- the text with the import -/
  text : Text
  /-- the cursor, in bytes -/
  offset : Int
  deriving DecidableEq, Repr

/-- What is put in for an import of `path`. -/
def ImportSite.insertion (s : ImportSite) (path : Text) : Text := s.lead ++ ['"'] ++ path ++ ['"']

/-- The text with an import of `path`, for a cursor at the byte `offset`. -/
def addImport (t path : Text) (offset : Int) : Option AddedImport :=
  (importSite t).map fun s =>
    let inserted := s.insertion path
    { text := t.take s.position ++ inserted ++ t.drop s.position
      offset :=
        if Utf8.byteLength (t.take s.position) ≤ offset then offset + Utf8.byteLength inserted
        else offset }

end GoCompletion
