import GoCompletion.Text.Basic

/-!
# Paths

A path is taken by its components, without looking at any file: empty components and single dots say
nothing and are dropped, double dots stay. A path may begin with one slash or, kept apart from that, with
exactly two.
-/

namespace GoCompletion

/-- A path: the slashes it begins with, none, one or two, and its components. -/
structure Path where
  /-- the number of slashes in front -/
  slashes : Nat
  /-- the components in order -/
  parts : List Text
  deriving DecidableEq, Repr

namespace Path

/-- The components that a text has between its slashes. -/
def partsOf (t : Text) : List Text :=
  (Text.pieces ['/'] t).filter fun p => !p.isEmpty && p != ['.']

/-- The path that a text spells. Three slashes or more in front are one. -/
def ofText (t : Text) : Path :=
  let n := (t.takeWhile (· == '/')).length
  { slashes := if n ≤ 2 then n else 1, parts := partsOf t }

/-- The text of a path; the empty one is a dot. -/
def toText (p : Path) : Text :=
  if p.slashes = 0 ∧ p.parts = [] then ['.']
  else List.replicate p.slashes '/' ++ Text.join ['/'] p.parts

/-- The path `q` seen from `p`: one with slashes in front is itself. -/
def join (p q : Path) : Path :=
  if q.slashes = 0 then { p with parts := p.parts ++ q.parts } else q

/-- The path that a text spells, seen from `p`. -/
def child (p : Path) (t : Text) : Path := p.join (ofText t)

/-- The path without its last component. -/
def parent (p : Path) : Path := { p with parts := p.parts.dropLast }

/-- `p` is `root` or lies below it, by whole components. -/
def isUnder (p root : Path) : Bool := p.slashes == root.slashes && root.parts.isPrefixOf p.parts

end Path

/-- The entries of a list of directories that colons separate. -/
def directoriesOf (t : Text) : List Text := (Text.pieces [':'] t).filter (!·.isEmpty)

end GoCompletion
