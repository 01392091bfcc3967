import GoCompletion.Fault
import GoCompletion.Path.Basic
import GoCompletion.Text.Utf8

/-!
# Files

The files that there are, by their paths. A directory is there if it is named or if something lies below
it. Names are looked up one component after the other (`FileTree.walk`): single dots and doubled slashes
say nothing, double dots lead upwards, and what a slash follows has to be a directory. **A name that is
too long stands in the way only where it is reached**: behind what is missing nobody looks at it.

The text of a file is in UTF-8, and any kind of line end in it counts as a newline.
-/

namespace GoCompletion

/-- What there is under a path. -/
inductive FileEntry where
  /-- a directory -/
  | directory
  /-- a file -/
  | file (executable : Bool) (bytes : List UInt8)
  deriving DecidableEq, Repr

/-- The files and directories, by the components of their paths. -/
structure FileTree where
  /-- what is named, no path twice -/
  entries : List (List Text × FileEntry) := []
  deriving DecidableEq, Repr

namespace FileTree

/-! ## Names -/

/-- Components with double dots resolved: they lead upwards, and at the top nowhere. -/
def resolved (parts : List Text) : List Text :=
  (parts.foldl (fun up p => if p = ['.', '.'] then up.tail else p :: up) []).reverse

/-- There is an entry under components, or below them. The top is always there. -/
def entryAt (f : FileTree) (parts : List Text) : Option FileEntry :=
  match f.entries.find? fun e => e.1 = parts with
  | some e => some e.2
  | none =>
    if parts.isEmpty || f.entries.any fun e => parts.isPrefixOf e.1 then some .directory else none

/-- The greatest number of bytes in a component. -/
def mostComponentBytes : Nat := 255

/-- The greatest number of bytes in a name. -/
def mostNameBytes : Nat := 4095

/-- The components of where a component leads from a directory, both from the last one to the first. -/
def step (up : List Text) (p : Text) : List Text :=
  if p = [] ∨ p = ['.'] then up else if p = ['.', '.'] then up.tail else p :: up

/-- What there is where components lead from others, which are given from the last one to the first. -/
def walk (f : FileTree) (up : List Text) : List Text → Except Obstacle FileEntry
  | [] => (f.entryAt up.reverse).elim (.error .missing) .ok
  | p :: rest =>
    match f.entryAt up.reverse with
    | none => .error .missing
    | some (.file ..) => .error .throughFile
    | some .directory =>
      if Utf8.byteLength p > mostComponentBytes then .error .longName
      else f.walk (step up p) rest

/-- What there is under a name. A name without a slash in front is looked up where there is nothing. -/
def lookup (f : FileTree) (name : Text) : Except Obstacle FileEntry :=
  if name.elem '\x00' then .error .zeroCharacter
  else if name.isEmpty then .error .missing
  else if Utf8.byteLength name > mostNameBytes then .error .longName
  else (if name.head? = some '/' then f else {}).walk [] (Text.pieces ['/'] name)

/-- There is a file under the name. Nothing is known about names that are too long. -/
def isFile (f : FileTree) (name : Text) : Except Fault Bool :=
  match f.lookup name with
  | .ok (.file ..) => .ok true
  | .error .longName => .error (.unopened .longName name)
  | _ => .ok false

/-- There is a file under the name, and it may be run. -/
def isExecutable (f : FileTree) (name : Text) : Bool :=
  match f.lookup name with
  | .ok (.file x _) => x
  | _ => false

/-! ## Texts -/

/-- The bytes of a file. -/
def bytes (f : FileTree) (name : Text) : Except Fault (List UInt8) :=
  match f.lookup name with
  | .ok (.file _ bytes) => .ok bytes
  | .ok .directory => .error (.unopened .directory name)
  | .error o => .error (.unopened o name)

/-- A text with every kind of line end written as a newline. -/
def withNewlines : Text → Text
  | [] => []
  | '\r' :: '\n' :: r => '\n' :: withNewlines r
  | '\r' :: r => '\n' :: withNewlines r
  | c :: r => c :: withNewlines r

/-- The text that the bytes of a file are. -/
def textOf (bytes : List UInt8) : Except Fault Text :=
  match Utf8.decode bytes with
  | .ok t => .ok (withNewlines t)
  | .error flaw => .error (.badEncoding flaw)

/-- The text of a file. -/
def text (f : FileTree) (name : Text) : Except Fault Text := (f.bytes name).bind textOf

/-! ## Changes -/

/-- The files with one more entry. -/
def insert (f : FileTree) (name : Text) (e : FileEntry) : FileTree :=
  let parts := resolved (Path.partsOf name)
  { f with entries := (parts, e) :: f.entries.filter fun e => e.1 != parts }

/-- The files without the one under a name; the directories around it stay. -/
def erase (f : FileTree) (name : Text) : FileTree :=
  let parts := resolved (Path.partsOf name)
  { f with
    entries :=
      (parts.dropLast, .directory) :: f.entries.filter fun e => e.1 != parts && e.1 != parts.dropLast }

end FileTree

end GoCompletion
