import GoCompletion.Text.Blank

/-!
# The index of packages

Import paths are grouped by the short name that a package is referred to by, its last component. Within
a group the paths with fewer slashes come first, so that the standard library wins over packages of the
same name from elsewhere. Internal packages cannot be imported and are left out.
-/

namespace GoCompletion

/-- The name a package is referred to by. -/
def packageName (path : Text) : Text :=
  let trimmed := (path.reverse.dropWhile (· == '/')).reverse
  (trimmed.reverse.takeWhile (· != '/')).reverse

/-- The component of import paths that keeps a package from being imported. -/
def internalComponent : Text := "internal".toList

/-- The import path has a component `internal`. -/
def isInternal (path : Text) : Bool := (Text.pieces ['/'] path).contains internalComponent

/-- The number of slashes of an import path. -/
def slashCount (path : Text) : Nat := path.count '/'

/-- The order within a group: fewer slashes first, and the order of code points among as many. -/
def pathBefore (a b : Text) : Bool :=
  slashCount a < slashCount b || (slashCount a == slashCount b && List.le a b)

/-- Import paths grouped by short name, in the order in which the names first occurred. -/
abbrev PackageGroups : Type := List (Text × List Text)

namespace PackageGroups

/-- The groups with one more import path, which is not added twice. -/
def insert (name path : Text) : PackageGroups → PackageGroups
  | [] => [(name, [path])]
  | (n, paths) :: rest =>
    if n = name then (n, if paths.contains path then paths else paths ++ [path]) :: rest
    else (n, paths) :: insert name path rest

/-- The import paths that may be listed by a line: the stripped line, unless it is empty or internal. -/
def listed (line : Text) : Option Text :=
  let path := Text.strip line
  if path.isEmpty || isInternal path then none else some path

/-- The groups of the import paths that lines list. -/
def ofLines (lines : List Text) : PackageGroups :=
  let groups := (lines.filterMap listed).foldl (fun g path => insert (packageName path) path g) []
  groups.map fun g => (g.1, g.2.mergeSort pathBefore)

/-- The import paths of a short name; none for a name that does not occur. -/
def find (g : PackageGroups) (name : Text) : List Text :=
  match g with
  | [] => []
  | (n, paths) :: rest => if n = name then paths else find rest name

end PackageGroups

end GoCompletion
