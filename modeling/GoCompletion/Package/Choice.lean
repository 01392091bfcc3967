import GoCompletion.Path.Basic

/-!
# Choosing an import path

A package vendored at `root/vendor/path` is imported as `path`, but only from files below
`entry/src/root` for an entry of the search path. The first vendored candidate that the file can see so
wins; failing that, the first candidate that is not vendored at all.
-/

namespace GoCompletion

/-- What stands between the root of a vendored package and its import path. -/
def vendorSegment : Text := "/vendor/".toList

/-- What the import path of a package vendored by nobody in particular begins with. -/
def vendorLead : Text := "vendor/".toList

/-- The file can see what is vendored below `root`. -/
def seesVendor (file : Path) (gopath root : Text) : Bool :=
  (directoriesOf gopath).any fun entry =>
    file.isUnder (((Path.ofText entry).child "src".toList).child root)

/-- The import path of a vendored candidate that the file can see. -/
def vendoredPath? (file : Path) (gopath candidate : Text) : Option Text :=
  match Text.cutLast vendorSegment candidate with
  | some (root, path) => if seesVendor file gopath root then some path else none
  | none => none

/-- The candidate is not vendored. -/
def isPlain (candidate : Text) : Bool :=
  !(Text.contains candidate vendorSegment || Text.startsWith candidate vendorLead)

/-- The import path to use in the file, among candidates in order of preference. -/
def choosePackage (file : Path) (gopath : Text) (candidates : List Text) (vendoring : Bool) :
    Option Text :=
  match if vendoring then candidates.findSome? (vendoredPath? file gopath) else none with
  | some path => some path
  | none => candidates.find? isPlain

end GoCompletion
