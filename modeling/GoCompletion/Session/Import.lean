import GoCompletion.Import.Insertion
import GoCompletion.Import.Wanted
import GoCompletion.Package.Choice
import GoCompletion.Session.Packages

/-!
# Importing the package that is wanted

The text in front of a dot may name a package that is not imported. Then the completion is tried once
more with a text that imports it.
-/

namespace GoCompletion

namespace Session

/-- The text with an import of `pkg`, if there is a package to import under that name and a place to put
the import. -/
def importNamed (pkg t : Text) (offset : Int) (file : Path) (vendoring : Bool) :
    Act Session (Option AddedImport) := do
  let candidates := (← allPackages).find pkg
  let gopath := (← Act.get).client.gopath
  return match choosePackage file gopath candidates vendoring with
    | some (c :: path) => addImport t (c :: path) offset
    | _ => none

/-- The text with an import of the package that is wanted in front of position `index`. -/
def importWanted (t : Text) (index offset : Int) (file : Path) :
    Act Session (Option AddedImport) := do
  let vendoring ← supportsVendoring
  match ← Act.ofExcept (wantedPackage t index) with
  | none => return none
  | some pkg => importNamed pkg t offset file vendoring

end Session

end GoCompletion
