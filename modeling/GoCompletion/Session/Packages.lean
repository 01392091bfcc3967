import GoCompletion.Package.Version
import GoCompletion.Session.Basic
import GoCompletion.Text.Lines

/-!
# Looking packages up

The index of packages is listed by Go once and kept, and so is whether vendored packages can be imported.
**Only what a successful run says is kept**; after any other run the next lookup asks again.
-/

namespace GoCompletion

namespace Session

/-- Keeps the index of packages. -/
def keepGroups (g : PackageGroups) : Act Session Unit :=
  .modify fun s => { s with index := { s.index with groups := some g } }

/-- Keeps whether vendored packages can be imported. -/
def keepVendoring (b : Bool) : Act Session Unit :=
  .modify fun s => { s with index := { s.index with vendoring := some b } }

/-- The arguments with which Go lists the import paths of all packages. -/
def listArgs : List Text :=
  ["list".toList, "-e".toList, "-f".toList, "\x7b\x7b.ImportPath\x7d\x7d".toList, "all".toList]

/-- Lists the packages anew. -/
def listPackages (go : Text) : Act Session PackageGroups := do
  let r ← exec { command := go, args := listArgs }
  tellErrors r .listingErrors
  let groups := PackageGroups.ofLines r.output.bareLines
  if r.isOk then keepGroups groups
  return groups

/-- The packages that can be imported, by short name. -/
def allPackages : Act Session PackageGroups := do
  match (← Act.get).index.groups with
  | some g => return g
  | none =>
    match ← findTool goName with
    | none => return []
    | some go => listPackages go

/-- The experiment for vendored packages is switched on. -/
def hasVendorExperiment (c : Client) : Bool :=
  c.valueOf? "GO15VENDOREXPERIMENT" == some ['1']

/-- Asks for the version of Go. -/
def askVersion (go : Text) : Act Session Bool := do
  let r ← exec { command := go, args := ["version".toList] }
  if r.isOk then
    let vendoring ←
      Act.ofExcept (GoVersion.vendors (hasVendorExperiment (← Act.get).client) r.output)
    keepVendoring vendoring
    return vendoring
  else return false

/-- What is vendored can be imported. -/
def supportsVendoring : Act Session Bool := do
  match (← Act.get).index.vendoring with
  | some b => return b
  | none =>
    match ← findTool goName with
    | none => return false
    | some go => askVersion go

end Session

end GoCompletion
