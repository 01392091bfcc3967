import GoCompletion.Client.Basic
import GoCompletion.Package.Index
import GoCompletion.Provider.Basic

/-!
# Sessions

The parts that work together on completions: the finder of tools, the index of packages and the
provider, with the world outside. Acts on a session look for tools, run them and write notices; all that
the library knows of tools goes through `findTool` and `exec`.
-/

namespace GoCompletion

/-- What is known of the packages; each part is filled once and kept. -/
structure PackageIndex where
  /-- the packages that can be imported -/
  groups : Option PackageGroups := none
  /-- vendored packages can be imported -/
  vendoring : Option Bool := none

/-- The parts that work together. -/
structure Engine where
  /-- the finder and runner of tools -/
  client : Client
  /-- what is known of the packages -/
  index : PackageIndex := {}
  /-- the provider -/
  provider : Provider
  /-- there is an editor that notices and questions can be sent to -/
  connected : Bool := true

/-- The parts for a client and settings, which tell how long its runs may take. -/
def Engine.start (c : Client) (s : Settings) (connected : Bool) : Engine :=
  { client := { c with limit := s.timeout }, provider := .ofSettings s, connected }

/-- The parts with the world outside. -/
structure Session extends Engine where
  /-- the world outside -/
  host : Host := {}
  /-- the capabilities of the server know the provider -/
  attached : Bool := true

namespace Session

/-- An act on the world outside. -/
def outside {α : Type} (a : Act Host α) : Act Session α :=
  a.within (·.host) fun s host => { s with host }

/-- Changes the provider. -/
def changeProvider (f : Provider → Provider) : Act Session Unit :=
  .modify fun s => { s with provider := f s.provider }

/-- Writes a notice, if there is an editor. -/
def tell (n : Notice) : Act Session Unit := do
  if (← Act.get).connected then outside (Host.record (.log n))

/-- Writes a notice about what a tool has written as errors, unless that is blank. -/
def tellErrors (r : RunResult) (notice : Text → Notice) : Act Session Unit :=
  if r.errors.strip.isEmpty then pure () else tell (notice r.errors.strip)

/-- The path of a tool, if it is installed. -/
def findTool (name : Text) : Act Session (Option Text) := fun s =>
  let (path, client) := s.client.find s.host.files name
  (path, { s with client })

/-- Runs a tool. -/
def exec (i : Invocation) : Act Session RunResult := do
  outside (Host.run (.real (← Act.get).client.limit) i)

/-! ## The daemon -/

/-- The import path of the daemon. -/
def daemonPackage : Text := "github.com/nsf/gocode".toList

/-- The word for a truth value. -/
def switchWord (on : Bool) : Text := if on then "true".toList else "false".toList

/-- Sets an option of the daemon, if that is installed. -/
def setOption (name : Text) (on : Bool) : Act Session (Option RunResult) := do
  match ← findTool daemonName with
  | none => return none
  | some path =>
    return some (← exec { command := path, args := ["set".toList, name, switchWord on] })

/-- Sets an option of the daemon and tells what that has to say; whether it is installed. -/
def pushOption (name : Text) (on : Bool) : Act Session Bool := do
  match ← setOption name on with
  | none => return false
  | some r =>
    tellErrors r (.optionErrors name)
    return true

/-- Sets the options of the daemon to what the provider goes by. -/
def pushSettings : Act Session Unit := do
  let p := (← Act.get).provider
  if ← pushOption "unimported-packages".toList p.unimportedPackages then
    let _ ← pushOption "propose-builtins".toList p.proposeBuiltins

/-- Stops the daemon, if it is installed. -/
def closeDaemon : Act Session (List RunResult) := do
  match ← findTool daemonName with
  | none => return []
  | some path => return [← exec { command := path, args := ["close".toList] }]

/-- Installs the daemon anew, if Go is installed. It is looked for again afterwards. -/
def installDaemon : Act Session (List RunResult) := do
  match ← findTool goName with
  | none => return []
  | some path =>
    let r ← exec { command := path, args := ["get".toList, "-u".toList, daemonPackage] }
    .modify fun s => { s with client := s.client.forget daemonName }
    return [r]

/-- Stops the daemon and installs it anew. -/
def updateDaemon : Act Session (List RunResult) := do
  let closed ← closeDaemon
  return closed ++ (← installDaemon)

/-- Puts settings into effect. -/
def configure (settings : Settings) : Act Session Unit :=
  .modify fun s =>
    { s with
      provider := s.provider.configure settings
      client := { s.client with limit := settings.timeout } }

end Session

end GoCompletion
