import GoCompletion.Capability.Daemon
import GoCompletion.Settings.Load

/-!
# The server

The server keeps the settings, sets everything up when an editor asks for it, and answers completions.
Settings that change are put into effect at once. Whatever a fault leaves undone stays undone, and what
was done before it stays done.
-/

namespace GoCompletion

/-- The state of the server. -/
structure Server where
  /-- the home directory -/
  home : Text
  /-- the environment -/
  environment : List (Text × Text) := []
  /-- the settings that hold -/
  settings : Settings := {}
  /-- the parts that work together, once they have been set up -/
  engine : Option Engine := none
  /-- completions are answered -/
  listening : Bool := false
  /-- the documents that are open -/
  documents : DocumentStore := {}
  /-- the world outside -/
  host : Host := {}

namespace Server

/-- An act on the exchange about a completion; without the parts that work together there is only the
answer `idle`. -/
def exchange {α : Type} (idle : α) (p : Position) (a : Act Exchange α) : Act Server α := fun s =>
  match s.engine with
  | none => (.ok idle, s)
  | some e =>
    let x : Exchange :=
      { session := { e with host := s.host }, documents := s.documents, position := p }
    let (r, x) := a x
    (r, { s with engine := some x.session.toEngine, host := x.session.host })

/-- An act on the session, if there is one. -/
def onSession (a : Act Session Unit) : Act Server Unit :=
  exchange () ⟨0, 0⟩ (Exchange.onSession a)

/-- The root of the workspace that a URI names. -/
def rootOf (uri : Text) : Except Fault (Option Path) :=
  if uri.isEmpty then .ok none
  else
    (Uri.ofText uri).map fun u =>
      match u.filePath with
      | [] => none
      | path => some (.ofText path)

/-- The parts that work together, set up anew. -/
def startEngine (s : Server) (settings : Settings) : Server :=
  { s with
    settings
    engine := some (.start { home := s.home, environment := s.environment } settings true) }

/-- Looks for the daemon, tells about it and hands the settings to it. -/
def greetDaemon : Act Session Unit := do
  match ← Session.findTool daemonName with
  | none => Session.tell .daemonWanted
  | some path =>
    Session.tell (.daemonFound path)
    Session.pushSettings

/-- Sets everything up for a workspace. -/
def setUp (rootUri : Text) (options : Datum) : Act Server Unit := do
  let root ← Act.ofExcept (rootOf rootUri)
  let settings ← Act.ofExcept (Settings.load (← Act.get).host.files root options)
  .modify fun s => s.startEngine settings
  -- completions are answered only once the daemon has been greeted
  onSession greetDaemon
  .modify fun s => { s with listening := true }

/-- Puts a layer over the settings and the result into effect. -/
def reconfigure (layer : Datum) : Act Server Unit := do
  let settings ← Act.ofExcept ((← Act.get).settings.overlay layer)
  .modify fun s => { s with settings }
  onSession do
    Session.configure settings
    Session.pushSettings

/-- Opens a document. -/
def openDocument (d : Document) : Act Server Unit :=
  .modify fun s => { s with documents := s.documents.insert d }

/-- Answers a completion. -/
def complete (p : CompletionParams) (position : Position) : Act Server CompletionList := do
  if (← Act.get).listening then
    exchange {} position (Capability.completeAll p (Capability.common.map (·.2)))
  else return {}

/-- The capability of a name, once completions are answered. -/
def capability? (s : Server) (name : Text) : Option Capability :=
  if s.listening then Capability.find? name Capability.common else none

/-- Some work, and behind it what it left to be settled. -/
def settled {α : Type} (work : Act Server α) : Act Server α := do
  let r ← work.attempt
  onSession Session.settle
  Act.ofExcept r

end Server

end GoCompletion
