import GoCompletion.Session.Query

/-!
# Runs of a session

A session is worked with by operations, one step after another. Each step has its own circumstances: the
files, what the tools that are run come to, and what the editor answers to questions. **Nothing is assumed
about them**, so that a run stands for anything that may happen outside.

* `Operation` — what can be done with a session, and `Operation.act`, the act that does it;
* `Step.run` — one step, with all that is left to be settled behind it;
* `Session.run` — steps in turn, beginning with a new session (`Session.start`) or with any other.
-/

namespace GoCompletion

/-- What can be done with a session. -/
inductive Operation where
  /-- a completion is asked for -/
  | request (r : Request)
  /-- an answer of the daemon is made suggestions of -/
  | read (answer : List Datum) (t : Text) (index : Int)
  /-- settings are put into effect -/
  | configure (settings : Settings)
  /-- other scopes are disabled -/
  | disable (blacklist : Text)
  /-- the options of the daemon are set to what the settings say -/
  | push
  /-- one option of the daemon is set -/
  | setOption (name : Text) (on : Bool)
  /-- somebody subscribes -/
  | subscribe (u : Subscriber)
  /-- the daemon is found to be in trouble -/
  | bounce
  /-- the provider is disposed of -/
  | dispose
  /-- packages are looked up -/
  | packages
  /-- it is looked up whether vendored packages can be imported -/
  | vendoring
  /-- a package to import is looked for -/
  | resolve (t : Text) (index offset : Int) (file : Path)
  /-- the daemon is updated -/
  | update

/-- The act that an operation is, without its answer. -/
def Operation.act : Operation → Act Session Unit
  | request r => do let _ ← Session.suggest r
  | read answer t index => do let _ ← Session.suggestionsOf answer t index
  | configure settings => Session.configure settings
  | disable blacklist =>
    Session.changeProvider fun p => { p with suppression := p.suppression.select blacklist }
  | push => Session.pushSettings
  | setOption name on => do let _ ← Session.setOption name on
  | subscribe u => Session.subscribe u
  | bounce => Session.learnPanic
  | dispose => Session.dispose
  | packages => do let _ ← Session.allPackages
  | vendoring => do let _ ← Session.supportsVendoring
  | resolve t index offset file => do let _ ← Session.importWanted t index offset file
  | update => do let _ ← Session.updateDaemon

/-- An operation and the circumstances in which it takes place. -/
structure Step where
  /-- the operation -/
  operation : Operation
  /-- the files -/
  files : FileTree := {}
  /-- what the runs of tools come to -/
  script : Script := []
  /-- what the editor answers to questions -/
  replies : List Reply := []

namespace Step

/-- The session at the beginning of a step. What has been done outside so far stays on record. -/
def enter (x : Step) (s : Session) : Session :=
  { s with host := { s.host with files := x.files, script := x.script, replies := x.replies } }

@[simp] theorem enter_provider (x : Step) (s : Session) : (x.enter s).provider = s.provider := rfl

/-- The session behind a step. A fault of the operation does not end the session. -/
def run (x : Step) (s : Session) : Session := (Session.settled x.operation.act (x.enter s)).2

end Step

namespace Session

/-- A new session. -/
def start (c : Client) (settings : Settings) (connected : Bool) (host : Host) : Session :=
  { Engine.start c settings connected with host }

/-- The session behind some steps. -/
def run (s : Session) : List Step → Session
  | [] => s
  | x :: xs => run (x.run s) xs

@[simp] theorem run_nil (s : Session) : s.run [] = s := rfl

@[simp] theorem run_cons (s : Session) (x : Step) (xs : List Step) :
    s.run (x :: xs) = (x.run s).run xs := rfl

end Session

end GoCompletion
