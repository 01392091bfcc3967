import GoCompletion.Completion.Item
import GoCompletion.Completion.Trigger
import GoCompletion.Document.Store
import GoCompletion.Session.Query

/-!
# Capabilities

What a server can do about a completion is done by capabilities. Each decides for itself whether it
takes part, and the items of all that do are put together in order. **A capability that fails costs the
others nothing**: its fault is told, and its items are left out.

A capability that finds the cursor behind the end of its line moves it, and the others see it there.
-/

namespace GoCompletion

/-- The state of an exchange with an editor about a completion. -/
structure Exchange where
  /-- the parts that work together -/
  session : Session
  /-- the documents that are open -/
  documents : DocumentStore := {}
  /-- the position of the cursor -/
  position : Position

/-- What an editor asks for, apart from the position. -/
structure CompletionParams where
  /-- the URI of the document -/
  uri : Text
  /-- what the completion was asked for by, where the editor tells -/
  trigger : Option Trigger := none
  deriving DecidableEq, Repr

/-- Something that can be done about completions. -/
structure Capability where
  /-- the name that faults are told with -/
  name : Text
  /-- what it does -/
  description : Text := []
  /-- it takes part in a completion -/
  accepts : CompletionParams → Act Exchange Bool
  /-- the items that it gives -/
  complete : CompletionParams → Act Exchange CompletionList

namespace Exchange

/-- An act on the session. -/
def onSession {α : Type} (a : Act Session α) : Act Exchange α :=
  a.within (·.session) fun x session => { x with session }

/-- The document of a URI. -/
def document (uri : Text) : Act Exchange Document := do
  let x ← Act.get
  Act.ofExcept (x.documents.get x.session.host.files uri)

/-- The index of the cursor in a text. The cursor is moved if it is behind the end of its line. -/
def locate (t : Text) : Act Exchange Nat := fun x =>
  let (index, position) := Document.locate t x.position
  (.ok index, { x with position })

end Exchange

namespace Capability

/-- What a capability gives, nothing if it does not take part. -/
def contribution (p : CompletionParams) (c : Capability) : Act Exchange CompletionList := do
  if ← c.accepts p then c.complete p else return {}

/-- Tells that a capability failed. -/
def tellFault (c : Capability) (e : Fault) : Act Exchange Unit :=
  Exchange.onSession (Session.outside (Host.record (.log (.capabilityFailed c.name e))))

/-- What a capability gives, nothing if it fails. -/
def safely (p : CompletionParams) (c : Capability) : Act Exchange CompletionList := do
  match ← (c.contribution p).attempt with
  | .ok l => return l
  | .error e =>
    c.tellFault e
    return {}

/-- What capabilities give together. -/
def completeAll (p : CompletionParams) : List Capability → Act Exchange CompletionList
  | [] => return {}
  | c :: rest => do
    let l ← c.safely p
    return l.append (← completeAll p rest)

/-! ## Registration -/

/-- The capabilities by name; one that takes the name of another takes its place. -/
def register (name : Text) (c : Capability) :
    List (Text × Capability) → List (Text × Capability)
  | [] => [(name, c)]
  | (n, d) :: rest => if n = name then (n, c) :: rest else (n, d) :: register name c rest

/-- The capability of a name. -/
def find? (name : Text) (cs : List (Text × Capability)) : Option Capability :=
  (cs.find? fun e => e.1 = name).map (·.2)

end Capability

end GoCompletion
