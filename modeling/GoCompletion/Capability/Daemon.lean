import GoCompletion.Capability.Basic

/-!
# Completion by the daemon

The capability that completes Go: it takes part for documents of Go, as long as there is a provider, and
gives an item for every suggestion. Its lists are incomplete, so that editors ask again when more is
typed.
-/

namespace GoCompletion

namespace Capability

/-- The name that the capability is registered under. -/
def daemonCapabilityName : Text := "gocode_completion".toList

/-- How the URIs of documents of Go end. -/
def goEnding : Text := ".go".toList

/-- The request for what stands in front of the cursor of a document, which is at position `index`. -/
def requestAt (d : Document) (position : Position) (index : Nat) (trigger : Option Trigger) :
    Request :=
  { document := d
    position
    word := wordAtEnd (d.text.lineBefore index)
    manual := isManual trigger
    continued := isContinued trigger }

/-- The items for the suggestions at the cursor of a document. -/
def completeDocument (d : Document) (trigger : Option Trigger) : Act Exchange CompletionList := do
  let index ← Exchange.locate d.text
  let position := (← Act.get).position
  let ss ← Exchange.onSession (Session.suggest (requestAt d position index trigger))
  return { isIncomplete := true, items := CompletionItem.ofSuggestions position ss }

/-- The items that the provider gives; none without one. -/
def completeByDaemon (p : CompletionParams) : Act Exchange CompletionList := do
  if (← Act.get).session.attached then
    completeDocument (← Exchange.document p.uri) p.trigger
  else return {}

/-- The capability that completes Go. -/
def daemon : Capability :=
  { name := daemonCapabilityName
    description := "Autocomplete Go identifiers, members and packages using gocode".toList
    accepts := fun p => do return (← Act.get).session.attached && p.uri.endsWith goEnding
    complete := completeByDaemon }

/-- The capabilities that a server has. -/
def common : List (Text × Capability) := register daemonCapabilityName daemon []

end Capability

end GoCompletion
