import GoCompletion.Session.Import
import GoCompletion.Session.Offer

/-!
# Asking for suggestions

A request is answered in one of three ways: with nothing, where nothing is completed; by refiltering the
suggestions of the last query, while the same word is typed on; and by asking the daemon. Whichever way
it is, **everybody who subscribed learns of exactly what is answered**.

The daemon is asked once more, with the wanted package imported, if it knows nothing about a dot.
-/

namespace GoCompletion

namespace Session

/-- Whoever subscribed learns of suggestions, in turn; somebody's fault ends that. -/
def notify (ss : List Suggestion) : List Subscriber → Act Session Unit
  | [] => pure ()
  | u :: rest => do
    outside (Host.record (.notify u.number ss))
    match u.fault with
    | some e => Act.raise e
    | none => notify ss rest

/-- Somebody subscribes. -/
def subscribe (u : Subscriber) : Act Session Unit :=
  changeProvider fun p => { p with subscribers := p.subscribers ++ [u] }

/-- Answers with suggestions, of which everybody who subscribed learns. -/
def answer (ss : List Suggestion) : Act Session (List Suggestion) := do
  notify ss (← Act.get).provider.subscribers
  return ss

/-- Remembers suggestions. -/
def remember (ss : List Suggestion) : Act Session Unit :=
  changeProvider fun p => { p with suggestions := ss }

/-! ## Queries -/

/-- What is asked about: a text, and in it the cursor, by characters and by bytes. -/
structure Question where
  /-- the path of the daemon -/
  daemon : Text
  /-- the path of the document -/
  file : Text
  /-- the text -/
  text : Text
  /-- the cursor, in bytes -/
  offset : Int

/-- The run that puts a question to the daemon. -/
def Question.invocation (q : Question) : Invocation :=
  { command := q.daemon
    args := [jsonFlag, "autocomplete".toList, q.file, Text.ofInt q.offset]
    input := some q.text
    directory := some (Path.ofText q.file).parent.toText }

/-- Tells that an answer cannot be read. -/
def tellUnreadable (output : Text) (mistake : Json.Mistake) : Act Session Unit := do
  tell (.unreadableAnswer mistake)
  if (← Act.get).connected then
    outside (Host.record (.display .error ("gocode error: ".toList ++ output)))

/-- The list that an answer is; one that is blank, or cannot be read, or is no list, is empty. -/
def readAnswer (output : Text) : Act Session (List Datum) := do
  if output.strip.isEmpty then return []
  match ← Act.ofExcept (Datum.ofJson output) with
  | .ok (.list items) => return items
  | .ok _ => return []
  | .error mistake =>
    tellUnreadable output mistake
    return []

/-- Puts a question to the daemon. -/
def put (q : Question) : Act Session (List Datum) := do
  let r ← exec q.invocation
  tellErrors r .queryErrors
  readAnswer r.output

/-- Puts the question once more, with the wanted package imported; the cursor is at position `index`. -/
def putImporting (q : Question) (index : Nat) : Act Session (List Datum) := do
  match ← (importWanted q.text index q.offset (Path.ofText q.file)).attempt with
  | .error e =>
    tell (.importFailed e)
    return []
  | .ok none => return []
  | .ok (some added) => put { q with text := added.text, offset := added.offset }

/-- The suggestions of an answer of the daemon, which may also tell that it is in trouble. -/
def suggestionsOf (answer : List Datum) (t : Text) (index : Int) : Act Session (List Suggestion) := do
  if Suggestion.isPanicAnswer answer then learnPanic
  return Suggestion.ofAnswer (← Act.get).provider.snippetMode answer t index

/-- Queries the daemon about a request, and remembers what it suggests. -/
def queryDaemon (daemon : Text) (r : Request) (word : Text) : Act Session (List Suggestion) := do
  let t := r.document.text
  let index := (Document.locate t r.position).1
  let q : Question :=
    { daemon, file := r.document.path, text := t, offset := Utf8.byteLength (t.take index) }
  let first ← put q
  -- only behind a dot may an import be what is missing
  let found ← if first.isEmpty && word == Provider.dot then putImporting q index else pure first
  let ss ← suggestionsOf found t index
  remember ss
  return ss

/-- Queries the daemon about a request. Without a daemon there is nothing, and what is remembered
stays. -/
def query (r : Request) (word : Text) : Act Session (List Suggestion) := do
  match ← findTool daemonName with
  | none =>
    tell .daemonMissing
    return []
  | some daemon => queryDaemon daemon r word

/-- The suggestions for a request, and everybody who subscribed learns of them. -/
def suggest (r : Request) : Act Session (List Suggestion) := do
  let word := r.word.strip
  -- nothing is typed: the word of the last query is over
  if word.isEmpty && !r.manual then
    remember []
    answer []
  else
    let p := (← Act.get).provider
    if ← Act.ofExcept (p.isSuppressed r.document.text r.position r.manual) then answer []
    else if p.canRefilter r then answer (p.refilter word)
    else answer (← query r word)

end Session

end GoCompletion
