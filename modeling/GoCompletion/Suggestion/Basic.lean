import GoCompletion.Signature.Reading
import GoCompletion.Snippet.Basic
import GoCompletion.Suggestion.Candidate

/-!
# Suggestions

What a completion offers: a text or a call snippet in place of what stands before the cursor. A func
becomes a snippet if its type can be read as one, unless the call is there already.
-/

namespace GoCompletion

/-- What a suggestion is. -/
inductive SuggestionKind where
  /-- a func -/
  | function
  /-- a package -/
  | package
  /-- a variable -/
  | variable
  /-- a type -/
  | type
  /-- a constant -/
  | constant
  /-- anything else -/
  | value
  /-- something that is only known by a word for it -/
  | other (name : Text)
  deriving DecidableEq, Repr

namespace SuggestionKind

/-- The word for a kind. -/
def toText : SuggestionKind → Text
  | function => "function".toList
  | package => "import".toList
  | .variable => "variable".toList
  | type => "type".toList
  | constant => "constant".toList
  | value => "value".toList
  | other name => name

/-- The kinds that have a word of their own. -/
def known : List SuggestionKind := [.function, .package, .variable, .type, .constant, .value]

/-- The kind for a word. -/
def ofText (t : Text) : SuggestionKind := (known.find? fun k => k.toText = t).getD (other t)

/-- The kind of the candidates of a class. -/
def ofClass (cls : Text) : SuggestionKind :=
  if cls = Candidate.funcClass then function
  else if cls = "package".toList then package
  else if cls = "var".toList then .variable
  else if cls = "type".toList then type
  else if cls = "const".toList then constant
  else value

end SuggestionKind

/-- A suggestion. -/
structure Suggestion where
  /-- what it is put in place of -/
  replaced : Text := []
  /-- what is said about it: a type, or the returns of a func -/
  label : Text := []
  /-- what it is -/
  kind : SuggestionKind := .value
  /-- the text that it writes -/
  text : Option Text := none
  /-- the snippet that it writes -/
  snippet : Option Text := none
  /-- how a snippet is shown -/
  shown : Option Text := none
  /-- the key that it is found by when suggestions are refiltered -/
  key : Option Text := none
  deriving DecidableEq, Repr

namespace Suggestion

/-- The signature of a func candidate whose type can be read as one. -/
inductive CallForm where
  /-- the type has nothing of a func type -/
  | none
  /-- the type holds the start of a func type, but is none -/
  | broken
  /-- a func type -/
  | signature (s : Signature)

/-- The call that the type of a candidate admits. -/
def callForm (type : Text) : CallForm :=
  if type.contains funcToken then
    let s := Signature.ofText type
    if s.isFunc then .signature s else .broken
  else .none

/-- What stands behind the cursor where a call is there already. -/
def callMark : Text := ['(']

/-- The suggestion for a candidate, in place of the text `replaced`, in front of the text `behind`. -/
def ofCandidate (mode : SnippetMode) (replaced behind : Text) (c : Candidate) : Suggestion :=
  let label := if c.type.isEmpty then c.cls else c.type
  let plain : Suggestion :=
    { replaced, label, kind := .ofClass c.cls, text := some c.name, key := some c.name }
  if c.cls = Candidate.funcClass ∧ behind ≠ callMark then
    match callForm c.type with
    | .none => plain
    -- a type that cannot be read says nothing
    | .broken => { plain with label := [] }
    | .signature s =>
      let call := Snippet.call mode c.name (some s)
      { replaced, label := s.returnLabel, kind := .ofClass c.cls, snippet := some call.written
        shown := some call.shown, key := some c.name }
  else plain

/-- The text in front of position `index` that an answer for `count` characters replaces. It does not
reach beyond the start of the line. -/
def replacedText (t : Text) (index count : Int) : Text :=
  let start : Int := max (index - count) (t.linePosition (t.position index))
  t.slice (t.position start) (t.position index)

/-- The character at position `index`, as a text. -/
def textBehind (t : Text) (index : Int) : Text :=
  t.slice (t.position index) (t.position (index + 1))

/-- The number of characters that an answer of the daemon is about. -/
def replacedCount : Datum → Int
  | .int i => i
  | .bool b => if b then 1 else 0
  | _ => 0

/-- The candidates of an answer of the daemon: those in its second item. -/
def candidatesOf : List Datum → List Candidate
  | _ :: .list candidates :: _ => candidates.map Candidate.ofDatum
  | _ => []

/-- The suggestions of an answer of the daemon, for a cursor at position `index`. -/
def ofAnswer (mode : SnippetMode) (answer : List Datum) (t : Text) (index : Int) : List Suggestion :=
  let count := replacedCount (answer.headD .null)
  let candidates := (candidatesOf answer).filter (!·.isPanic)
  candidates.map (ofCandidate mode (replacedText t index count) (textBehind t index))

/-- An answer that tells that the daemon is in trouble. -/
def isPanicAnswer (answer : List Datum) : Bool := (candidatesOf answer).head?.any Candidate.isPanic

end Suggestion

end GoCompletion
