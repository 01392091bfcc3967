import GoCompletion.Document.Basic
import GoCompletion.Fuzzy.Filter
import GoCompletion.Settings.Suppression
import GoCompletion.Suggestion.Basic

/-!
# The provider

The provider remembers the suggestions of the last query, so that they can be refiltered while the same
word is typed on. It also knows who wants to learn of suggestions, and how far the offer to update a daemon
in trouble has come: **it is made at most once**.

What it goes by of the settings it copies when they are put into effect (`Provider.configure`): what the
daemon is to propose, where nothing is completed, and what call snippets write.
-/

namespace GoCompletion

/-- A completion that is asked for. -/
structure Request where
  /-- the document -/
  document : Document
  /-- the position of the cursor -/
  position : Position
  /-- the word in front of the cursor, or the punctuation there -/
  word : Text
  /-- it is asked for by hand -/
  manual : Bool := false
  /-- it goes on with the word of the one before -/
  continued : Bool := false

/-- Somebody who wants to learn of suggestions. -/
structure Subscriber where
  /-- the number of the subscription -/
  number : Nat
  /-- what happens when it learns of suggestions -/
  fault : Option Fault := none
  deriving DecidableEq, Repr

/-- How far the offer to update the daemon has come. -/
inductive Offer where
  /-- there is none -/
  | none
  /-- it is to be made as soon as the current work is over -/
  | due
  /-- it has been made, and there is no answer yet -/
  | open
  deriving DecidableEq, Repr

/-- The number of offers that are not over. -/
def Offer.count : Offer → Nat
  | .none => 0
  | .due | .open => 1

/-- The state of a provider. -/
structure Provider where
  /-- the settings that have been put into effect -/
  settings : Settings
  /-- the daemon is to propose builtin functions and types -/
  proposeBuiltins : Bool
  /-- the daemon is to propose packages that are not imported yet -/
  unimportedPackages : Bool
  /-- where nothing is completed -/
  suppression : Suppression
  /-- what call snippets write of a parameter -/
  snippetMode : SnippetMode
  /-- the suggestions of the last query -/
  suggestions : List Suggestion := []
  /-- who wants to learn of suggestions, in the order of subscription -/
  subscribers : List Subscriber := []
  /-- the daemon has been in trouble -/
  panicked : Bool := false
  /-- the offer to update it -/
  offer : Offer := .none

namespace Provider

/-- The provider with new settings. -/
def configure (p : Provider) (s : Settings) : Provider :=
  { p with
    settings := s
    proposeBuiltins := s.proposeBuiltins
    unimportedPackages := s.unimportedPackages
    suppression := .ofSettings s
    snippetMode := s.snippetMode }

/-- A new provider. -/
def ofSettings (s : Settings) : Provider :=
  { settings := s
    proposeBuiltins := s.proposeBuiltins
    unimportedPackages := s.unimportedPackages
    suppression := .ofSettings s
    snippetMode := s.snippetMode }

/-- The characters of a text up to a position, and the one right in front of it, where there is one. -/
def charBefore (t : Text) (index : Nat) : Except Fault Char :=
  match t[index - 1]? with
  | some c => .ok c
  | none => .error .outOfRange

/-- Nothing is completed at a position, because of what is in front of it. A character is looked at only
if no scope there is disabled and the completion is not asked for by hand. -/
def isSuppressed (p : Provider) (t : Text) (position : Position) (manual : Bool) :
    Except Fault Bool :=
  let index := (Document.locate t position).1
  if index = 0 then .ok false
  else
    let scopes := scopesAt t (index - 1)
    if p.suppression.disables scopes then .ok true
    else if manual then .ok false
    else (charBefore t index).map fun c => p.suppression.suppresses [c] scopes

/-- What a completion of a single dot is about. -/
def dot : Text := ['.']

/-- The completion can be answered by refiltering. -/
def canRefilter (p : Provider) (r : Request) : Bool :=
  let word := r.word.strip
  r.continued && !word.isEmpty && word != dot && !p.suggestions.isEmpty

/-- The suggestions of the last query that fit a word, in place of that word. -/
def refilter (p : Provider) (word : Text) : List Suggestion :=
  (fuzzyFilter (·.key) word p.suggestions).map fun s => { s with replaced := word }

end Provider

end GoCompletion
