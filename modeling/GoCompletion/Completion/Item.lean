import GoCompletion.Document.Basic
import GoCompletion.Suggestion.Basic

/-!
# Completion items

Suggestions as editors take them. An item replaces the text of its suggestion right in front of the
cursor, and carries its rank as a text of five digits at least, by which editors sort.
-/

namespace GoCompletion

/-- The kinds of items that editors tell apart. -/
inductive ItemKind where
  | text
  | function
  | variable
  | cls
  | module
  | value
  | constant
  deriving DecidableEq, Repr

/-- The number that editors know a kind by. -/
def ItemKind.number : ItemKind → Nat
  | .text => 1
  | .function => 3
  | .variable => 6
  | .cls => 7
  | .module => 9
  | .value => 12
  | .constant => 21

/-- The kind of the item for a suggestion. -/
def SuggestionKind.itemKind : SuggestionKind → ItemKind
  | .function => .function
  | .package => .module
  | .variable => .variable
  | .type => .cls
  | .constant => .constant
  | .value => .value
  | .other _ => .value

/-- How the text of an item is read. -/
inductive TextFormat where
  /-- as it stands -/
  | plain
  /-- as a snippet -/
  | snippet
  deriving DecidableEq, Repr

/-- The number that editors know a format by. -/
def TextFormat.number : TextFormat → Nat
  | .plain => 1
  | .snippet => 2

/-- A completion item. -/
structure CompletionItem where
  /-- what is shown -/
  label : Text
  /-- its kind -/
  kind : ItemKind
  /-- what is said about it -/
  detail : Option Text
  /-- what is compared with what is typed -/
  filterText : Option Text
  /-- what items are sorted by -/
  sortText : Text
  /-- how its text is read -/
  format : TextFormat
  /-- its text -/
  newText : Text
  /-- where the text that it replaces begins -/
  start : Position
  /-- where the text that it replaces ends -/
  stop : Position
  deriving DecidableEq, Repr

/-- A list of completion items. -/
structure CompletionList where
  /-- the editor has to ask again when more is typed -/
  isIncomplete : Bool := false
  /-- the items in order -/
  items : List CompletionItem := []
  deriving DecidableEq, Repr

/-- The items of two lists, incomplete if one of the lists is. -/
def CompletionList.append (a b : CompletionList) : CompletionList :=
  { isIncomplete := a.isIncomplete || b.isIncomplete, items := a.items ++ b.items }

@[simp] theorem CompletionList.empty_append (l : CompletionList) : append {} l = l := by
  simp [append]

@[simp] theorem CompletionList.append_empty (l : CompletionList) : append l {} = l := by
  simp [append]

theorem CompletionList.append_assoc (a b c : CompletionList) :
    append (append a b) c = append a (append b c) := by
  simp [append, Bool.or_assoc]

/-- A text, unless it is empty. -/
def nonempty? (t : Text) : Option Text := if t.isEmpty then none else some t

/-- The number of digits of a rank, at least. -/
def rankWidth : Nat := 5

namespace CompletionItem

/-- The item for the suggestion of some rank, at the position of the cursor. -/
def ofSuggestion (p : Position) (rank : Nat) (s : Suggestion) : CompletionItem :=
  let shown := (s.shown.bind nonempty?).getD (s.text.getD [])
  { label := shown
    kind := s.kind.itemKind
    detail := nonempty? s.label
    filterText := s.key
    sortText := Text.padded rankWidth rank
    format := if s.snippet.isSome then .snippet else .plain
    newText := s.snippet.getD (s.text.getD [])
    start := { p with character := p.character - s.replaced.length }
    stop := p }

/-- The items for suggestions, ranked in their order. -/
def ofSuggestions (p : Position) (ss : List Suggestion) : List CompletionItem :=
  ss.mapIdx fun rank s => ofSuggestion p rank s

end CompletionItem

end GoCompletion
