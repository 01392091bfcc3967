import GoCompletion.Text.Basic

/-!
# Snippet modes

How much of a parameter the placeholder for it holds. A mode has one name that it is shown by and, but
for the empty one, a second name that it may be chosen by.
-/

namespace GoCompletion

/-- How much of each parameter a call snippet writes. -/
inductive SnippetMode where
  /-- the identifier alone, where there is one -/
  | name
  /-- the whole text of the parameter -/
  | nameAndType
  /-- no parameter: one empty tab-stop stands for all of them -/
  | none
  deriving DecidableEq, Repr

namespace SnippetMode

/-- The name a mode is shown by. -/
def toText : SnippetMode → Text
  | .name => "name".toList
  | .nameAndType => "nameAndType".toList
  | .none => "none".toList

/-- The mode of a name. -/
def ofText? (t : Text) : Option SnippetMode :=
  if t = "name".toList ∨ t = "identifiers-only".toList then some .name
  else if t = "nameAndType".toList ∨ t = "full-names".toList then some .nameAndType
  else if t = "none".toList then some .none
  else Option.none

/-- The name a mode is shown by chooses it. -/
theorem ofText?_toText (m : SnippetMode) : ofText? m.toText = some m := by
  cases m <;> decide

end SnippetMode

end GoCompletion
