import GoCompletion.Scope.Basic
import GoCompletion.Settings.Basic
import GoCompletion.Text.Blank

/-!
# Suppression

Where typing does not start a completion. A scope may be disabled altogether, and a character may be
suppressed unless it belongs to an import path. A disabled scope for quoted texts is of a kind of its
own: it suppresses in such texts, but not in import paths.
-/

namespace GoCompletion

/-- The characters that have names. -/
def characterNames : List (Text × Text) := [
  ("comma".toList, [',']), ("newline".toList, ['\n']), ("space".toList, [' ']),
  ("tab".toList, ['\t'])]

/-- The characters that texts mean, by name in any case or as themselves; blank texts mean none. -/
def charactersOf (names : List Text) : List Text :=
  names.filterMap fun name =>
    let name := name.strip
    let char := ((characterNames.find? fun n => n.1 = name.map Char.toLower).map (·.2)).getD name
    if char.isEmpty then none else some char

/-- Where typing does not start a completion. -/
structure Suppression where
  /-- the characters that do not start one -/
  characters : List Text := []
  /-- quoted texts other than import paths suppress -/
  inQuotes : Bool := false
  /-- the selectors of the scopes that are disabled -/
  selectors : List Text := []
  deriving DecidableEq, Repr

namespace Suppression

/-- What a selector holds that is about quoted texts. -/
def quotedSelector : Text := ".string.quoted".toList

/-- What the scope of a quoted text begins with. -/
def quotedScope : Text := "string.quoted".toList

/-- The selectors that commas separate. -/
def selectorsOf (blacklist : Text) : List Text :=
  ((Text.pieces [','] blacklist).map Text.strip).filter (!·.isEmpty)

/-- The suppression with other selectors, which commas separate. -/
def select (s : Suppression) (blacklist : Text) : Suppression :=
  let isQuoted (t : Text) : Bool := t.contains quotedSelector
  { s with
    inQuotes := (selectorsOf blacklist).any isQuoted
    selectors := (selectorsOf blacklist).filter (!isQuoted ·) }

/-- The suppression that settings ask for. -/
def ofSettings (s : Settings) : Suppression :=
  select { characters := charactersOf s.suppressed } s.scopeBlacklist

/-- Typing a character does not start a completion where it has the scopes: of an import path and a
quoted text, the first one among the scopes decides. -/
def suppresses (s : Suppression) (char : Text) (scopes : List Text) : Bool :=
  match scopes.find? fun c => c = importScope || (s.inQuotes && c.startsWith quotedScope) with
  | some c => c ≠ importScope && !scopes.elem importScope
  | none => s.characters.elem char

/-- One of the scopes is disabled. -/
def disables (s : Suppression) (scopes : List Text) : Bool :=
  s.selectors.any fun selector => selectorMatches selector scopes

end Suppression

end GoCompletion
