import GoCompletion.Datum.Basic
import GoCompletion.Fault
import GoCompletion.Snippet.Mode

/-!
# Settings

What users may configure, with the values that hold where nobody says anything else, and how a layer of
settings is put over the ones below it: **a key takes effect if its value is of the right kind, and is
ignored otherwise** (`Settings.withKeys`). A datum is a layer if it is a mapping, and says nothing otherwise
(`Settings.overlay`).

The keys may stand in a section of their own, which then hides all the others.
-/

namespace GoCompletion

/-- The names of the characters that do not start a completion, unless something else is configured. -/
def commonSuppressed : List Text :=
  ["comma".toList, "newline".toList, "space".toList, "tab".toList] ++
    "/\\()\"\x27:;<>~!@#$%^&*|+=[]\x7b\x7d\x60?-".toList.map fun c => [c]

/-- The settings. -/
structure Settings where
  /-- the daemon proposes builtin functions and types -/
  proposeBuiltins : Bool := true
  /-- the daemon proposes packages that are not imported yet -/
  unimportedPackages : Bool := true
  /-- scope selectors where nothing is completed, with commas between them -/
  scopeBlacklist : Text := []
  /-- characters that do not start a completion, or names of such characters -/
  suppressed : List Text := commonSuppressed
  /-- what call snippets write of a parameter -/
  snippetMode : SnippetMode := .nameAndType
  /-- how many seconds a run of a tool may take -/
  timeout : Binary64 := .ofInt 10
  deriving DecidableEq, Repr

namespace Settings

/-! ## Values of the right kind -/

/-- A layer of settings: the values that it has under its keys. -/
abbrev Layer : Type := Text → Option Datum

/-- The name of the section for the settings of this program. -/
def sectionName : Text := "gocodels".toList

/-- The truth value under a key. -/
def boolAt? (layer : Layer) (key : String) : Option Bool :=
  match layer key.toList with
  | some (.bool b) => some b
  | _ => none

/-- The text under a key. -/
def textAt? (layer : Layer) (key : String) : Option Text :=
  match layer key.toList with
  | some (.text t) => some t
  | _ => none

/-- An item of a list of texts as it is shown; an item without a value is left out. -/
def itemText? : Datum → Except Fault (Option Text)
  | .null => .ok none
  | item => item.shown?.map some

/-- The items of the list under a key, as they are shown; items without a value are left out. An integer
among them may be too long to be shown. -/
def textsAt? (layer : Layer) (key : String) : Except Fault (Option (List Text)) :=
  match layer key.toList with
  | some (.list items) => (items.mapM itemText?).map fun ts => some (ts.filterMap id)
  | _ => .ok none

/-- The snippet mode whose name is under a key. -/
def modeAt? (layer : Layer) (key : String) : Option SnippetMode :=
  (textAt? layer key).bind SnippetMode.ofText?

/-- The positive number under a key, as a binary64 number; an integer may be too large for one. -/
def positiveAt? (layer : Layer) (key : String) : Except Fault (Option Binary64) :=
  match layer key.toList with
  | some (.int i) =>
    -- the sign is looked at first: only a positive integer can be too large
    if i ≤ 0 then .ok none
    else if (Binary64.ofInt i).isInfinite then .error .numberTooLarge
    else .ok (some (.ofInt i))
  | some (.float x) => .ok (if x.isPositive then some x else none)
  | _ => .ok none

/-! ## Layers -/

/-- The settings with those keys of a layer put over them that have a value of the right kind. -/
def withKeys (s : Settings) (layer : Layer) : Except Fault Settings :=
  (textsAt? layer "suppressActivationForCharacters").bind fun suppressed =>
    (positiveAt? layer "gocodeTimeout").map fun timeout =>
      { proposeBuiltins := (boolAt? layer "proposeBuiltins").getD s.proposeBuiltins
        unimportedPackages := (boolAt? layer "unimportedPackages").getD s.unimportedPackages
        scopeBlacklist := (textAt? layer "scopeBlacklist").getD s.scopeBlacklist
        suppressed := suppressed.getD s.suppressed
        snippetMode := (modeAt? layer "snippetMode").getD s.snippetMode
        timeout := timeout.getD s.timeout }

/-- The layer that the entries of a mapping are: its section, if it has one that is a mapping. -/
def layerOf (entries : List (Datum × Datum)) : Layer := fun key =>
  match Datum.lookup sectionName entries with
  | some (.map own) => Datum.lookup key own
  | _ => Datum.lookup key entries

/-- The settings with a datum put over them. -/
def overlay (s : Settings) (d : Datum) : Except Fault Settings :=
  match d with
  | .map entries => s.withKeys (layerOf entries)
  | _ => .ok s

/-- A datum that is no mapping says nothing. -/
theorem overlay_of_ne_map {d : Datum} (h : ∀ es, d ≠ .map es) (s : Settings) : s.overlay d = .ok s := by
  cases d with
  | map es => exact absurd rfl (h es)
  | _ => rfl

end Settings

end GoCompletion
