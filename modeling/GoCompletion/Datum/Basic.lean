import GoCompletion.Datum.Moment
import GoCompletion.Number.Numeral
import GoCompletion.Number.Shortest

/-!
# Data

The values that settings files, editors and the completion daemon exchange: the values of JSON, with
integers of any size told apart from other numbers, and what YAML has beside them — bytes, points in time,
sets, pairs and keys of any kind. The entries of a mapping keep the order in which their keys first
occurred.

A collection of YAML may be inside itself; there it is not unfolded again (`Datum.again`).
-/

namespace GoCompletion

/-- The shapes of collections. -/
inductive Shape where
  | list
  | map
  | set
  | pair
  deriving DecidableEq, Repr

/-- A value of unknown shape. -/
inductive Datum where
  /-- no value -/
  | null
  /-- a truth value -/
  | bool (b : Bool)
  /-- an integer -/
  | int (i : Int)
  /-- a number that is not written as an integer -/
  | float (x : Binary64)
  /-- a text -/
  | text (t : Text)
  /-- bytes -/
  | bytes (bytes : List UInt8)
  /-- a day or a point in time; nothing here looks into one -/
  | moment (m : Moment)
  /-- a list -/
  | list (items : List Datum)
  /-- a mapping, as its entries -/
  | map (entries : List (Datum × Datum))
  /-- a set, in the order in which its members are shown -/
  | set (members : List Datum)
  /-- two values in a row -/
  | pair (first second : Datum)
  /-- a collection inside itself -/
  | again (shape : Shape)

namespace Datum

instance : Inhabited Datum := ⟨.null⟩

/-- The value of an entry whose key is the text `key`, in a mapping given by its entries. -/
def lookup (key : Text) : List (Datum × Datum) → Option Datum
  | [] => none
  | (.text k, v) :: rest => if k = key then some v else lookup key rest
  | _ :: rest => lookup key rest

/-- The value that a mapping has for a key; nothing for other data. -/
def get? (d : Datum) (key : Text) : Option Datum :=
  match d with
  | .map entries => lookup key entries
  | _ => none

/-- The datum counts as no value: null, false, zero or empty. -/
def isVoid : Datum → Bool
  | .null => true
  | .bool b => !b
  | .int i => i == 0
  | .float x => x.isZero
  | .text t => t.isEmpty
  | .bytes b => b.isEmpty
  | .list items => items.isEmpty
  | .map entries => entries.isEmpty
  | .set members => members.isEmpty
  | .moment _ | .pair .. | .again _ => false

/-! ## Showing data -/

/-- How a collection is shown inside itself. -/
def shownAgain : Shape → Text
  | .list => "[...]".toList
  | .map => "\x7b...\x7d".toList
  | .set => "set(...)".toList
  | .pair => "(...)".toList

mutual

/-- A datum as it is shown inside another one: texts are in quotes. -/
def quoted : Datum → Text
  | .null => "None".toList
  | .bool b => if b then "True".toList else "False".toList
  | .int i => Text.ofInt i
  | .float x => x.render
  | .text t => Text.quoted t
  | .bytes b => Text.quotedBytes b
  | .moment m => m.quoted
  | .list items => '[' :: quotedItems items ++ [']']
  | .map entries => '{' :: quotedEntries entries ++ ['}']
  | .set [] => "set()".toList
  | .set members => '{' :: quotedItems members ++ ['}']
  | .pair a b => '(' :: a.quoted ++ [',', ' '] ++ b.quoted ++ [')']
  | .again s => shownAgain s

/-- The items of a list, with a comma and a blank between them. -/
def quotedItems : List Datum → Text
  | [] => []
  | [d] => d.quoted
  | d :: rest => d.quoted ++ [',', ' '] ++ quotedItems rest

/-- The entries of a mapping, with a comma and a blank between them. -/
def quotedEntries : List (Datum × Datum) → Text
  | [] => []
  | [(k, v)] => k.quoted ++ [':', ' '] ++ v.quoted
  | (k, v) :: rest => k.quoted ++ [':', ' '] ++ v.quoted ++ [',', ' '] ++ quotedEntries rest

end

/-- A datum as it is shown by itself. -/
def shown : Datum → Text
  | .text t => t
  | .moment m => m.shown
  | d => d.quoted

/-- A datum as it is shown by itself, where one that counts as no value is shown as nothing. -/
def shownOrEmpty (d : Datum) : Text := if d.isVoid then [] else d.shown

/-! ## Data that cannot be shown -/

mutual

/-- The datum holds an integer with more digits than are shown. -/
def isOverlong : Datum → Bool
  | .int i => Nat.pow 10 Numeral.mostDigits ≤ i.natAbs
  | .list items => anyOverlong items
  | .map entries => anyEntryOverlong entries
  | .set members => anyOverlong members
  | .pair a b => a.isOverlong || b.isOverlong
  | _ => false

/-- One of the data holds an integer with more digits than are shown. -/
def anyOverlong : List Datum → Bool
  | [] => false
  | d :: rest => d.isOverlong || anyOverlong rest

/-- One of the entries holds an integer with more digits than are shown. -/
def anyEntryOverlong : List (Datum × Datum) → Bool
  | [] => false
  | (k, v) :: rest => k.isOverlong || v.isOverlong || anyEntryOverlong rest

end

/-- An integer has more digits than are shown. -/
def overlong : Fault :=
  .badValue ("Exceeds the limit (4300 digits) for integer string conversion; ".toList ++
    "use sys.set_int_max_str_digits() to increase the limit".toList)

/-- A datum as it is shown by itself, unless an integer in it is too long. -/
def shown? (d : Datum) : Except Fault Text :=
  if d.isOverlong then .error overlong else .ok d.shown

end Datum

end GoCompletion
