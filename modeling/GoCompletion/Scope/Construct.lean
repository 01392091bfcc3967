import GoCompletion.Text.Basic

/-!
# Comments and literals

A light scan tells for every character of a Go buffer which comment or literal it belongs to, delimiters
included, and where that construct starts. The scan goes once through the text with one state, the
construct it is in; `owners` is its result, one entry for each character (`length_owners`).

The constructs end as in Go, with one difference: a string or rune literal that is not closed on its
line ends there, so that what is being typed does not swallow the rest of the buffer.
-/

namespace GoCompletion

/-- The kinds of comments and literals. -/
inductive Construct where
  /-- from `//` to the end of the line -/
  | lineComment
  /-- from `/*` to `*/` -/
  | blockComment
  /-- a string in double quotes -/
  | doubleString
  /-- a string in back quotes -/
  | rawString
  /-- a rune in single quotes -/
  | rune
  deriving DecidableEq, Repr

namespace Construct

/-- The scope that the characters of a construct have. -/
def scope : Construct → Text
  | lineComment => "comment.line.double-slash.go".toList
  | blockComment => "comment.block.go".toList
  | doubleString => "string.quoted.double.go".toList
  | rawString => "string.quoted.raw.go".toList
  | rune => "constant.other.rune.go".toList

/-- The literal that a quote opens. -/
def ofQuote : Char → Option Construct
  | '"' => some doubleString
  | '\x27' => some rune
  | '\x60' => some rawString
  | _ => none

/-- The quote that closes a literal on one line. -/
def quote : Construct → Option Char
  | doubleString => some '"'
  | rune => some '\x27'
  | _ => none

end Construct

/-- A construct and the position at which it starts; nothing in plain code. -/
abbrev Owner : Type := Option (Construct × Nat)

/-- What the scan does at a character: who owns it, the state behind it, and whether the character
after it is taken along, for the same owner. -/
structure ScanStep where
  /-- the owner of the character -/
  owner : Owner
  /-- the state behind it -/
  next : Owner
  /-- the next character belongs to it as well -/
  pair : Bool

/-- The step of the scan at position `i`, in the state `state`, at the character `c` with `r` behind
it. -/
def scanStep (state : Owner) (i : Nat) (c : Char) (r : Text) : ScanStep :=
  match state with
  | none =>
    if c = '/' ∧ r.head? = some '/' then ⟨some (.lineComment, i), some (.lineComment, i), true⟩
    else if c = '/' ∧ r.head? = some '*' then
      ⟨some (.blockComment, i), some (.blockComment, i), true⟩
    else
      let opened := (Construct.ofQuote c).map (·, i)
      ⟨opened, opened, false⟩
  | some (.lineComment, _) =>
    if c = '\n' then ⟨none, none, false⟩ else ⟨state, state, false⟩
  | some (.blockComment, _) =>
    if c = '*' ∧ r.head? = some '/' then ⟨state, none, true⟩ else ⟨state, state, false⟩
  | some (.rawString, _) =>
    if c = '\x60' then ⟨state, none, false⟩ else ⟨state, state, false⟩
  | some (kind, _) =>
    -- whatever is escaped, a line break as well, belongs to the literal
    if c = '\\' then ⟨state, state, true⟩
    else if kind.quote = some c then ⟨state, none, false⟩
    else if c = '\n' then ⟨none, none, false⟩
    else ⟨state, state, false⟩

/-- The owners of the characters of a text that starts at position `i` in the state `state`. -/
def ownersFrom (state : Owner) (i : Nat) : Text → List Owner
  | [] => []
  | c :: r =>
    let s := scanStep state i c r
    match s.pair, r with
    | true, _ :: r' => s.owner :: s.owner :: ownersFrom s.next (i + 2) r'
    | _, r => s.owner :: ownersFrom s.next (i + 1) r

/-- The owners of the characters of a text. -/
def owners (t : Text) : List Owner := ownersFrom none 0 t

/-- The comment or literal that the character at position `i` belongs to. -/
def constructAt (t : Text) (i : Nat) : Owner := (owners t)[i]?.join

/-- Every character has one owner. -/
theorem length_ownersFrom (state : Owner) (i : Nat) (t : Text) :
    (ownersFrom state i t).length = t.length := by
  fun_induction ownersFrom state i t <;> simp_all

theorem length_owners (t : Text) : (owners t).length = t.length := length_ownersFrom none 0 t

end GoCompletion
