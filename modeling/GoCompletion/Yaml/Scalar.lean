import GoCompletion.Datum.Json
import GoCompletion.Yaml.Cursor
import GoCompletion.Yaml.Halt

/-!
# YAML scalars

The three ways to write a text in YAML: in quotes, plainly, and as a block of its own. In all of them
line breaks are folded: a single one is a space, and of several all but the first are kept; a literal
block keeps them all.

Every loop here takes at least a character off the text at every turn, so it is bounded by the length
of the text; a bound that is used up counts as a text that breaks off.
-/

namespace GoCompletion

namespace Yaml

/-- A text that is read, with the cursor behind it. -/
abbrev Scanned : Type := Result (Text × Cursor)

/-! ## Quoted scalars -/

/-- The character that a one-letter escape stands for. -/
def escapeChar? : Char → Option Char
  | '0' => some '\x00'
  | 'a' => some '\x07'
  | 'b' => some '\x08'
  | 't' => some '\t'
  | '\t' => some '\t'
  | 'n' => some '\n'
  | 'v' => some '\x0B'
  | 'f' => some '\x0C'
  | 'r' => some '\r'
  | 'e' => some '\x1B'
  | ' ' => some ' '
  | '"' => some '"'
  | '\\' => some '\\'
  | '/' => some '/'
  | 'N' => some '\u0085'
  | '_' => some '\u00A0'
  | 'L' => some '\u2028'
  | 'P' => some '\u2029'
  | _ => none

/-- How many hexadecimal digits an escape has. -/
def escapeDigits? : Char → Option Nat
  | 'x' => some 2
  | 'u' => some 4
  | 'U' => some 8
  | _ => none

/-- The character whose number hexadecimal digits give. The number may be greater than that of every
character, or even too great to be looked at. -/
def charOfHex (ds : Text) : Result Char :=
  match Json.hexNumber? ds with
  | none => refuse
  | some n =>
    if n < 0x110000 then .ok (Utf16.charOfUnit n)
    else if n < 0x80000000 then fault (.badValue "chr() arg not in range(0x110000)".toList)
    else fault .codeTooLarge

/-- The blank lines ahead inside quotes, as the breaks that are kept. -/
def quotedBreaks (bound : Nat) (c : Cursor) : Scanned :=
  match bound with
  | 0 => refuse
  | bound + 1 =>
    if c.atDocumentMarker then refuse
    else
      let c := (c.span fun ch => ch == ' ' || ch == '\t').2
      match c.lineBreak with
      | ([], _) => .ok ([], c)
      | (b, c) => (quotedBreaks bound c).map fun r => (b ++ r.1, r.2)

/-- The characters ahead inside quotes, up to a blank or the end of the quotes. -/
def quotedWord (double : Bool) (bound : Nat) (c : Cursor) : Scanned :=
  match bound with
  | 0 => refuse
  | bound + 1 =>
    let follow (t : Text) (c : Cursor) : Scanned :=
      (quotedWord double bound c).map fun r => (t ++ r.1, r.2)
    match c.head with
    | none => .ok ([], c)
    | some ch =>
      if ch == ' ' || ch == '\t' || isBreak ch then .ok ([], c)
      -- a single quote that is part of the text is doubled
      else if !double && ch == '\x27' && c.peek 1 == some '\x27' then follow ['\x27'] (c.skip 2)
      else if double && ch == '\\' then
        match c.peek 1 with
        | none => refuse
        | some e =>
          match escapeChar? e, escapeDigits? e with
          | some ch, _ => follow [ch] (c.skip 2)
          | none, some n =>
            let ds := (c.rest.drop 2).take n
            if ds.length = n then
              (charOfHex ds).bind fun ch => follow [ch] (c.skip (n + 2))
            else refuse
          | none, none =>
            -- an escaped line break joins its lines
            if isBreak e then
              (quotedBreaks (c.rest.length + 1) c.next.lineBreak.2).bind fun r => follow r.1 r.2
            else refuse
      else if ch == (if double then '"' else '\x27') then .ok ([], c)
      else follow [ch] c.next

/-- The blanks ahead inside quotes: line breaks are folded, other blanks are kept. -/
def quotedSpaces (c : Cursor) : Scanned :=
  let (spaces, c) := c.span fun ch => ch == ' ' || ch == '\t'
  if c.rest.isEmpty then refuse
  else
    match c.lineBreak with
    | ([], _) => .ok (spaces, c)
    | (b, c) =>
      (quotedBreaks (c.rest.length + 1) c).map fun r =>
        ((if b != ['\n'] then b else if r.1.isEmpty then [' '] else []) ++ r.1, r.2)

/-- Words and blanks up to the end of the quotes, which is taken off. -/
def quotedRest (double : Bool) (bound : Nat) (c : Cursor) : Scanned :=
  match bound with
  | 0 => refuse
  | bound + 1 =>
    (quotedWord double (c.rest.length + 1) c).bind fun w =>
      if w.2.head == some (if double then '"' else '\x27') then .ok (w.1, w.2.next)
      else
        (quotedSpaces w.2).bind fun s =>
          (quotedRest double bound s.2).map fun r => (w.1 ++ s.1 ++ r.1, r.2)

/-- The scalar ahead, in double or single quotes. -/
def quotedScalar (double : Bool) (c : Cursor) : Scanned :=
  quotedRest double (c.rest.length + 1) c.next

/-! ## Plain scalars -/

/-- A plain scalar ends in front of the characters `t`, within brackets or not. -/
def endsPlain (inFlow : Bool) (t : Text) : Bool :=
  match t with
  | [] => true
  | ':' :: r =>
    blankOrEnd r.head? || (inFlow && r.head?.any fun ch => [',', '[', ']', '{', '}'].contains ch)
  | ch :: _ =>
    ch == ' ' || ch == '\t' || isBreak ch ||
      (inFlow && [',', '?', '[', ']', '{', '}'].contains ch)

/-- The number of characters ahead up to where a plain scalar ends. -/
def plainLength (inFlow : Bool) : Text → Nat
  | [] => 0
  | ch :: r => if endsPlain inFlow (ch :: r) then 0 else plainLength inFlow r + 1

/-- The blank lines behind a line break in a plain scalar, as the breaks that are kept; absent where a
document ends, with the cursor behind what was taken. -/
def plainBreaks (bound : Nat) (c : Cursor) : Option Text × Cursor :=
  match bound with
  | 0 => (none, c)
  | bound + 1 =>
    if c.head = some ' ' then plainBreaks bound c.next
    else
      match c.lineBreak with
      | ([], _) => (some [], c)
      | (b, c) =>
        if c.atDocumentMarker then (none, c)
        else
          let (t, c) := plainBreaks bound c
          (t.map (b ++ ·), c)

/-- What the blanks ahead in a plain scalar stand for, empty when the scalar ends in front of them; the
cursor behind them; and whether a line was broken. -/
def plainSpaces (c : Cursor) : Text × Cursor × Bool :=
  let (spaces, c) := c.span (· == ' ')
  match c.lineBreak with
  | ([], _) => (spaces, c, false)
  | (b, c) =>
    if c.atDocumentMarker then ([], c, true)
    else
      match plainBreaks (c.rest.length + 1) c with
      | (none, c) => ([], c, true)
      | (some t, c) =>
        ((if b != ['\n'] then b else if t.isEmpty then [' '] else []) ++ t, c, true)

/-- A plain scalar: its text, the cursor behind it, and whether a line was broken behind its last
word. -/
structure Plain where
  /-- the text -/
  text : Text
  /-- the cursor behind it -/
  behind : Cursor
  /-- a line was broken behind the last word -/
  broken : Bool

/-- The plain scalar ahead, behind the text and the blanks that have been read of it. Outside brackets
it goes on as long as its lines are indented to the column `indent` at least. -/
def plainFrom (inFlow : Bool) (indent : Int) (bound : Nat) (sofar : Plain) (spaces : Text) : Plain :=
  match bound with
  | 0 => sofar
  | bound + 1 =>
    let c := sofar.behind
    let n := plainLength inFlow c.rest
    -- a comment behind a blank ends the scalar
    if c.head = some '#' ∨ n = 0 then sofar
    else
      let (blanks, behind, broken) := plainSpaces (c.skip n)
      let sofar : Plain := ⟨sofar.text ++ spaces ++ c.rest.take n, behind, broken⟩
      if blanks.isEmpty || behind.head == some '#' ||
          (!inFlow && decide ((behind.column : Int) < indent)) then sofar
      else plainFrom inFlow indent bound sofar blanks

/-- The plain scalar ahead. -/
def plainScalar (inFlow : Bool) (indent : Int) (c : Cursor) : Plain :=
  plainFrom inFlow indent (c.rest.length + 1) ⟨[], c, false⟩ []

/-! ## Block scalars -/

/-- What becomes of the line breaks at the end of a block. -/
inductive Chomping where
  /-- all are dropped -/
  | strip
  /-- one is kept -/
  | clip
  /-- all are kept -/
  | keep
  deriving DecidableEq

/-- The chomping that a sign asks for. -/
def chomping? : Option Char → Option Chomping
  | some '+' => some .keep
  | some '-' => some .strip
  | _ => none

/-- The indentation that a digit asks for; zero is none. -/
def increment? (c : Option Char) : Option Nat :=
  c.bind fun ch => if '0' ≤ ch ∧ ch ≤ '9' then some (ch.toNat - '0'.toNat) else none

/-- The signs behind the mark of a block, in either order: chomping and indentation. -/
def blockHeader (c : Cursor) : Option ((Chomping × Option Nat) × Cursor) :=
  let result : (Chomping × Option Nat) × Cursor :=
    match chomping? c.head with
    | some k =>
      match increment? c.next.head with
      | some n => ((k, some n), c.skip 2)
      | none => ((k, none), c.next)
    | none =>
      match increment? c.head with
      | some n =>
        match chomping? c.next.head with
        | some k => ((k, some n), c.skip 2)
        | none => ((.clip, some n), c.next)
      | none => ((.clip, none), c)
  if result.1.2 = some 0 ∨ ¬ spaceOrEnd result.2.head then none else some result

/-- The cursor behind the spaces ahead, up to the column `indent`. -/
def skipIndent (indent : Nat) (c : Cursor) : Cursor :=
  c.skip (min (c.rest.takeWhile (· == ' ')).length (indent - c.column))

/-- The blank lines ahead in a block indented to the column `indent`, as line breaks. -/
def blockBreaks (indent bound : Nat) (c : Cursor) : Text × Cursor :=
  let c := skipIndent indent c
  match bound with
  | 0 => ([], c)
  | bound + 1 =>
    match c.lineBreak with
    | ([], _) => ([], c)
    | (b, c) =>
      let (t, c) := blockBreaks indent bound c
      (b ++ t, c)

/-- The blank lines in front of a block whose indentation is not given, as line breaks, and the
greatest column that spaces reach. -/
def blockLead (bound greatest : Nat) (c : Cursor) : Text × Nat × Cursor :=
  match bound with
  | 0 => ([], greatest, c)
  | bound + 1 =>
    if c.head = some ' ' then blockLead bound (max greatest c.next.column) c.next
    else
      match c.lineBreak with
      | ([], _) => ([], greatest, c)
      | (b, c) =>
        let (t, n, c) := blockLead bound greatest c
        (b ++ t, n, c)

/-- There is neither a space nor a tab. -/
def notSpace (ch : Option Char) : Bool := ch != some ' ' && ch != some '\t'

/-- The lines of a block from here on, behind the blank lines `breaks`: their text, the last line break
and the blank lines behind it, and the cursor. `final` is the line break in front. -/
def blockLines (folded : Bool) (indent bound : Nat) (breaks final : Text) (c : Cursor) :
    Text × Text × Text × Cursor :=
  match bound with
  | 0 => ([], final, breaks, c)
  | bound + 1 =>
    if c.column = indent ∧ ¬ c.rest.isEmpty then
      let opensText := notSpace c.head
      let (line, c) := c.span (!isBreak ·)
      let (b, c) := c.lineBreak
      let (more, c) := blockBreaks indent c.rest.length c
      -- only between two lines that begin with text is a break folded
      let joint :=
        if c.column = indent ∧ ¬ c.rest.isEmpty then
          if folded && b == ['\n'] && opensText && notSpace c.head then
            if more.isEmpty then [' '] else []
          else b
        else []
      let (t, final, rest, c) := blockLines folded indent bound more b c
      (breaks ++ line ++ joint ++ t, final, rest, c)
    else ([], final, breaks, c)

/-- The block scalar ahead, in a collection indented to the column `indent`. -/
def blockScalar (folded : Bool) (indent : Int) (c : Cursor) : Scanned :=
  (orRefuse (blockHeader c.next)).bind fun h =>
    (orRefuse h.2.endLine?).map fun c =>
      let least := (max (indent + 1) 1).toNat
      let (column, breaks, c) :=
        match h.1.2 with
        | some n =>
          let column := least + n - 1
          let (t, c) := blockBreaks column c.rest.length c
          (column, t, c)
        | none =>
          let (t, n, c) := blockLead (c.rest.length + 1) 0 c
          (max least n, t, c)
      let (t, final, rest, c) := blockLines folded column (c.rest.length + 1) breaks [] c
      match h.1.1 with
      | .strip => (t, c)
      | .clip => (t ++ final, c)
      | .keep => (t ++ final ++ rest, c)

end Yaml

end GoCompletion
