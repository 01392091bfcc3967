import GoCompletion.Datum.Basic

/-!
# Reading JSON

JSON text is read strictly, but for `NaN`, `Infinity` and `-Infinity`, which are numbers here. A text
that is no JSON gives the cause and the position of the first mistake; the position is told as line,
column and number of characters in front. Integers with too many digits, and lists and objects that lie
too deep within each other, are faults.

The readers work on what is left of the text, so that a position is known by the number of characters
that are left. The mutual recursion of values, items and members is bounded by twice that number: every
second call takes a character off.
-/

namespace GoCompletion

namespace Json

/-- What is wrong with a text that is no JSON. -/
inductive Cause where
  /-- no value where one has to start -/
  | value
  /-- neither a comma nor the end of a list or an object behind a value -/
  | comma
  /-- no colon behind a name -/
  | colon
  /-- no name in quotes where one has to start -/
  | name
  /-- a string without its closing quote -/
  | unterminated
  /-- a control character inside a string -/
  | control
  /-- an unknown escape -/
  | escape
  /-- a `\u` without four hexadecimal digits -/
  | unicode
  /-- something behind the value -/
  | extra
  /-- a byte order mark in front -/
  | mark
  deriving DecidableEq, Repr

/-- The words for a cause. -/
def Cause.message : Cause → Text
  | value => "Expecting value".toList
  | comma => "Expecting ',' delimiter".toList
  | colon => "Expecting ':' delimiter".toList
  | name => "Expecting property name enclosed in double quotes".toList
  | unterminated => "Unterminated string starting at".toList
  | control => "Invalid control character at".toList
  | escape => "Invalid \\escape".toList
  | unicode => "Invalid \\uXXXX escape".toList
  | extra => "Extra data".toList
  | mark => "Unexpected UTF-8 BOM (decode using utf-8-sig)".toList

/-- Why reading stops. -/
inductive Stop where
  /-- the text is no JSON: what is wrong, and the number of characters from there to the end -/
  | mistake (cause : Cause) (left : Nat)
  /-- something in the text cannot be read, although it is JSON -/
  | fault (cause : Fault)
  deriving DecidableEq, Repr

/-- What is wrong with a text that is no JSON, and where. -/
structure Mistake where
  /-- what is wrong -/
  cause : Cause
  /-- the line of the mistake, counted from one -/
  line : Nat
  /-- the column of the mistake, counted from one -/
  column : Nat
  /-- the characters in front of the mistake -/
  position : Nat
  deriving DecidableEq, Repr

/-- The words for a mistake. -/
def Mistake.message (m : Mistake) : Text :=
  m.cause.message ++ ": line ".toList ++ Text.ofNat m.line ++ " column ".toList ++
    Text.ofNat m.column ++ " (char ".toList ++ Text.ofNat m.position ++ [')']

/-- The mistake in the text `t` that leaves `left` characters. -/
def Mistake.at (t : Text) (cause : Cause) (left : Nat) : Mistake :=
  let position := t.length - left
  { cause
    line := (t.take position).count '\n' + 1
    column := (Text.lineBefore t position).length + 1
    position }

/-- The text without the blanks of JSON at its start. -/
def skipBlanks (t : Text) : Text :=
  t.dropWhile fun c => c == ' ' || c == '\t' || c == '\n' || c == '\r'

/-! ## Numbers -/

/-- The digits at the start of a text, and what is left behind them. -/
def digits (t : Text) : Text × Text := (t.takeWhile Char.isDigit, t.dropWhile Char.isDigit)

/-- The digits of a fraction; none unless a point and a digit stand at the start. -/
def fraction (t : Text) : Text × Text :=
  match t with
  | '.' :: r => if (digits r).1.isEmpty then ([], t) else digits r
  | _ => ([], t)

/-- The sign in front of an exponent, as whether it is negative. -/
def exponentSign : Text → Bool × Text
  | '-' :: r => (true, r)
  | '+' :: r => (false, r)
  | r => (false, r)

/-- An exponent; none unless an `e` and, behind a sign, a digit stand at the start. -/
def exponent (t : Text) : Option Int × Text :=
  match t with
  | c :: r =>
    if c = 'e' ∨ c = 'E' then
      let (negative, r) := exponentSign r
      let (ds, rest) := digits r
      if ds.isEmpty then (none, t)
      else (some (if negative then -(numberOf ds : Int) else numberOf ds), rest)
    else (none, t)
  | [] => (none, t)
where
  /-- the number that ASCII digits spell -/
  numberOf (ds : Text) : Nat := ds.foldl (fun n d => 10 * n + (d.toNat - '0'.toNat)) 0

/-- The number that ASCII digits spell, most significant first. -/
def natOf (ds : Text) : Nat := exponent.numberOf ds

/-- The whole digits of a number: a zero, or digits that do not begin with one. -/
def wholeDigits (t : Text) : Text × Text :=
  match t with
  | '0' :: r => (['0'], r)
  | _ => digits t

/-- The number at the start of a text, as far as it goes; absent where there is none. It is an integer
when it has neither a fraction nor an exponent, and then it may have too many digits. -/
def number? (t : Text) : Option (Except Fault Datum × Text) :=
  let (negative, body) :=
    match t with
    | '-' :: r => (true, r)
    | _ => (false, t)
  let (whole, r₁) := wholeDigits body
  if whole.isEmpty then none
  else
    let (fractional, r₂) := fraction r₁
    let (power, r₃) := exponent r₂
    -- a number without a fraction and an exponent is an integer of any size
    if fractional.isEmpty && power.isNone then
      some ((Numeral.ofDigits whole).map fun n => .int (if negative then -(n : Int) else n), r₁)
    else
      let shift : Int := power.getD 0 - fractional.length
      some (.ok (.float (.ofDecimal negative (natOf (whole ++ fractional)) shift)), r₃)

/-! ## Strings -/

/-- The value of a hexadecimal digit. -/
def hexDigit? (c : Char) : Option Nat :=
  if '0' ≤ c ∧ c ≤ '9' then some (c.toNat - '0'.toNat)
  else if 'a' ≤ c ∧ c ≤ 'f' then some (c.toNat - 'a'.toNat + 10)
  else if 'A' ≤ c ∧ c ≤ 'F' then some (c.toNat - 'A'.toNat + 10)
  else none

/-- The number that hexadecimal digits spell. -/
def hexNumber? (ds : Text) : Option Nat :=
  ds.foldl (fun n? c => n?.bind fun n => (hexDigit? c).map (16 * n + ·)) (some 0)

/-- The character that a one-letter escape stands for. -/
def simpleEscape? : Char → Option Char
  | '"' => some '"'
  | '\\' => some '\\'
  | '/' => some '/'
  | 'b' => some '\x08'
  | 'f' => some '\x0C'
  | 'n' => some '\n'
  | 'r' => some '\r'
  | 't' => some '\t'
  | _ => none

/-- A character in front of a string that has been read. -/
def prepend (c : Char) (r : Except Stop (Text × Text)) : Except Stop (Text × Text) :=
  r.map fun p => (c :: p.1, p.2)

/-- The character that a `\u` escape of the unit `unit` stands for, with `r` behind its digits, and how
many characters of `r` belong to it: the second half of a surrogate pair, when something follows it. -/
def unitEscape (unit : Nat) (r : Text) : Except Stop (Char × Nat) :=
  match r with
  | '\\' :: 'u' :: a :: b :: c :: d :: rest =>
    if Utf16.isHighSurrogate unit && !rest.isEmpty then
      match hexNumber? [a, b, c, d] with
      | none => .error (.mistake .unicode (rest.length + 5))
      | some low =>
        if Utf16.isLowSurrogate low then .ok (Utf16.charOfPair unit low, 6) else .ok (Utf16.charOfUnit unit, 0)
    else .ok (Utf16.charOfUnit unit, 0)
  | _ => .ok (Utf16.charOfUnit unit, 0)

/-- The string whose opening quote has been taken off; `start` characters are left from that quote on.
A `\u` escape needs four digits and something behind them. -/
def stringBody (start : Nat) (t : Text) : Except Stop (Text × Text) :=
  match t with
  | [] => .error (.mistake .unterminated start)
  | '"' :: r => .ok ([], r)
  | '\\' :: 'u' :: a :: b :: c :: d :: r =>
    if r.isEmpty then .error (.mistake .unicode 5)
    else
      match hexNumber? [a, b, c, d] with
      | none => .error (.mistake .unicode (r.length + 5))
      | some unit =>
        match unitEscape unit r with
        | .error s => .error s
        | .ok (e, taken) => prepend e (stringBody start (r.drop taken))
  | '\\' :: c :: r =>
    if c = 'u' then .error (.mistake .unicode (r.length + 1))
    else
      match simpleEscape? c with
      | none => .error (.mistake .escape (r.length + 2))
      | some e => prepend e (stringBody start r)
  | ['\\'] => .error (.mistake .unterminated start)
  | c :: r =>
    if c.toNat < 0x20 then .error (.mistake .control (r.length + 1))
    else prepend c (stringBody start r)
termination_by t.length
decreasing_by all_goals simp only [List.length_cons, List.length_drop]; omega

/-! ## Values -/

/-- The words that are values, in front of which none of the others stands. -/
def words : List (Text × Datum) := [
  ("null".toList, .null), ("true".toList, .bool true), ("false".toList, .bool false),
  ("NaN".toList, .float .nan), ("Infinity".toList, .float (.infinite false)),
  ("-Infinity".toList, .float (.infinite true))]

/-- The word or number at the start of a text. -/
def scalar (t : Text) : Except Stop (Datum × Text) :=
  match words.find? fun w => Text.startsWith t w.1 with
  | some w => .ok (w.2, t.drop w.1.length)
  | none =>
    match number? t with
    | some (.ok d, rest) => .ok (d, rest)
    | some (.error cause, _) => .error (.fault cause)
    | none => .error (.mistake .value t.length)

/-- The entries with one more: a key that is there already keeps its place and takes the new value. -/
def insert (key : Text) (value : Datum) : List (Datum × Datum) → List (Datum × Datum)
  | [] => [(.text key, value)]
  | (.text k, v) :: rest =>
    if k = key then (.text k, value) :: rest else (.text k, v) :: insert key value rest
  | e :: rest => e :: insert key value rest

/-- How deep lists and objects may lie within each other. -/
def mostLevels : Nat := 978

/-- A list lies too deep. -/
def listTooDeep : Stop :=
  .fault (.tooDeep " while decoding a JSON array from a unicode string".toList)

/-- An object lies too deep. -/
def objectTooDeep : Stop :=
  .fault (.tooDeep " while decoding a JSON object from a unicode string".toList)

mutual

/-- The value at the start of a text, within which `levels` others may lie. -/
def value (bound levels : Nat) (t : Text) : Except Stop (Datum × Text) :=
  match bound with
  | 0 => .error (.mistake .value t.length)
  | bound + 1 =>
    match t with
    | '"' :: r => do
      let (s, rest) ← stringBody t.length r
      .ok (.text s, rest)
    | '[' :: r =>
      if levels = 0 then .error listTooDeep
      else
        match skipBlanks r with
        | ']' :: rest => .ok (.list [], rest)
        | r => do
          let (items, rest) ← items bound (levels - 1) r
          .ok (.list items, rest)
    | '{' :: r =>
      if levels = 0 then .error objectTooDeep
      else
        match skipBlanks r with
        | '}' :: rest => .ok (.map [], rest)
        | r => do
          let (entries, rest) ← members bound (levels - 1) [] r
          .ok (.map entries, rest)
    | t => scalar t

/-- The items of a list up to its end, from the start of an item on. -/
def items (bound levels : Nat) (t : Text) : Except Stop (List Datum × Text) :=
  match bound with
  | 0 => .error (.mistake .value t.length)
  | bound + 1 => do
    let (d, r) ← value bound levels t
    match skipBlanks r with
    | ']' :: rest => .ok ([d], rest)
    | ',' :: rest => do
      let (ds, rest) ← items bound levels (skipBlanks rest)
      .ok (d :: ds, rest)
    | r => .error (.mistake .comma r.length)

/-- The entries of an object up to its end, from the start of a name on, behind the given ones. -/
def members (bound levels : Nat) (entries : List (Datum × Datum)) (t : Text) :
    Except Stop (List (Datum × Datum) × Text) :=
  match bound with
  | 0 => .error (.mistake .value t.length)
  | bound + 1 =>
    match t with
    | '"' :: r => do
      let (key, r) ← stringBody t.length r
      match skipBlanks r with
      | ':' :: r => do
        let (d, r) ← value bound levels (skipBlanks r)
        let entries := insert key d entries
        match skipBlanks r with
        | '}' :: rest => .ok (entries, rest)
        | ',' :: rest => members bound levels entries (skipBlanks rest)
        | r => .error (.mistake .comma r.length)
      | r => .error (.mistake .colon r.length)
    | t => .error (.mistake .name t.length)

end

/-- The value that a whole text is. -/
def document (t : Text) : Except Stop Datum :=
  if t.head? = some '\uFEFF' then .error (.mistake .mark t.length)
  else
    match value (2 * t.length + 2) mostLevels (skipBlanks t) with
    | .error s => .error s
    | .ok (d, r) =>
      match skipBlanks r with
      | [] => .ok d
      | r => .error (.mistake .extra r.length)

end Json

/-- The value that a JSON text is, or the first mistake in it. A text that holds what cannot be read is a
fault. -/
def Datum.ofJson (t : Text) : Except Fault (Except Json.Mistake Datum) :=
  match Json.document t with
  | .ok d => .ok (.ok d)
  | .error (.mistake cause left) => .ok (.error (.at t cause left))
  | .error (.fault cause) => .error cause

end GoCompletion
