import GoCompletion.Number.Numeral
import GoCompletion.Text.Utf8
import GoCompletion.Yaml.Scalar

/-!
# YAML tokens

A YAML text is cut into tokens: its indicators and scalars, and tokens that stand for the begin and the
end of collections which only indentation marks. A key is known to be one when the colon behind it
comes; then its token is put in front of what may have been a key.

Tokens are cut off one by one, as they are needed (`Scan.fill`): a token is known as soon as nothing
can be put in front of it any more.
-/

namespace GoCompletion

namespace Yaml

/-- The handle of a tag, absent where the tag is written out, and the rest of it. -/
structure TagName where
  /-- the handle, such as `!` or `!!` -/
  handle : Option Text
  /-- what follows the handle -/
  suffix : Text
  deriving DecidableEq, Repr

/-- A directive in front of a document. -/
inductive Directive where
  /-- the version of YAML, by its major number -/
  | version (major : Nat)
  /-- what a tag handle stands for -/
  | tag (handle stem : Text)
  /-- any other -/
  | other
  deriving DecidableEq, Repr

/-- A token. -/
inductive Token where
  | directive (d : Directive)
  | documentStart
  | documentEnd
  | blockSequence
  | blockMapping
  | blockEnd
  | flowSequence
  | flowSequenceEnd
  | flowMapping
  | flowMappingEnd
  | flowEntry
  | blockEntry
  | key
  | value
  | alias (name : Text)
  | anchor (name : Text)
  | tag (name : TagName)
  | scalar (plain : Bool) (text : Text)
  deriving DecidableEq, Repr

/-! ## Tags and directives -/

/-- The character may stand in a tag. -/
def isTagChar (c : Char) : Bool :=
  c.isAlphanum || "-;/?:@&=+$,_.!~*\x27()[]".toList.contains c

/-- Bytes written as percent signs with two hexadecimal digits each, and what is left behind them. -/
def percentBytes (bound : Nat) (t : Text) : Option (List UInt8 × Nat) :=
  match bound, t with
  | bound + 1, '%' :: a :: b :: r =>
    (Json.hexNumber? [a, b]).bind fun n =>
      (percentBytes bound r).map fun p => (n.toUInt8 :: p.1, p.2 + 3)
  | _, '%' :: _ => none
  | _, _ => some ([], 0)

/-- The part of a tag ahead that is no handle. -/
def tagText (bound : Nat) (c : Cursor) : Option (Text × Cursor) :=
  match bound with
  | 0 => none
  | bound + 1 =>
    match c.head with
    | none => some ([], c)
    | some ch =>
      if ch == '%' then
        (percentBytes c.rest.length c.rest).bind fun p =>
          (Utf8.decode? p.1).bind fun t =>
            (tagText bound (c.skip p.2)).map fun r => (t ++ r.1, r.2)
      else if isTagChar ch then (tagText bound c.next).map fun r => (ch :: r.1, r.2)
      else some ([], c)

/-- The part of a tag ahead that is no handle; it is not empty. -/
def tagText? (c : Cursor) : Option (Text × Cursor) :=
  (tagText (c.rest.length + 1) c).bind fun r => if r.1.isEmpty then none else some r

/-- The handle of a tag ahead: an exclamation mark, or a name between two of them. -/
def tagHandle? (c : Cursor) : Option (Text × Cursor) :=
  if c.head = some '!' then
    if c.peek 1 = some ' ' then some (['!'], c.next)
    else
      let (name, behind) := c.next.span isNameChar
      if behind.head = some '!' then some ('!' :: name ++ ['!'], behind.next) else none
  else none

/-- A handle is ahead, behind the first exclamation mark, in front of the next space. -/
def hasHandle (t : Text) : Bool := (t.takeWhile fun c => c != ' ' && !isBreak c).contains '!'

/-- The tag ahead. -/
def tagName? (c : Cursor) : Option (TagName × Cursor) :=
  let result : Option (TagName × Cursor) :=
    -- in angle brackets the tag is written out
    if c.peek 1 = some '<' then
      (tagText? (c.skip 2)).bind fun r =>
        if r.2.head = some '>' then some (⟨none, r.1⟩, r.2.next) else none
    -- a mark alone leaves the kind open
    else if blankOrEnd (c.peek 1) then some (⟨none, ['!']⟩, c.next)
    else
      let handle : Option (Text × Cursor) :=
        if hasHandle c.next.rest then tagHandle? c else some (['!'], c.next)
      handle.bind fun h => (tagText? h.2).map fun r => (⟨some h.1, r.1⟩, r.2)
  result.bind fun r => if spaceOrEnd r.2.head then some r else none

/-- The number ahead. -/
def number (c : Cursor) : Result (Nat × Cursor) :=
  let (ds, c) := c.span Char.isDigit
  if ds.isEmpty then refuse else (orFault (Numeral.ofDigits ds)).map fun n => (n, c)

/-- What a directive about the version says, behind its name. -/
def versionDirective (c : Cursor) : Result (Directive × Cursor) :=
  (number c.skipSpaces).bind fun major =>
    if major.2.head = some '.' then
      (number major.2.next).bind fun minor =>
        if spaceOrEnd minor.2.head then .ok (.version major.1, minor.2) else refuse
    else refuse

/-- What a directive about a tag handle says, behind its name. -/
def tagDirective? (c : Cursor) : Option (Directive × Cursor) :=
  (tagHandle? c.skipSpaces).bind fun h =>
    if h.2.head = some ' ' then
      (tagText? h.2.skipSpaces).bind fun r =>
        if spaceOrEnd r.2.head then some (.tag h.1 r.1, r.2) else none
    else none

/-- The directive ahead, with its line. -/
def directive (c : Cursor) : Result (Directive × Cursor) :=
  let (name, c) := c.next.span isNameChar
  if name.isEmpty || !spaceOrEnd c.head then refuse
  else
    let body : Result (Directive × Cursor) :=
      if name = "YAML".toList then versionDirective c
      else if name = "TAG".toList then orRefuse (tagDirective? c)
      else .ok (.other, (c.span (!isBreak ·)).2)
    body.bind fun b => (orRefuse b.2.endLine?).map fun c => (b.1, c)

/-- The name of an anchor or alias ahead, behind its mark. -/
def anchorName? (c : Cursor) : Option (Text × Cursor) :=
  let (name, c) := c.next.span isNameChar
  let ends : Bool :=
    blankOrEnd c.head || c.head.any fun ch => "?:,]\x7d%@\x60".toList.contains ch
  if name.isEmpty || !ends then none else some (name, c)

/-! ## The state between two tokens -/

/-- A place where a key may have begun. -/
structure PossibleKey where
  /-- the number of tokens in front -/
  number : Nat
  /-- a key has to be here -/
  required : Bool
  /-- where the key began -/
  start : Cursor

/-- The state between two tokens. -/
structure Scan where
  /-- the place in the text -/
  cursor : Cursor
  /-- the tokens that have been cut off and not been taken yet -/
  tokens : List Token := []
  /-- the number of tokens that have been taken -/
  taken : Nat := 0
  /-- the number of brackets that are open -/
  flow : Nat := 0
  /-- the column of the innermost block collection -/
  indent : Int := -1
  /-- the columns of the collections around it -/
  outer : List Int := []
  /-- a key may begin here -/
  keyAllowed : Bool := true
  /-- where keys may have begun, by the number of open brackets -/
  keys : List (Nat × PossibleKey) := []
  /-- the end of the text has been met -/
  isDone : Bool := false

namespace Scan

/-- The state with one more token. -/
def push (s : Scan) (t : Token) : Scan := { s with tokens := s.tokens ++ [t] }

/-- The state with one more token in front of the one with a number. -/
def pushAt (s : Scan) (number : Nat) (t : Token) : Scan :=
  let n := number - s.taken
  { s with tokens := s.tokens.take n ++ t :: s.tokens.drop n }

/-- Collections that are indented further than the column are over. -/
def unwind (s : Scan) (column : Int) : Scan :=
  if s.flow ≠ 0 then s
  else
    let rec close (indent : Int) (outer : List Int) (tokens : List Token) : Scan :=
      match outer with
      | [] => { s with indent, outer := [], tokens }
      | i :: rest =>
        if indent > column then close i rest (tokens ++ [.blockEnd])
        else { s with indent, outer := i :: rest, tokens }
    close s.indent s.outer s.tokens

/-- A collection begins at the column, unless one does already. -/
def nest (s : Scan) (column : Nat) : Option Scan :=
  if s.indent < column then some { s with indent := column, outer := s.indent :: s.outer }
  else none

/-- A key that may have begun is given up where it cannot be one any more. -/
def dropStale (s : Scan) : Result Scan :=
  -- a key ends on its line, and within 1024 characters
  let isStale (k : PossibleKey) : Bool :=
    k.start.line != s.cursor.line || s.cursor.index - k.start.index > 1024
  if s.keys.any fun k => isStale k.2 && k.2.required then refuse
  else .ok { s with keys := s.keys.filter fun k => !isStale k.2 }

/-- What may have been a key on this level is none. -/
def dropKey (s : Scan) : Result Scan :=
  if s.keys.any fun k => k.1 == s.flow && k.2.required then refuse
  else .ok { s with keys := s.keys.filter fun k => k.1 != s.flow }

/-- A key may begin here, if one is allowed. -/
def markKey (s : Scan) : Result Scan :=
  if s.keyAllowed then
    let key : PossibleKey :=
      { number := s.taken + s.tokens.length
        required := s.flow == 0 && s.indent == s.cursor.column
        start := s.cursor }
    s.dropKey.map fun s => { s with keys := (s.flow, key) :: s.keys }
  else .ok s

/-- The state in front of the next token: blanks, comments and line breaks are taken off, and outside
brackets a key is allowed on a new line. -/
def toToken (bound : Nat) (s : Scan) : Scan :=
  match bound with
  | 0 => s
  | bound + 1 =>
    -- a byte order mark may stand in front of everything
    let c :=
      if s.cursor.index = 0 ∧ s.cursor.head = some '\uFEFF' then s.cursor.next else s.cursor
    let c := c.skipSpaces.skipComment
    match c.lineBreak with
    | ([], _) => { s with cursor := c }
    | (_, c) => toToken bound { s with cursor := c, keyAllowed := s.keyAllowed || s.flow == 0 }

/-! ## Single tokens -/

/-- The token of a mark of one character. -/
def mark (s : Scan) (t : Token) : Scan := { s.push t with cursor := s.cursor.next }

/-- A document starts or ends. -/
def document (s : Scan) (t : Token) : Result Scan :=
  (s.unwind (-1)).dropKey.map fun s =>
    { s.push t with cursor := s.cursor.skip 3, keyAllowed := false }

/-- A directive. -/
def directive (s : Scan) : Result Scan :=
  (s.unwind (-1)).dropKey.bind fun s =>
    (Yaml.directive s.cursor).map fun d =>
      { s.push (.directive d.1) with cursor := d.2, keyAllowed := false }

/-- A bracket opens. -/
def openFlow (s : Scan) (t : Token) : Result Scan :=
  s.markKey.map fun s => { s.mark t with flow := s.flow + 1, keyAllowed := true }

/-- A bracket closes. -/
def closeFlow (s : Scan) (t : Token) : Result Scan :=
  if s.flow = 0 then refuse
  else s.dropKey.map fun s => { s.mark t with flow := s.flow - 1, keyAllowed := false }

/-- A comma between brackets. -/
def entry (s : Scan) : Result Scan :=
  s.dropKey.map fun s => { s.mark .flowEntry with keyAllowed := true }

/-- A collection begins at the column of the cursor, if none does yet; only where a key may. -/
def beginBlock (s : Scan) (t : Token) : Result Scan :=
  if s.flow ≠ 0 then .ok s
  else if !s.keyAllowed then refuse
  else
    match s.nest s.cursor.column with
    | some s => .ok (s.push t)
    | none => .ok s

/-- The dash of a block sequence. -/
def blockEntry (s : Scan) : Result Scan :=
  (s.beginBlock .blockSequence).bind fun s =>
    s.dropKey.map fun s => { s.mark .blockEntry with keyAllowed := true }

/-- The question mark in front of a key. -/
def explicitKey (s : Scan) : Result Scan :=
  (s.beginBlock .blockMapping).bind fun s =>
    s.dropKey.map fun s => { s.mark .key with keyAllowed := s.flow == 0 }

/-- The colon behind a key: what may have been a key on this level is one. -/
def value (s : Scan) : Result Scan :=
  match s.keys.find? fun k => k.1 == s.flow with
  | some (_, k) =>
    -- the key, and outside brackets the mapping it may begin, go in front of it
    let s := { s with keys := s.keys.filter fun k => k.1 != s.flow }
    let s := s.pushAt k.number .key
    let s :=
      if s.flow ≠ 0 then s
      else
        match s.nest k.start.column with
        | some s => s.pushAt k.number .blockMapping
        | none => s
    .ok { s.mark .value with keyAllowed := false }
  | none =>
    -- nothing was a key: the colon stands for itself
    (s.beginBlock .blockMapping).bind fun s =>
      s.dropKey.map fun s => { s.mark .value with keyAllowed := s.flow == 0 }

/-- A token that may be a key or stand in front of one. -/
def keyLike (s : Scan) (token : Cursor → Result (Token × Cursor)) : Result Scan :=
  s.markKey.bind fun s =>
    (token s.cursor).map fun r => { s.push r.1 with cursor := r.2, keyAllowed := false }

/-- A block scalar. -/
def block (s : Scan) (folded : Bool) : Result Scan :=
  s.dropKey.bind fun s =>
    (blockScalar folded s.indent s.cursor).map fun r =>
      { s.push (.scalar false r.1) with cursor := r.2, keyAllowed := true }

/-- A plain scalar. -/
def plain (s : Scan) : Result Scan :=
  s.markKey.map fun s =>
    let p := plainScalar (s.flow != 0) (s.indent + 1) s.cursor
    { s.push (.scalar true p.text) with cursor := p.behind, keyAllowed := p.broken }

/-- A plain scalar may begin here. -/
def plainAhead (s : Scan) (ch : Char) : Bool :=
  let mark := "-?:,[]\x7b\x7d#&*!|>\x27\"%@\x60".toList.contains ch
  let dash := ch == '-' || (s.flow == 0 && (ch == '?' || ch == ':'))
  !(mark || blankOrEnd (some ch)) || (dash && !blankOrEnd (s.cursor.peek 1))

/-- The next token, which begins with the character `ch`. -/
def token (s : Scan) (ch : Char) : Result Scan :=
  let c := s.cursor
  let inFlow := s.flow != 0
  let alone := inFlow || blankOrEnd (c.peek 1)
  -- directives and the marks of documents stand at the start of a line
  if ch == '%' && c.column == 0 then s.directive
  else if c.column == 0 && c.atMarker '-' then s.document .documentStart
  else if c.column == 0 && c.atMarker '.' then s.document .documentEnd
  -- brackets and what stands between them
  else if ch == '[' then s.openFlow .flowSequence
  else if ch == '{' then s.openFlow .flowMapping
  else if ch == ']' then s.closeFlow .flowSequenceEnd
  else if ch == '}' then s.closeFlow .flowMappingEnd
  else if ch == ',' then s.entry
  -- entries, keys and values
  else if ch == '-' && blankOrEnd (c.peek 1) then s.blockEntry
  else if ch == '?' && alone then s.explicitKey
  else if ch == ':' && alone then s.value
  -- what may be a key or stand in front of one, and block scalars
  else if ch == '*' then
    s.keyLike fun c => (orRefuse (anchorName? c)).map fun r => (.alias r.1, r.2)
  else if ch == '&' then
    s.keyLike fun c => (orRefuse (anchorName? c)).map fun r => (.anchor r.1, r.2)
  else if ch == '!' then
    s.keyLike fun c => (orRefuse (tagName? c)).map fun r => (.tag r.1, r.2)
  else if ch == '|' && !inFlow then s.block false
  else if ch == '>' && !inFlow then s.block true
  else if ch == '\x27' then
    s.keyLike fun c => (quotedScalar false c).map fun r => (.scalar false r.1, r.2)
  else if ch == '"' then
    s.keyLike fun c => (quotedScalar true c).map fun r => (.scalar false r.1, r.2)
  else if s.plainAhead ch then s.plain
  else refuse

/-! ## Tokens on demand -/

/-- The next token is cut off; behind the last one, the text is done. -/
def fetch (s : Scan) : Result Scan :=
  (s.toToken (s.cursor.rest.length + 1)).dropStale.bind fun s =>
    let s := s.unwind s.cursor.column
    match s.cursor.head with
    | none => (s.unwind (-1)).dropKey.map fun s => { s with keys := [], isDone := true }
    | some ch => s.token ch

/-- A key may have begun with the first token that has not been taken. -/
def isPending (s : Scan) : Bool := s.keys.any fun k => k.2.number == s.taken

/-- The state in which the token ahead is known: the first one, and no other can be put in front of it.
At the end of the text there is none. -/
def fill (bound : Nat) (s : Scan) : Result Scan :=
  match bound with
  | 0 => refuse
  | bound + 1 =>
    if s.isDone then .ok s
    else if s.tokens.isEmpty then s.fetch.bind (fill bound)
    else s.dropStale.bind fun s => if s.isPending then s.fetch.bind (fill bound) else .ok s

/-- The state in which the token ahead is known. Every turn takes at least a character off the text, and
the last one meets its end. -/
def look (s : Scan) : Result Scan := s.fill (s.cursor.rest.length + 2)

/-- The state behind the token ahead. -/
def take (s : Scan) : Scan := { s with tokens := s.tokens.tail, taken := s.taken + 1 }

end Scan

/-- A tab, a line break or a character that can be printed. -/
def isYamlChar (c : Char) : Bool :=
  let n := c.toNat
  n == 0x09 || n == 0x0A || n == 0x0D || (0x20 ≤ n && n ≤ 0x7E) || n == 0x85 ||
    (0xA0 ≤ n && n ≤ 0xD7FF) || (0xE000 ≤ n && n ≤ 0xFFFD) || 0x10000 ≤ n

/-- The state in front of the first token of a text. -/
def scan (t : Text) : Result Scan :=
  if t.all isYamlChar then .ok { cursor := { rest := t } } else refuse

end Yaml

end GoCompletion
