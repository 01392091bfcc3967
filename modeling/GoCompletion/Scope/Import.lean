import GoCompletion.Import.Clause

/-!
# Import paths

Whether a string literal is an import path is told by the text in front of it: it follows the word
`import` and, if need be, a local name for the package; or it is alone on its line, but for a local
name, in an import block that is still open.
-/

namespace GoCompletion

/-- The text has nothing but blanks, or blanks around a local name for a package that at least one blank
follows. -/
def isImportLead (t : Text) : Bool :=
  let rest := (Text.stripStart t).dropWhile fun c => isWord c || c == '.'
  rest.all isBlank && (!rest.isEmpty || (Text.stripStart t).isEmpty)

/-- No word character stands in front. -/
def isWordBoundary (before : Option Char) : Bool :=
  match before with
  | none => true
  | some c => !isWord c

/-- The text ends in the word `import` and an import lead, with `before` in front of it. -/
def endsInImport (before : Option Char) : Text → Bool
  | [] => false
  | c :: r =>
    (isWordBoundary before && Text.startsWith (c :: r) importWord &&
      isImportLead ((c :: r).drop importWord.length)) || endsInImport (some c) r

/-- What follows the last opening paren of an import block, with `before` in front of the text. -/
def afterLastBlock (before : Option Char) : Text → Option Text
  | [] => none
  | c :: r =>
    match afterLastBlock (some c) r with
    | some rest => some rest
    | none => if isWordBoundary before then afterBlockOpening (c :: r) else none

/-- A literal with the text `before` in front of it is an import path. -/
def isImportPath (before : Text) : Bool :=
  endsInImport none before ||
    match afterLastBlock none before with
    | none => false
    | some rest => rest.all (· != ')') && isImportLead (Text.lineBefore before before.length)

end GoCompletion
