import GoCompletion.Text.Word

/-!
# Package clauses and import blocks

The two places of a Go file that an import can be added to, known by their words alone.
-/

namespace GoCompletion

/-- The word that starts an import. -/
def importWord : Text := "import".toList

/-- The word that starts a package clause. -/
def packageWord : Text := "package".toList

/-- What is behind the opening paren of an import block at the start of a text: the word `import`, any
blanks and the paren. -/
def afterBlockOpening (t : Text) : Option Text :=
  if Text.startsWith t importWord then
    match Text.stripStart (t.drop importWord.length) with
    | '(' :: r => some r
    | _ => none
  else none

/-- What is behind the line of a package clause at the start of a text: the word `package`, blanks, a
word and whatever else is on its line. -/
def afterPackageClause (t : Text) : Option Text :=
  if Text.startsWith t packageWord then
    let r := t.drop packageWord.length
    let name := Text.stripStart r
    if name.length < r.length && (name.head?.any isWord) then
      some (name.dropWhile (· != '\n'))
    else none
  else none

end GoCompletion
