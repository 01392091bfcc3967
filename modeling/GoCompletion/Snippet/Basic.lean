import GoCompletion.Signature.Basic
import GoCompletion.Snippet.Mode

/-!
# Call snippets

A snippet is the text that accepting a completion writes, with numbered tab-stops `$N` and placeholders
`${N:default}`, and beside it the text that is shown for it, which has no markup. Both are put
together from left to right with one counter for the tab-stops; `$0` is where the cursor ends up.

A func-typed parameter becomes a func literal: a placeholder around the whole literal, one for each
identifier of its parameters, and a tab-stop in its body. A variadic parameter at the end is shown, but
is left out of what is written.
-/

namespace GoCompletion

/-- A text with tab-stops and the same text as it is shown. -/
structure Snippet where
  /-- the text with tab-stops -/
  written : Text
  /-- the text as it is shown -/
  shown : Text
  deriving DecidableEq, Repr

namespace Snippet

/-- Nothing written, nothing shown. -/
def empty : Snippet := ⟨[], []⟩

/-- Both texts alike. -/
def both (t : Text) : Snippet := ⟨t, t⟩

instance : Append Snippet where
  append a b := ⟨a.written ++ b.written, a.shown ++ b.shown⟩

@[simp] theorem written_append (a b : Snippet) : (a ++ b).written = a.written ++ b.written := rfl

@[simp] theorem shown_append (a b : Snippet) : (a ++ b).shown = a.shown ++ b.shown := rfl

end Snippet

/-- An opening brace with the closing one right behind it would be read as the end of a placeholder:
the closing one is escaped. -/
def escapeBraces : Text → Text
  | '{' :: '}' :: r => '{' :: '\\' :: '}' :: escapeBraces r
  | c :: r => c :: escapeBraces r
  | [] => []

/-- The tab-stop `n` with a default text. -/
def placeholder (n : Nat) (default : Text) : Text :=
  ['$', '{'] ++ Text.ofNat n ++ [':'] ++ default ++ ['}']

namespace Parameter

/-- What a func literal calls a parameter: its identifier, or `arg` and the position of the outermost
parameter that the literal stands for. -/
def literalLabel (p : Parameter) (position : Nat) : Text :=
  if p.identifier.isEmpty then "arg".toList ++ Text.ofNat position else p.identifier

/-- What the placeholder of a parameter holds. -/
def placeholderLabel (mode : SnippetMode) (p : Parameter) : Text :=
  if mode = .name ∧ ¬ p.identifier.isEmpty then p.identifier else p.name

end Parameter

/-! ## Func literals -/

/-- The head of a func literal, whose placeholder has the number `n`. -/
def literalHead (n : Nat) : Snippet :=
  ⟨['$', '{'] ++ Text.ofNat n ++ [':'] ++ funcToken, funcToken⟩

/-- The body of a func literal with the tab-stop `n` in it, and the end of its placeholder. The body is
not shown. -/
def literalBody (n : Nat) : Snippet :=
  ⟨[' ', '{', '\n', '\t', '$'] ++ Text.ofNat n ++ ['\n', '\\', '}', '}'], []⟩

/-- The returns of a func literal that are more than one. -/
def literalTuple (rs : List Parameter) : Snippet :=
  ⟨[' ', '('] ++ Text.join separator (rs.map fun r => escapeBraces r.typeText) ++ [')'],
    [' ', '('] ++ Text.join separator (rs.map (·.name)) ++ [')']⟩

mutual

/-- The func literal for a parameter at the given outermost position, and the last tab-stop number
used, when `counter` was the last one used before. -/
def funcLiteral (position counter : Nat) : Parameter → Snippet × Nat
  | ⟨_, _, _, .plain _⟩ =>
    (literalHead (counter + 1) ++ .both [')'] ++ literalBody (counter + 2), counter + 2)
  | ⟨_, _, _, .signature ⟨_, _, args, returns⟩⟩ =>
    let (inner, n) := literalArgs position (counter + 1) [] args
    let (out, m) := literalReturns position n returns
    (literalHead (counter + 1) ++ inner ++ .both [')'] ++ out ++ literalBody (m + 1), m + 1)

/-- The parameters of a func literal, with `lead` in front of the first one and a separator in front of
the others. -/
def literalArgs (position counter : Nat) (lead : Text) : List Parameter → Snippet × Nat
  | [] => (.empty, counter)
  | arg :: rest =>
    let label := arg.literalLabel position
    let start : Snippet :=
      ⟨lead ++ placeholder (counter + 1) label ++ [' '], lead ++ label ++ [' ']⟩
    let (type, n) :=
      if arg.isFunc then funcLiteral position (counter + 1) arg
      else (⟨escapeBraces arg.typeText, arg.typeText⟩, counter + 1)
    let (others, m) := literalArgs position n separator rest
    (start ++ type ++ others, m)

/-- The returns of a func literal. A single func return is a func literal too. -/
def literalReturns (position counter : Nat) : List Parameter → Snippet × Nat
  | [] => (.empty, counter)
  | [r] =>
    if r.isFunc then
      let (inner, n) := funcLiteral position counter r
      (.both [' '] ++ inner, n)
    else (⟨' ' :: escapeBraces r.typeText, ' ' :: r.name⟩, counter)
  | r₁ :: r₂ :: rs => (literalTuple (r₁ :: r₂ :: rs), counter)

end

/-! ## Calls -/

/-- The parameters of a call from the given position on, when `counter` was the last tab-stop number
used. Only the last parameter can be left out. -/
def callArgs (mode : SnippetMode) (position counter : Nat) : List Parameter → Snippet
  | [] => .empty
  | arg :: rest =>
    -- a variadic parameter at the end takes a number, though nothing of it is written
    let omitted := rest.isEmpty && arg.isVariadic
    let lead : Snippet :=
      if position = 0 then .empty else ⟨if omitted then [] else separator, separator⟩
    if arg.isFunc then
      let (literal, n) := funcLiteral position counter arg
      lead ++ literal ++ callArgs mode (position + 1) n rest
    else
      let hole := placeholder (counter + 1) (escapeBraces (arg.placeholderLabel mode))
      lead ++ ⟨if omitted then [] else hole, arg.name⟩ ++
        callArgs mode (position + 1) (counter + 1) rest

/-- The snippet for a call of `name`; without a signature it has no parameters. -/
def Snippet.call (mode : SnippetMode) (name : Text) : Option Signature → Snippet
  | none => .both (name ++ ['(']) ++ ⟨[')', '$', '0'], [')']⟩
  | some s =>
    let whole : Snippet :=
      .both (name ++ ['(']) ++ callArgs mode 0 0 s.args ++ ⟨[')', '$', '0'], [')']⟩
    match mode with
    | .none => { whole with written := name ++ ['(', '$', '1', ')', '$', '0'] }
    | _ => whole

end GoCompletion
