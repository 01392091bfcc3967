import GoCompletion.Proofs.Scope.Import
import GoCompletion.Proofs.Scope.Reach

/-!
# Import blocks

A block has one import on a line, with a local name and a comment if need be, and other lines that are empty
or hold a comment. Whatever the comments say, the scan reads every path as a literal in plain code
(`reaches_lines`). Whether the literal is an import path is looked up in the raw text in front of it, though,
and there a closing paren counts in a comment as well. So a path has the scopes of an import path exactly

* if **no comment above it holds a closing paren**,
* or if the comments make up for that: the last of them with a paren opens another block behind it, or the
  word `import` comes right before the path.

This is `scopesAt_importBlock`.
-/

namespace GoCompletion

/-- The character may stand in an import path. -/
def isPathChar (c : Char) : Bool := c.isAlphanum || ['.', '/', '-', '_'].contains c

/-- An import on a line of a block. -/
structure ImportSpec where
  /-- the local name -/
  name : Option Text
  /-- the import path -/
  path : Text
  /-- what the comment behind it says -/
  note : Option Text
  isName : ∀ n ∈ name, n.all isNameChar = true
  isPath : path.all isPathChar = true
  isNote : ∀ n ∈ note, '\n' ∉ n

/-- A line of a block. -/
inductive BlockLine where
  /-- a line with nothing but blanks on it -/
  | blank (t : Text) (hblank : Text.isBlank t = true) (hline : '\n' ∉ t)
  /-- a line with a comment -/
  | comment (note : Text) (hline : '\n' ∉ note)
  /-- a line with an import -/
  | spec (s : ImportSpec)

/-- What a comment looks like that says `note`. -/
def commentText (note : Text) : Text := '/' :: '/' :: note

namespace ImportSpec

/-- What stands in front of the path on its line. -/
def lead (s : ImportSpec) : Text := '\t' :: (s.name.map (· ++ [' '])).getD []

/-- What stands behind the path on its line. -/
def trail (s : ImportSpec) : Text := (s.note.map (' ' :: commentText ·)).getD []

end ImportSpec

namespace BlockLine

/-- The line, with the newline at its end. -/
def text : BlockLine → Text
  | blank t _ _ => t ++ ['\n']
  | comment note _ => ['\t'] ++ (commentText note ++ ['\n'])
  | spec s => s.lead ++ (inQuotes s.path ++ (s.trail ++ ['\n']))

/-- What the comment on the line says. -/
def note : BlockLine → Text
  | blank _ _ _ => []
  | comment note _ => note
  | spec s => s.note.getD []

end BlockLine

/-- The word `import`, a blank and the opening paren. -/
def blockOpening : Text := "import (".toList

/-- A buffer with an import block in it. -/
def importBlock (front : Text) (lines : List BlockLine) (behind : Text) : Text :=
  front ++ blockOpening ++ ['\n'] ++ lines.flatMap BlockLine.text ++ [')'] ++ behind

/-- What stands between the opening paren and the path of an import, with the lines `above` in front of
it. -/
def aboveSpec (above : List BlockLine) (s : ImportSpec) : Text :=
  ['\n'] ++ above.flatMap BlockLine.text ++ s.lead

/-- The text in front of the path of an import in a block, with the lines `above` in front of it. -/
def beforePath (front : Text) (above : List BlockLine) (s : ImportSpec) : Text :=
  front ++ (blockOpening ++ aboveSpec above s)

/-! ## The scan of a block -/

/-- A character that no path has. -/
theorem ImportSpec.ne_of_mem_path (s : ImportSpec) {c d : Char} (hc : c ∈ s.path)
    (hd : isPathChar d = false) : c ≠ d := by
  rintro rfl
  rw [List.all_eq_true.mp s.isPath c hc] at hd
  cases hd

theorem ImportSpec.quotable (s : ImportSpec) : Quotable s.path := fun _ hc =>
  ⟨s.ne_of_mem_path hc (by decide), s.ne_of_mem_path hc (by decide), s.ne_of_mem_path hc (by decide)⟩

theorem isCode_lead (s : ImportSpec) : s.lead.all isCode = true := by
  unfold ImportSpec.lead
  cases hname : s.name with
  | none => rfl
  | some n =>
    have hcode : n.all isCode = true := List.all_eq_true.mpr fun c hc =>
      isCode_of_kind (by decide) (List.all_eq_true.mp (s.isName n hname) c hc)
    simp [hcode, isCode, Construct.ofQuote]

/-- Behind a comment the scan is out of it where the line ends. -/
theorem reaches_comment {note : Text} (hnote : '\n' ∉ note) (i : Nat) (rest : Text) :
    Reaches none i (commentText note) ('\n' :: rest) none :=
  (owns_lexeme (.lineComment hnote (by simp [EndsLine])) i).reaches

theorem reaches_trail (s : ImportSpec) (i : Nat) (rest : Text) :
    Reaches none i s.trail ('\n' :: rest) none := by
  unfold ImportSpec.trail
  cases hnote : s.note with
  | none => exact .nil
  | some n => exact .append (s := [' ']) (reaches_code (by decide) i _) (reaches_comment (s.isNote n hnote) _ _)

/-- **The scan is in plain code behind every line.** -/
theorem BlockLine.reaches (l : BlockLine) (i : Nat) (rest : Text) : Reaches none i l.text rest none := by
  cases l with
  | blank t hblank hline =>
    have hcode : t.all isCode = true := List.all_eq_true.mpr fun c hc =>
      isCode_of_isBlank (List.all_eq_true.mp hblank c hc)
    exact .append (reaches_code hcode i _) (reaches_newline _ rest)
  | comment note hline =>
    exact .append (reaches_code (by decide) i _)
      (.append (reaches_comment hline _ _) (reaches_newline _ rest))
  | spec s =>
    exact .append (reaches_code (isCode_lead s) i _)
      (.append (owns_inQuotes s.quotable _ _).reaches
        (.append (reaches_trail s _ _) (reaches_newline _ rest)))

theorem reaches_lines (lines : List BlockLine) (i : Nat) (rest : Text) :
    Reaches none i (lines.flatMap BlockLine.text) rest none := by
  induction lines generalizing i with
  | nil => exact .nil
  | cons l lines ih => exact .append (l.reaches i _) (ih _)

/-! ## The text in front of a path -/

theorem importLead_lead (s : ImportSpec) : ImportLead s.lead := by
  unfold ImportSpec.lead
  cases hname : s.name with
  | none => exact ⟨['\t'], [], [], by decide, rfl, ⟨by decide, nofun⟩, rfl⟩
  | some n =>
    exact ⟨['\t'], n, [' '], by decide, s.isName n hname, ⟨by decide, fun _ => List.cons_ne_nil _ _⟩, rfl⟩

theorem paren_not_mem_lead (s : ImportSpec) : ')' ∉ s.lead :=
  (importLead_lead s).not_mem (by decide) (by decide)

theorem newline_not_mem_lead (s : ImportSpec) : '\n' ∉ s.lead := by
  unfold ImportSpec.lead
  cases hname : s.name with
  | none => decide
  | some n =>
    have hn : '\n' ∉ n := fun hm =>
      absurd (List.all_eq_true.mp (s.isName n hname) _ hm) (by decide)
    simp [hn]

/-- A line holds a closing paren in its comment only. -/
theorem BlockLine.paren_mem_text (l : BlockLine) : ')' ∈ l.text ↔ ')' ∈ l.note := by
  cases l with
  | blank t hblank hline =>
    have ht : ')' ∉ t := fun hm => absurd (List.all_eq_true.mp hblank _ hm) (by decide)
    simp [text, note, ht]
  | comment note hline => simp [text, BlockLine.note, commentText]
  | spec s =>
    have hpath : ')' ∉ s.path := fun hm => s.ne_of_mem_path hm (by decide) rfl
    cases hnote : s.note <;>
      simp [text, note, paren_not_mem_lead s, hpath, hnote, inQuotes, ImportSpec.trail, commentText]

theorem paren_mem_aboveSpec (above : List BlockLine) (s : ImportSpec) :
    ')' ∈ aboveSpec above s ↔ ∃ l ∈ above, ')' ∈ l.note := by
  simp [aboveSpec, paren_not_mem_lead s, List.mem_flatMap, BlockLine.paren_mem_text]

theorem BlockLine.exists_text (l : BlockLine) : ∃ body, l.text = body ++ ['\n'] := by
  cases l with
  | blank t _ _ => exact ⟨t, rfl⟩
  | comment note _ => exact ⟨['\t'] ++ commentText note, by simp [text]⟩
  | spec s => exact ⟨s.lead ++ (inQuotes s.path ++ s.trail), by simp [text]⟩

/-- The line of an import starts behind a newline. -/
theorem exists_aboveSpec (above : List BlockLine) (s : ImportSpec) :
    ∃ lines, aboveSpec above s = lines ++ '\n' :: s.lead := by
  induction above with
  | nil => exact ⟨[], rfl⟩
  | cons l above ih =>
    obtain ⟨body, hbody⟩ := l.exists_text
    obtain ⟨lines, hlines⟩ := ih
    refine ⟨['\n'] ++ body ++ lines, ?_⟩
    rw [List.append_assoc _ lines, ← hlines]
    simp [aboveSpec, hbody]

/-- **Import paths in a block.** A paren in a comment above hides a path, unless a comment makes up for it. -/
theorem isImportPath_beforePath {front : Text} (hfront : EndsOutsideWord front) (above : List BlockLine)
    (s : ImportSpec) :
    isImportPath (beforePath front above s) = true ↔
      (∀ l ∈ above, ')' ∉ l.note) ∨ InsideBlock (aboveSpec above s) ∨ EndsInImport (aboveSpec above s) := by
  have hopens : OpensBlock (blockOpening ++ aboveSpec above s) (aboveSpec above s) :=
    ⟨[' '], by decide, rfl⟩
  have hline : ImportLead (Text.lineBefore (beforePath front above s) (beforePath front above s).length) := by
    obtain ⟨lines, hlines⟩ := exists_aboveSpec above s
    rw [beforePath, hlines, ← List.append_assoc, ← List.append_assoc,
      Text.lineBefore_behind_newline (newline_not_mem_lead s)]
    exact importLead_lead s
  have hparen : ')' ∉ aboveSpec above s ↔ ∀ l ∈ above, ')' ∉ l.note := by
    simp [paren_mem_aboveSpec]
  rw [isImportPath_iff, and_iff_left hline, beforePath, endsInImport_append hopens,
    insideBlock_append hfront hopens, hparen]
  exact or_comm.trans or_assoc

/-! ## The scopes of a path -/

/-- **The scopes of the paths in an import block**, in a buffer that has no comment and no literal in front
of the block. Every character of a path has the scopes of an import path, or every one has those of any other
string; the first is so exactly if no comment above holds a closing paren, or if the text above opens another
block that is not closed, or ends in the word `import`. -/
theorem scopesAt_importBlock {front : Text} (hcode : front.all isCode = true)
    (hfront : ∀ c ∈ front.getLast?, c = '\n') (above : List BlockLine) (s : ImportSpec)
    (below : List BlockLine) (behind : Text) {j : Nat} (hj : j < (inQuotes s.path).length) :
    scopesAt (importBlock front (above ++ .spec s :: below) behind)
        ((beforePath front above s).length + j) ∈ [importScopes, stringScopes] ∧
      (scopesAt (importBlock front (above ++ .spec s :: below) behind)
          ((beforePath front above s).length + j) = importScopes ↔
        (∀ l ∈ above, ')' ∉ l.note) ∨ InsideBlock (aboveSpec above s) ∨
          EndsInImport (aboveSpec above s)) := by
  obtain ⟨rest, hbuffer⟩ : ∃ rest, importBlock front (above ++ .spec s :: below) behind =
      beforePath front above s ++ (inQuotes s.path ++ rest) :=
    ⟨s.trail ++ '\n' :: (below.flatMap BlockLine.text ++ ')' :: behind), by
      simp [importBlock, beforePath, aboveSpec, BlockLine.text]⟩
  have hreaches : Reaches none 0 (beforePath front above s) (inQuotes s.path ++ rest) none :=
    .append (reaches_code hcode 0 _) (.append (reaches_code (by decide) _ _)
      (.append (.append (reaches_newline _ _) (reaches_lines above _ _))
        (reaches_code (isCode_lead s) _ _)))
  have houtside : EndsOutsideWord front := fun c hc => by
    rw [hfront c hc]
    decide
  rw [hbuffer, scopesAt_inQuotes s.quotable hreaches hj, ← isImportPath_beforePath houtside]
  split
  · next hpath => simp [hpath]
  · next hpath => simp [hpath, importScopes_ne_stringScopes.symm]

/-- Below a comment with a closing paren and one that opens a block, an import path has its scopes again. -/
theorem scopesAt_importBlock_reopened :
    let front := "package p\n\n".toList
    let above : List BlockLine :=
      [.comment " see (1)".toList (by decide), .comment " as in import (".toList (by decide)]
    let spec : ImportSpec := ⟨some "io".toList, "os".toList, none, by decide, by decide, nofun⟩
    scopesAt (importBlock front (above ++ [.spec spec]) []) 56 = importScopes := by
  intro front above spec
  have hinside : InsideBlock (aboveSpec above spec) :=
    ⟨"\n\t// see (1)\n\t// as in ".toList, "import (\n\tio ".toList, "\n\tio ".toList,
      fun c hc => by cases hc; decide, ⟨[' '], by decide, by decide +kernel⟩, by decide +kernel,
      by decide +kernel⟩
  have hposition : (beforePath front above spec).length + 1 = 56 := by decide +kernel
  rw [← hposition]
  have hfront : ∀ c ∈ front.getLast?, c = '\n' := fun c hc => by cases hc; rfl
  exact (scopesAt_importBlock (by decide +kernel) hfront above spec [] [] (by decide +kernel)).2.mpr
    (.inr (.inl hinside))

/-- **A closing paren in a comment hides the imports below it.** -/
theorem scopesAt_closedByComment :
    let lines : List BlockLine :=
      [.comment " see (1)".toList (by decide), .spec ⟨none, "fmt".toList, none, nofun, by decide, nofun⟩]
    importBlock [] lines [] = "import (\n\t// see (1)\n\t\"fmt\"\n)".toList ∧
      ∀ i < 5, scopesAt (importBlock [] lines []) (22 + i) ≠ importScopes := by
  decide +kernel

end GoCompletion
