import GoCompletion.Proofs.Import.Site
import GoCompletion.Proofs.Text.Lines
import GoCompletion.Scope.Import

/-!
# What import paths look like

Whether a literal is an import path is told by the raw text in front of it, comments and all. Here that is
said of the text itself:

* it ends in the word `import` and a local name, if there is one (`EndsInImport`);
* or it has an opening of an import block with no closing paren behind (`InsideBlock`), and its last line is
  empty but for a local name.

The recogniser says yes in these two cases and no others (`isImportPath_iff`).
-/

namespace GoCompletion

/-- The text does not end in a word character, so that a word may start behind it. -/
def EndsOutsideWord (t : Text) : Prop := ∀ c ∈ t.getLast?, isWord c = false

/-- The character may stand in a local name for a package. -/
def isNameChar (c : Char) : Bool := isWord c || c == '.'

/-- What may stand in front of an import path on its line: blanks, and a local name with blanks behind
it. -/
def ImportLead (t : Text) : Prop :=
  ∃ blanks name gap, Text.isBlank blanks = true ∧ name.all isNameChar = true ∧
    (Text.isBlank gap = true ∧ (name ≠ [] → gap ≠ [])) ∧ t = blanks ++ name ++ gap

/-- The text ends in the word `import` and a lead. -/
def EndsInImport (t : Text) : Prop :=
  ∃ front lead, EndsOutsideWord front ∧ ImportLead lead ∧ t = front ++ importWord ++ lead

/-- An import block opens in the text, and no closing paren stands behind that. -/
def InsideBlock (t : Text) : Prop :=
  ∃ front rest behind, EndsOutsideWord front ∧ OpensBlock rest behind ∧ ')' ∉ behind ∧
    t = front ++ rest

/-! ## Leads -/

theorem isBlank_eq_false_of_isNameChar {c : Char} (h : isNameChar c = true) : isBlank c = false := by
  obtain hword | hdot := Bool.or_eq_true_iff.mp h
  · exact isBlank_eq_false_of_isWord hword
  · rw [beq_iff_eq.mp hdot]
    decide

theorem isImportLead_eq (t : Text) :
    isImportLead t = (((Text.stripStart t).dropWhile isNameChar).all isBlank &&
      (!((Text.stripStart t).dropWhile isNameChar).isEmpty || (Text.stripStart t).isEmpty)) := rfl

theorem isImportLead_iff {t : Text} : isImportLead t = true ↔ ImportLead t := by
  rw [isImportLead_eq]
  constructor
  · intro h
    obtain ⟨blanks, hblanks, ht⟩ := exists_blanks t
    rw [Bool.and_eq_true, Bool.or_eq_true, Bool.not_eq_true', List.isEmpty_iff] at h
    obtain ⟨hgap, hnonempty⟩ := h
    refine ⟨blanks, (Text.stripStart t).takeWhile isNameChar, _, hblanks, List.all_takeWhile,
      ⟨hgap, fun hname hnil => ?_⟩, ?_⟩
    · obtain hrest | hstripped := hnonempty
      · rw [hnil] at hrest
        cases hrest
      · rw [hstripped] at hname
        exact hname rfl
    · rw [List.append_assoc, List.takeWhile_append_dropWhile]
      exact ht
  · rintro ⟨blanks, name, gap, hblanks, hname, ⟨hgap, hne⟩, rfl⟩
    have hname' : ∀ c ∈ name, isNameChar c = true := List.all_eq_true.mp hname
    cases name with
    | nil =>
      have hall : Text.isBlank (blanks ++ gap) = true := by
        rw [Text.isBlank, List.all_append, Bool.and_eq_true]
        exact ⟨hblanks, hgap⟩
      have hstrip : Text.stripStart (blanks ++ gap) = [] := by
        simpa using stripStart_append hall (t := []) nofun
      simp [hstrip]
    | cons c name =>
      have hstrip : Text.stripStart (blanks ++ (c :: name ++ gap)) = c :: name ++ gap :=
        stripStart_append hblanks fun d hd => by
          cases hd
          exact isBlank_eq_false_of_isNameChar (hname' c List.mem_cons_self)
      have hdrop : (c :: name ++ gap).dropWhile isNameChar = gap := by
        refine Text.dropWhile_append_of_head hname' fun d hd => Bool.eq_false_iff.mpr fun hw => ?_
        have hd' : isBlank d = true := List.all_eq_true.mp hgap d (List.mem_of_head? hd)
        rw [isBlank_eq_false_of_isNameChar hw] at hd'
        cases hd'
      have hgap' : gap.all isBlank = true := hgap
      rw [List.append_assoc, hstrip, hdrop, hgap']
      simpa using hne (List.cons_ne_nil _ _)

/-! ## The word at the end -/

/-- The last character of a text with `before` in front of it. -/
def lastOr (before : Option Char) (t : Text) : Option Char := t.getLast?.or before

theorem lastOr_cons (before : Option Char) (c : Char) (t : Text) :
    lastOr before (c :: t) = lastOr (some c) t := by
  rw [lastOr, lastOr, List.getLast?_cons]
  cases t.getLast? <;> rfl

theorem isWordBoundary_lastOr {t : Text} : isWordBoundary (lastOr none t) = true ↔ EndsOutsideWord t := by
  rw [lastOr, EndsOutsideWord, Option.or_none]
  cases t.getLast? <;> simp [isWordBoundary]

theorem endsInImport_iff_lastOr {before : Option Char} {t : Text} :
    endsInImport before t = true ↔ ∃ front lead, isWordBoundary (lastOr before front) = true ∧
      ImportLead lead ∧ t = front ++ importWord ++ lead := by
  induction t generalizing before with
  | nil => simp [endsInImport, importWord]
  | cons c r ih =>
    rw [endsInImport, Bool.or_eq_true, Bool.and_eq_true, Bool.and_eq_true, isImportLead_iff, ih]
    constructor
    · rintro (⟨⟨hbefore, hword⟩, hlead⟩ | ⟨front, lead, hfront, hlead, rfl⟩)
      · exact ⟨[], _, hbefore, hlead, (Text.append_drop_of_isPrefixOf hword).symm⟩
      · exact ⟨c :: front, lead, by rwa [lastOr_cons], hlead, rfl⟩
    · rintro ⟨front, lead, hfront, hlead, ht⟩
      cases front with
      | nil =>
        have hword : Text.startsWith (c :: r) importWord = true := by
          rw [ht]
          exact Text.startsWith_iff_prefix.mpr (List.prefix_append _ _)
        refine .inl ⟨⟨hfront, hword⟩, ?_⟩
        rw [ht, List.nil_append, List.drop_left]
        exact hlead
      | cons d front =>
        obtain ⟨rfl, rfl⟩ := List.cons.inj ht
        exact .inr ⟨front, lead, by rwa [← lastOr_cons], hlead, rfl⟩

theorem endsInImport_iff {t : Text} : endsInImport none t = true ↔ EndsInImport t := by
  rw [endsInImport_iff_lastOr]
  simp only [isWordBoundary_lastOr, EndsInImport]

/-! ## The last block -/

/-- The paren of an opening is the first one: what stands behind any other is behind this one too. -/
theorem OpensBlock.suffix_of_paren {t rest a b : Text} (h : OpensBlock t rest) (ht : t = a ++ '(' :: b) :
    b <:+ rest := by
  obtain ⟨blanks, hblanks, rfl⟩ := h
  have hparen : '(' ∉ importWord ++ blanks := by
    rw [List.mem_append, not_or]
    exact ⟨by decide, fun hm => absurd (List.all_eq_true.mp hblanks _ hm) (by decide)⟩
  obtain ⟨c, -, hc⟩ | ⟨c, hc, hrest⟩ := List.append_eq_append_iff.mp ht
  · cases c with
    | nil => exact (List.cons.inj hc).2 ▸ List.suffix_rfl
    | cons d c =>
      obtain ⟨-, rfl⟩ := List.cons.inj hc
      exact ⟨c ++ ['('], by simp⟩
  · cases c with
    | nil => exact (List.cons.inj hrest).2 ▸ List.suffix_rfl
    | cons d c =>
      obtain ⟨rfl, -⟩ := List.cons.inj hrest
      exact absurd (by simp [hc]) hparen

variable {before : Option Char} {t rest : Text}

/-- What the search finds is behind an opening. -/
theorem opensBlock_of_afterLastBlock (h : afterLastBlock before t = some rest) :
    ∃ front tail, isWordBoundary (lastOr before front) = true ∧ OpensBlock tail rest ∧
      t = front ++ tail := by
  induction t generalizing before with
  | nil => cases h
  | cons c r ih =>
    rw [afterLastBlock] at h
    split at h
    · next hlater =>
      cases h
      obtain ⟨front, tail, hfront, hopens, rfl⟩ := ih hlater
      exact ⟨c :: front, tail, by rwa [lastOr_cons], hopens, rfl⟩
    · obtain ⟨hbefore, hopens⟩ := Option.ite_none_right_eq_some.mp h
      exact ⟨[], c :: r, hbefore, afterBlockOpening_eq_some.mp hopens, rfl⟩

/-- **The search finds the last opening**: what is behind it is behind every other. -/
theorem exists_afterLastBlock {front tail : Text} (hfront : isWordBoundary (lastOr before front) = true)
    (hopens : OpensBlock tail rest) (ht : t = front ++ tail) :
    ∃ last, afterLastBlock before t = some last ∧ last <:+ rest := by
  induction t generalizing before front with
  | nil =>
    obtain ⟨blanks, -, rfl⟩ := hopens
    simp at ht
  | cons c r ih =>
    rw [afterLastBlock]
    cases front with
    | nil =>
      obtain rfl : tail = c :: r := ht.symm
      split
      · next last hlater =>
        obtain ⟨front, tail, -, ⟨blanks, -, rfl⟩, rfl⟩ := opensBlock_of_afterLastBlock hlater
        exact ⟨last, rfl, hopens.suffix_of_paren (a := c :: (front ++ (importWord ++ blanks))) (by simp)⟩
      · have hbefore : isWordBoundary before = true := hfront
        rw [if_pos hbefore, afterBlockOpening_eq_some.mpr hopens]
        exact ⟨rest, rfl, List.suffix_rfl⟩
    | cons d front =>
      obtain ⟨rfl, hr⟩ := List.cons.inj ht
      rw [lastOr_cons] at hfront
      obtain ⟨last, hlast, hsuffix⟩ := ih hfront hr
      rw [hlast]
      exact ⟨last, rfl, hsuffix⟩

/-- A closing paren is looked for behind the last opening only, which is where one matters least. -/
theorem insideBlock_iff :
    InsideBlock t ↔ ∃ last, afterLastBlock none t = some last ∧ ')' ∉ last := by
  constructor
  · rintro ⟨front, tail, rest, hfront, hopens, hparen, ht⟩
    obtain ⟨last, hlast, hsuffix⟩ := exists_afterLastBlock (isWordBoundary_lastOr.mpr hfront) hopens ht
    exact ⟨last, hlast, fun hm => hparen (hsuffix.mem hm)⟩
  · rintro ⟨last, hlast, hparen⟩
    obtain ⟨front, tail, hfront, hopens, ht⟩ := opensBlock_of_afterLastBlock hlast
    exact ⟨front, tail, last, isWordBoundary_lastOr.mp hfront, hopens, hparen, ht⟩

/-- **What import paths look like.** -/
theorem isImportPath_iff {t : Text} :
    isImportPath t = true ↔
      EndsInImport t ∨ InsideBlock t ∧ ImportLead (Text.lineBefore t t.length) := by
  rw [isImportPath, Bool.or_eq_true, endsInImport_iff, insideBlock_iff]
  refine or_congr_right ?_
  cases afterLastBlock none t with
  | none => simp
  | some last =>
    have hparen : (last.all (· != ')')) = true ↔ ')' ∉ last := by
      rw [List.all_eq_true]
      exact ⟨fun h hm => absurd (h _ hm) (by decide), fun h c hc => by
        rw [bne_iff_ne]
        rintro rfl
        exact h hc⟩
    simp [hparen, isImportLead_iff]

/-! ## Behind an opening -/

theorem EndsOutsideWord.of_append {s t : Text} (h : EndsOutsideWord (s ++ t)) : EndsOutsideWord t := by
  intro c hc
  refine h c ?_
  rw [Option.mem_def] at hc
  rw [List.getLast?_append, hc]
  rfl

/-- A paren is no part of a word. -/
theorem EndsOutsideWord.append_paren {t : Text} (h : EndsOutsideWord t) (s : Text) :
    EndsOutsideWord (s ++ '(' :: t) := by
  intro c hc
  rw [List.getLast?_append, List.getLast?_cons, Option.some_or, Option.mem_some_iff] at hc
  cases ht : t.getLast? with
  | none =>
    rw [ht] at hc
    cases hc
    decide
  | some d =>
    rw [ht] at hc
    cases hc
    exact h d ht

/-- A lead has no character that is neither blank nor part of a name. -/
theorem ImportLead.not_mem {t : Text} {c : Char} (h : ImportLead t) (hblank : isBlank c = false)
    (hname : isNameChar c = false) : c ∉ t := by
  obtain ⟨blanks, name, gap, hblanks, hchars, ⟨hgap, -⟩, rfl⟩ := h
  have hnot : ∀ {kind : Char → Bool} {s : Text}, s.all kind = true → kind c = false → c ∉ s := by
    intro kind s hs hc hm
    rw [List.all_eq_true.mp hs c hm] at hc
    cases hc
  simp only [List.mem_append, not_or]
  exact ⟨⟨hnot hblanks hblank, hnot hchars hname⟩, hnot hgap hblank⟩

section Opening

variable {front opening between : Text}

/-- Behind the opening of a block, only the text behind it tells whether a text ends in the word
`import`. -/
theorem endsInImport_append (hopens : OpensBlock opening between) :
    EndsInImport (front ++ opening) ↔ EndsInImport between := by
  obtain ⟨blanks, hblanks, rfl⟩ := hopens
  have hparen : ∀ s : Text, front ++ (importWord ++ blanks ++ '(' :: s) =
      front ++ (importWord ++ blanks) ++ '(' :: s := fun s => by simp
  rw [hparen]
  constructor
  · rintro ⟨before, lead, hbefore, hlead, ht⟩
    rw [List.append_assoc before] at ht
    obtain ⟨c, rfl, hc⟩ | ⟨c, -, hc⟩ := List.append_eq_append_iff.mp ht
    · cases c with
      | nil => cases hc
      | cons d c =>
        obtain ⟨rfl, rfl⟩ := List.cons.inj hc
        rw [← List.singleton_append, ← List.append_assoc] at hbefore
        exact ⟨c, lead, hbefore.of_append, hlead, (List.append_assoc _ _ _).symm⟩
    · -- a word and its lead hold no paren
      have hm : '(' ∈ importWord ++ lead := by rw [hc]; simp
      rw [List.mem_append] at hm
      obtain hm | hm := hm
      · exact absurd hm (by decide)
      · exact absurd hm (hlead.not_mem (by decide) (by decide))
  · rintro ⟨before, lead, hbefore, hlead, rfl⟩
    exact ⟨_, lead, hbefore.append_paren (front ++ (importWord ++ blanks)), hlead, by simp⟩

/-- A block that is opened stays so where no closing paren follows, **or where another block opens
behind**. -/
theorem insideBlock_append (hfront : EndsOutsideWord front) (hopens : OpensBlock opening between) :
    InsideBlock (front ++ opening) ↔ ')' ∉ between ∨ InsideBlock between := by
  constructor
  · rintro ⟨before, rest, behind, hbefore, hrest, hclosed, ht⟩
    obtain ⟨blanks, -, rfl⟩ := hopens
    have ht' : front ++ (importWord ++ blanks) ++ '(' :: between = before ++ rest := by
      rw [← ht]
      simp
    obtain ⟨c, rfl, hc⟩ | ⟨c, -, hc⟩ := List.append_eq_append_iff.mp ht'
    · cases c with
      | nil => exact .inl fun hm => hclosed ((hrest.suffix_of_paren (a := []) hc.symm).mem hm)
      | cons d c =>
        obtain ⟨rfl, rfl⟩ := List.cons.inj hc
        rw [← List.singleton_append, ← List.append_assoc] at hbefore
        exact .inr ⟨c, rest, behind, hbefore.of_append, hrest, hclosed, rfl⟩
    · exact .inl fun hm => hclosed ((hrest.suffix_of_paren hc).mem hm)
  · rintro (hclosed | ⟨before, rest, behind, hbefore, hrest, hclosed, rfl⟩)
    · exact ⟨front, opening, between, hfront, hopens, hclosed, rfl⟩
    · obtain ⟨blanks, -, rfl⟩ := hopens
      exact ⟨_, rest, behind, hbefore.append_paren (front ++ (importWord ++ blanks)), hrest,
        hclosed, by simp⟩

end Opening

/-- What stands on the last line of a text. -/
theorem Text.lineBefore_behind_newline {above line : Text} (hline : '\n' ∉ line) :
    Text.lineBefore (above ++ '\n' :: line) (above ++ '\n' :: line).length = line := by
  have hcut : (above ++ '\n' :: line).take (above ++ '\n' :: line).length = (above ++ ['\n']) ++ line := by
    rw [List.take_length, List.append_assoc, List.singleton_append]
  refine Text.lineBefore_eq hcut (fun c hc => ?_) hline
  simpa [eq_comm] using hc

end GoCompletion
