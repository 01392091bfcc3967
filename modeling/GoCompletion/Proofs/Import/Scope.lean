import GoCompletion.Proofs.Import.Site
import GoCompletion.Proofs.Scope.Import
import GoCompletion.Proofs.Scope.Reach

/-!
# Added imports in the eyes of the scan

The place for an import is found by the words that lines start with, and a line can start so in a comment as
well. What is put in starts with a newline, which ends whatever is on one line: a line comment, or a literal
that is not closed. Only block comments and raw strings go on (`endsInside_or_newlineEnds`). So **what is
added is an import to the scan exactly unless it is put into a block comment or a raw string**
(`scopesAt_addImport`).
-/

namespace GoCompletion

/-! ## Comments and strings that go on -/

/-- The start of a construct that goes on over the lines, and that is not closed. -/
inductive Unclosed : Construct → Text → Prop
  | comment {body : Text} (hbody : ¬ commentEnd <:+: body) : Unclosed .blockComment ('/' :: '*' :: body)
  | string {body : Text} (hbody : '\x60' ∉ body) : Unclosed .rawString ('\x60' :: body)

/-- The text ends inside a block comment or a raw string. -/
def EndsInside (t : Text) : Prop :=
  ∃ ts kind body, Tokenised t (ts ++ [⟨some kind, body⟩]) ∧ Unclosed kind body

/-- No end of a comment comes about where there is no slash. -/
theorem infix_of_infix_append {s t : Text} (h : commentEnd <:+: s ++ t) (ht : '/' ∉ t) :
    commentEnd <:+: s := by
  obtain ⟨u, v, h⟩ := h
  obtain ⟨c, rfl, -⟩ | ⟨c, hs, rfl⟩ := List.append_eq_append_iff.mp h
  · exact ⟨u, c, rfl⟩
  · obtain rfl | ⟨c, d, rfl⟩ := List.eq_nil_or_concat c
    · exact ⟨u, [], by simpa using hs⟩
    · -- what goes beyond the first text ends in the slash
      obtain rfl : '/' = d := by
        have hlast := congrArg List.getLast? hs
        simpa [commentEnd] using hlast
      exact absurd (by simp) ht

namespace Unclosed

variable {kind : Construct} {body : Text}

theorem ne_nil (h : Unclosed kind body) : body ≠ [] := by
  cases h <;> exact List.cons_ne_nil _ _

/-- Code does not close it. -/
theorem append {s : Text} (h : Unclosed kind body) (hs : s.all isCode = true) :
    Unclosed kind (body ++ s) := by
  cases h with
  | comment hbody =>
    exact .comment fun hend => hbody (infix_of_infix_append hend fun hm =>
      absurd (List.all_eq_true.mp hs _ hm) (by decide))
  | string hbody =>
    refine .string fun hm => ?_
    obtain hm | hm := List.mem_append.mp hm
    · exact hbody hm
    · exact absurd (List.all_eq_true.mp hs _ hm) (by decide)

/-- What opens it owns it all, and the double quote behind it as well. -/
theorem owns (h : Unclosed kind body) (i : Nat) (rest : Text) :
    Owns (some (kind, i)) none i (body ++ ['"']) rest (some (kind, i)) := by
  cases h with
  | @comment body hbody =>
    have hinside : Owns (some (.blockComment, i)) (some (.blockComment, i)) (i + 2) body ('"' :: rest)
        (some (.blockComment, i)) := by
      refine owns_of_inside (fun a c b hb => inside_blockComment (fun hprefix => hbody ?_) i) _
      cases b with
      | nil => simp [commentEnd] at hprefix
      | cons d b =>
        rw [hb]
        exact ((by simpa [commentEnd] using hprefix : commentEnd <+: c :: d :: b).isInfix).trans
          (List.suffix_append _ _).isInfix
    exact .append (.append (owns_commentStart (.inr ⟨rfl, rfl⟩) i _) hinside) (.single (by simp [scanStep]))
  | string hbody =>
    exact .append (.append (s := ['\x60']) (owns_openingQuote rfl (by decide) i _) (owns_rawBody hbody i _ _))
      (.single (by simp [scanStep]))

end Unclosed

/-! ## Tokens with more text behind them -/

theorem LiteralBody.append {q : Char} {s t : Text} (hs : LiteralBody q s) (ht : LiteralBody q t) :
    LiteralBody q (s ++ t) := by
  induction hs with
  | nil => exact ht
  | escape c _ ih => exact .escape c ih
  | plain hescape hquote hbreak _ ih => exact .plain hescape hquote hbreak ih

section Tokens

variable {kind : Construct} {body rest t : Text} {ts : List Token}

/-- What stands behind the text behind a construct does not matter to it. -/
theorem Lexeme.append (h : Lexeme kind body rest) (hrest : rest ≠ []) (more : Text) :
    Lexeme kind body (rest ++ more) := by
  have hends : EndsLine rest → EndsLine (rest ++ more) := by
    obtain ⟨d, r, rfl⟩ := List.exists_cons_of_ne_nil hrest
    exact id
  cases h with
  | lineComment hbody hends' => exact .lineComment hbody (hends hends')
  | blockComment rest hbody => exact .blockComment _ hbody
  | openComment hbody => exact absurd rfl hrest
  | rawString rest hbody => exact .rawString _ hbody
  | openString hbody => exact absurd rfl hrest
  | literal rest hquote hbody => exact .literal _ hquote hbody
  | brokenLiteral hquote hbody hends' => exact .brokenLiteral hquote hbody (hends hends')
  | brokenEscape hquote hbody => exact absurd rfl hrest

theorem not_opens_append {c : Char} (h : ¬ Opens (c :: rest)) (hrest : rest ≠ []) (more : Text) :
    ¬ Opens (c :: (rest ++ more)) := by
  obtain ⟨d, r, rfl⟩ := List.exists_cons_of_ne_nil hrest
  simpa [Opens] using h

/-- The scan comes to the last token of a text in plain code, whatever stands behind the text. -/
theorem Tokenised.reaches_last {token : Token} (htoken : token.text ≠ [])
    (h : Tokenised t (ts ++ [token])) :
    ∃ front, t = front ++ token.text ∧ ∀ i more, Reaches none i front (token.text ++ more) none := by
  induction ts generalizing t with
  | nil =>
    cases h with
    | construct _ hnil => cases hnil; exact ⟨[], by simp, fun _ _ => .nil⟩
    | code _ hnil => cases hnil; exact ⟨[], rfl, fun _ _ => .nil⟩
  | cons token' ts ih =>
    cases h with
    | construct hlexeme htail =>
      obtain ⟨front, rfl, hfront⟩ := ih htail
      refine ⟨_ ++ front, (List.append_assoc _ _ _).symm, fun i more => .append ?_ (hfront _ more)⟩
      have happend := hlexeme.append (List.append_ne_nil_of_right_ne_nil front htoken) more
      rw [List.append_assoc] at happend
      exact (owns_lexeme happend i).reaches
    | code hcode htail =>
      obtain ⟨front, rfl, hfront⟩ := ih htail
      refine ⟨[_] ++ front, rfl, fun i more => .append ?_ (hfront _ more)⟩
      have happend := not_opens_append hcode (List.append_ne_nil_of_right_ne_nil front htoken) more
      rw [List.append_assoc] at happend
      exact (owns_code happend i).reaches

/-! ## A newline behind a text -/

/-- A newline behind the text brings the scan back to plain code. A backslash at the end of the text may
escape the newline, so it takes another one then. -/
def NewlineEnds (t : Text) : Prop :=
  ∀ i more, (t.getLast? = some '\\' → EndsLine more) → Reaches none i (t ++ ['\n']) more none

theorem NewlineEnds.of_reaches (h : ∀ i more, Reaches none i t ('\n' :: more) none) : NewlineEnds t :=
  fun i more _ => .append (h i more) (reaches_newline _ more)

theorem NewlineEnds.append (h : NewlineEnds rest) (body : Text)
    (hbody : ∀ i more, Reaches none i body (rest ++ more) none) : NewlineEnds (body ++ rest) := by
  intro i more hmore
  rw [List.append_assoc]
  refine .append ?_ (h _ more fun hlast => hmore ?_)
  · rw [List.append_assoc]
    exact hbody i _
  · rw [List.getLast?_append, hlast, Option.some_or]

theorem EndsInside.append (h : EndsInside rest) (body : Text)
    (hbody : ∀ ts, Tokenised rest ts → ∃ token, Tokenised (body ++ rest) (token :: ts)) :
    EndsInside (body ++ rest) := by
  obtain ⟨ts, kind, last, hts, hlast⟩ := h
  obtain ⟨token, htoken⟩ := hbody _ hts
  exact ⟨token :: ts, kind, last, htoken, hlast⟩

/-- What goes on behind the newline is an unclosed construct. -/
theorem Lexeme.unclosed_or_newlineEnds (h : Lexeme kind body []) : Unclosed kind body ∨ NewlineEnds body := by
  have hclosed : (∀ more, Lexeme kind body ('\n' :: more)) → NewlineEnds body := fun h =>
    .of_reaches fun i more => (owns_lexeme (h more) i).reaches
  have hline : ∀ more : Text, EndsLine ('\n' :: more) := fun more c hc => by
    cases hc
    rfl
  cases h with
  | lineComment hbody _ => exact .inr (hclosed fun more => .lineComment hbody (hline more))
  | blockComment _ hbody => exact .inr (hclosed fun more => .blockComment _ hbody)
  | openComment hbody => exact .inl (.comment hbody)
  | rawString _ hbody => exact .inr (hclosed fun more => .rawString _ hbody)
  | openString hbody => exact .inl (.string hbody)
  | literal _ hquote hbody => exact .inr (hclosed fun more => .literal _ hquote hbody)
  | brokenLiteral hquote hbody _ => exact .inr (hclosed fun more => .brokenLiteral hquote hbody (hline more))
  | @brokenEscape _ q body hquote hbody =>
    refine .inr fun i more hmore => ?_
    have hmore : EndsLine more := hmore (by rw [← List.cons_append, List.getLast?_concat])
    have hescaped : LiteralBody q (body ++ ['\\', '\n']) := hbody.append (.escape '\n' .nil)
    have hlexeme : Lexeme kind (q :: (body ++ ['\\', '\n'])) more := .brokenLiteral hquote hescaped hmore
    simpa using (owns_lexeme hlexeme i).reaches

/-- **A newline ends all but block comments and raw strings.** -/
theorem endsInside_or_newlineEnds (h : Tokenised t ts) : EndsInside t ∨ NewlineEnds t := by
  induction h with
  | nil => exact .inr (.of_reaches fun _ _ => .nil)
  | @construct kind body rest ts hlexeme htail ih =>
    by_cases hrest : rest = []
    · subst hrest
      rw [List.append_nil]
      refine hlexeme.unclosed_or_newlineEnds.imp_left fun hopen => ⟨[], kind, body, ?_, hopen⟩
      simpa using Tokenised.construct hlexeme .nil
    · refine ih.imp (·.append body fun ts hts => ⟨_, .construct hlexeme hts⟩) (·.append body fun i more => ?_)
      exact (owns_lexeme (hlexeme.append hrest more) i).reaches
  | @code c rest ts hcode htail ih =>
    by_cases hrest : rest = []
    · subst hrest
      refine .inr (.of_reaches fun i more => (owns_code ?_ i).reaches)
      simpa [Opens] using hcode
    · refine ih.imp (·.append [c] fun ts hts => ⟨_, .code hcode hts⟩) (·.append [c] fun i more => ?_)
      exact (owns_code (not_opens_append hcode hrest more) i).reaches

end Tokens

/-! ## What is put in -/

section Added

variable {t path : Text} {s : ImportSite}

/-- What is put in stands behind the text in front of the place, and is a literal but for its lead. -/
theorem ImportSite.insertion_eq (s : ImportSite) (path : Text) : s.insertion path = s.lead ++ inQuotes path := by
  simp [insertion, inQuotes]

/-- The text in front of a place behind the opening of a block ends in that opening. -/
theorem FirstOpened.opening {k : Nat} (h : FirstOpened OpensBlock t k) :
    ∃ front opening, EndsOutsideWord front ∧ t.take k = front ++ (opening ++ ['(']) ∧
      ∀ between, OpensBlock (opening ++ '(' :: between) between := by
  obtain ⟨front, rest, ⟨ht, hfront⟩, ⟨-, blanks, hblanks, hrest⟩, -⟩ := h
  refine ⟨front, importWord ++ blanks, fun c hc => ?_, ?_, fun _ => ⟨blanks, hblanks, rfl⟩⟩
  · rw [hfront c hc]
    decide
  · refine (List.append_left_inj (t.drop k)).mp ?_
    rw [List.take_append_drop]
    simpa [hrest] using ht

/-- **The lead makes a literal an import path**, in the raw text. -/
theorem isImportPath_lead (h : importSite t = some s) :
    isImportPath (t.take s.position ++ s.lead) = true := by
  rw [isImportPath_iff]
  obtain ⟨hblock, hlead⟩ | ⟨-, -, hlead⟩ := importSite_cases h
  · obtain ⟨front, opening, hfront, htake, hopens⟩ := hblock.opening
    have hinside : InsideBlock (front ++ (opening ++ '(' :: ['\n', '\t'])) :=
      (insideBlock_append hfront (hopens _)).mpr (.inl (by decide))
    refine .inr ⟨by simpa [htake, hlead] using hinside, ?_⟩
    rw [hlead, Text.lineBefore_behind_newline (by decide)]
    exact ⟨['\t'], [], [], by decide, rfl, ⟨by decide, nofun⟩, rfl⟩
  · refine .inl ⟨t.take s.position ++ ['\n', '\n'], [' '], fun c hc => ?_, ?_, ?_⟩
    · rw [List.getLast?_append] at hc
      cases hc
      decide
    · exact ⟨[' '], [], [], by decide, rfl, ⟨by decide, nofun⟩, rfl⟩
    · rw [hlead, List.append_assoc, List.append_assoc]
      rfl

/-- A lead is code behind a newline, and starts with two of them where the text in front may end in a
backslash. -/
theorem exists_lead (h : importSite t = some s) :
    ∃ more, s.lead = ['\n'] ++ more ∧ more.all isCode = true ∧
      ((t.take s.position).getLast? = some '\\' → ∀ rest, EndsLine (more ++ rest)) := by
  obtain ⟨hblock, hlead⟩ | ⟨-, -, hlead⟩ := importSite_cases h
  · obtain ⟨front, opening, -, htake, -⟩ := hblock.opening
    refine ⟨['\t'], hlead, by decide, fun hlast => ?_⟩
    rw [htake, ← List.append_assoc, List.getLast?_concat] at hlast
    cases hlast
  · refine ⟨"\nimport ".toList, hlead, by decide, fun _ rest c hc => ?_⟩
    cases hc
    rfl

theorem isCode_lead_of_site (h : importSite t = some s) : s.lead.all isCode = true := by
  obtain ⟨more, hlead, hcode, -⟩ := exists_lead h
  rw [hlead, List.all_append, hcode]
  rfl

/-- What is put into a block comment or a raw string belongs to it. -/
theorem scopesAt_of_endsInside (h : importSite t = some s) (hinside : EndsInside (t.take s.position))
    (rest : Text) :
    scopesAt (t.take s.position ++ s.lead ++ '"' :: rest) (t.take s.position ++ s.lead).length ≠
      importScopes := by
  obtain ⟨ts, kind, body, hts, hopen⟩ := hinside
  obtain ⟨front, hfront, hreaches⟩ := hts.reaches_last hopen.ne_nil
  have hmore := (hopen.append (isCode_lead_of_site h)).owns front.length rest
  have howner := constructAt_of_reaches (j := (body ++ s.lead).length) (by simpa using hreaches 0 _) hmore
    (by simp)
  have htext : t.take s.position ++ s.lead ++ '"' :: rest = front ++ (body ++ s.lead ++ ['"'] ++ rest) := by
    simp [hfront]
  have hposition : (t.take s.position ++ s.lead).length = front.length + (body ++ s.lead).length := by
    simp [hfront]
  rw [scopesAt, htext, hposition, howner]
  cases hopen with
  | comment _ => simp [Construct.isString, importScopes]
  | string _ =>
    simp only
    split <;> decide

/-- **An added import is an import to the scan** exactly unless the place for it is inside a block comment or
a raw string. -/
theorem scopesAt_addImport {offset : Int} {added : AddedImport} (hpath : Quotable path)
    (h : addImport t path offset = some added) :
    ∃ s, importSite t = some s ∧
      added.text = t.take s.position ++ s.lead ++ (inQuotes path ++ t.drop s.position) ∧
      ((∀ i < (inQuotes path).length,
          scopesAt added.text ((t.take s.position ++ s.lead).length + i) = importScopes) ↔
        ¬ EndsInside (t.take s.position)) := by
  obtain ⟨s, hs, rfl⟩ := Option.map_eq_some_iff.mp h
  have htext : t.take s.position ++ s.insertion path ++ t.drop s.position =
      t.take s.position ++ s.lead ++ (inQuotes path ++ t.drop s.position) := by
    rw [s.insertion_eq]
    simp
  refine ⟨s, hs, htext, ?_⟩
  simp only [htext]
  constructor
  · intro hscopes hinside
    exact scopesAt_of_endsInside hs hinside _ (hscopes 0 (by simp [inQuotes]))
  · intro hinside i hi
    obtain ⟨ts, hts⟩ := exists_tokenised (t.take s.position)
    have hnewline := (endsInside_or_newlineEnds hts).resolve_left hinside
    obtain ⟨more, hlead, hcode, hlast⟩ := exists_lead hs
    have hreaches : Reaches none 0 (t.take s.position ++ s.lead) (inQuotes path ++ t.drop s.position) none := by
      rw [hlead, ← List.append_assoc]
      exact .append (hnewline 0 _ fun hescape => hlast hescape _) (reaches_code hcode _ _)
    rw [scopesAt_inQuotes hpath hreaches hi, if_pos (isImportPath_lead hs)]

end Added

/-- A back quote in a line comment starts no raw string, so an import can follow that line. -/
theorem scopesAt_addImport_lineComment :
    addImport "package main // `\n".toList "fmt".toList 18 =
        some ⟨"package main // `\n\nimport \"fmt\"\n".toList, 32⟩ ∧
      ¬ EndsInside "package main // `".toList := by
  have hadded : addImport "package main // `\n".toList "fmt".toList 18 =
      some ⟨"package main // `\n\nimport \"fmt\"\n".toList, 32⟩ := by decide +kernel
  have hsite : importSite "package main // `\n".toList = some ⟨17, "\n\nimport ".toList⟩ := by
    decide +kernel
  obtain ⟨s, hs, -, hscopes⟩ := scopesAt_addImport (by decide) hadded
  obtain rfl := Option.some.inj (hs.symm.trans hsite)
  exact ⟨hadded, hscopes.mp (by decide +kernel)⟩

/-- **An import is put into a comment** that has a line like a package clause. -/
theorem scopesAt_addImport_comment :
    let added := "/*\npackage old\n\nimport \"fmt\"\n*/\npackage main\n".toList
    addImport "/*\npackage old\n*/\npackage main\n".toList "fmt".toList 31 = some ⟨added, 45⟩ ∧
      ∀ i < 5, scopesAt added (23 + i) ≠ importScopes := by
  decide +kernel

end GoCompletion
