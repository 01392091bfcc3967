import GoCompletion.Proofs.Provider.Suppressed
import GoCompletion.Proofs.Text.Blank
import GoCompletion.Proofs.Text.Search
import Mathlib.Data.List.Infix

/-!
# Block-lists

What users list as blocked goes two ways: selectors of quoted texts make the check look out for such texts, all
others disable scopes. In a text the check says yes if a scope is disabled, and, unless the completion is asked
for by hand, if the character in front of the cursor is suppressed among its scopes
(`Provider.isSuppressed_eq`). Among the scopes of an import path no character is (`Suppression.suppresses_eq`).

So **longer lists suppress more** (`Suppression.Extends`), **and asking by hand suppresses less**
(`isSuppressed_blockLists`).
-/

namespace GoCompletion

/-! ## Selectors -/

/-- A class of a selector or a scope: what stands between its dots, unless that is empty. -/
def IsClass (c t : Text) : Prop := c ∈ classesOf t ∧ c ≠ []

/-- The selector has a class, and all its classes occur in one of the scopes. -/
def Picks (selector : Text) (scopes : List Text) : Prop :=
  (∃ c, IsClass c selector) ∧ ∃ scope ∈ scopes, ∀ c, IsClass c selector → IsClass c scope

theorem selectorMatches_iff {selector : Text} {scopes : List Text} :
    selectorMatches selector scopes = true ↔ Picks selector.strip scopes := by
  have hclasses : ∀ c, c ∈ (classesOf selector.strip).filter (!·.isEmpty) ↔ IsClass c selector.strip := by
    simp [IsClass]
  simp only [selectorMatches, Bool.and_eq_true, Bool.not_eq_true', List.isEmpty_eq_false_iff_exists_mem,
    List.any_eq_true, List.all_eq_true, List.contains_iff_mem, hclasses]
  refine and_congr_right' (exists_congr fun scope => and_congr_right' (forall₂_congr fun c hc => ?_))
  exact (and_iff_left hc.2).symm

/-- A selector of a block-list that has nothing of a quoted text picks one of the scopes. Selectors are what
stands between commas, without blanks around it. -/
def Blocks (blacklist : Text) (scopes : List Text) : Prop :=
  ∃ piece ∈ Text.pieces [','] blacklist, ¬ Suppression.quotedSelector <:+: piece.strip ∧
    Picks piece.strip scopes

theorem Picks.ne_nil {selector : Text} {scopes : List Text} (h : Picks selector scopes) : selector ≠ [] := by
  rintro rfl
  obtain ⟨⟨c, hc, hne⟩, -⟩ := h
  have hnil : classesOf [] = [[]] := Text.pieces_of_cut_eq_none rfl
  rw [hnil, List.mem_singleton] at hc
  exact hne hc

namespace Suppression

/-! ## What settings suppress -/

theorem mem_selectorsOf {blacklist selector : Text} :
    selector ∈ selectorsOf blacklist ↔
      (∃ piece ∈ Text.pieces [','] blacklist, piece.strip = selector) ∧ selector ≠ [] := by
  simp [selectorsOf]

/-- The selectors of disabled scopes are what stands between the commas of the block-list, without blanks around
it, but for what is blank and what is about quoted texts. -/
theorem selectors_ofSettings (s : Settings) :
    (ofSettings s).selectors = ((Text.pieces [','] s.scopeBlacklist).map Text.strip).filter fun selector =>
      selector ≠ [] ∧ ¬ ".string.quoted".toList <:+: selector := by
  have hquoted : ∀ t : Text, ¬ quotedSelector <:+: t ↔ (!t.contains quotedSelector) = true := by
    intro t
    rw [← Text.contains_iff_infix, Bool.not_eq_true', Bool.not_eq_true]
  have hselectors : (ofSettings s).selectors =
      (selectorsOf s.scopeBlacklist).filter fun t => !t.contains quotedSelector := rfl
  rw [hselectors, selectorsOf, List.filter_filter]
  refine List.filter_congr fun selector _ => ?_
  have hne : (!selector.isEmpty) = true ↔ selector ≠ [] := by simp
  rw [Bool.eq_iff_iff, decide_eq_true_eq, Bool.and_eq_true, ← hquoted, hne, and_comm]
  rfl

/-- Quoted texts are looked out for if a selector of the block-list is about them. -/
theorem inQuotes_ofSettings_iff (s : Settings) :
    (ofSettings s).inQuotes = true ↔
      ∃ piece ∈ Text.pieces [','] s.scopeBlacklist, ".string.quoted".toList <:+: piece.strip := by
  have hinQuotes : (ofSettings s).inQuotes = (selectorsOf s.scopeBlacklist).any (·.contains quotedSelector) := rfl
  rw [hinQuotes, List.any_eq_true]
  constructor
  · rintro ⟨selector, hmem, hcontains⟩
    obtain ⟨⟨piece, hpiece, rfl⟩, -⟩ := mem_selectorsOf.mp hmem
    exact ⟨piece, hpiece, Text.contains_iff_infix.mp hcontains⟩
  · rintro ⟨piece, hpiece, hquoted⟩
    have hne : piece.strip ≠ [] := by
      intro hnil
      rw [hnil] at hquoted
      exact absurd (List.infix_nil.mp hquoted) (by decide)
    exact ⟨piece.strip, mem_selectorsOf.mpr ⟨⟨piece, hpiece, rfl⟩, hne⟩, Text.contains_iff_infix.mpr hquoted⟩

/-- The character that a listed text means: four of them have names, in letters of either case, and any other
text means itself. Blanks around it do not count, and a blank one means none. -/
def meant? (listed : Text) : Option Text :=
  let name := listed.strip
  let lower := name.map Char.toLower
  if name = [] then none
  else if lower = "comma".toList then some [',']
  else if lower = "newline".toList then some ['\n']
  else if lower = "space".toList then some [' ']
  else if lower = "tab".toList then some ['\t']
  else some name

/-- The first of some entries is found by its name, and any other entry behind it. -/
theorem find?_name_cons (entry : Text × Text) (entries : List (Text × Text)) (name : Text) :
    ((entry :: entries).find? fun n => n.1 = name).map (·.2) =
      if name = entry.1 then some entry.2 else (entries.find? fun n => n.1 = name).map (·.2) := by
  rw [List.find?_cons]
  by_cases h : name = entry.1
  · simp [h]
  · have hne : ¬ entry.1 = name := fun he => h he.symm
    simp [h, hne]

/-- The characters that are suppressed are those that the listed texts mean, in turn. -/
theorem characters_ofSettings (s : Settings) : (ofSettings s).characters = s.suppressed.filterMap meant? := by
  have hcharacters : (ofSettings s).characters = charactersOf s.suppressed := rfl
  rw [hcharacters, charactersOf]
  congr 1
  funext listed
  simp only [characterNames, find?_name_cons, meant?]
  by_cases hname : listed.strip = []
  · rw [if_pos hname, hname]
    rfl
  · have hkept : listed.strip.isEmpty = false := by simpa using hname
    rw [if_neg hname]
    -- one case for each name, and one for a text that means itself
    split
    · rfl
    · split
      · rfl
      · split
        · rfl
        · split
          · rfl
          · simp [hkept]

/-- Selectors behind a comma are further selectors. -/
theorem selectorsOf_append (blacklist more : Text) :
    selectorsOf (blacklist ++ ',' :: more) = selectorsOf blacklist ++ selectorsOf more := by
  rw [selectorsOf, Text.pieces_singleton_append, List.map_append, List.filter_append]
  rfl

/-- The scopes that settings disable. -/
theorem disables_ofSettings {s : Settings} {scopes : List Text} :
    (ofSettings s).disables scopes = true ↔ Blocks s.scopeBlacklist scopes := by
  have hselectors : (ofSettings s).selectors =
      (selectorsOf s.scopeBlacklist).filter fun t => !t.contains quotedSelector := rfl
  rw [disables, List.any_eq_true]
  constructor
  · rintro ⟨selector, hmem, hpicks⟩
    rw [hselectors, List.mem_filter, mem_selectorsOf, Bool.not_eq_true'] at hmem
    obtain ⟨⟨⟨piece, hpiece, rfl⟩, -⟩, hquoted⟩ := hmem
    rw [selectorMatches_iff, Text.strip_strip] at hpicks
    exact ⟨piece, hpiece, Text.not_infix_of_contains hquoted, hpicks⟩
  · rintro ⟨piece, hpiece, hquoted, hpicks⟩
    refine ⟨piece.strip, ?_, ?_⟩
    · rw [hselectors, List.mem_filter, mem_selectorsOf, Bool.not_eq_true', ← Bool.not_eq_true,
        Text.contains_iff_infix]
      exact ⟨⟨⟨piece, hpiece, rfl⟩, hpicks.ne_nil⟩, hquoted⟩
    · rwa [selectorMatches_iff, Text.strip_strip]

/-- **Among the scopes of an import path no character is suppressed.** Elsewhere quoted texts are, if the check
looks out for them, and the characters that are listed. -/
theorem suppresses_eq (s : Suppression) (char : Text) (scopes : List Text) :
    s.suppresses char scopes =
      (!scopes.elem importScope &&
        (s.inQuotes && scopes.any (·.startsWith quotedScope) || s.characters.elem char)) := by
  unfold suppresses
  split
  · next c hc =>
    have hmem := List.mem_of_find?_eq_some hc
    have hp := List.find?_some hc
    by_cases himport : importScope ∈ scopes
    · simp [himport]
    · have hne : c ≠ importScope := fun he => himport (he ▸ hmem)
      simp only [Bool.or_eq_true, decide_eq_true_eq, hne, false_or, Bool.and_eq_true] at hp
      have hany : scopes.any (·.startsWith quotedScope) = true := List.any_eq_true.mpr ⟨c, hmem, hp.2⟩
      simp [himport, hne, hp.1, hany]
  · next hnone =>
    have hno : ∀ c ∈ scopes, c ≠ importScope ∧ (s.inQuotes && c.startsWith quotedScope) = false := by
      simpa using hnone
    have himport : importScope ∉ scopes := fun h => (hno _ h).1 rfl
    have hany : (s.inQuotes && scopes.any (·.startsWith quotedScope)) = false := by
      rw [← Bool.not_eq_true, Bool.and_eq_true, List.any_eq_true]
      rintro ⟨hquotes, c, hmem, hc⟩
      simpa [hquotes, hc] using (hno c hmem).2
    simp [himport, hany]

/-! ## Longer lists -/

/-- A suppression that has at least what another one has. -/
structure Extends (s s' : Suppression) : Prop where
  /-- the characters -/
  characters : s.characters ⊆ s'.characters
  /-- the lookout for quoted texts -/
  inQuotes : s.inQuotes = true → s'.inQuotes = true
  /-- the selectors -/
  selectors : s.selectors ⊆ s'.selectors

theorem Extends.disables {s s' : Suppression} (h : Extends s s') {scopes : List Text}
    (hs : s.disables scopes = true) : s'.disables scopes = true := by
  obtain ⟨selector, hmem, hmatches⟩ := List.any_eq_true.mp hs
  exact List.any_eq_true.mpr ⟨selector, h.selectors hmem, hmatches⟩

theorem Extends.suppresses {s s' : Suppression} (h : Extends s s') {char : Text} {scopes : List Text}
    (hs : s.suppresses char scopes = true) : s'.suppresses char scopes = true := by
  rw [suppresses_eq, Bool.and_eq_true, Bool.or_eq_true, Bool.and_eq_true] at hs ⊢
  obtain ⟨himport, ⟨hquotes, hany⟩ | hchar⟩ := hs
  · exact ⟨himport, .inl ⟨h.inQuotes hquotes, hany⟩⟩
  · rw [List.elem_iff] at hchar ⊢
    exact ⟨himport, .inr (h.characters hchar)⟩

/-- Longer lists have at least what they had before. -/
theorem extends_ofSettings (s : Settings) (selectors : Text) (characters : List Text) :
    Extends (ofSettings s) (ofSettings { s with
      scopeBlacklist := s.scopeBlacklist ++ ',' :: selectors
      suppressed := s.suppressed ++ characters }) := by
  refine ⟨?_, ?_, ?_⟩
  · change charactersOf s.suppressed ⊆ charactersOf (s.suppressed ++ characters)
    rw [charactersOf, charactersOf, List.filterMap_append]
    exact List.subset_append_left _ _
  · change (selectorsOf s.scopeBlacklist).any _ = true →
      (selectorsOf (s.scopeBlacklist ++ ',' :: selectors)).any _ = true
    rw [selectorsOf_append, List.any_append, Bool.or_eq_true]
    exact .inl
  · change (selectorsOf s.scopeBlacklist).filter _ ⊆
      (selectorsOf (s.scopeBlacklist ++ ',' :: selectors)).filter _
    rw [selectorsOf_append, List.filter_append]
    exact List.subset_append_left _ _

end Suppression

/-! ## The check in a text -/

/-- The character at position `i` belongs to an import path, delimiters included: to a string that is one by
the text in front of it. -/
def InImportPath (t : Text) (i : Nat) : Prop :=
  ∃ kind start, constructAt t i = some (kind, start) ∧ kind.isString = true ∧
    isImportPath (t.take start) = true

theorem importScope_mem_scopesAt {t : Text} {i : Nat} (h : InImportPath t i) : importScope ∈ scopesAt t i := by
  obtain ⟨kind, start, howner, hstring, hpath⟩ := h
  simp [scopesAt, howner, hstring, hpath]

/-- **Longer block-lists suppress more, and asking by hand suppresses less.** In a text, with the scopes of the
character in front of the cursor: what is suppressed stays so with more selectors and more characters; what is
suppressed although it is asked for by hand is suppressed anyway; that is so exactly where the block-list picks
one of the scopes; and in an import path nothing else is suppressed. -/
theorem isSuppressed_blockLists (p : Provider) (s : Settings) {t : Text} {position : Position} {c : Nat}
    (hc : (Document.locate t position).1 = c) (hpos : 1 ≤ c) (hle : c ≤ t.length) :
    let check (s : Settings) (manual : Bool) := (p.configure s).isSuppressed t position manual
    (∀ selectors characters manual, check s manual = .ok true →
        check { s with
          scopeBlacklist := s.scopeBlacklist ++ ',' :: selectors
          suppressed := s.suppressed ++ characters } manual = .ok true) ∧
      (check s true = .ok true → check s false = .ok true) ∧
      (check s true = .ok true ↔ Blocks s.scopeBlacklist (scopesAt t (c - 1))) ∧
      (InImportPath t (c - 1) →
        (check s false = .ok true ↔ Blocks s.scopeBlacklist (scopesAt t (c - 1)))) := by
  intro check
  obtain ⟨char, hchar⟩ := Provider.charBefore_of_le (Nat.ne_of_gt hpos) hle
  have hcheck : ∀ s manual, check s manual = .ok true ↔
      (Suppression.ofSettings s).disables (scopesAt t (c - 1)) = true ∨
        manual = false ∧ (Suppression.ofSettings s).suppresses [char] (scopesAt t (c - 1)) = true := by
    intro s manual
    rw [show check s manual = _ from (p.configure s).isSuppressed_eq manual hc (Nat.ne_of_gt hpos) hchar]
    simp [Provider.configure]
  refine ⟨fun selectors characters manual h => ?_, fun h => ?_, ?_, fun hpath => ?_⟩
  · have hmore := Suppression.extends_ofSettings s selectors characters
    rw [hcheck] at h ⊢
    exact h.imp hmore.disables (And.imp_right hmore.suppresses)
  · rw [hcheck] at h ⊢
    exact h.imp_right fun h => absurd h.1 (by decide)
  · rw [hcheck, Suppression.disables_ofSettings]
    simp
  · rw [hcheck, Suppression.disables_ofSettings, Suppression.suppresses_eq]
    simp [importScope_mem_scopesAt hpath]

/-- Behind a slash in an import path nothing is suppressed, although slashes are listed and quoted texts are
looked out for; in the comment behind the path everything is, and stays so with longer lists. -/
theorem isSuppressed_blockLists_imports :
    let s : Settings := { scopeBlacklist := " .comment, .string.quoted.double.go".toList }
    let longer : Settings := { s with
      scopeBlacklist := s.scopeBlacklist ++ ',' :: ".string.quoted.raw".toList
      suppressed := s.suppressed ++ ["a".toList] }
    let p : Provider := .ofSettings {}
    let t : Text := "import (\n\t\"a/\" // b\n)".toList
    let inPath : Position := { line := 1, character := 4 }
    let inComment : Position := { line := 1, character := 8 }
    ((Document.locate t inPath).1 = 13 ∧ (Document.locate t inComment).1 = 17 ∧ 17 ≤ t.length) ∧
      (InImportPath t 12 ∧ (p.configure s).isSuppressed t inPath false ≠ .ok true) ∧
      (p.configure s).isSuppressed t inComment true = .ok true ∧
      (p.configure s).isSuppressed t inComment false = .ok true ∧
      (p.configure longer).isSuppressed t inComment true = .ok true := by
  intro s longer p t inPath inComment
  have hpath : (Document.locate t inPath).1 = 13 := by decide +kernel
  have hcomment : (Document.locate t inComment).1 = 17 := by decide +kernel
  have himport : InImportPath t 12 :=
    ⟨.doubleString, 10, by decide +kernel, by decide, by decide +kernel⟩
  have hbyHand : (p.configure s).isSuppressed t inPath true = .ok false := by decide +kernel
  have hdisabled : (p.configure s).isSuppressed t inComment true = .ok true := by decide +kernel
  obtain ⟨-, -, hpicks, honly⟩ := isSuppressed_blockLists p s hpath (by decide) (by decide)
  obtain ⟨hlonger, hanyway, -, -⟩ := isSuppressed_blockLists p s hcomment (by decide) (by decide)
  refine ⟨⟨hpath, hcomment, by decide⟩, ⟨himport, fun h => ?_⟩, hdisabled, hanyway hdisabled,
    hlonger _ _ true hdisabled⟩
  cases hbyHand.symm.trans (hpicks.mpr ((honly himport).mp h))

end GoCompletion
