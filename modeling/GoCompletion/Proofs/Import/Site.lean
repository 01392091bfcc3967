import GoCompletion.Import.Insertion
import GoCompletion.Proofs.Text.Search

/-!
# Where an import goes

What an import block and a package clause are is said by the text itself (`OpensBlock`, `OpensPackage`), and
the search for them goes from one line start to the next:

* the search finds nothing exactly if there is nothing to be found at any line start
  (`firstAtLineStart_eq_none_iff`);
* what it finds is **the first of its kind**, and the position is the one behind it
  (`firstAtLineStart_eq_some`).

So an import goes behind the opening paren of the first block, or behind the line of the first package
clause if there is no block (`importSite_cases`), and nowhere if there is neither
(`importSite_eq_none_iff`).
-/

namespace GoCompletion

/-! ## Blocks and clauses -/

/-- The text begins with an import block, and goes on with `rest` behind the opening paren. -/
def OpensBlock (t rest : Text) : Prop :=
  ∃ blanks, Text.isBlank blanks = true ∧ t = importWord ++ blanks ++ '(' :: rest

/-- The text begins with a package clause, and goes on with `rest` behind the line of the name. -/
def OpensPackage (t rest : Text) : Prop :=
  ∃ blanks c line, (blanks ≠ [] ∧ Text.isBlank blanks = true) ∧ isWord c = true ∧
    ('\n' ∉ c :: line ∧ ∀ d ∈ rest.head?, d = '\n') ∧ t = packageWord ++ blanks ++ (c :: line) ++ rest

/-- Inside a range, the numbers are known. -/
theorem exists_range_of_inRanges {n : Nat} {ranges : List (Nat × Nat)} (h : inRanges n ranges = true) :
    ∃ r ∈ ranges, ∃ k ≤ r.2 - r.1, n = r.1 + k := by
  induction ranges with
  | nil => cases h
  | cons r ranges ih =>
    obtain ⟨lo, hi⟩ := r
    rw [inRanges] at h
    split at h
    · cases h
    · split at h
      · exact ⟨(lo, hi), List.mem_cons_self, n - lo, by simp only; omega, by simp only; omega⟩
      · obtain ⟨r, hr, hk⟩ := ih h
        exact ⟨r, List.mem_cons_of_mem _ hr, hk⟩

/-- A word has no blanks in it. -/
theorem isBlank_eq_false_of_isWord {c : Char} (h : isWord c = true) : isBlank c = false := by
  have hranges : ∀ r ∈ blankRanges, ∀ k ≤ r.2 - r.1,
      inRanges (r.1 + k) alphanumericRanges = false ∧ r.1 + k ≠ '_'.toNat := by decide +kernel
  cases hb : isBlank c with
  | false => rfl
  | true =>
    obtain ⟨r, hr, k, hk, hn⟩ := exists_range_of_inRanges hb
    obtain ⟨halpha, hline⟩ := hranges r hr k hk
    rw [isWord, isAlphanumeric, hn, halpha, Bool.or_false, beq_iff_eq] at h
    exact absurd (hn.symm.trans (congrArg Char.toNat h)) hline

section Start

variable {t rest : Text}

/-- Blanks in front of a text that does not begin with one are stripped off, and nothing else. -/
theorem stripStart_append {blanks : Text} (hb : Text.isBlank blanks = true)
    (ht : ∀ c ∈ t.head?, isBlank c = false) : Text.stripStart (blanks ++ t) = t :=
  Text.dropWhile_append_of_head (List.all_eq_true.mp hb) ht

/-- A text is the blanks at its start and what is left when they are stripped off. -/
theorem exists_blanks (t : Text) : ∃ blanks, Text.isBlank blanks = true ∧
    t = blanks ++ Text.stripStart t :=
  ⟨t.takeWhile isBlank, List.all_takeWhile, List.takeWhile_append_dropWhile.symm⟩

theorem afterBlockOpening_eq_some : afterBlockOpening t = some rest ↔ OpensBlock t rest := by
  constructor
  · intro h
    unfold afterBlockOpening at h
    split at h
    · next hw =>
      split at h
      · next r hr =>
        cases h
        obtain ⟨blanks, hb, he⟩ := exists_blanks (t.drop importWord.length)
        refine ⟨blanks, hb, ?_⟩
        rw [List.append_assoc, ← hr, ← he]
        exact (Text.append_drop_of_isPrefixOf hw).symm
      · cases h
    · cases h
  · rintro ⟨blanks, hb, rfl⟩
    have hw : Text.startsWith (importWord ++ (blanks ++ '(' :: rest)) importWord = true :=
      Text.startsWith_iff_prefix.mpr (List.prefix_append _ _)
    have hstrip : Text.stripStart (blanks ++ '(' :: rest) = '(' :: rest :=
      stripStart_append hb fun c hc => by cases hc; decide
    rw [List.append_assoc, afterBlockOpening, if_pos hw, List.drop_left]
    simp only [hstrip]

theorem afterPackageClause_eq_some : afterPackageClause t = some rest ↔ OpensPackage t rest := by
  constructor
  · intro h
    unfold afterPackageClause at h
    split at h
    · next hw =>
      obtain ⟨blanks, hb, he⟩ := exists_blanks (t.drop packageWord.length)
      simp only at h
      split at h
      · next hname =>
        rw [Bool.and_eq_true, decide_eq_true_eq] at hname
        obtain ⟨hlength, hword⟩ := hname
        cases h
        cases hs : Text.stripStart (t.drop packageWord.length) with
        | nil => rw [hs] at hword; cases hword
        | cons c r =>
          rw [hs] at he hlength hword
          have hline : c ≠ '\n' := fun hn => absurd (hn ▸ hword : isWord '\n' = true) (by decide)
          have htake : ∀ d ∈ r.takeWhile (· != '\n'), (d != '\n') = true :=
            List.all_eq_true.mp List.all_takeWhile
          refine ⟨blanks, c, r.takeWhile (· != '\n'), ⟨?_, hb⟩, hword, ⟨?_, ?_⟩, ?_⟩
          · rintro rfl
            rw [he] at hlength
            exact Nat.lt_irrefl _ hlength
          · rw [List.mem_cons, not_or]
            exact ⟨hline.symm, fun hm => absurd (htake _ hm) (by decide)⟩
          · intro d hd
            have hnot := List.head?_dropWhile_not (· != '\n') (c :: r)
            rw [hd] at hnot
            simpa using hnot
          · rw [List.append_assoc, List.append_assoc, List.dropWhile_cons_of_pos (by simpa using hline),
              List.cons_append, List.takeWhile_append_dropWhile, ← he]
            exact (Text.append_drop_of_isPrefixOf hw).symm
      · cases h
    · cases h
  · rintro ⟨blanks, c, line, ⟨hne, hb⟩, hc, ⟨hline, hrest⟩, rfl⟩
    have hw : Text.startsWith (packageWord ++ (blanks ++ (c :: line ++ rest))) packageWord = true :=
      Text.startsWith_iff_prefix.mpr (List.prefix_append _ _)
    have hstrip : Text.stripStart (blanks ++ (c :: line ++ rest)) = c :: line ++ rest :=
      stripStart_append hb (by simpa using isBlank_eq_false_of_isWord hc)
    have hlength : (c :: line ++ rest).length < (blanks ++ (c :: line ++ rest)).length := by
      have hpos := List.length_pos_iff.mpr hne
      simp only [List.length_append]
      omega
    have hdrop : (c :: line ++ rest).dropWhile (· != '\n') = rest := by
      refine Text.dropWhile_append_of_head (fun d hd => ?_) fun d hd => ?_
      · rw [bne_iff_ne]
        rintro rfl
        exact hline hd
      · rw [hrest d hd]
        rfl
    rw [List.append_assoc, List.append_assoc, afterPackageClause, if_pos hw, List.drop_left]
    simp only [hstrip, hdrop, hlength]
    simp [hc]

end Start

/-! ## The search from line start to line start -/

/-- What is behind `before` starts a line, where the text itself starts one if `atStart`. -/
def startsLine (atStart : Bool) (before : Text) : Bool := (before.getLast?.map (· == '\n')).getD atStart

theorem startsLine_cons (atStart : Bool) (c : Char) (before : Text) :
    startsLine atStart (c :: before) = startsLine (c == '\n') before := by
  cases before with
  | nil => rfl
  | cons d before => rw [startsLine, List.getLast?_cons_cons, startsLine, List.getLast?_cons]; rfl

section Search

variable {after : Text → Option Text}

/-- **The search misses nothing.** -/
theorem firstAtLineStart_eq_none_iff (hnil : after [] = none) {i : Nat} {atStart : Bool} {t : Text} :
    firstAtLineStart after i atStart t = none ↔
      ∀ before rest, t = before ++ rest → startsLine atStart before = true → after rest = none := by
  induction t generalizing i atStart with
  | nil =>
    refine ⟨fun _ before rest h _ => ?_, fun _ => rfl⟩
    rw [(List.append_eq_nil_iff.mp h.symm).2, hnil]
  | cons c r ih =>
    rw [firstAtLineStart]
    constructor
    · intro h before rest he hb
      split at h
      · cases h
      · next hnone =>
        cases before with
        | nil =>
          obtain rfl : rest = c :: r := he.symm
          have hs : atStart = true := hb
          rwa [if_pos hs] at hnone
        | cons d before =>
          obtain ⟨rfl, rfl⟩ := List.cons.inj he
          rw [startsLine_cons] at hb
          exact ih.mp h before rest rfl hb
    · intro h
      have hhere : (if atStart then after (c :: r) else none) = none := by
        split
        · next hs => exact h [] (c :: r) rfl hs
        · rfl
      rw [hhere]
      exact ih.mpr fun before rest he hb =>
        h (c :: before) rest (by rw [he]; rfl) (by rwa [startsLine_cons])

/-- **The search stops at the first line start** where something is found, right behind it. -/
theorem firstAtLineStart_eq_some {i k : Nat} {atStart : Bool} {t : Text}
    (hsuffix : ∀ {u v}, after u = some v → v.length ≤ u.length)
    (h : firstAtLineStart after i atStart t = some k) :
    ∃ before rest behind, t = before ++ rest ∧ startsLine atStart before = true ∧
      after rest = some behind ∧ k + behind.length = i + t.length ∧
      ∀ before' rest', t = before' ++ rest' → before'.length < before.length →
        startsLine atStart before' = true → after rest' = none := by
  induction t generalizing i atStart with
  | nil => cases h
  | cons c r ih =>
    rw [firstAtLineStart] at h
    split at h
    · next behind hfound =>
      split at hfound
      · next hs =>
        have := hsuffix hfound
        cases h
        exact ⟨[], c :: r, behind, rfl, hs, hfound, by omega,
          fun _ _ _ hlt => absurd hlt (Nat.not_lt_zero _)⟩
      · cases hfound
    · next hnone =>
      obtain ⟨before, rest, behind, he, hs, hafter, hk, hfirst⟩ := ih h
      refine ⟨c :: before, rest, behind, by rw [he]; rfl, by rwa [startsLine_cons], hafter,
        by rw [List.length_cons]; omega, ?_⟩
      intro before' rest' he' hlt hs'
      cases before' with
      | nil =>
        obtain rfl : rest' = c :: r := he'.symm
        have hs'' : atStart = true := hs'
        rwa [if_pos hs''] at hnone
      | cons d before' =>
        obtain ⟨rfl, rfl⟩ := List.cons.inj he'
        rw [startsLine_cons] at hs'
        exact hfirst before' rest' rfl (Nat.lt_of_succ_lt_succ hlt) hs'

end Search

/-! ## The place for an import -/

/-- A line of the text `t` starts behind `before`, with `rest`. -/
def LineStart (t before rest : Text) : Prop := t = before ++ rest ∧ ∀ c ∈ before.getLast?, c = '\n'

/-- At no line start the text goes on as `opens` says. -/
def NowhereOpened (opens : Text → Text → Prop) (t : Text) : Prop :=
  ∀ before rest behind, LineStart t before rest → ¬ opens rest behind

/-- The position `k` is the one behind what `opens` says, at the first line start where the text goes on
so. -/
def FirstOpened (opens : Text → Text → Prop) (t : Text) (k : Nat) : Prop :=
  ∃ before rest, LineStart t before rest ∧ (k ≤ t.length ∧ opens rest (t.drop k)) ∧
    ∀ before' rest' behind, LineStart t before' rest' → before'.length < before.length →
      ¬ opens rest' behind

theorem FirstOpened.le_length {opens : Text → Text → Prop} {t : Text} {k : Nat}
    (h : FirstOpened opens t k) : k ≤ t.length := by
  obtain ⟨before, rest, -, ⟨hk, -⟩, -⟩ := h
  exact hk

theorem startsLine_iff {before : Text} :
    startsLine true before = true ↔ ∀ c ∈ before.getLast?, c = '\n' := by
  unfold startsLine
  cases before.getLast? <;> simp

section Site

variable {t : Text} {after : Text → Option Text} {opens : Text → Text → Prop}

theorem nowhereOpened_iff (hopens : ∀ {u v}, after u = some v ↔ opens u v) (hnil : after [] = none) :
    firstAtLineStart after 0 true t = none ↔ NowhereOpened opens t := by
  rw [firstAtLineStart_eq_none_iff hnil]
  constructor
  · rintro h before rest behind ⟨he, hb⟩ ho
    have hnone := h before rest he (startsLine_iff.mpr hb)
    rw [hopens.mpr ho] at hnone
    cases hnone
  · intro h before rest he hb
    rw [Option.eq_none_iff_forall_not_mem]
    exact fun behind hm => h before rest behind ⟨he, startsLine_iff.mp hb⟩ (hopens.mp hm)

theorem firstOpened_of_eq_some {k : Nat} (hopens : ∀ {u v}, after u = some v ↔ opens u v)
    (hsuffix : ∀ {u v}, opens u v → v <:+ u) (h : firstAtLineStart after 0 true t = some k) :
    FirstOpened opens t k := by
  obtain ⟨before, rest, behind, he, hb, hafter, hk, hfirst⟩ :=
    firstAtLineStart_eq_some (fun hu => (hsuffix (hopens.mp hu)).length_le) h
  have ho := hopens.mp hafter
  have hdrop : t.drop k = behind := by
    obtain ⟨u, hu⟩ := (hsuffix ho).trans ⟨before, he.symm⟩
    have hlength : k = u.length := by
      rw [← hu, List.length_append] at hk
      omega
    rw [← hu, hlength, List.drop_left]
  refine ⟨before, rest, ⟨he, startsLine_iff.mp hb⟩, ⟨by omega, hdrop.symm ▸ ho⟩, ?_⟩
  rintro before' rest' behind' ⟨he', hb'⟩ hlt ho'
  have hnone := hfirst before' rest' he' hlt (startsLine_iff.mpr hb')
  rw [hopens.mpr ho'] at hnone
  cases hnone

theorem OpensBlock.isSuffix {u v : Text} (h : OpensBlock u v) : v <:+ u := by
  obtain ⟨blanks, -, rfl⟩ := h
  exact ⟨importWord ++ blanks ++ ['('], by simp⟩

theorem OpensPackage.isSuffix {u v : Text} (h : OpensPackage u v) : v <:+ u := by
  obtain ⟨blanks, c, line, -, -, -, rfl⟩ := h
  exact List.suffix_append _ _

/-- **There is no place** exactly if no line starts with an import block or a package clause. -/
theorem importSite_eq_none_iff :
    importSite t = none ↔ NowhereOpened OpensBlock t ∧ NowhereOpened OpensPackage t := by
  rw [← nowhereOpened_iff afterBlockOpening_eq_some rfl,
    ← nowhereOpened_iff afterPackageClause_eq_some rfl, importSite]
  split
  · next hk => simp [hk]
  · next hk => simp [hk]

/-- **The first import block** comes before any package clause, and the first package clause takes the import
if there is no block. -/
theorem importSite_cases {s : ImportSite} (h : importSite t = some s) :
    (FirstOpened OpensBlock t s.position ∧ s.lead = ['\n', '\t']) ∨
      (NowhereOpened OpensBlock t ∧ FirstOpened OpensPackage t s.position ∧
        s.lead = "\n\nimport ".toList) := by
  unfold importSite at h
  split at h
  · next k hk =>
    cases h
    exact .inl ⟨firstOpened_of_eq_some afterBlockOpening_eq_some OpensBlock.isSuffix hk, rfl⟩
  · next hk =>
    obtain ⟨k, hclause, rfl⟩ := Option.map_eq_some_iff.mp h
    exact .inr ⟨(nowhereOpened_iff afterBlockOpening_eq_some rfl).mp hk,
      firstOpened_of_eq_some afterPackageClause_eq_some OpensPackage.isSuffix hclause, rfl⟩

end Site

end GoCompletion
