import GoCompletion.Proofs.Text.Search
import GoCompletion.Text.Lines
import Mathlib.Data.List.Chain

/-!
# How a text is cut into lines

A line is a stretch without breaks and the break behind it, which is one character or a carriage return with
a newline; only the last line may be without one (`Text.Cut`, `Text.cut_lines`). So without its break a line
holds no break (`Text.unbroken_withoutBreak`), and **what stands above a line ends in a break**
(`Text.closed_above`).

Editors show one more line, without any character, behind a break at the end of a text (`Text.shownLines`).
-/

namespace GoCompletion

namespace Text

/-- A line break: a character that ends lines, or a carriage return with a newline. -/
inductive Break : Text → Prop
  | single {c : Char} (h : isLineBreak c = true) : Break [c]
  | pair : Break ['\r', '\n']

/-- A stretch of a text without line breaks. -/
def Unbroken (t : Text) : Prop := ∀ c ∈ t, isLineBreak c = false

/-- The texts are the lines of one text: each ends in a break, but for the last one. -/
inductive Cut : List Text → Prop
  | nil : Cut []
  | last {body : Text} (hne : body ≠ []) (hbody : Unbroken body) : Cut [body]
  | line {body brk : Text} {ls : List Text} (hbody : Unbroken body) (hbrk : Break brk) (hls : Cut ls) :
      Cut ((body ++ brk) :: ls)

/-- One more character in front of the first line. -/
theorem Cut.onFirstLine {c : Char} {ls : List Text} (hc : isLineBreak c = false) (h : Cut ls) :
    Cut (onFirstLine c ls) := by
  cases h with
  | nil => exact .last (by simp) (List.forall_mem_singleton.mpr hc)
  | last hne hbody => exact .last (by simp) (List.forall_mem_cons.mpr ⟨hc, hbody⟩)
  | line hbody hbrk hls => exact .line (List.forall_mem_cons.mpr ⟨hc, hbody⟩) hbrk hls

/-- What is behind a first line that is a newline. -/
theorem Cut.tail_of_newline {ls : List Text} (h : Cut (['\n'] :: ls)) : Cut ls := by
  generalize hlines : ['\n'] :: ls = lines at h
  cases h with
  | nil => cases hlines
  | last hne hbody =>
    obtain ⟨rfl, -⟩ := List.cons.inj hlines
    cases (hbody '\n' (List.mem_singleton_self _)).symm.trans (by decide : isLineBreak '\n' = true)
  | line hbody hbrk hls =>
    obtain ⟨-, rfl⟩ := List.cons.inj hlines
    exact hls

/-- **The lines of a text** are cut behind its breaks. -/
theorem cut_lines (t : Text) : Cut t.lines := by
  induction t with
  | nil => exact .nil
  | cons c r ih =>
    have hnothing : Unbroken [] := nofun
    simp only [lines]
    split
    · next hpair =>
      -- the newline behind the carriage return is a line of its own to the rest
      obtain ⟨rfl, hr⟩ := hpair
      obtain ⟨r', rfl⟩ : ∃ r', r = '\n' :: r' := List.head?_eq_some_iff.mp hr
      have hrest : lines ('\n' :: r') = ['\n'] :: lines r' := rfl
      rw [hrest] at ih ⊢
      exact .line hnothing .pair ih.tail_of_newline
    · split
      · next hc => exact .line hnothing (.single hc) ih
      · next hc => exact ih.onFirstLine (Bool.eq_false_iff.mpr hc)

/-! ## Lines without their breaks -/

theorem withoutBreak_of_unbroken {t : Text} (h : Unbroken t) : withoutBreak t = t := by
  have hkept : t.reverse.dropWhile isLineBreak = t.reverse := by
    cases hr : t.reverse with
    | nil => rfl
    | cons c r =>
      have hc : c ∈ t := List.mem_reverse.mp (hr ▸ List.mem_cons_self)
      exact List.dropWhile_cons_of_neg (by simp [h c hc])
  rw [withoutBreak, hkept, List.reverse_reverse]

/-- Line breaks at the end do not matter to a line without its break. -/
theorem withoutBreak_append {s brk : Text} (h : ∀ c ∈ brk, isLineBreak c = true) :
    withoutBreak (s ++ brk) = withoutBreak s := by
  have hbrk : ∀ c ∈ brk.reverse, isLineBreak c = true := fun c hc => h c (List.mem_reverse.mp hc)
  rw [withoutBreak, List.reverse_append, List.dropWhile_append_of_pos hbrk, withoutBreak]

theorem Break.forall_isLineBreak {brk : Text} (h : Break brk) : ∀ c ∈ brk, isLineBreak c = true := by
  cases h with
  | single hc => exact List.forall_mem_singleton.mpr hc
  | pair => exact List.all_eq_true.mp (by decide)

theorem withoutBreak_prefix (t : Text) : withoutBreak t <+: t := by
  rw [← List.reverse_suffix, withoutBreak, List.reverse_reverse]
  exact List.dropWhile_suffix _

/-- A line without its break holds none. -/
theorem unbroken_withoutBreak {ls : List Text} (h : Cut ls) : ∀ l ∈ ls, Unbroken (withoutBreak l) := by
  induction h with
  | nil => exact nofun
  | last hne hbody =>
    refine List.forall_mem_singleton.mpr ?_
    rwa [withoutBreak_of_unbroken hbody]
  | line hbody hbrk hls ih =>
    refine List.forall_mem_cons.mpr ⟨?_, ih⟩
    rwa [withoutBreak_append hbrk.forall_isLineBreak, withoutBreak_of_unbroken hbody]

/-! ## What stands above -/

/-- The text is empty or ends in a line break. -/
def Closed (t : Text) : Prop := ∀ c ∈ t.getLast?, isLineBreak c = true

theorem Closed.append {s t : Text} (hs : Closed s) (ht : Closed t) : Closed (s ++ t) := by
  cases t with
  | nil =>
    rw [List.append_nil]
    exact hs
  | cons c r =>
    intro d hd
    rw [List.getLast?_append_of_ne_nil _ (List.cons_ne_nil c r)] at hd
    exact ht d hd

/-- The end of a closed text is closed. -/
theorem Closed.of_suffix {s t : Text} (h : Closed t) (hs : s <:+ t) : Closed s := by
  intro c hc
  have hne : s ≠ [] := by
    rintro rfl
    cases hc
  obtain ⟨u, rfl⟩ := hs
  refine h c ?_
  rwa [List.getLast?_append_of_ne_nil _ hne]

/-- **Above a line** the text is closed. -/
theorem closed_above {ls : List Text} (h : Cut ls) {i : Nat} (hi : i < ls.length) :
    Closed (ls.take i).flatten := by
  induction h generalizing i with
  | nil => exact absurd hi (Nat.not_lt_zero i)
  | last hne hbody =>
    obtain rfl : i = 0 := Nat.lt_one_iff.mp hi
    exact nofun
  | @line body brk ls hbody hbrk hls ih =>
    cases i with
    | zero => exact nofun
    | succ i =>
      have hline : Closed (body ++ brk) := by
        intro c hc
        have hne : brk ≠ [] := by cases hbrk <;> exact List.cons_ne_nil _ _
        rw [List.getLast?_append_of_ne_nil _ hne] at hc
        exact hbrk.forall_isLineBreak c (List.mem_of_getLast? hc)
      exact hline.append (ih (Nat.lt_of_succ_lt_succ hi))

/-! ## The line of a position -/

/-- The text in front of a position is cut where the line of the position begins: behind the last newline, or at
the start of the text. -/
theorem exists_above_lineBefore (t : Text) (i : Nat) :
    ∃ above, t.take i = above ++ t.lineBefore i ∧ t.linePosition i = above.length ∧
      (∀ c ∈ above.getLast?, c = '\n') ∧ '\n' ∉ t.lineBefore i := by
  have hcut : t.take i = ((t.take i).reverse.dropWhile (· != '\n')).reverse ++ t.lineBefore i := by
    rw [lineBefore, ← List.reverse_append, List.takeWhile_append_dropWhile, List.reverse_reverse]
  refine ⟨_, hcut, ?_, fun c hc => ?_, fun hmem => ?_⟩
  · have hlength := congrArg List.length hcut
    simp only [List.length_append, List.length_reverse, lineBefore] at hlength ⊢
    rw [linePosition]
    omega
  · rw [List.getLast?_reverse] at hc
    have hnot := List.head?_dropWhile_not (· != '\n') (t.take i).reverse
    rw [Option.mem_def.mp hc] at hnot
    simpa using hnot
  · rw [lineBefore, List.mem_reverse] at hmem
    simpa using List.all_eq_true.mp List.all_takeWhile _ hmem

/-- It can be cut like that at one place only. -/
theorem lineBefore_eq {t above line : Text} {i : Nat} (h : t.take i = above ++ line)
    (habove : ∀ c ∈ above.getLast?, c = '\n') (hline : '\n' ∉ line) : t.lineBefore i = line := by
  have hkept : ∀ c ∈ line.reverse, (c != '\n') = true := by
    intro c hc
    rw [bne_iff_ne]
    rintro rfl
    exact hline (List.mem_reverse.mp hc)
  have hends : ∀ c ∈ above.reverse.head?, (c != '\n') = false := by
    intro c hc
    rw [List.head?_reverse] at hc
    simp [habove c hc]
  rw [lineBefore, h, List.reverse_append, takeWhile_append_of_head hkept hends, List.reverse_reverse]

/-! ## Lines as editors show them -/

/-- The lines of a text as editors show them, without breaks: behind a break there is another line. -/
def shownLines (t : Text) : List Text :=
  t.bareLines ++ if t.getLast?.all isLineBreak then [[]] else []

/-- A line that is shown is one of the lines of the text without its break, or the one behind a closed
text. -/
theorem shownLines_cases {t l : Text} {i : Nat} (h : t.shownLines[i]? = some l) :
    (∃ hi : i < t.lines.length, l = withoutBreak t.lines[i]) ∨ (i = t.lines.length ∧ Closed t ∧ l = []) := by
  by_cases hi : i < t.lines.length
  · have hbare : i < t.bareLines.length := by rwa [bareLines, List.length_map]
    rw [shownLines, List.getElem?_append_left hbare, bareLines, List.getElem?_map,
      List.getElem?_eq_getElem hi] at h
    exact .inl ⟨hi, (Option.some.inj h).symm⟩
  · have hlength : t.bareLines.length = t.lines.length := List.length_map _
    rw [shownLines, List.getElem?_append_right (by omega)] at h
    split at h
    · next hclosed =>
      rw [List.getElem?_singleton] at h
      obtain ⟨hzero, hl⟩ := Option.ite_none_right_eq_some.mp h
      refine .inr ⟨by omega, fun c hc => ?_, (Option.some.inj hl).symm⟩
      rw [Option.all_eq_true] at hclosed
      exact hclosed c hc
    · cases h

end Text

end GoCompletion
