import GoCompletion.Proofs.Signature.Plain
import Mathlib.Order.Bounds.Basic

/-!
# The first balance

From an open paren on, the search for the one that closes it only counts. What it finds is **the first place at
which as many parens have been closed as opened** (`isLeast_of_closing`), and it finds nothing exactly if there
is no such place, so that up to every place some paren is open (`Text.Unclosed`, `unclosed_of_closing`).

A func type is cut there (`FuncText.cut_at_firstBalance`): its parameter list is balanced, and which returns
there are depends on what is left behind it alone (`FuncText.returnsOf_eq`).
-/

namespace GoCompletion

/-- Up to every place of the text some paren is open. -/
def Text.Unclosed (t : Text) : Prop := ∀ u, u ≠ [] → u <+: t → u.count ')' < u.count '('

/-- The places of a text up to which, from `start` on, as many parens are closed as opened. -/
def Text.balances (t : Text) (start : Nat) : Set Nat :=
  {i | start ≤ i ∧ i < t.length ∧ (t.slice start (i + 1)).count ')' = (t.slice start (i + 1)).count '('}

/-! ## Nothing found -/

/-- **What it says that no closing paren is found**: some paren is open up to every place. -/
theorem open_of_closingFrom_eq_none {t : Text} {count : Int} (hcount : 0 < count)
    (h : closingFrom count t = none) {u : Text} (hu : u <+: t) : (u.count ')' : Int) < count + u.count '(' := by
  induction t generalizing count u with
  | nil =>
    rw [List.prefix_nil.mp hu]
    simpa using hcount
  | cons c t ih =>
    -- behind `c` there are `k` parens open, and nothing is found there either
    have hnext : ∀ k : Int, 0 < k → k = count + [c].count '(' - [c].count ')' → closingFrom k t = none →
        (u.count ')' : Int) < count + u.count '(' := by
      intro k hk hkc hnone
      cases u with
      | nil => simpa using hcount
      | cons d u =>
        obtain ⟨rfl, htail⟩ := List.cons_prefix_cons.mp hu
        have hopen := ih hk hnone htail
        rw [← List.singleton_append, List.count_append, List.count_append]
        omega
    rw [closingFrom] at h
    split at h
    · next ho =>
      subst ho
      exact hnext _ (by omega) (by simp) (Option.map_eq_none_iff.mp h)
    · next ho =>
      split at h
      · next hc =>
        subst hc
        split at h
        · cases h
        · exact hnext _ (by omega) (by simp) (Option.map_eq_none_iff.mp h)
      · next hc => exact hnext _ hcount (by simp [ho, hc]) (Option.map_eq_none_iff.mp h)

/-! ## From an open paren on -/

section Opened

variable {t : Text} {start i : Nat}

/-- From an open paren on, the search is that behind it, with one paren open. -/
theorem exists_closing_eq (h : t[start]? = some '(') :
    ∃ r, t.drop start = '(' :: r ∧ closing t start = (closingFrom 1 r).map (· + 1 + start) := by
  obtain ⟨hlt, hparen⟩ := List.getElem?_eq_some_iff.mp h
  refine ⟨t.drop (start + 1), ?_, ?_⟩
  · rw [← hparen, List.drop_eq_getElem_cons hlt]
  · rw [closing, List.drop_eq_getElem_cons hlt, hparen, closingFrom, if_pos rfl, Int.zero_add, Option.map_map]
    rfl

/-- The stretch from an open paren up to a place. -/
theorem slice_of_drop {r : Text} (h : t.drop start = '(' :: r) (hi : start ≤ i) :
    t.slice start (i + 1) = '(' :: r.take (i - start) := by
  rw [Text.slice, List.drop_take, h, show i + 1 - start = i - start + 1 by omega, List.take_succ_cons]

/-- **The place that is found is the first one** at which as many parens have been closed as opened. -/
theorem isLeast_of_closing (h : t[start]? = some '(') (hclose : closing t start = some i) :
    IsLeast (t.balances start) i := by
  obtain ⟨r, hdrop, hsearch⟩ := exists_closing_eq h
  rw [hsearch] at hclose
  obtain ⟨k, hk, rfl⟩ := Option.map_eq_some_iff.mp hclose
  obtain ⟨inner, rest, rfl, rfl, hleft, hopen⟩ := exists_of_closingFrom (by decide) hk
  have hlength : t.length = start + (inner.length + rest.length + 2) := by
    have hlt := (List.getElem?_eq_some_iff.mp h).1
    have htail := congrArg List.length hdrop
    simp only [List.length_drop, List.length_cons, List.length_append] at htail
    omega
  constructor
  · refine ⟨by omega, by omega, ?_⟩
    have htake : (inner ++ ')' :: rest).take (inner.length + 1) = inner ++ [')'] := by
      rw [List.take_length_add_append]
      rfl
    rw [slice_of_drop hdrop (by omega), show inner.length + 1 + start - start = inner.length + 1 by omega, htake]
    simp
    omega
  · rintro j ⟨hstart, -, hcount⟩
    by_contra hlt
    -- a place in front of it is in the parameter list, and there the paren is still open
    have htake : (inner ++ ')' :: rest).take (j - start) = inner.take (j - start) :=
      List.take_append_of_le_length (by omega)
    have hstill := hopen _ (List.take_prefix (j - start) inner)
    rw [slice_of_drop hdrop hstart, htake] at hcount
    simp at hcount
    omega

/-- **Nothing is found** only where some paren is open up to every place. -/
theorem unclosed_of_closing (h : t[start]? = some '(') (hclose : closing t start = none) :
    Text.Unclosed (t.drop start) := by
  obtain ⟨r, hdrop, hsearch⟩ := exists_closing_eq h
  rw [hsearch] at hclose
  rw [hdrop]
  intro u hu hprefix
  obtain ⟨c, v, rfl⟩ := List.exists_cons_of_ne_nil hu
  obtain ⟨rfl, hv⟩ := List.cons_prefix_cons.mp hprefix
  have hopen := open_of_closingFrom_eq_none (by decide) (Option.map_eq_none_iff.mp hclose) hv
  simp
  omega

/-- Where some paren is open up to every place, there is no balance. -/
theorem Text.Unclosed.not_mem_balances (h : Text.Unclosed (t.drop start)) : i ∉ t.balances start := by
  rintro ⟨hstart, hlt, hcount⟩
  have hslice : t.slice start (i + 1) = (t.drop start).take (i + 1 - start) := List.drop_take
  have hne : (t.drop start).take (i + 1 - start) ≠ [] := by
    intro hnil
    have hlength := congrArg List.length hnil
    simp only [List.length_take, List.length_drop, List.length_nil] at hlength
    omega
  have hopen := h _ hne (List.take_prefix _ _)
  rw [← hslice] at hopen
  omega

theorem closing_eq_some_iff (h : t[start]? = some '(') :
    closing t start = some i ↔ IsLeast (t.balances start) i := by
  refine ⟨isLeast_of_closing h, fun hi => ?_⟩
  cases hclose : closing t start with
  | none => exact absurd hi.1 (unclosed_of_closing h hclose).not_mem_balances
  | some j => rw [(isLeast_of_closing h hclose).unique hi]

theorem closing_eq_none_iff (h : t[start]? = some '(') :
    closing t start = none ↔ Text.Unclosed (t.drop start) := by
  refine ⟨unclosed_of_closing h, fun hopen => ?_⟩
  cases hclose : closing t start with
  | none => rfl
  | some i => exact absurd (isLeast_of_closing h hclose).1 hopen.not_mem_balances

end Opened

/-! ## Func types -/

namespace FuncText

/-- **The returns behind a parameter list** leave out one character, and the parens around them if there is one
right behind that. -/
theorem returnsOf_eq (rest : Text) :
    returnsOf rest =
      if rest.length ≤ 1 then none
      else if rest[1]? = some '(' then some (Text.slice rest 2 (rest.length - 1)) else some (rest.drop 1) := by
  match rest with
  | [] => rfl
  | [_] => rfl
  | b :: c :: r =>
    have hslice : Text.slice (b :: c :: r) 2 ((b :: c :: r).length - 1) = r.dropLast := by
      have hlength : (b :: c :: r).length - 1 - 2 = r.length - 1 := by simp
      rw [Text.slice, List.drop_take, hlength, List.dropLast_eq_take]
      rfl
    have hsome : (b :: c :: r)[1]? = some c := rfl
    rw [if_neg (by simp), hslice]
    simp only [hsome, Option.some.injEq]
    rfl

/-- A func type ends its parameter list where the parens balance, and what is behind it tells the returns. -/
theorem exists_of_ofText {t : Text} {f : FuncText} (h : ofText t = some f) :
    ∃ rest, t = funcToken ++ (f.args ++ ')' :: rest) ∧ Text.Balanced f.args ∧ f.returns = returnsOf rest := by
  obtain ⟨args, rest, hargs, rfl⟩ := isSome_ofText.mp (Option.isSome_of_mem h)
  rw [ofText_balanced hargs] at h
  cases h
  exact ⟨rest, rfl, hargs, rfl⟩

theorem ofText_eq_none_iff {t : Text} : ofText t = none ↔ ¬ funcToken <+: t ∨ closing t 4 = none := by
  unfold ofText
  split
  · next hstart => simp [Text.startsWith_iff_prefix.mp hstart]
  · next hstart => simp [mt Text.startsWith_iff_prefix.mpr hstart]

/-- **The paren that closes another is the first one to balance it, and func types are cut there.** From an open
paren at `start` on, the place that is found is the first one up to which as many parens are closed as opened,
and none is found exactly if up to every place some paren is open. So a text is cut unless it does not begin like a
func type or leaves the paren there open; its parameter list is balanced then, and of what is left behind it the
returns are nothing, the stretch between two more characters and the last one, or all but the first character. -/
theorem cut_at_firstBalance (t : Text) :
    (∀ start : Nat, t[start]? = some '(' →
      ∃ found : Option Nat, closingAt t start = .ok (found.map Int.ofNat) ∧
        (∀ i, found = some i ↔
          IsLeast {i | start ≤ i ∧ i < t.length ∧
            (t.slice start (i + 1)).count ')' = (t.slice start (i + 1)).count '('} i) ∧
        (found = none ↔ ∀ u, u ≠ [] → u <+: t.drop start → u.count ')' < u.count '(')) ∧
      (ofText t = none ↔
        ¬ funcToken <+: t ∨ ∀ u, u ≠ [] → u <+: t.drop 4 → u.count ')' < u.count '(') ∧
      ∀ f, ofText t = some f →
        ∃ rest, t = funcToken ++ (f.args ++ ')' :: rest) ∧ f.args.count '(' = f.args.count ')' ∧
          (∀ u, u <+: f.args → u.count ')' ≤ u.count '(') ∧
          f.returns =
            if rest.length ≤ 1 then none
            else if rest[1]? = some '(' then some (Text.slice rest 2 (rest.length - 1)) else some (rest.drop 1) := by
  refine ⟨fun start hparen => ⟨closing t start, rfl, fun _ => closing_eq_some_iff hparen,
    closing_eq_none_iff hparen⟩, ?_, fun f hf => ?_⟩
  · rw [ofText_eq_none_iff]
    by_cases hstart : funcToken <+: t
    · obtain ⟨r, rfl⟩ := hstart
      rw [closing_eq_none_iff rfl]
      rfl
    · simp [hstart]
  · obtain ⟨rest, ht, hargs, hreturns⟩ := exists_of_ofText hf
    exact ⟨rest, ht, hargs.count_eq, hargs.count_le, hreturns.trans (returnsOf_eq rest)⟩

/-- The paren of a list with a func type in it is closed by the second closing paren, and both the list and the
returns are what stands between parens. -/
theorem cut_at_firstBalance_callback :
    let t : Text := "func(f func(int)) (n int, err error)".toList
    let callback : FuncText := { args := "f func(int)".toList, returns := some "n int, err error".toList }
    (t[4]? = some '(' ∧ ofText t = some callback) ∧
      closingAt t 4 = .ok (some 16) ∧
      (∀ i, 4 ≤ i → i < 16 → (Text.slice t 4 (i + 1)).count ')' ≠ (Text.slice t 4 (i + 1)).count '(') ∧
      ∃ rest, t = funcToken ++ (callback.args ++ ')' :: rest) ∧
        callback.returns = some (Text.slice rest 2 (rest.length - 1)) := by
  intro t callback
  have hparen : t[4]? = some '(' := rfl
  have hargs : callback.args.Balanced := by decide
  have hcut : ofText t = some callback := ofText_balanced hargs " (n int, err error)".toList
  obtain ⟨hsearch, -, hparts⟩ := cut_at_firstBalance t
  obtain ⟨found, hfound, hleast, -⟩ := hsearch 4 hparen
  have hplace : closingAt t (4 : Nat) = .ok (some 16) := rfl
  have hsixteen : found = some 16 := by
    have hmap := Except.ok.inj (hfound.symm.trans hplace)
    obtain ⟨i, rfl, hi⟩ := Option.map_eq_some_iff.mp hmap
    rw [Int.ofNat.inj hi]
  have hfirst := ((hleast 16).mp hsixteen).2
  obtain ⟨rest, ht, -, -, hreturns⟩ := hparts callback hcut
  have hrest : rest = t.drop 17 := (congrArg (List.drop 17) ht).symm
  refine ⟨⟨hparen, hcut⟩, hplace, fun i hi hlt hcount => ?_, rest, ht, ?_⟩
  · have hle := hfirst ⟨hi, Nat.lt_trans hlt (by decide), hcount⟩
    omega
  · rw [hreturns, hrest, if_neg (by decide), if_pos (by decide)]

end FuncText

end GoCompletion
