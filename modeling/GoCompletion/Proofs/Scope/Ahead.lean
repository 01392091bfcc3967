import GoCompletion.Proofs.Provider.Suppressed
import GoCompletion.Proofs.Scope.Reach

/-!
# What stands ahead

The scan looks one character ahead and no further: on two texts that begin alike it does the same as long as
the character it is at and the next one are the same (`take_ownersFrom`). What else the scopes of a character
depend on stands in front of its construct. So **what stands further on than the next character does not
matter**, neither to the scopes nor to the check in front of the cursor (`scopesAt_ahead`).
-/

namespace GoCompletion

/-- A step of the scan looks at the next character only. -/
theorem scanStep_congr (state : Owner) (i : Nat) (c : Char) {r r' : Text} (h : r.head? = r'.head?) :
    scanStep state i c r = scanStep state i c r' := by
  unfold scanStep
  rw [h]

/-- **The scan of two texts that begin alike** gives the characters there, but for the last one, to the same
owners. -/
theorem take_ownersFrom (state : Owner) (i : Nat) {t u : Text} {n : Nat} (h : t.take (n + 1) = u.take (n + 1)) :
    (ownersFrom state i t).take n = (ownersFrom state i u).take n := by
  fun_induction ownersFrom state i t generalizing u n with
  | case1 state i =>
    obtain rfl : u = [] := by simpa using h.symm
    rfl
  | case2 state i c d r step hpair =>
    rename_i ih
    obtain _ | n := n
    · rfl
    obtain _ | ⟨c', _ | ⟨d', u⟩⟩ := u
    · cases h
    · simp at h
    simp only [List.take_succ_cons, List.cons.injEq] at h
    obtain ⟨rfl, rfl, h⟩ := h
    have hstep : scanStep state i c (d :: u) = step := scanStep_congr state i c rfl
    obtain _ | n := n
    · simp [ownersFrom, hstep, hpair]
    · simp [ownersFrom, hstep, hpair, ih h]
  | case3 state i c r step hpair =>
    rename_i ih
    obtain _ | n := n
    · rfl
    obtain _ | ⟨c', u⟩ := u
    · cases h
    simp only [List.take_succ_cons, List.cons.injEq] at h
    obtain ⟨rfl, h⟩ := h
    have hhead : u.head? = r.head? := by
      have htake := congrArg List.head? h
      rwa [List.head?_take, List.head?_take, if_neg (Nat.succ_ne_zero n), if_neg (Nat.succ_ne_zero n),
        eq_comm] at htake
    have hstep : scanStep state i c u = step := scanStep_congr state i c hhead
    have hsingle : ownersFrom state i (c :: u) = step.owner :: ownersFrom step.next (i + 1) u := by
      cases u with
      | nil => simp [ownersFrom, hstep]
      | cons d u =>
        obtain ⟨r', rfl⟩ := List.head?_eq_some_iff.mp hhead.symm
        have hnot : step.pair = false := by simpa using fun hp => hpair d r' hp rfl
        simp [ownersFrom, hstep, hnot]
    rw [hsingle, List.take_succ_cons, List.take_succ_cons, ih h]

section Ahead

variable {t u : Text}

/-- Two texts that begin alike begin alike further in front, too. -/
theorem take_eq_of_le {m n : Nat} (hle : m ≤ n) (h : t.take n = u.take n) : t.take m = u.take m := by
  rw [← Nat.min_eq_left hle, ← List.take_take, h, List.take_take]

theorem constructAt_congr {i : Nat} (h : t.take (i + 2) = u.take (i + 2)) :
    constructAt t i = constructAt u i := by
  have howners := congrArg (·[i]?) (take_ownersFrom none 0 h)
  simp only [List.getElem?_take_of_lt (Nat.lt_succ_self i)] at howners
  rw [constructAt, constructAt, owners, owners, howners]

/-- The scopes of a character depend on what stands in front of it, on itself and on the next character. -/
theorem scopesAt_congr {i : Nat} (h : t.take (i + 2) = u.take (i + 2)) : scopesAt t i = scopesAt u i := by
  unfold scopesAt
  cases howner : constructAt t i with
  | none => rw [← constructAt_congr h, howner]
  | some owner =>
    obtain ⟨kind, start⟩ := owner
    obtain ⟨-, -, -, -, -, -, hstart, -⟩ := exists_lexeme_of_constructAt howner
    have hbefore : t.take start = u.take start := take_eq_of_le (by omega) h
    rw [← constructAt_congr h, howner]
    simp only [hbefore]

/-- What the check in front of the cursor says depends on the text up to the cursor and one character
further. -/
theorem Provider.isSuppressed_congr (p : Provider) {position position' : Position} (manual : Bool) {c : Nat}
    (hc : (Document.locate t position).1 = c) (hc' : (Document.locate u position').1 = c)
    (h : t.take (c + 1) = u.take (c + 1)) :
    p.isSuppressed t position manual = p.isSuppressed u position' manual := by
  by_cases hzero : c = 0
  · rw [p.isSuppressed_start t position manual (hc.trans hzero),
      p.isSuppressed_start u position' manual (hc'.trans hzero)]
  · have hscopes : scopesAt t (c - 1) = scopesAt u (c - 1) :=
      scopesAt_congr (take_eq_of_le (by omega) h)
    have hchar : charBefore t c = charBefore u c := by
      have hget := congrArg (·[c - 1]?) h
      simp only [List.getElem?_take_of_lt (show c - 1 < c + 1 by omega)] at hget
      rw [charBefore, charBefore, hget]
    unfold isSuppressed
    simp only [hc, hc', if_neg hzero, hscopes, hchar]

end Ahead

/-- **What stands further on than the next character does not matter**: neither to the scopes of a character,
nor to whether a completion behind it is suppressed, whatever is configured and however it is asked for. -/
theorem scopesAt_ahead (t u : Text) :
    (∀ i, t.take (i + 2) = u.take (i + 2) → scopesAt t i = scopesAt u i) ∧
      ∀ (p : Provider) (position position' : Position) (manual : Bool) (c : Nat),
        (Document.locate t position).1 = c → (Document.locate u position').1 = c →
          t.take (c + 1) = u.take (c + 1) →
            p.isSuppressed t position manual = p.isSuppressed u position' manual :=
  ⟨fun _ h => scopesAt_congr h, fun p _ _ manual _ hc hc' h => p.isSuppressed_congr manual hc hc' h⟩

/-- An import path that is not closed yet, and one that is, with a comment behind it. -/
theorem scopesAt_ahead_importPath :
    let t : Text := "import \"fm".toList
    let u : Text := "import \"fm)\" // f".toList
    let p : Provider := .ofSettings { scopeBlacklist := ".string.quoted".toList }
    let position : Position := { line := 0, character := 9 }
    (t.take 10 = u.take 10 ∧ (Document.locate t position).1 = 9 ∧ (Document.locate u position).1 = 9) ∧
      scopesAt t 8 = scopesAt u 8 ∧
      p.isSuppressed t position false = p.isSuppressed u position false := by
  intro t u p position
  have htake : t.take 10 = u.take 10 := by decide
  have ht : (Document.locate t position).1 = 9 := by decide +kernel
  have hu : (Document.locate u position).1 = 9 := by decide +kernel
  obtain ⟨hscopes, hsuppressed⟩ := scopesAt_ahead t u
  exact ⟨⟨htake, ht, hu⟩, hscopes 8 htake, hsuppressed p position position false 9 ht hu htake⟩

end GoCompletion
