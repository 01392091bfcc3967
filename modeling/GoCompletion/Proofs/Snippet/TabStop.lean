import GoCompletion.Proofs.Signature.Characters
import GoCompletion.Proofs.Snippet.Parts

/-!
# Tab-stops are numbered without a gap

Read from left to right, the tab-stops of the snippet for a call are the numbers from one on, every one of
them once, and zero at the end (`tabStops_call`). How many there are is told by the signature alone:

* a parameter that is no func has one, but for a variadic one at the end, which has none;
* a func literal has one around it, one for each of its parameters, one in its body, and those of the func
  literals in it (`Parameter.literalStops`).

The counter that goes through the recursion and the text that it writes are tied by `Numbered`: the
tab-stops of a part of a snippet are the next numbers behind the ones used before it, **whatever is written
behind the part**.
-/

namespace GoCompletion

/-- The numbers of the tab-stops of a text, placeholders included, from left to right. -/
def tabStops : Text → List Nat
  | [] => []
  | c :: r => (if c = '$' then (markBehind r).toList.map (·.1.number) else []) ++ tabStops r

/-! ## How many there are -/

mutual

/-- The number of tab-stops of the func literal for a parameter. -/
def Parameter.literalStops : Parameter → Nat
  | ⟨_, _, _, .plain _⟩ => 2
  | ⟨_, _, _, .signature ⟨_, _, args, returns⟩⟩ =>
    1 + Parameter.argStops args + Parameter.returnStops returns + 1

/-- The number of tab-stops of the parameters of a func literal. -/
def Parameter.argStops : List Parameter → Nat
  | [] => 0
  | p :: ps => 1 + (if p.isFunc then p.literalStops else 0) + Parameter.argStops ps

/-- The number of tab-stops of the returns of a func literal. -/
def Parameter.returnStops : List Parameter → Nat
  | [r] => if r.isFunc then r.literalStops else 0
  | _ => 0

end

/-- The number of tab-stops of the parameters of a call. -/
def Parameter.callStops : List Parameter → Nat
  | [] => 0
  | p :: ps =>
    (if p.isFunc then p.literalStops else if ps.isEmpty && p.isVariadic then 0 else 1) +
      Parameter.callStops ps

/-! ## Reading tab-stops in front of a text -/

theorem tabStops_append_of_not_mem {s : Text} (h : '$' ∉ s) (t : Text) :
    tabStops (s ++ t) = tabStops t := by
  induction s with
  | nil => rfl
  | cons c s ih =>
    have hc : c ≠ '$' := fun he => h (he ▸ List.mem_cons_self)
    rw [List.cons_append, tabStops, if_neg hc, ih fun hm => h (List.mem_cons_of_mem c hm)]
    rfl

theorem dollar_not_mem_ofNat (n : Nat) : '$' ∉ Text.ofNat n :=
  fun h => absurd (isDigit_of_mem_ofNat h) (by decide)

theorem dollar_not_mem_escapeBraces {t : Text} (h : '$' ∉ t) : '$' ∉ escapeBraces t := by
  intro hm
  rcases mem_of_mem_escapeBraces hm with hc | hm
  · exact absurd hc (by decide)
  · exact h hm

/-- The tab-stops of a part of a snippet are the next `k` numbers behind `n`. -/
def Numbered (w : Text) (n k : Nat) : Prop :=
  ∀ t, tabStops (w ++ t) = List.range' (n + 1) k ++ tabStops t

namespace Numbered

variable {v w : Text} {n m j k : Nat}

theorem of_not_mem (h : '$' ∉ w) (n : Nat) : Numbered w n 0 :=
  fun t => by rw [tabStops_append_of_not_mem h, List.range'_zero, List.nil_append]

/-- **One part behind another** goes on where that one ends. -/
theorem append (hv : Numbered v n j) (hw : Numbered w m k) (h : m = n + j) :
    Numbered (v ++ w) n (j + k) := by
  subst h
  intro t
  have hnext : n + j + 1 = n + 1 + j := by omega
  rw [List.append_assoc, hv, hw, hnext, ← List.append_assoc, List.range'_append_1]

/-- Text without a dollar sign in front of a part. -/
theorem append_left (hv : '$' ∉ v) (hw : Numbered w n k) : Numbered (v ++ w) n k := by
  have h := (of_not_mem hv n).append hw rfl
  rwa [Nat.zero_add] at h

/-- Text without a dollar sign behind a part. -/
theorem append_right (hv : Numbered v n k) (hw : '$' ∉ w) : Numbered (v ++ w) n k :=
  hv.append (of_not_mem hw (n + k)) rfl

/-- The beginning of a placeholder, with the text up to some place in its default text. -/
theorem hole (h : '$' ∉ w) (n : Nat) :
    Numbered (['$', '{'] ++ Text.ofNat (n + 1) ++ [':'] ++ w) n 1 := by
  intro t
  have hsplit : ['$', '{'] ++ Text.ofNat (n + 1) ++ [':'] ++ w ++ t =
      '$' :: '{' :: (Text.ofNat (n + 1) ++ ':' :: (w ++ t)) := by simp
  have hskip : tabStops ('{' :: (Text.ofNat (n + 1) ++ ':' :: (w ++ t))) = tabStops t := by
    have hclear : '$' ∉ '{' :: (Text.ofNat (n + 1) ++ ':' :: w) := by
      simp [dollar_not_mem_ofNat, h]
    simpa using tabStops_append_of_not_mem hclear t
  rw [hsplit, tabStops, if_pos rfl, markBehind_hole, hskip]
  rfl

/-- A tab-stop, with the text behind it, which does not begin with a digit. -/
theorem stop {c : Char} (hc : c.isDigit = false) (h : '$' ∉ c :: w) (n : Nat) :
    Numbered ('$' :: (Text.ofNat (n + 1) ++ c :: w)) n 1 := by
  intro t
  have hmark : markBehind (Text.ofNat (n + 1) ++ (c :: w ++ t)) = some (.stop (n + 1), c :: w ++ t) :=
    markBehind_stop (n + 1) (by simpa using hc)
  have hskip : tabStops (Text.ofNat (n + 1) ++ (c :: w ++ t)) = tabStops t := by
    rw [tabStops_append_of_not_mem (dollar_not_mem_ofNat _), tabStops_append_of_not_mem h]
  rw [List.cons_append, List.append_assoc, tabStops, if_pos rfl, hmark, hskip]
  rfl

theorem placeholder (h : '$' ∉ w) (n : Nat) : Numbered (placeholder (n + 1) w) n 1 :=
  (hole h n).append_right (by decide)

theorem literalHead (n : Nat) : Numbered (literalHead (n + 1)).written n 1 := hole (by decide) n

theorem literalBody (n : Nat) : Numbered (literalBody (n + 1)).written n 1 := by
  have h := (stop (c := '\n') (w := ['\\', '}', '}']) (by decide) (by decide) n).append_left
    (v := [' ', '{', '\n', '\t']) (by decide)
  simpa [GoCompletion.literalBody] using h

end Numbered

/-! ## Func literals -/

theorem dollar_not_mem_literalLabel {p : Parameter} (h : Text.FreeOf '$' p.texts) (position : Nat) :
    '$' ∉ p.literalLabel position :=
  not_mem_literalLabel (by decide) (by decide) (h _ p.identifier_mem_texts) position

theorem dollar_not_mem_literalTuple {rs : List Parameter} (h : Text.FreeOf '$' (Parameter.textsOf rs)) :
    '$' ∉ (literalTuple rs).written := by
  have htypes : Text.FreeOf '$' (rs.map fun r => escapeBraces r.typeText) := by
    intro t ht
    obtain ⟨r, hr, rfl⟩ := List.mem_map.mp ht
    exact dollar_not_mem_escapeBraces (h _ (Parameter.mem_textsOf hr r.typeText_mem_texts))
  have hjoin := htypes.not_mem_join (s := separator) (by decide)
  simp [literalTuple, hjoin]

/-- A part of a snippet that takes the next `k` numbers behind `n`, and tells so. -/
structure Takes (r : Snippet × Nat) (n k : Nat) : Prop where
  /-- the last number used -/
  counter : r.2 = n + k
  /-- the numbers that are written -/
  numbered : Numbered r.1.written n k

mutual

/-- **A func literal** takes as many numbers as it has tab-stops. -/
theorem takes_funcLiteral (position counter : Nat) : (p : Parameter) → Text.FreeOf '$' p.texts →
    Takes (funcLiteral position counter p) counter p.literalStops
  | ⟨name, identifier, isFunc, .plain t⟩, _ => by
    rw [funcLiteral_plain, Parameter.literalStops]
    exact ⟨rfl, ((Numbered.literalHead counter).append_right (by decide)).append
      (Numbered.literalBody (counter + 1)) rfl⟩
  | ⟨name, identifier, isFunc, .signature ⟨isFunc', name', args, returns⟩⟩, h => by
    simp only [Parameter.texts, ParameterType.texts, Signature.texts, Text.FreeOf.cons_iff,
      Text.FreeOf.append_iff] at h
    obtain ⟨-, -, -, hargs, hreturns⟩ := h
    rw [funcLiteral_signature, Parameter.literalStops]
    have hin := takes_literalArgs position (counter + 1) [] (by decide) args hargs
    have hout := takes_literalReturns position (literalArgs position (counter + 1) [] args).2 returns
      hreturns
    have hlast := hout.counter
    have hmiddle := hin.counter
    refine ⟨?_, ?_⟩
    · simp only
      omega
    · exact ((((Numbered.literalHead counter).append hin.numbered rfl).append_right (by decide)).append
        hout.numbered (by omega)).append (Numbered.literalBody _) (by omega)

/-- **The parameters of a func literal** take one number each, and those of the func literals among
their types. -/
theorem takes_literalArgs (position counter : Nat) (lead : Text) (hlead : '$' ∉ lead) :
    (ps : List Parameter) → Text.FreeOf '$' (Parameter.textsOf ps) →
      Takes (literalArgs position counter lead ps) counter (Parameter.argStops ps)
  | [], _ => by
    rw [literalArgs_nil, Parameter.argStops]
    exact ⟨rfl, .of_not_mem List.not_mem_nil counter⟩
  | p :: ps, h => by
    rw [Parameter.textsOf, Text.FreeOf.append_iff] at h
    have htype : Takes (if p.isFunc then funcLiteral position (counter + 1) p
        else (⟨escapeBraces p.typeText, p.typeText⟩, counter + 1))
        (counter + 1) (if p.isFunc then p.literalStops else 0) := by
      split
      · exact takes_funcLiteral position (counter + 1) p h.1
      · exact ⟨rfl, .of_not_mem (dollar_not_mem_escapeBraces (h.1 _ p.typeText_mem_texts)) _⟩
    rw [literalArgs_cons, Parameter.argStops]
    generalize (if p.isFunc then funcLiteral position (counter + 1) p
      else (⟨escapeBraces p.typeText, p.typeText⟩, counter + 1)) = type at htype ⊢
    have hothers := takes_literalArgs position type.2 separator (by decide) ps h.2
    have hlabel : Numbered (lead ++ placeholder (counter + 1) (p.literalLabel position) ++ [' '])
        counter 1 :=
      ((Numbered.placeholder (dollar_not_mem_literalLabel h.1 position) counter).append_left
        hlead).append_right (by decide)
    have hlast := hothers.counter
    have hmiddle := htype.counter
    refine ⟨?_, ?_⟩
    · simp only
      omega
    · exact (hlabel.append htype.numbered rfl).append hothers.numbered (by omega)

/-- **The returns of a func literal** take numbers only if there is a single one, a func. -/
theorem takes_literalReturns (position counter : Nat) : (rs : List Parameter) →
    Text.FreeOf '$' (Parameter.textsOf rs) →
      Takes (literalReturns position counter rs) counter (Parameter.returnStops rs)
  | [], _ => by
    rw [literalReturns_nil]
    exact ⟨rfl, .of_not_mem List.not_mem_nil counter⟩
  | [r], h => by
    simp only [Parameter.textsOf, Text.FreeOf.append_iff] at h
    rw [Parameter.returnStops]
    cases hr : r.isFunc with
    | true =>
      have hliteral := takes_funcLiteral position counter r h.1
      rw [literalReturns_func _ _ hr]
      exact ⟨hliteral.counter, hliteral.numbered.append_left (by decide)⟩
    | false =>
      have htype : '$' ∉ escapeBraces r.typeText :=
        dollar_not_mem_escapeBraces (h.1 _ r.typeText_mem_texts)
      rw [literalReturns_single _ _ hr]
      exact ⟨rfl, .of_not_mem (by simp [htype]) counter⟩
  | r₁ :: r₂ :: rs, h => by
    rw [literalReturns_tuple, Parameter.returnStops]
    · exact ⟨rfl, .of_not_mem (dollar_not_mem_literalTuple h) counter⟩
    · simp

end

/-! ## Calls -/

theorem dollar_not_mem_placeholderLabel {p : Parameter} (h : Text.FreeOf '$' p.texts)
    (mode : SnippetMode) : '$' ∉ p.placeholderLabel mode := by
  unfold Parameter.placeholderLabel
  split
  · exact h _ p.identifier_mem_texts
  · exact h _ p.name_mem_texts

/-- **The parameters of a call** take the numbers behind the counter. A variadic parameter at the end
takes one that is not written, and nothing is written behind it. -/
theorem numbered_callArgs (mode : SnippetMode) (position counter : Nat) (ps : List Parameter)
    (h : Text.FreeOf '$' (Parameter.textsOf ps)) :
    Numbered (callArgs mode position counter ps).written counter (Parameter.callStops ps) := by
  have hlead : ∀ position omitted, '$' ∉ callLead position omitted := by
    intro position omitted
    unfold callLead
    split <;> decide
  induction ps generalizing position counter with
  | nil =>
    rw [written_callArgs_nil]
    exact .of_not_mem List.not_mem_nil counter
  | cons p ps ih =>
    rw [Parameter.textsOf, Text.FreeOf.append_iff] at h
    rw [Parameter.callStops]
    cases hfunc : p.isFunc with
    | true =>
      have hliteral := takes_funcLiteral position counter p h.1
      rw [written_callArgs_func _ _ _ hfunc, if_pos rfl]
      exact (hliteral.numbered.append_left (hlead _ _)).append (ih _ _ h.2) hliteral.counter
    | false =>
      cases homitted : ps.isEmpty && p.isVariadic with
      | true =>
        -- nothing comes behind a parameter that is left out
        obtain ⟨hnil, hv⟩ := Bool.and_eq_true_iff.mp homitted
        obtain rfl := List.isEmpty_iff.mp hnil
        rw [written_callArgs_omitted _ _ _ hfunc hv]
        exact .of_not_mem List.not_mem_nil counter
      | false =>
        have hlabel : '$' ∉ escapeBraces (p.placeholderLabel mode) :=
          dollar_not_mem_escapeBraces (dollar_not_mem_placeholderLabel h.1 mode)
        rw [written_callArgs_plain _ _ _ hfunc homitted]
        exact ((Numbered.placeholder hlabel counter).append_left (hlead _ _)).append (ih _ _ h.2) rfl

/-- **The tab-stops of a call** are the numbers from one on without a gap, as many as its parameters have,
and zero at the end; in the mode without parameters there is one in place of them all. -/
theorem tabStops_call (mode : SnippetMode) (name : Text) (s : Signature)
    (h : Text.FreeOf '$' (name :: s.texts)) :
    tabStops (Snippet.call mode name (some s)).written =
      List.range' 1 (if mode = .none then 1 else Parameter.callStops s.args) ++ [0] := by
  obtain ⟨isFunc, name', args, returns⟩ := s
  simp only [Signature.texts, Text.FreeOf.cons_iff, Text.FreeOf.append_iff] at h
  obtain ⟨hname, -, hargs, -⟩ := h
  have hopen : '$' ∉ name ++ ['('] := by simp [hname]
  have hwhole : tabStops (name ++ ['('] ++ (callArgs mode 0 0 args).written ++ [')', '$', '0']) =
      List.range' 1 (Parameter.callStops args) ++ [0] :=
    (numbered_callArgs mode 0 0 args hargs).append_left hopen [')', '$', '0']
  cases mode with
  | none =>
    have hone : tabStops (name ++ ['(', '$', '1', ')', '$', '0']) =
        tabStops ['(', '$', '1', ')', '$', '0'] := tabStops_append_of_not_mem hname _
    exact hone
  | name => exact hwhole
  | nameAndType => exact hwhole

/-- Func literals in a func literal, one of them for its return, and a variadic parameter at the end. -/
theorem tabStops_call_nested :
    let s := Signature.ofText
      "func(n int, cb func(x int, func(string) bool) func() error, more ...string)".toList
    Text.FreeOf '$' ("Walk".toList :: s.texts) ∧
      tabStops (Snippet.call .nameAndType "Walk".toList (some s)).written =
        [1, 2, 3, 4, 5, 6, 7, 8, 9, 10, 0] := by
  intro s
  have h : Text.FreeOf '$' ("Walk".toList :: s.texts) := by decide +kernel
  have hstops : Parameter.callStops s.args = 10 := by decide +kernel
  have hcall := tabStops_call .nameAndType _ s h
  rw [hstops] at hcall
  exact ⟨h, hcall⟩

end GoCompletion
