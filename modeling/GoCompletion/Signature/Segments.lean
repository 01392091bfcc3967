import GoCompletion.Signature.Basic

/-!
# Segments of a parameter list

A parameter list is cut at every `, ` first. That cuts too much when a parameter has a func type, whose
own lists hold separators too; then the pieces are put together again and cut at the first separator
**outside all brackets** instead (`repair`). `segments` repairs the list in front of every parameter it
takes off, until nothing is pending.
-/

namespace GoCompletion

/-- The character opens a bracket of any kind. -/
def isOpening (c : Char) : Bool := c == '(' || c == '[' || c == '{'

/-- The character closes a bracket of any kind. -/
def isClosing (c : Char) : Bool := c == ')' || c == ']' || c == '}'

/-- A text cut at its first separator outside all brackets, when `depth` brackets are open at its
start. -/
def cutOutside (depth : Int) : Text → Option (Text × Text)
  | [] => none
  | c :: r =>
    if isOpening c then (cutOutside (depth + 1) r).map fun p => (c :: p.1, p.2)
    else if isClosing c then (cutOutside (depth - 1) r).map fun p => (c :: p.1, p.2)
    else if depth = 0 ∧ separator.isPrefixOf (c :: r) then
      some ([], (c :: r).drop separator.length)
    else (cutOutside depth r).map fun p => (c :: p.1, p.2)

/-- **Nothing is lost by a cut outside all brackets.** -/
theorem cutOutside_eq_some {depth : Int} {t a b : Text} (h : cutOutside depth t = some (a, b)) :
    a ++ separator ++ b = t := by
  induction t generalizing depth a b with
  | nil => simp [cutOutside] at h
  | cons c r ih =>
    have step : ∀ {k : Int}, ((cutOutside k r).map fun p => (c :: p.1, p.2)) = some (a, b) →
        a ++ separator ++ b = c :: r := by
      intro k hk
      obtain ⟨⟨a', b'⟩, hc, he⟩ := Option.map_eq_some_iff.mp hk
      simp only [Prod.mk.injEq] at he
      obtain ⟨rfl, rfl⟩ := he
      simpa using ih hc
    simp only [cutOutside] at h
    split at h
    · exact step h
    · split at h
      · exact step h
      · split at h
        · next hp =>
          simp only [Option.some.injEq, Prod.mk.injEq] at h
          obtain ⟨rfl, rfl⟩ := h
          simpa using Text.append_drop_of_isPrefixOf hp.2
        · exact step h

/-- A list of pieces whose first one is a whole parameter. Only a func type can have been cut apart, so
a first piece without one is left alone; otherwise the pieces are joined and cut outside all brackets. -/
def repair : List Text → List Text
  | [] => []
  | first :: rest =>
    if Text.contains first funcToken then
      match cutOutside 0 (Text.join separator (first :: rest)) with
      | none => [Text.strip (Text.join separator (first :: rest))]
      | some (a, b) => Text.strip a :: Text.pieces separator b
    else first :: rest

/-! ## Taking segments off

Every segment taken off makes the pending pieces shorter, counting a separator for each of them. -/

/-- The length of some pieces, with a separator behind each. -/
def pendingLength (ts : List Text) : Nat := Text.total (fun t => t.length + separator.length) ts

theorem pendingLength_cons (t : Text) (ts : List Text) :
    pendingLength (t :: ts) = t.length + separator.length + pendingLength ts := rfl

theorem pendingLength_pieces (t : Text) :
    pendingLength (Text.pieces separator t) = t.length + separator.length := by
  fun_induction Text.pieces separator t with
  | case1 t => simp [pendingLength]
  | case2 t => simp [pendingLength]
  | case3 t hs a b h _ ih =>
    rw [pendingLength_cons, ih]
    have := Text.length_of_cut h
    omega

theorem pendingLength_eq (t : Text) (ts : List Text) :
    pendingLength (t :: ts) = (Text.join separator (t :: ts)).length + separator.length := by
  induction ts generalizing t with
  | nil => simp [pendingLength]
  | cons u us ih =>
    rw [pendingLength_cons, ih, Text.join_cons_cons]
    simp only [List.length_append]
    omega

/-- What is pending behind a repaired first piece is shorter than what was pending. -/
theorem pendingLength_lt_of_repair {pending rest : List Text} {first : Text}
    (h : repair pending = first :: rest) : pendingLength rest < pendingLength pending := by
  cases pending with
  | nil => simp [repair] at h
  | cons p ps =>
    simp only [repair] at h
    split at h
    · split at h
      · simp only [List.cons.injEq] at h
        obtain ⟨-, rfl⟩ := h
        rw [pendingLength_eq]
        simp [pendingLength, separator]
      · next a b hc =>
        simp only [List.cons.injEq] at h
        obtain ⟨-, rfl⟩ := h
        have hl := congrArg List.length (cutOutside_eq_some hc)
        simp only [List.length_append] at hl
        rw [pendingLength_pieces, pendingLength_eq]
        simp only [separator, List.length_cons, List.length_nil] at hl ⊢
        omega
    · simp only [List.cons.injEq] at h
      obtain ⟨rfl, rfl⟩ := h
      rw [pendingLength_cons]
      simp only [separator, List.length_cons, List.length_nil]
      omega

/-- The segments that pending pieces make up, one for each parameter. -/
def segments (pending : List Text) : List Text :=
  match h : repair pending with
  | [] => []
  | first :: rest =>
    have := pendingLength_lt_of_repair h
    first :: segments rest
termination_by pendingLength pending

/-- The segments of the text of a parameter list; a blank one has none. -/
def segmentsOf (t : Text) : List Text :=
  if Text.isBlank t then [] else segments (Text.pieces separator t)

end GoCompletion
