import GoCompletion.Proofs.Snippet.Placeholder

/-!
# Snippets without markup

What is left of a snippet when it is read and all that is no character is dropped: a placeholder leaves its
default text and a tab-stop leaves nothing (`Template.charactersOf`). The body of a func literal leaves an empty
one, and these are dropped too (`erased`).

A part of a snippet **mirrors** a text if it is read as that text with empty bodies put into it (`Mirrors`,
`Bodied`). The text has no opening braces, so that the bodies can be told from it and dropped again
(`Bodied.withoutBodies`).
-/

namespace GoCompletion

namespace Template

mutual

/-- The characters of an item. -/
def Item.characters : Item → Text
  | .char c => [c]
  | .stop _ => []
  | .hole _ inside => charactersOf inside

/-- The characters of some items: those that stand for themselves, and those of the default texts. -/
def charactersOf : List Item → Text
  | [] => []
  | i :: is => i.characters ++ charactersOf is

end

theorem charactersOf_append (is js : List Item) :
    charactersOf (is ++ js) = charactersOf is ++ charactersOf js := by
  induction is with
  | nil => rw [List.nil_append, charactersOf, List.nil_append]
  | cons i is ih => rw [List.cons_append, charactersOf, charactersOf, ih, List.append_assoc]

theorem charactersOf_chars (t : Text) : charactersOf (chars t) = t := by
  induction t with
  | nil => rw [chars_nil, charactersOf]
  | cons c t ih => rw [chars_cons, charactersOf, Item.characters, ih, List.singleton_append]

theorem charactersOf_hole (n : Nat) (inside : List Item) :
    charactersOf [.hole n inside] = charactersOf inside := by
  rw [charactersOf, Item.characters, charactersOf, List.append_nil]

end Template

open Template

/-! ## Empty bodies -/

/-- The body of a func literal without the tab-stop in it. -/
def emptyBody : Text := [' ', '{', '\n', '\t', '\n', '}']

/-- A text without the empty bodies in it. -/
def withoutBodies (t : Text) : Text := (Text.pieces emptyBody t).flatten

/-- What is left of a snippet without its markup and without the bodies of func literals. -/
def erased (t : Text) : Text := withoutBodies (charactersOf (read t))

theorem emptyBody_ne_nil : emptyBody ≠ [] := by decide

theorem withoutBodies_nil : withoutBodies [] = [] := by
  rw [withoutBodies, Text.pieces_of_cut_eq_none rfl]
  rfl

theorem withoutBodies_cons {c : Char} {t : Text} (h : emptyBody.isPrefixOf (c :: t) = false) :
    withoutBodies (c :: t) = c :: withoutBodies t := by
  have hcut : Text.cut emptyBody (c :: t) = (Text.cut emptyBody t).map fun p => (c :: p.1, p.2) := by
    rw [Text.cut, if_neg (by simp [h])]
  unfold withoutBodies
  cases ht : Text.cut emptyBody t with
  | none =>
    rw [ht] at hcut
    rw [Text.pieces_of_cut_eq_none ht, Text.pieces_of_cut_eq_none hcut]
    rfl
  | some parts =>
    rw [ht] at hcut
    rw [Text.pieces_of_cut_eq_some emptyBody_ne_nil ht, Text.pieces_of_cut_eq_some emptyBody_ne_nil hcut]
    rfl

theorem withoutBodies_append (t : Text) : withoutBodies (emptyBody ++ t) = withoutBodies t := by
  have hcut : Text.cut emptyBody (emptyBody ++ t) = some ([], t) := by
    simp [emptyBody, Text.cut]
  rw [withoutBodies, Text.pieces_of_cut_eq_some emptyBody_ne_nil hcut]
  rfl

/-- The first text is the second one, which has no opening braces, with empty bodies put into it. -/
inductive Bodied : Text → Text → Prop
  /-- nothing is put into the empty text -/
  | nil : Bodied [] []
  /-- a character stays -/
  | char {s t : Text} {c : Char} (hc : c ≠ '{') (h : Bodied s t) : Bodied (c :: s) (c :: t)
  /-- an empty body is put in front -/
  | body {s t : Text} (h : Bodied s t) : Bodied (emptyBody ++ s) t

namespace Bodied

variable {s t u v : Text}

theorem refl (h : '{' ∉ t) : Bodied t t := by
  induction t with
  | nil => exact .nil
  | cons c t ih =>
    rw [List.mem_cons, not_or] at h
    exact .char (Ne.symm h.1) (ih h.2)

theorem append (h : Bodied s t) (h' : Bodied u v) : Bodied (s ++ u) (t ++ v) := by
  induction h with
  | nil => exact h'
  | char hc _ ih => exact .char hc ih
  | body _ ih =>
    rw [List.append_assoc]
    exact .body ih

/-- **Empty bodies can be dropped again.** -/
theorem withoutBodies (h : Bodied s t) : withoutBodies s = t := by
  induction h with
  | nil => exact withoutBodies_nil
  | @char s t c _ h ih =>
    -- a body that begins with `c` would go on with an opening brace
    have hprefix : emptyBody.isPrefixOf (c :: s) = false := by
      cases h with
      | nil => simp [emptyBody, List.isPrefixOf]
      | char hd _ => simp [emptyBody, List.isPrefixOf, Ne.symm hd]
      | body _ => simp [emptyBody, List.isPrefixOf]
    rw [withoutBodies_cons hprefix, ih]
  | body _ ih => rw [withoutBodies_append, ih]

end Bodied

/-! ## Parts of a snippet -/

/-- The characters that have a meaning of their own in a snippet, and the one that opens a body. -/
def markup : Text := ['$', '\\', '{', '}']

/-- None of some texts has markup. -/
def Clean (ts : List Text) : Prop := ∀ c ∈ markup, Text.FreeOf c ts

instance (ts : List Text) : Decidable (Clean ts) :=
  List.decidableBAll (fun c => Text.FreeOf c ts) markup

namespace Clean

variable {t : Text} {ts us : List Text}

theorem cons_iff : Clean (t :: ts) ↔ Clean [t] ∧ Clean ts := by
  simp only [Clean, Text.FreeOf.cons_iff, Text.FreeOf.nil, and_true, ← forall_and]

theorem append_iff : Clean (ts ++ us) ↔ Clean ts ∧ Clean us := by
  simp only [Clean, Text.FreeOf.append_iff, ← forall_and]

theorem of_mem (h : Clean ts) (ht : t ∈ ts) : Clean [t] :=
  fun c hc => Text.FreeOf.cons_iff.mpr ⟨h c hc t ht, .nil⟩

theorem not_mem (h : Clean [t]) {c : Char} (hc : c ∈ markup) : c ∉ t := h c hc t List.mem_cons_self

theorem escapeBraces_eq (h : Clean [t]) : escapeBraces t = t :=
  escapeBraces_of_not_mem (h.not_mem (by decide))

end Clean

/-- The part of a snippet is read as the text, but for empty bodies. -/
def Mirrors (w t : Text) : Prop := ∃ items, Reads w items ∧ Bodied (charactersOf items) t

namespace Mirrors

variable {v w s t : Text}

/-- A text without markup mirrors itself. -/
theorem text (h : Clean [t]) : Mirrors t t := by
  have hbare : isBare t = true :=
    isBare_of_not_mem (h.not_mem (by decide)) (h.not_mem (by decide)) (h.not_mem (by decide))
  exact ⟨_, .chars hbare, by rw [charactersOf_chars]; exact .refl (h.not_mem (by decide))⟩

theorem nil : Mirrors [] [] := text (by decide)

theorem append (hv : Mirrors v s) (hw : Mirrors w t) : Mirrors (v ++ w) (s ++ t) := by
  obtain ⟨is, hv, hs⟩ := hv
  obtain ⟨js, hw, ht⟩ := hw
  exact ⟨is ++ js, hv.append hw, by rw [charactersOf_append]; exact hs.append ht⟩

/-- A placeholder leaves its default text. -/
theorem hole (h : Mirrors w t) (n : Nat) : Mirrors (placeholder n w) t := by
  obtain ⟨items, hw, ht⟩ := h
  exact ⟨_, hw.hole n, by rwa [charactersOf_hole]⟩

/-- The body of a func literal leaves nothing. -/
theorem body (n : Nat) : Mirrors (bodyText n) [] :=
  ⟨_, reads_bodyText n, .body .nil⟩

/-- **A snippet that ends like a call** leaves the text that it mirrors, and the closing paren. -/
theorem erased_end (h : Mirrors w t) : erased (w ++ [')', '$', '0']) = t ++ [')'] := by
  obtain ⟨items, hw, ht⟩ := h
  rw [erased, hw.outside.read_end, charactersOf_append]
  exact (ht.append (.refl (t := [')']) (by decide))).withoutBodies

end Mirrors

end GoCompletion
