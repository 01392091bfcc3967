import GoCompletion.Signature.Basic

/-!
# The texts of a signature

`Signature.texts` lists all that is spelled out in a signature, at any depth: its name, and the names, the
identifiers and the types of its parameters and returns.
-/

namespace GoCompletion

/-- None of some texts has the character. -/
def Text.FreeOf (c : Char) (ts : List Text) : Prop := ∀ t ∈ ts, c ∉ t

instance (c : Char) (ts : List Text) : Decidable (Text.FreeOf c ts) :=
  inferInstanceAs (Decidable (∀ t ∈ ts, c ∉ t))

namespace Text.FreeOf

variable {c : Char} {t : Text} {ts us : List Text}

@[simp] theorem nil : FreeOf c [] := nofun

@[simp] theorem cons_iff : FreeOf c (t :: ts) ↔ c ∉ t ∧ FreeOf c ts := List.forall_mem_cons

@[simp] theorem append_iff : FreeOf c (ts ++ us) ↔ FreeOf c ts ∧ FreeOf c us :=
  List.forall_mem_append

end Text.FreeOf

mutual

/-- The texts of a signature. -/
def Signature.texts : Signature → List Text
  | ⟨_, name, args, returns⟩ => name :: (Parameter.textsOf args ++ Parameter.textsOf returns)

/-- The texts of a parameter. -/
def Parameter.texts : Parameter → List Text
  | ⟨name, identifier, _, type⟩ => name :: identifier :: type.texts

/-- The texts of the type of a parameter. -/
def ParameterType.texts : ParameterType → List Text
  | .plain t => [t]
  | .signature s => s.texts

/-- The texts of parameters. -/
def Parameter.textsOf : List Parameter → List Text
  | [] => []
  | p :: ps => p.texts ++ Parameter.textsOf ps

end

namespace Parameter

theorem name_mem_texts (p : Parameter) : p.name ∈ p.texts := by
  obtain ⟨name, identifier, isFunc, type⟩ := p
  rw [texts]
  exact List.mem_cons_self

theorem identifier_mem_texts (p : Parameter) : p.identifier ∈ p.texts := by
  obtain ⟨name, identifier, isFunc, type⟩ := p
  rw [texts]
  exact List.mem_cons_of_mem _ List.mem_cons_self

/-- The text of a parameter's type is one of its texts. -/
theorem typeText_mem_texts (p : Parameter) : p.typeText ∈ p.texts := by
  obtain ⟨name, identifier, isFunc, type⟩ := p
  cases type with
  | plain t => simp [texts, ParameterType.texts, typeText]
  | signature s =>
    obtain ⟨isFunc', name', args, returns⟩ := s
    simp [texts, ParameterType.texts, Signature.texts, typeText]

theorem mem_textsOf {p : Parameter} {ps : List Parameter} {t : Text} (hp : p ∈ ps) (ht : t ∈ p.texts) :
    t ∈ textsOf ps := by
  induction ps with
  | nil => cases hp
  | cons q qs ih =>
    rw [textsOf, List.mem_append]
    rcases List.mem_cons.mp hp with rfl | hp
    · exact .inl ht
    · exact .inr (ih hp)

end Parameter

end GoCompletion
