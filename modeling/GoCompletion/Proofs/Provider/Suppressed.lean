import GoCompletion.Proofs.Document.Locate
import GoCompletion.Provider.Basic

/-!
# The check in front of the cursor

Whether something is completed is decided by the scopes in front of the cursor, and by the character there.
Behind the end of the text there is only the scope of the source, and no character: **the check breaks off
exactly if that character has to be looked at** (`Provider.isSuppressed_eq_error_iff`).
-/

namespace GoCompletion

/-- Behind the end of a text there is only the scope of the source. -/
theorem scopesAt_of_length_le {t : Text} {i : Nat} (h : t.length ≤ i) : scopesAt t i = [sourceScope] := by
  have howner : (owners t)[i]? = none := List.getElem?_eq_none (by rwa [length_owners])
  rw [scopesAt, constructAt, howner]
  rfl

namespace Provider

variable (p : Provider) (t : Text) (position : Position) (manual : Bool)

/-- The check looks for a character behind the end of the text: the position overruns, the completion is not
asked for by hand, and the scope of the source is not disabled. -/
def LooksBehind : Prop :=
  Document.Overruns t position ∧ manual = false ∧ p.suppression.disables [sourceScope] = false

instance : Decidable (p.LooksBehind t position manual) := inferInstanceAs (Decidable (_ ∧ _))

theorem charBefore_of_le {t : Text} {index : Nat} (hpos : index ≠ 0) (h : index ≤ t.length) :
    ∃ c, charBefore t index = .ok c := by
  have hlt : index - 1 < t.length := by omega
  exact ⟨t[index - 1], by rw [charBefore, List.getElem?_eq_getElem hlt]⟩

theorem charBefore_of_lt {t : Text} {index : Nat} (h : t.length < index) :
    charBefore t index = .error .outOfRange := by
  rw [charBefore, List.getElem?_eq_none (by omega)]

/-- At the start of the text nothing is suppressed. -/
theorem isSuppressed_start (h : (Document.locate t position).1 = 0) :
    p.isSuppressed t position manual = .ok false := by
  unfold isSuppressed
  exact if_pos h

/-- In a text the check says yes if a scope of the character in front of the cursor is disabled, and, unless
the completion is asked for by hand, if that character is suppressed among its scopes. -/
theorem isSuppressed_eq {t : Text} {position : Position} {c : Nat} {char : Char}
    (hc : (Document.locate t position).1 = c) (hpos : c ≠ 0) (hchar : charBefore t c = .ok char) :
    p.isSuppressed t position manual =
      .ok (p.suppression.disables (scopesAt t (c - 1)) ||
        (!manual && p.suppression.suppresses [char] (scopesAt t (c - 1)))) := by
  unfold isSuppressed
  simp only [hc, if_neg hpos, hchar]
  cases p.suppression.disables (scopesAt t (c - 1)) <;> cases manual <;> rfl

/-- In the text the check comes to an end. -/
theorem isSuppressed_of_le (h : (Document.locate t position).1 ≤ t.length) :
    ∃ b, p.isSuppressed t position manual = .ok b := by
  by_cases hpos : (Document.locate t position).1 = 0
  · exact ⟨false, p.isSuppressed_start t position manual hpos⟩
  · obtain ⟨char, hchar⟩ := charBefore_of_le hpos h
    exact ⟨_, p.isSuppressed_eq manual rfl hpos hchar⟩

/-- Behind the text the check comes to an end only if it needs no character. -/
theorem isSuppressed_of_lt (h : t.length < (Document.locate t position).1) :
    p.isSuppressed t position manual =
      if p.suppression.disables [sourceScope] then .ok true
      else if manual then .ok false else .error .outOfRange := by
  unfold isSuppressed
  dsimp only
  rw [if_neg (by omega), scopesAt_of_length_le (by omega), charBefore_of_lt h]
  rfl

/-- **The check breaks off** exactly if it looks for a character behind the end of the text. -/
theorem isSuppressed_eq_error_iff {e : Fault} :
    p.isSuppressed t position manual = .error e ↔ e = .outOfRange ∧ p.LooksBehind t position manual := by
  unfold LooksBehind
  rcases Nat.lt_or_ge t.length (Document.locate t position).1 with hlt | hle
  · have hover : Document.Overruns t position :=
      Decidable.not_not.mp (mt (Document.locate_le_length_iff t position).mpr (Nat.not_le.mpr hlt))
    rw [isSuppressed_of_lt p t position manual hlt]
    cases p.suppression.disables [sourceScope] <;> cases manual <;> simp [hover, eq_comm]
  · have hover := (Document.locate_le_length_iff t position).mp hle
    obtain ⟨b, hb⟩ := isSuppressed_of_le p t position manual hle
    simp [hb, hover]

/-- The check tells whether something is completed unless it looks behind the end of the text. -/
theorem exists_isSuppressed_iff :
    (∃ b, p.isSuppressed t position manual = .ok b) ↔ ¬ p.LooksBehind t position manual := by
  constructor
  · rintro ⟨b, hb⟩ hlooks
    cases hb.symm.trans ((p.isSuppressed_eq_error_iff t position manual).mpr ⟨rfl, hlooks⟩)
  · intro hlooks
    cases hsup : p.isSuppressed t position manual with
    | ok b => exact ⟨b, rfl⟩
    | error e => exact absurd ((p.isSuppressed_eq_error_iff t position manual).mp hsup).2 hlooks

end Provider

end GoCompletion
