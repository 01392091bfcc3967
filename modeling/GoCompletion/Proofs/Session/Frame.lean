import GoCompletion.Proofs.Session.Steady

/-!
# What the acts of a session leave alone

Most of what a session does is looking for tools, running them and writing notices. None of that touches
the provider:

* acts that only reach outside keep the whole engine (`keeps_outside`, `keeps_tell`, `keeps_exec`, …);
* acts that look for tools or packages, and queries, keep the provider (`steadfast_provider`);
* acts about trouble with the daemon change nothing else of the provider (`keeps_learnPanic`,
  `keeps_settle`).
-/

namespace GoCompletion

namespace Session

open Act

/-! ## Acts that only reach outside -/

theorem keeps_outside {α : Type} (a : Act Host α) : (outside a).Keeps Session.toEngine :=
  .within fun _ _ => rfl

theorem keeps_tell (n : Notice) : (tell n).Keeps Session.toEngine := keeps_tell_of (keeps_outside _)

theorem keeps_exec (i : Invocation) : (exec i).Keeps Session.toEngine :=
  .bind .get fun _ => keeps_outside _

/-- That subscribers learn of suggestions keeps what each of them learning keeps. -/
theorem keeps_notify_of {γ : Type} {view : Session → γ}
    (h : ∀ number ss, (outside (Host.record (.notify number ss))).Keeps view)
    (ss : List Suggestion) (us : List Subscriber) : (notify ss us).Keeps view := by
  induction us with
  | nil => exact .pure _
  | cons u us ih =>
    refine .bind (h _ _) fun _ => ?_
    split
    · exact .raise _
    · exact ih

/-- So does an answer. -/
theorem keeps_answer_of {γ : Type} {view : Session → γ}
    (h : ∀ number ss, (outside (Host.record (.notify number ss))).Keeps view)
    (ss : List Suggestion) : (answer ss).Keeps view :=
  .bind .get fun _ => .bind (keeps_notify_of h ss _) fun _ => .pure _

theorem keeps_answer (ss : List Suggestion) : (answer ss).Keeps Session.toEngine :=
  keeps_answer_of (fun _ _ => keeps_outside _) ss

/-! ## Acts that keep the provider -/

/-- What keeps the engine keeps the provider. -/
theorem keeps_provider {α : Type} {m : Act Session α} (h : m.Keeps Session.toEngine) :
    m.Keeps (·.provider) := h.of_view Engine.provider

/-- **Acts that look for tools or packages, and queries,** do not touch the provider. -/
theorem steadfast_provider : Steadfast (·.provider) where
  findTool _ := fun _ => rfl
  exec _ := keeps_provider (keeps_exec _)
  tell _ := keeps_provider (keeps_tell _)
  forget _ := .modify fun _ => rfl
  keepGroups _ := .modify fun _ => rfl
  keepVendoring _ := .modify fun _ => rfl
  query _ := keeps_provider (keeps_exec _)
  display _ _ := keeps_provider (keeps_outside _)

/-! ## Acts about trouble -/

/-- The suggestions that the provider remembers. -/
abbrev remembered (s : Session) : List Suggestion := s.provider.suggestions

/-- The provider, as if it had never met trouble. -/
abbrev calm (s : Session) : Provider := { s.provider with panicked := false, offer := .none }

/-- What keeps the provider keeps the suggestions. -/
theorem keeps_remembered {α : Type} {m : Act Session α} (h : m.Keeps (·.provider)) :
    m.Keeps remembered := h.of_view Provider.suggestions

/-- What keeps the provider keeps all of it that is not about trouble. -/
theorem keeps_calm {α : Type} {m : Act Session α} (h : m.Keeps (·.provider)) : m.Keeps calm :=
  h.of_view fun p => { p with panicked := false, offer := .none }

/-- Learning of trouble keeps what changes of the provider and notices keep. -/
theorem keeps_learnPanic_of {γ : Type} {view : Session → γ}
    (hpanic : (changeProvider fun p => { p with panicked := true }).Keeps view)
    (hdue : (changeProvider fun p => { p with offer := .due }).Keeps view)
    (htell : (tell .daemonPanics).Keeps view) : learnPanic.Keeps view := by
  refine .bind .get fun s => ?_
  split
  · exact .pure _
  · refine .bind hpanic fun _ => .bind htell fun _ => ?_
    split
    · exact hdue
    · exact .pure _

/-- Making suggestions of an answer keeps what learning of trouble keeps. -/
theorem keeps_suggestionsOf_of {γ : Type} {view : Session → γ} (h : learnPanic.Keeps view)
    (found : List Datum) (t : Text) (index : Int) : (suggestionsOf found t index).Keeps view := by
  unfold suggestionsOf
  split
  · exact .bind h fun _ => .bind .get fun _ => .pure _
  · exact .bind .get fun _ => .pure _

theorem keeps_learnPanic : learnPanic.Keeps calm :=
  keeps_learnPanic_of (.modify fun _ => rfl) (.modify fun _ => rfl)
    (keeps_calm (keeps_provider (keeps_tell _)))

theorem keeps_suggestionsOf (found : List Datum) (t : Text) (index : Int) :
    (suggestionsOf found t index).Keeps calm := keeps_suggestionsOf_of keeps_learnPanic found t index

/-- Settling keeps what updating the daemon, notices, changes of the offer and questions keep. -/
theorem keeps_settle_of {γ : Type} {view : Session → γ} (hupdate : updateDaemon.Keeps view)
    (htell : ∀ n, n ≠ .daemonPanics → (tell n).Keeps view)
    (hoffer : ∀ offer, (changeProvider fun p => { p with offer }).Keeps view)
    (hask : ∀ severity question titles, (outside (Host.ask severity question titles)).Keeps view) :
    settle.Keeps view := by
  have hfollow : ∀ reply, (follow reply).Keeps view := by
    intro reply
    cases reply with
    | chosen title =>
      simp only [follow]
      split
      · exact .bind hupdate (keeps_tellFailures_of htell)
      · exact .pure _
    | dismissed => exact .pure _
    | failed reason => exact .raise _
    | silent => exact hoffer .open
  have hmake : makeOffer.Keeps view := by
    refine .bind (hoffer .none) fun _ => .bind (Keeps.attempt (.bind (hask _ _ _) hfollow)) fun r => ?_
    split
    · exact .pure _
    · exact htell _ nofun
  refine .bind .get fun s => ?_
  split
  · exact hmake
  · exact .pure _

/-- The offer to update the daemon is all that settling is about. -/
theorem keeps_settle : settle.Keeps calm :=
  keeps_settle_of (keeps_calm steadfast_provider.updateDaemon)
    (fun _ h => keeps_calm (steadfast_provider.tell h)) (fun _ => .modify fun _ => rfl)
    fun _ _ _ => keeps_calm (keeps_provider (keeps_outside _))

/-- Some work is settled behind it, whether or not it breaks off. -/
theorem snd_settled {α : Type} (work : Act Session α) (s : Session) :
    (settled work s).2 = (settle (work s).2).2 :=
  snd_bind_ofExcept settle (fun _ => (work s).1) (work s).2

/-- Settling what some work has left changes nothing else of the provider than the work did. -/
theorem calm_settled {α : Type} (work : Act Session α) (s : Session) :
    calm (settled work s).2 = calm (work s).2 := by
  rw [snd_settled, keeps_settle]

end Session

end GoCompletion
