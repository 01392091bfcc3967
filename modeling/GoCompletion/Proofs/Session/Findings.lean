import GoCompletion.Proofs.Session.Course

/-!
# What a request finds

A request finds suggestions first, and answers with them then (`suggest_eq_findings`). **Who subscribed does
not matter to what is found**: everything up to the answer ignores the subscribers (`ignores_findings`), and
finding that breaks off leaves the provider as it was (`provider_of_findings_error`).
-/

namespace GoCompletion

namespace Session

open Act

/-- The session with other subscribers. -/
def withSubscribers (us : List Subscriber) (s : Session) : Session :=
  { s with provider := { s.provider with subscribers := us } }

/-- The suggestions for a request, before anybody learns of them. -/
def findings (r : Request) : Act Session (List Suggestion) := do
  let word := r.word.strip
  if word.isEmpty && !r.manual then
    remember []
    return []
  else
    let p := (← Act.get).provider
    if ← Act.ofExcept (p.isSuppressed r.document.text r.position r.manual) then return []
    else if p.canRefilter r then return p.refilter word
    else query r word

/-- **A request answers with what it finds.** -/
theorem suggest_eq_findings (r : Request) : suggest r = findings r >>= answer := by
  unfold suggest findings
  dsimp only
  split
  · rfl
  · simp only [bind_assoc]
    refine bind_congr fun s => bind_congr fun suppressed => ?_
    cases suppressed with
    | true => rfl
    | false => cases s.provider.canRefilter r <;> rfl

/-! ## What finding keeps -/

namespace Steadfast

variable {γ : Type} {view : Session → γ}

/-- A query keeps a steadfast view that learning of trouble and remembering keep. -/
theorem keeps_query (h : Steadfast view) (hpanic : learnPanic.Keeps view)
    (hremember : ∀ ss, (remember ss).Keeps view) (r : Request) (word : Text) :
    (Session.query r word).Keeps view := by
  refine keeps_bind_findTool (h.findTool _) (.bind (h.tell nofun) fun _ => .pure _) fun daemon => ?_
  dsimp only
  rw [queryDaemon_eq]
  exact .bind (h.consult _ _ _) fun found => .bind (keeps_suggestionsOf_of hpanic _ _ _) fun ss =>
    .bind (hremember ss) fun _ => .pure _

theorem keeps_findings (h : Steadfast view) (hpanic : learnPanic.Keeps view)
    (hremember : ∀ ss, (remember ss).Keeps view) (r : Request) : (findings r).Keeps view := by
  unfold findings
  dsimp only
  split
  · exact .bind (hremember _) fun _ => .pure _
  · refine .bind .get fun s => .bind (.ofExcept _) fun suppressed => ?_
    split
    · exact .pure _
    · split
      · exact .pure _
      · exact h.keeps_query hpanic hremember r _

/-- A request keeps such a view if it does not matter who learns of suggestions. -/
theorem keeps_suggest (h : Steadfast view) (hpanic : learnPanic.Keeps view)
    (hremember : ∀ ss, (remember ss).Keeps view)
    (hnotify : ∀ number ss, (outside (Host.record (.notify number ss))).Keeps view) (r : Request) :
    (suggest r).Keeps view := by
  rw [suggest_eq_findings]
  exact .bind (h.keeps_findings hpanic hremember r) (keeps_answer_of hnotify)

end Steadfast

/-! ## Subscribers do not matter -/

section Ignoring

variable {us : List Subscriber}

theorem ignores_outside {α : Type} (a : Act Host α) : (outside a).Ignores (withSubscribers us) :=
  .within (fun _ => rfl) fun _ _ => rfl

theorem ignores_tell (n : Notice) : (tell n).Ignores (withSubscribers us) := by
  refine .get_bind (fun _ => rfl) fun s => ?_
  split
  · exact ignores_outside _
  · exact .pure _

theorem ignores_tellErrors (r : RunResult) (notice : Text → Notice) :
    (tellErrors r notice).Ignores (withSubscribers us) := by
  unfold tellErrors
  split
  · exact .pure _
  · exact ignores_tell _

theorem ignores_exec (i : Invocation) : (exec i).Ignores (withSubscribers us) :=
  .get_bind (fun _ => rfl) fun _ => ignores_outside _

theorem ignores_findTool (name : Text) : (findTool name).Ignores (withSubscribers us) := fun _ => rfl

/-! ### Lookups of packages -/

theorem ignores_listPackages (go : Text) : (listPackages go).Ignores (withSubscribers us) := by
  refine .bind (ignores_exec _) fun r => .bind (ignores_tellErrors r _) fun _ => ?_
  split
  · exact .bind (.modify fun _ => rfl) fun _ => .pure _
  · exact .pure _

theorem ignores_allPackages : allPackages.Ignores (withSubscribers us) := by
  refine .get_bind (fun _ => rfl) fun s => ?_
  split
  · exact .pure _
  · refine .bind (ignores_findTool _) fun go => ?_
    cases go with
    | none => exact .pure _
    | some go => exact ignores_listPackages go

theorem ignores_askVersion (go : Text) : (askVersion go).Ignores (withSubscribers us) := by
  refine .bind (ignores_exec _) fun r => ?_
  split
  · exact .get_bind (fun _ => rfl) fun _ =>
      .bind (.ofExcept _) fun _ => .bind (.modify fun _ => rfl) fun _ => .pure _
  · exact .pure _

theorem ignores_supportsVendoring : supportsVendoring.Ignores (withSubscribers us) := by
  refine .get_bind (fun _ => rfl) fun s => ?_
  split
  · exact .pure _
  · refine .bind (ignores_findTool _) fun go => ?_
    cases go with
    | none => exact .pure _
    | some go => exact ignores_askVersion go

theorem ignores_importWanted (t : Text) (index offset : Int) (file : Path) :
    (importWanted t index offset file).Ignores (withSubscribers us) := by
  refine .bind ignores_supportsVendoring fun vendoring => .bind (.ofExcept _) fun pkg => ?_
  cases pkg with
  | none => exact .pure _
  | some pkg => exact .bind ignores_allPackages fun _ => .get_bind (fun _ => rfl) fun _ => .pure _

/-! ### Questions to the daemon -/

theorem ignores_readAnswer (output : Text) : (readAnswer output).Ignores (withSubscribers us) := by
  unfold readAnswer
  split
  · exact .pure _
  · refine .bind (.ofExcept _) fun r => ?_
    split
    · exact .pure _
    · exact .pure _
    · refine .bind (.bind (ignores_tell _) fun _ => .get_bind (fun _ => rfl) fun s => ?_) fun _ => .pure _
      split
      · exact ignores_outside _
      · exact .pure _

theorem ignores_put (q : Question) : (put q).Ignores (withSubscribers us) :=
  .bind (ignores_exec _) fun r => .bind (ignores_tellErrors r _) fun _ => ignores_readAnswer r.output

theorem ignores_putImporting (q : Question) (index : Nat) :
    (putImporting q index).Ignores (withSubscribers us) := by
  refine .bind (.attempt (ignores_importWanted _ _ _ _)) fun added => ?_
  split
  · exact .bind (ignores_tell _) fun _ => .pure _
  · exact .pure _
  · exact ignores_put _

theorem ignores_consult (q : Question) (index : Nat) (word : Text) :
    (consult q index word).Ignores (withSubscribers us) := by
  refine .bind (ignores_put q) fun first => ?_
  split
  · exact ignores_putImporting q index
  · exact .pure _

theorem ignores_learnPanic : learnPanic.Ignores (withSubscribers us) := by
  refine .get_bind (fun _ => rfl) fun s => ?_
  split
  · exact .pure _
  · refine .bind (.modify fun _ => rfl) fun _ => .bind (ignores_tell _) fun _ => ?_
    split
    · exact .modify fun _ => rfl
    · exact .pure _

theorem ignores_suggestionsOf (found : List Datum) (t : Text) (index : Int) :
    (suggestionsOf found t index).Ignores (withSubscribers us) := by
  have hmap : (Act.get >>= fun s =>
      (pure (Suggestion.ofAnswer s.provider.snippetMode found t index) :
        Act Session _)).Ignores (withSubscribers us) := .get_bind (fun _ => rfl) fun _ => .pure _
  unfold suggestionsOf
  split
  · exact .bind ignores_learnPanic fun _ => hmap
  · exact hmap

theorem ignores_query (r : Request) (word : Text) : (query r word).Ignores (withSubscribers us) := by
  refine .bind (ignores_findTool _) fun daemon => ?_
  cases daemon with
  | none => exact .bind (ignores_tell _) fun _ => .pure _
  | some daemon =>
    dsimp only
    rw [queryDaemon_eq]
    exact .bind (ignores_consult _ _ _) fun found => .bind (ignores_suggestionsOf _ _ _) fun ss =>
      .bind (.modify fun _ => rfl) fun _ => .pure _

/-- **What a request finds** has nothing to do with who subscribed. -/
theorem ignores_findings (r : Request) : (findings r).Ignores (withSubscribers us) := by
  unfold findings
  dsimp only
  split
  · exact .bind (.modify fun _ => rfl) fun _ => .pure _
  · refine .get_bind (fun _ => rfl) fun s => .bind (.ofExcept _) fun suppressed => ?_
    split
    · exact .pure _
    · split
      · exact .pure _
      · exact ignores_query r _

end Ignoring

/-- Those who subscribed are the same behind what a request finds. -/
theorem subscribers_findings (r : Request) (s : Session) :
    (findings r s).2.provider.subscribers = s.provider.subscribers := by
  have hsame : withSubscribers s.provider.subscribers s = s := rfl
  have hbehind := (ignores_findings r).change_eq hsame
  exact (congrArg (fun t : Session => t.provider.subscribers) hbehind).symm

/-! ## Finding that breaks off -/

theorem provider_of_query_error {r : Request} {word : Text} {s t : Session} {e : Fault}
    (h : query r word s = (.error e, t)) : t.provider = s.provider := by
  have hkept : (findTool daemonName s).2.provider = s.provider := steadfast_provider.findTool daemonName s
  rcases hf : findTool daemonName s with ⟨e' | _ | daemon, u⟩ <;> rw [hf] at hkept
  · -- looking for the daemon fails
    rw [query, bind_apply_error hf] at h
    cases h
    exact hkept
  · cases (query_of_missing r word hf).1.symm.trans h
  · have hquery : query r word s = queryDaemon daemon r word u := bind_apply_ok hf _
    rcases queryDaemon_cases daemon r word u with ⟨ss, v, hq, -⟩ | ⟨e', v, hq, hv⟩
    · cases (hquery.trans hq).symm.trans h
    · cases (hquery.trans hq).symm.trans h
      exact hv.trans hkept

/-- **Finding that breaks off** leaves the provider as it was. -/
theorem provider_of_findings_error {r : Request} {s t : Session} {e : Fault}
    (h : findings r s = (.error e, t)) : t.provider = s.provider := by
  unfold findings at h
  dsimp only at h
  split at h
  · cases h
  · rw [bind_apply_ok (get_apply s), bind_apply, ofExcept_apply] at h
    split at h
    · next suppressed u hsup =>
      obtain ⟨-, rfl⟩ := Prod.mk.inj hsup
      split at h
      · cases h
      · split at h
        · cases h
        · exact provider_of_query_error h
    · next e' u hsup =>
      obtain ⟨-, rfl⟩ := Prod.mk.inj hsup
      cases h
      rfl

end Session

end GoCompletion
