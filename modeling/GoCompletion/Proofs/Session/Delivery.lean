import GoCompletion.Proofs.Session.Findings
import GoCompletion.Proofs.Session.Inquiry

/-!
# Who learns of suggestions

A request is all or nothing (`suggest_allOrNothing`): either everybody who subscribed is handed what is
answered, once and in turn, or nobody is handed anything and the provider is as it was. A subscriber that
fails keeps the ones behind it from learning and the answer from arriving, but **not the provider from
remembering**.

What a subscriber learns is the list of suggestions itself, with all that a suggestion has.
-/

namespace GoCompletion

/-- What somebody learns by an event: the number of the subscription, and the suggestions. -/
def Event.learnt? : Event → Option (Nat × List Suggestion)
  | .notify number ss => some (number, ss)
  | _ => none

namespace Subscriber

/-- A subscriber that does not fail. -/
def calmed (u : Subscriber) : Subscriber := { u with fault := none }

end Subscriber

namespace Session

open Act

/-- What subscribers have learnt, in turn. -/
def learnt (s : Session) : List (Nat × List Suggestion) := s.host.trace.filterMap Event.learnt?

/-! ## What nobody learns of -/

/-- Nobody learns of suggestions by a notice, or by a tool being stopped. -/
theorem overlooks_learnt? : Overlooks Event.learnt? := ⟨fun _ => rfl, rfl, rfl⟩

theorem steadfast_learnt : Steadfast learnt where
  findTool _ := fun _ => rfl
  exec _ := overlooks_learnt?.keeps_exec fun _ => rfl
  tell _ := overlooks_learnt?.keeps_tell _
  forget _ := .modify fun _ => rfl
  keepGroups _ := .modify fun _ => rfl
  keepVendoring _ := .modify fun _ => rfl
  query _ := overlooks_learnt?.keeps_exec fun _ => rfl
  display _ _ := keeps_noted_record rfl

/-- **While a request is finding suggestions** nobody learns of anything. -/
theorem keeps_learnt_findings (r : Request) : (findings r).Keeps learnt :=
  steadfast_learnt.keeps_findings
    (keeps_learnPanic_of (.modify fun _ => rfl) (.modify fun _ => rfl) (overlooks_learnt?.keeps_tell _))
    (fun _ => .modify fun _ => rfl) r

/-! ## Answers -/

/-- Somebody learns of suggestions. -/
theorem learnt_told (ss : List Suggestion) (u : Subscriber) (s : Session) :
    learnt (told ss u s) = learnt s ++ [(u.number, ss)] := List.filterMap_append

/-- Behind subscribers that do not fail, the others learn in their turn. -/
theorem exists_notify_append {before : List Subscriber} (hcalm : ∀ u ∈ before, u.fault = none)
    (ss : List Suggestion) (rest : List Subscriber) (s : Session) :
    ∃ t, learnt t = learnt s ++ before.map (fun u => (u.number, ss)) ∧
      notify ss (before ++ rest) s = notify ss rest t := by
  induction before generalizing s with
  | nil => exact ⟨s, (List.append_nil _).symm, rfl⟩
  | cons u before ih =>
    obtain ⟨hu, hbefore⟩ := List.forall_mem_cons.mp hcalm
    obtain ⟨t, ht, hrest⟩ := ih hbefore (told ss u s)
    refine ⟨t, ?_, ?_⟩
    · rw [ht, learnt_told, List.append_assoc]
      rfl
    · rw [List.cons_append, notify_cons_of_calm hu, hrest]

/-- Everybody who subscribed learns of an answer if nobody fails. -/
theorem answer_of_calm {s : Session} (h : ∀ u ∈ s.provider.subscribers, u.fault = none)
    (ss : List Suggestion) :
    (answer ss s).1 = .ok ss ∧
      learnt (answer ss s).2 = learnt s ++ s.provider.subscribers.map fun u => (u.number, ss) := by
  obtain ⟨t, ht, hnotify⟩ := exists_notify_append h ss [] s
  rw [List.append_nil] at hnotify
  have hanswer : answer ss s = (.ok ss, t) := (bind_apply_ok (get_apply s) _).trans (bind_apply_ok hnotify _)
  rw [hanswer]
  exact ⟨rfl, ht⟩

/-- The first subscriber that fails is the last one to learn of an answer, and its fault takes the place of
the answer. -/
theorem answer_of_failing {s : Session} {before after : List Subscriber} {u : Subscriber} {e : Fault}
    (hus : s.provider.subscribers = before ++ u :: after) (hcalm : ∀ v ∈ before, v.fault = none)
    (hu : u.fault = some e) (ss : List Suggestion) :
    (answer ss s).1 = .error e ∧
      learnt (answer ss s).2 = learnt s ++ (before ++ [u]).map fun u => (u.number, ss) := by
  obtain ⟨t, ht, hnotify⟩ := exists_notify_append hcalm ss (u :: after) s
  have hanswer : answer ss s = (.error e, told ss u t) := by
    refine (bind_apply_ok (get_apply s) _).trans (bind_apply_error ?_ _)
    rw [hus, hnotify, notify_cons_of_failing hu]
  rw [hanswer]
  refine ⟨rfl, ?_⟩
  rw [learnt_told, ht, List.append_assoc, List.map_append]
  rfl

/-! ## Requests -/

/-- Exactly `us` are handed the suggestions that a request answers with, in turn. -/
structure Tells (r : Request) (s : Session) (ss : List Suggestion) (us : List Subscriber) : Prop where
  /-- the answer is given where nobody has learnt of anything yet, to those who subscribed -/
  answered : ∃ t, learnt t = learnt s ∧ t.provider.subscribers = s.provider.subscribers ∧
    suggest r s = answer ss t
  /-- these suggestions, as they are, are what each of them is handed -/
  learnt_eq : learnt (suggest r s).2 = learnt s ++ us.map fun u => (u.number, ss)

/-- A request has no effect on the provider and on those who subscribed to it. -/
structure Passes (r : Request) (s : Session) : Prop where
  /-- nobody learns of anything -/
  learnt_eq : learnt (suggest r s).2 = learnt s
  /-- the provider is as it was -/
  provider_eq : (suggest r s).2.provider = s.provider

variable {r : Request} {s t : Session}

/-- A request that finds suggestions answers with them. -/
theorem suggest_of_found {ss : List Suggestion} (h : findings r s = (.ok ss, t)) :
    learnt t = learnt s ∧ t.provider.subscribers = s.provider.subscribers ∧ suggest r s = answer ss t := by
  refine ⟨(keeps_learnt_findings r).of_eq h, ?_, ?_⟩
  · have hsubscribers := subscribers_findings r s
    rwa [h] at hsubscribers
  · rw [suggest_eq_findings, bind_apply_ok h]

/-- A request that breaks off before it finds any has no effect. -/
theorem suggest_of_unfound {e : Fault} (h : findings r s = (.error e, t)) :
    (suggest r s).1 = .error e ∧ Passes r s := by
  have hsuggest : suggest r s = (.error e, t) := by
    rw [suggest_eq_findings, bind_apply_error h]
  have hlearnt : learnt (suggest r s).2 = learnt s := by
    rw [hsuggest]
    exact (keeps_learnt_findings r).of_eq h
  have hprovider : (suggest r s).2.provider = s.provider := by
    rw [hsuggest]
    exact provider_of_findings_error h
  exact ⟨congrArg Prod.fst hsuggest, hlearnt, hprovider⟩

/-- The provider behind a request is the one behind what it finds. -/
theorem provider_suggest (r : Request) (s : Session) :
    (suggest r s).2.provider = (findings r s).2.provider := by
  rw [suggest_eq_findings]
  exact Keeps.view_bind (fun ss => keeps_provider (keeps_answer ss)) s

/-- **A request is all or nothing.** If nobody who subscribed fails, either everybody learns, once and in
turn, of exactly what is answered, or the request breaks off without any effect. If somebody may fail, the
request is to be compared with what it would be if nobody did:

* the provider behind it is the same;
* if that is answered, exactly those up to the first one that fails learn of it, and the fault of that one
  takes the place of the answer;
* if that breaks off, the request does so as well, without any effect. -/
theorem suggest_allOrNothing (r : Request) (s : Session) :
    let us := s.provider.subscribers
    let undisturbed := suggest r (s.withSubscribers (us.map Subscriber.calmed))
    ((∀ u ∈ us, u.fault = none) →
        (∃ ss, (suggest r s).1 = .ok ss ∧ Tells r s ss us) ∨
          ∃ e, (suggest r s).1 = .error e ∧ Passes r s) ∧
      (suggest r s).2.provider = { undisturbed.2.provider with subscribers := us } ∧
      (∀ ss, undisturbed.1 = .ok ss → ∀ before u after e, us = before ++ u :: after →
        (∀ v ∈ before, v.fault = none) → u.fault = some e →
          (suggest r s).1 = .error e ∧ Tells r s ss (before ++ [u])) ∧
      ∀ e, undisturbed.1 = .error e → (suggest r s).1 = .error e ∧ Passes r s := by
  intro us undisturbed
  have hignores : findings r (s.withSubscribers (us.map Subscriber.calmed)) =
      ((findings r s).1, (findings r s).2.withSubscribers (us.map Subscriber.calmed)) :=
    ignores_findings r s
  have hprovider : (suggest r s).2.provider = { undisturbed.2.provider with subscribers := us } := by
    rw [provider_suggest, provider_suggest, hignores]
    exact congrArg (fun us => { (findings r s).2.provider with subscribers := us }) (subscribers_findings r s)
  rcases hf : findings r s with ⟨e | ss, t⟩ <;> rw [hf] at hignores
  · -- nothing is found, with or without subscribers that fail
    have hbroken : undisturbed.1 = .error e := (suggest_of_unfound hignores).1
    refine ⟨fun _ => .inr ⟨e, suggest_of_unfound hf⟩, hprovider, fun ss hss => ?_, fun e' he' => ?_⟩
    · cases hbroken.symm.trans hss
    · cases hbroken.symm.trans he'
      exact suggest_of_unfound hf
  · -- the same is found with or without them, and answered
    obtain ⟨hlearnt, hus, hsuggest⟩ := suggest_of_found hf
    obtain ⟨-, -, hundisturbed⟩ := suggest_of_found hignores
    have hanswered : undisturbed.1 = .ok ss := by
      have hcalmed : ∀ u ∈ (t.withSubscribers (us.map Subscriber.calmed)).provider.subscribers,
          u.fault = none := List.forall_mem_map.mpr fun _ _ => rfl
      exact (congrArg Prod.fst hundisturbed).trans (answer_of_calm hcalmed ss).1
    refine ⟨fun hcalm => .inl ⟨ss, ?_⟩, hprovider, fun ss' hss' before u after e hsplit hcalm hu => ?_,
      fun e he => ?_⟩
    · have hcalmThere : ∀ u ∈ t.provider.subscribers, u.fault = none := by
        rw [hus]
        exact hcalm
      obtain ⟨hok, htold⟩ := answer_of_calm hcalmThere ss
      exact ⟨(congrArg Prod.fst hsuggest).trans hok, ⟨t, hlearnt, hus, hsuggest⟩, by
        rw [hsuggest, htold, hlearnt, hus]⟩
    · obtain rfl : ss = ss' := Except.ok.inj (hanswered.symm.trans hss')
      obtain ⟨herror, htold⟩ := answer_of_failing (hus.trans hsplit) hcalm hu ss
      exact ⟨(congrArg Prod.fst hsuggest).trans herror, ⟨t, hlearnt, hus, hsuggest⟩, by
        rw [hsuggest, htold, hlearnt]⟩
    · cases hanswered.symm.trans he

/-- The second of three subscribers fails: the third one does not learn of the func that is found, the other two
are handed it with its snippet, and the provider remembers it nevertheless. -/
theorem suggest_secondFails :
    let known := "[2,[\x7b\"class\":\"func\",\"name\":\"foo\",\"type\":\"func(a int) error\"\x7d]]"
    let first : Subscriber := { number := 1 }
    let second : Subscriber := { number := 2, fault := some (.failed "no".toList) }
    let s := (working [(queryCommand, [writes known])]).withSubscribers [first, second, { number := 3 }]
    let r := atLineEnd "fo" "fo"
    let found : Suggestion :=
      { replaced := "fo".toList, label := "error".toList, kind := .function
        snippet := some "foo($\x7b1:a int\x7d)$0".toList, shown := some "foo(a int)".toList
        key := some "foo".toList }
    (suggest r s).1 = .error (.failed "no".toList) ∧ Tells r s [found] [first, second] ∧
      learnt (suggest r s).2 = [(1, [found]), (2, [found])] ∧ remembered (suggest r s).2 = [found] := by
  intro known first second s r found
  obtain ⟨-, hprovider, hfailing, -⟩ := suggest_allOrNothing r s
  have hfound : (suggest r (s.withSubscribers (s.provider.subscribers.map Subscriber.calmed))).1 =
      .ok [found] := by decide +kernel
  obtain ⟨herror, htells⟩ := hfailing [found] hfound [first] second [{ number := 3 }]
    (.failed "no".toList) rfl (List.forall_mem_singleton.mpr rfl) rfl
  have hremembered : remembered (suggest r s).2 = [found] := by
    rw [remembered, hprovider]
    decide +kernel
  exact ⟨herror, htells, htells.learnt_eq, hremembered⟩

end Session

end GoCompletion
