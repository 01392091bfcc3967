import GoCompletion.Capability.Daemon
import GoCompletion.Proofs.Completion.Edit
import GoCompletion.Proofs.Session.Delivery
import GoCompletion.Proofs.Session.Record

/-!
# Capabilities together

In a completion every capability has its turn, one after another. It does not take part, or gives a list, or
fails, be it that it cannot decide or that it cannot complete (`Capability.Turn`). **Whatever the turns come
to, the completion is answered**: with the items of the lists that were given, in the order of the
capabilities, and with one error on record for each that failed (`Capability.completeAll_turns`).

The capability that completes Go gives an item for every suggestion.
-/

namespace GoCompletion

open Act

/-- What an event says about a capability that failed. -/
def Event.failure? : Event → Option (Text × Fault)
  | .log (.capabilityFailed name e) => some (name, e)
  | _ => none

namespace Exchange

/-- The failures of capabilities that are on record, in turn. -/
def failures (x : Exchange) : List (Text × Fault) := Session.noted Event.failure? x.session

/-- The exchange with one more error on record, that of the capability `c`. -/
def recording (x : Exchange) (c : Capability) (e : Fault) : Exchange :=
  { x with
    session := { x.session with
      host := { x.session.host with
        trace := x.session.host.trace ++ [.log (.capabilityFailed c.name e)] } } }

theorem failures_recording (x : Exchange) (c : Capability) (e : Fault) :
    (x.recording c e).failures = x.failures ++ [(c.name, e)] := by
  have htrace : (x.recording c e).session.host.trace =
      x.session.host.trace ++ [.log (.capabilityFailed c.name e)] := rfl
  exact Session.noted_behind x.session htrace

end Exchange

namespace Capability

/-! ## Turns -/

/-- What the turn of a capability comes to. -/
inductive Result where
  /-- it does not take part -/
  | declined
  /-- it gives a list -/
  | gave (l : CompletionList)
  /-- it fails -/
  | failed (e : Fault)

namespace Result

/-- The list that is given, if there is one. -/
def given? : Result → Option CompletionList
  | gave l => some l
  | _ => none

/-- The fault, if there is one. -/
def fault? : Result → Option Fault
  | failed e => some e
  | _ => none

end Result

/-- The turn of a capability: what it comes to in the exchange `x`, and the exchange behind it. What a
capability has done before it fails stays done, and exactly one error is put on record behind that. -/
inductive Turn (p : CompletionParams) (c : Capability) (x : Exchange) : Result → Exchange → Prop
  /-- it decides not to take part -/
  | declines {y : Exchange} (haccepts : c.accepts p x = (.ok false, y)) : Turn p c x .declined y
  /-- it takes part and gives a list -/
  | gives {y z : Exchange} {l : CompletionList} (haccepts : c.accepts p x = (.ok true, y))
      (hcomplete : c.complete p y = (.ok l, z)) : Turn p c x (.gave l) z
  /-- it cannot decide -/
  | failsToDecide {y : Exchange} {e : Fault} (haccepts : c.accepts p x = (.error e, y)) :
      Turn p c x (.failed e) (y.recording c e)
  /-- it takes part, but cannot complete -/
  | failsToComplete {y z : Exchange} {e : Fault} (haccepts : c.accepts p x = (.ok true, y))
      (hcomplete : c.complete p y = (.error e, z)) : Turn p c x (.failed e) (z.recording c e)

/-- Turns one after another, with what they come to. -/
inductive Turns (p : CompletionParams) : Exchange → List (Capability × Result) → Exchange → Prop
  | nil (x : Exchange) : Turns p x [] x
  | cons {c : Capability} {x y z : Exchange} {r : Result} {ts : List (Capability × Result)} :
      Turn p c x r y → Turns p y ts z → Turns p x ((c, r) :: ts) z

/-- What a capability does of its own accord leaves the failures on record as they are. -/
structure Reticent (p : CompletionParams) (c : Capability) : Prop where
  accepts : (c.accepts p).Keeps Exchange.failures
  complete : (c.complete p).Keeps Exchange.failures

/-- The lists that were given, in turn. -/
def given (ts : List (Capability × Result)) : List CompletionList := ts.filterMap (·.2.given?)

/-- The capabilities that failed, in turn, by their names, with their faults. -/
def failed (ts : List (Capability × Result)) : List (Text × Fault) :=
  ts.filterMap fun t => t.2.fault?.map (t.1.name, ·)

variable {p : CompletionParams} {c : Capability} {x y : Exchange}

theorem safely_of_ok {l : CompletionList} (h : c.contribution p x = (.ok l, y)) :
    c.safely p x = (.ok l, y) := by
  rw [safely, bind_apply, attempt_apply, h]
  rfl

theorem safely_of_error {e : Fault} (h : c.contribution p x = (.error e, y)) :
    c.safely p x = (.ok {}, y.recording c e) := by
  rw [safely, bind_apply, attempt_apply, h]
  rfl

/-- **Every capability has its turn**, and its list is what it gives, if it does. -/
theorem exists_turn (p : CompletionParams) (c : Capability) (x : Exchange) :
    ∃ r y, Turn p c x r y ∧ c.safely p x = (.ok (r.given?.getD {}), y) := by
  rcases haccepts : c.accepts p x with ⟨e | _ | _, y⟩
  · exact ⟨.failed e, _, .failsToDecide haccepts, safely_of_error (bind_apply_error haccepts _)⟩
  · exact ⟨.declined, y, .declines haccepts, safely_of_ok (bind_apply_ok haccepts _)⟩
  · have hasked : c.contribution p x = c.complete p y := bind_apply_ok haccepts _
    rcases hcomplete : c.complete p y with ⟨e | l, z⟩ <;> rw [hcomplete] at hasked
    · exact ⟨.failed e, _, .failsToComplete haccepts hcomplete, safely_of_error hasked⟩
    · exact ⟨.gave l, z, .gives haccepts hcomplete, safely_of_ok hasked⟩

/-- A turn puts its own failure on record, if it fails. -/
theorem Turn.failures_eq {r : Result} (h : Turn p c x r y) (hc : c.Reticent p) :
    y.failures = x.failures ++ (r.fault?.map (c.name, ·)).toList := by
  cases h with
  | declines haccepts => simpa [Result.fault?] using hc.accepts.of_eq haccepts
  | gives haccepts hcomplete =>
    simpa [Result.fault?] using (hc.complete.of_eq hcomplete).trans (hc.accepts.of_eq haccepts)
  | failsToDecide haccepts =>
    rw [Exchange.failures_recording, hc.accepts.of_eq haccepts]
    rfl
  | failsToComplete haccepts hcomplete =>
    rw [Exchange.failures_recording, hc.complete.of_eq hcomplete, hc.accepts.of_eq haccepts]
    rfl

/-- Turns one after another put their failures on record in turn. -/
theorem Turns.failures_eq {ts : List (Capability × Result)} (h : Turns p x ts y)
    (hts : ∀ t ∈ ts, t.1.Reticent p) : y.failures = x.failures ++ failed ts := by
  induction h with
  | nil x => exact (List.append_nil _).symm
  | @cons c x y z r ts hturn _ ih =>
    obtain ⟨hc, hts⟩ := List.forall_mem_cons.mp hts
    rw [ih hts, hturn.failures_eq hc, List.append_assoc]
    cases r <;> rfl

/-- **Capabilities together answer**, with the lists that are given in their turns. -/
theorem exists_turns (p : CompletionParams) (cs : List Capability) (x : Exchange) :
    ∃ ts y, ts.map Prod.fst = cs ∧ Turns p x ts y ∧ completeAll p cs x =
      (.ok { isIncomplete := (given ts).any (·.isIncomplete)
             items := (given ts).flatMap (·.items) }, y) := by
  induction cs generalizing x with
  | nil => exact ⟨[], x, rfl, .nil x, rfl⟩
  | cons c cs ih =>
    obtain ⟨r, y, hturn, hsafely⟩ := exists_turn p c x
    obtain ⟨ts, z, rfl, hturns, hrest⟩ := ih y
    refine ⟨(c, r) :: ts, z, rfl, .cons hturn hturns, ?_⟩
    rw [completeAll, bind_apply_ok hsafely, bind_apply_ok hrest, pure_apply]
    cases r <;> simp [given, Result.given?, CompletionList.append]

/-! ## The capability that completes Go -/

/-- The exchange is about a document of Go, and there is a provider for it. -/
structure Serves (p : CompletionParams) (x : Exchange) (d : Document) : Prop where
  attached : x.session.attached = true
  go : p.uri.endsWith goEnding = true
  document : x.documents.get x.session.host.files p.uri = .ok d

/-- An item is compared by the key of a suggestion, and read as a snippet exactly if that has one. -/
structure Offers (item : CompletionItem) (s : Suggestion) : Prop where
  filterText : item.filterText = s.key
  format : item.format = .snippet ↔ s.snippet.isSome = true

theorem offers_ofSuggestion (position : Position) (rank : Nat) (s : Suggestion) :
    Offers (CompletionItem.ofSuggestion position rank s) s := by
  refine ⟨rfl, ?_⟩
  rw [CompletionItem.ofSuggestion]
  cases s.snippet <;> simp

/-- There is one item for each suggestion, in their order. -/
theorem offers_ofSuggestions (position : Position) (ss : List Suggestion) :
    List.Forall₂ Offers (CompletionItem.ofSuggestions position ss) ss := by
  have hfrom : ∀ first, List.Forall₂ Offers
      (ss.mapIdx fun rank => CompletionItem.ofSuggestion position (first + rank)) ss := by
    induction ss with
    | nil => exact fun _ => .nil
    | cons s ss ih =>
      intro first
      rw [List.mapIdx_cons]
      refine .cons (offers_ofSuggestion _ _ _) ?_
      simpa only [Nat.add_assoc, Nat.add_comm 1] using ih (first + 1)
  rw [CompletionItem.ofSuggestions]
  simpa only [Nat.zero_add] using hfrom 0

theorem map_filterText_of_offers {items : List CompletionItem} {ss : List Suggestion}
    (h : List.Forall₂ Offers items ss) : items.map (·.filterText) = ss.map (·.key) := by
  induction h with
  | nil => rfl
  | cons hoffer _ ih => rw [List.map_cons, List.map_cons, hoffer.filterText, ih]

/-- What the suggestions for the cursor in a document make. -/
theorem fst_completeDocument {d : Document} {trigger : Option Trigger} {ss : List Suggestion}
    (h : (Session.suggest (requestFor d x.position trigger) x.session).1 = .ok ss) :
    (completeDocument d trigger x).1 =
      .ok { isIncomplete := true
            items := CompletionItem.ofSuggestions (Document.locate d.text x.position).2 ss } := by
  have hlocate : Exchange.locate d.text x = (.ok (Document.locate d.text x.position).1,
      { x with position := (Document.locate d.text x.position).2 }) := rfl
  have hsuggest : Exchange.onSession (Session.suggest (requestFor d x.position trigger))
      { x with position := (Document.locate d.text x.position).2 } = (.ok ss, _) := Prod.ext h rfl
  rw [completeDocument, bind_apply_ok hlocate, bind_apply_ok (get_apply _)]
  rw [requestFor] at hsuggest
  rw [bind_apply_ok hsuggest, pure_apply]

/-- **The capability that completes Go** gives what the suggestions of the provider make. -/
theorem exists_items_of_serves {d : Document} {ss : List Suggestion} (h : Serves p x d)
    (hss : (Session.suggest (requestFor d x.position p.trigger) x.session).1 = .ok ss) :
    ∃ items, (completeAll p (common.map (·.2)) x).1 = .ok { isIncomplete := true, items } ∧
      List.Forall₂ Offers items ss := by
  have haccepts : daemon.accepts p x = (.ok true, x) := by
    change (Except.ok (x.session.attached && p.uri.endsWith goEnding), x) = _
    rw [h.attached, h.go]
    rfl
  have hdocument : Exchange.document p.uri x = (.ok d, x) := by
    change (x.documents.get x.session.host.files p.uri, x) = _
    rw [h.document]
  have hcomplete : completeByDaemon p x = completeDocument d p.trigger x := by
    rw [completeByDaemon, bind_apply, get_apply]
    simp only [h.attached, if_true]
    exact bind_apply_ok hdocument _
  have hcontribution : contribution p daemon x = completeDocument d p.trigger x :=
    (bind_apply_ok haccepts _).trans hcomplete
  have hsafely := safely_of_ok (hcontribution.trans (Prod.ext (fst_completeDocument hss) rfl))
  have hanswer : (completeAll p (common.map (·.2)) x).1 = .ok (CompletionList.append _ {}) :=
    congrArg Prod.fst (bind_apply_ok hsafely _)
  rw [CompletionList.append_empty] at hanswer
  exact ⟨_, hanswer, offers_ofSuggestions _ _⟩

/-- **A fresh query is answered** with what the daemon suggests, unless somebody who subscribed fails. -/
theorem fst_suggest_of_queried {r : Request} {s : Session} {ss : List Suggestion}
    (h : Session.course r s = .queried ss) (hcalm : ∀ u ∈ s.provider.subscribers, u.fault = none) :
    (Session.suggest r s).1 = .ok ss := by
  have htook := Session.took_course r s
  rw [h] at htook
  obtain ⟨t, -, hsuggest⟩ := htook
  have hprovider : t.provider = (Session.suggest r s).2.provider := by
    rw [hsuggest]
    exact (Session.keeps_provider (Session.keeps_answer ss) t).symm
  have hsubscribers : t.provider.subscribers = s.provider.subscribers := by
    rw [hprovider, Session.provider_suggest, Session.subscribers_findings]
  rw [← hsubscribers] at hcalm
  rw [hsuggest]
  exact (Session.answer_of_calm hcalm ss).1

/-! ## Completions -/

/-- **One failing capability costs the others nothing.** Whatever the turns of the capabilities come to, the
completion is answered: its items are those of the lists that were given, in turn, and it is incomplete if one
of these lists is. Every failure is put on record once, and these are all the failures on record if the
capabilities do not write any themselves.

Where there is only the capability that completes Go, the answer is incomplete and has one item for each
suggestion of the provider, which for a fresh query are those of the daemon. -/
theorem completeAll_turns (p : CompletionParams) (cs : List Capability) (x : Exchange) :
    (∃ ts y, ts.map Prod.fst = cs ∧ Turns p x ts y ∧
      completeAll p cs x =
        (.ok { isIncomplete := (given ts).any (·.isIncomplete)
               items := (given ts).flatMap (·.items) }, y) ∧
      ((∀ c ∈ cs, c.Reticent p) → y.failures = x.failures ++ failed ts)) ∧
    ∀ d, Serves p x d →
      (∀ ss, (Session.suggest (requestFor d x.position p.trigger) x.session).1 = .ok ss →
        ∃ items, (completeAll p (common.map (·.2)) x).1 = .ok { isIncomplete := true, items } ∧
          List.Forall₂ Offers items ss) ∧
      ∀ ss, Session.course (requestFor d x.position p.trigger) x.session = .queried ss →
        (∀ u ∈ x.session.provider.subscribers, u.fault = none) →
          (Session.suggest (requestFor d x.position p.trigger) x.session).1 = .ok ss := by
  refine ⟨?_, fun d hd => ⟨fun ss => exists_items_of_serves hd, fun ss => fst_suggest_of_queried⟩⟩
  obtain ⟨ts, y, rfl, hturns, hanswer⟩ := exists_turns p cs x
  refine ⟨ts, y, rfl, hturns, hanswer, fun hreticent => hturns.failures_eq fun t ht => ?_⟩
  exact hreticent t.1 (List.mem_map_of_mem ht)

/-- A capability fails between one that does not take part and one whose list is incomplete. By itself, the
capability that completes Go gives the item for the variable that the daemon suggests. -/
theorem completeAll_turns_broken :
    let idle : Capability :=
      { name := "idle".toList, accepts := fun _ => pure false, complete := fun _ => pure {} }
    let broken : Capability :=
      { name := "broken".toList, accepts := fun _ => pure true, complete := fun _ => raise .outOfRange }
    let steady : Capability :=
      { name := "steady".toList, accepts := fun _ => pure true
        complete := fun _ => pure { isIncomplete := true } }
    let d := (Session.atLineEnd "fo" "").document
    let p : CompletionParams := { uri := d.uri }
    let x : Exchange :=
      { exchangeOn 2 "[2,[\x7b\"class\":\"var\",\"name\":\"foo\",\"type\":\"int\"\x7d]]" with
        documents := ({} : DocumentStore).insert d }
    (∃ ts : List (Capability × Result), ts.map Prod.fst = [idle, broken, steady] ∧
      failed ts = [("broken".toList, .outOfRange)] ∧ (given ts).any (·.isIncomplete) = true) ∧
    ∃ items, (completeAll p (common.map (·.2)) x).1 = .ok { isIncomplete := true, items } ∧
      items.map (·.filterText) = [some "foo".toList] := by
  intro idle broken steady d p x
  obtain ⟨⟨ts, y, hts, -, hanswer, hfailures⟩, hserving⟩ := completeAll_turns p [idle, broken, steady] x
  constructor
  · have hreticent : ∀ c ∈ [idle, broken, steady], c.Reticent p := by
      simp only [List.forall_mem_cons]
      exact ⟨⟨.pure _, .pure _⟩, ⟨.pure _, .raise _⟩, ⟨.pure _, .pure _⟩, nofun⟩
    have hrun : ((completeAll p [idle, broken, steady] x).1.map (·.isIncomplete)) = .ok true ∧
        x.failures = [] ∧ (completeAll p [idle, broken, steady] x).2.failures =
          [("broken".toList, .outOfRange)] := by decide +kernel
    rw [hanswer, hfailures hreticent] at hrun
    obtain ⟨hincomplete, hnone, hfailed⟩ := hrun
    rw [hnone, List.nil_append] at hfailed
    exact ⟨ts, hts, hfailed, Except.ok.inj hincomplete⟩
  · have hd : Serves p x d :=
      ⟨rfl, by decide +kernel, by rw [DocumentStore.get, DocumentStore.find?_insert]⟩
    have hkeys : ((Session.suggest (requestFor d x.position p.trigger) x.session).1.map fun ss =>
        ss.map (·.key)) = .ok [some "foo".toList] := by decide +kernel
    rcases hss : (Session.suggest (requestFor d x.position p.trigger) x.session).1 with e | ss <;>
      rw [hss] at hkeys
    · cases hkeys
    · obtain ⟨items, hitems, hoffers⟩ := (hserving d hd).1 ss hss
      exact ⟨items, hitems, (map_filterText_of_offers hoffers).trans (Except.ok.inj hkeys)⟩

end Capability

end GoCompletion
