import GoCompletion.Proofs.Session.Inquiry

/-!
# Trouble with the daemon

Trouble with the daemon is told of once, and an update is offered once, whatever is done with a provider:

* `Trouble` — what is known, pending and on record of trouble;
* `Move` — an operation, the offer being made, or a change of the circumstances, in any order;
* `trouble_run` — **a move that meets trouble is all that changes anything**, but for the offer being made
  or taken back;
* `Trouble.Once` — what every move keeps, and so every run of moves (`once_moves`).

A move takes place as a whole before the next one: operations are atomic, and two that overlap, as when a request
comes while another one waits for a tool, cannot be written as moves.
-/

namespace GoCompletion

/-! ## What is on record -/

/-- What is written to the log about a daemon in trouble. -/
def troubleMessage : Text := "gocode is panicking".toList

/-- It is written to the log that the daemon is in trouble. -/
def Event.tellsOfTrouble : Event → Bool
  | .log n => n.message == troubleMessage
  | _ => false

/-- The editor is asked a question. -/
def Event.isQuestion : Event → Bool
  | .ask .. => true
  | _ => false

/-- No other notice has the words for trouble. -/
theorem Notice.message_ne_troubleMessage {n : Notice} (h : n ≠ .daemonPanics) :
    n.message ≠ troubleMessage := by
  -- what all words of a kind of notice begin with, those for trouble do not
  have hbegin : ∀ {a b : Text}, ¬ a <+: troubleMessage → a ++ b ≠ troubleMessage :=
    fun ha hb => ha ⟨_, hb⟩
  have hnamed : ∀ {a b c d : Text}, ¬ a <+: troubleMessage → a ++ b ++ c ++ d ≠ troubleMessage := by
    intro a b c d ha
    rw [List.append_assoc, List.append_assoc]
    exact hbegin ha
  cases n with
  | daemonPanics => exact absurd rfl h
  | daemonMissing => decide +kernel
  | daemonWanted => decide +kernel
  | daemonFound path => exact hbegin (by decide +kernel)
  | optionErrors option errors => exact hnamed (by decide +kernel)
  | queryErrors errors => exact hbegin (by decide +kernel)
  | unreadableAnswer mistake => exact hbegin (by decide +kernel)
  | importFailed fault => exact hbegin (by decide +kernel)
  | updateErrors errors => exact hbegin (by decide +kernel)
  | updateFailed fault => exact hbegin (by decide +kernel)
  | listingErrors errors => exact hbegin (by decide +kernel)
  | capabilityFailed name fault => exact hnamed (by decide +kernel)

/-- What is known, pending and on record of trouble. -/
structure Trouble where
  /-- the daemon has been in trouble -/
  panicked : Bool
  /-- the offer to update it -/
  offer : Offer
  /-- how often the trouble is told of -/
  notices : Nat
  /-- how many questions are asked -/
  questions : Nat

namespace Trouble

/-- Trouble is met, with an editor or without one. -/
def met (t : Trouble) (connected : Bool) : Trouble :=
  if t.panicked then t
  else if connected then { t with panicked := true, offer := .due, notices := t.notices + 1 }
  else { t with panicked := true }

/-- The offer is made, and `left` is what is left of it. -/
def asked (t : Trouble) (left : Offer) : Trouble := { t with offer := left, questions := t.questions + 1 }

/-- What may become of trouble where none is met. -/
inductive Rests : Trouble → Trouble → Prop
  /-- nothing -/
  | still (t : Trouble) : Rests t t
  /-- the offer is taken back -/
  | withdrawn (t : Trouble) : Rests t { t with offer := .none }
  /-- the offer is made if it is due, and it is not due any more -/
  | asked {t : Trouble} (hdue : t.offer = .due) {left : Offer} (hleft : left ≠ .due) :
    Rests t (t.asked left)

theorem Rests.panicked_eq {t u : Trouble} (h : t.Rests u) : u.panicked = t.panicked := by
  cases h <;> rfl

/-- Where no trouble is met, no offer comes up. -/
theorem Rests.offer_eq_none {t u : Trouble} (h : t.Rests u) (hoffer : t.offer = .none) :
    u.offer = .none := by
  cases h with
  | still => exact hoffer
  | withdrawn => rfl
  | asked hdue => cases hoffer.symm.trans hdue

theorem panicked_met (t : Trouble) (connected : Bool) : (t.met connected).panicked = true := by
  unfold met
  split
  · assumption
  · split <;> rfl

/-- Trouble that is known already is not met again. -/
theorem met_of_panicked {t : Trouble} (h : t.panicked = true) (connected : Bool) : t.met connected = t :=
  if_pos h

/-- Trouble is told of and asked about no more than once, and there is nothing of it before it is met. -/
structure Once (t : Trouble) : Prop where
  /-- it is told of once -/
  notices : t.notices ≤ 1
  /-- it is asked about once, or is going to be -/
  questions : t.questions + (if t.offer = .due then 1 else 0) ≤ 1
  /-- there is nothing of it before it is met -/
  quiet : t.panicked = false → t.offer = .none ∧ t.notices = 0 ∧ t.questions = 0

/-- Meeting trouble keeps to once. -/
theorem Once.met {t : Trouble} (h : t.Once) (connected : Bool) : (t.met connected).Once := by
  unfold Trouble.met
  split
  · exact h
  · next hpanicked =>
    obtain ⟨hoffer, hnotices, hquestions⟩ := h.quiet (Bool.eq_false_iff.mpr hpanicked)
    split
    · exact ⟨by simp [hnotices], by simp [hquestions], nofun⟩
    · exact ⟨h.notices, h.questions, nofun⟩

/-- So does anything else. -/
theorem Once.rests {t u : Trouble} (h : t.Once) (hu : t.Rests u) : u.Once := by
  cases hu with
  | still => exact h
  | withdrawn =>
    refine ⟨h.notices, ?_, fun hpanicked => ⟨rfl, (h.quiet hpanicked).2⟩⟩
    exact Nat.le_trans (Nat.le_add_right _ _) h.questions
  | @asked hdue left hleft =>
    have hquestions := h.questions
    rw [if_pos hdue] at hquestions
    refine ⟨h.notices, ?_, fun hpanicked => ?_⟩
    · have hasked : (if (t.asked left).offer = .due then 1 else 0) = 0 := if_neg hleft
      rw [hasked]
      exact hquestions
    · cases hdue.symm.trans (h.quiet hpanicked).1

end Trouble

namespace Session

open Act

/-- What is known, pending and on record of trouble in a session. -/
def trouble (s : Session) : Trouble :=
  { panicked := s.provider.panicked
    offer := s.provider.offer
    notices := s.host.trace.countP Event.tellsOfTrouble
    questions := s.host.trace.countP Event.isQuestion }

/-! ## What has nothing to do with trouble -/

/-- Events that neither tell of trouble nor ask a question do not count. -/
theorem trouble_behind (s : Session) {h : Host} {events : List Event}
    (htrace : h.trace = s.host.trace ++ events)
    (hquiet : ∀ e ∈ events, e.tellsOfTrouble = false ∧ e.isQuestion = false) :
    trouble { s with host := h } = trouble s := by
  have hnotices : events.countP Event.tellsOfTrouble = 0 :=
    List.countP_eq_zero.mpr fun e he => by simp [hquiet e he]
  have hquestions : events.countP Event.isQuestion = 0 :=
    List.countP_eq_zero.mpr fun e he => by simp [hquiet e he]
  simp only [trouble, htrace, List.countP_append, hnotices, hquestions, Nat.add_zero]

theorem keeps_trouble_record {e : Event} (h : e.tellsOfTrouble = false ∧ e.isQuestion = false) :
    (outside (Host.record e)).Keeps trouble := fun s =>
  trouble_behind s rfl (List.forall_mem_singleton.mpr h)

theorem keeps_trouble_tell {n : Notice} (h : n ≠ .daemonPanics) : (tell n).Keeps trouble :=
  keeps_tell_of
    (keeps_trouble_record ⟨beq_eq_false_iff_ne.mpr (Notice.message_ne_troubleMessage h), rfl⟩)

theorem keeps_trouble_exec (i : Invocation) : (exec i).Keeps trouble := by
  intro s
  obtain ⟨r, fed, stopped, hexec, -, hstopped⟩ := exists_exec i s
  rw [hexec]
  refine trouble_behind s rfl (List.forall_mem_cons.mpr ⟨⟨rfl, rfl⟩, fun e he => ?_⟩)
  rcases hstopped e he with rfl | rfl <;> exact ⟨rfl, rfl⟩

/-- Most of what a session does has nothing to do with trouble. -/
theorem steadfast_trouble : Steadfast trouble where
  findTool _ := fun _ => rfl
  exec _ := keeps_trouble_exec _
  tell := keeps_trouble_tell
  forget _ := .modify fun _ => rfl
  keepGroups _ := .modify fun _ => rfl
  keepVendoring _ := .modify fun _ => rfl
  query _ := keeps_trouble_exec _
  display _ _ := keeps_trouble_record ⟨rfl, rfl⟩

theorem keeps_trouble_answer (ss : List Suggestion) : (answer ss).Keeps trouble :=
  keeps_answer_of (fun _ _ => keeps_trouble_record ⟨rfl, rfl⟩) ss

/-- Whether there is an editor does not change. -/
theorem steadfast_connected : Steadfast (·.connected) where
  findTool _ := fun _ => rfl
  exec _ := (keeps_exec _).of_view Engine.connected
  tell _ := (keeps_tell _).of_view Engine.connected
  forget _ := .modify fun _ => rfl
  keepGroups _ := .modify fun _ => rfl
  keepVendoring _ := .modify fun _ => rfl
  query _ := (keeps_exec _).of_view Engine.connected
  display _ _ := (keeps_outside _).of_view Engine.connected

/-! ## What has -/

/-- Trouble that is told of is on record, if there is an editor. -/
theorem trouble_tell (s : Session) :
    trouble (tell .daemonPanics s).2 =
      { trouble s with notices := (trouble s).notices + if s.connected then 1 else 0 } := by
  rw [tell, bind_apply_ok (get_apply s)]
  cases s.connected with
  | false => rfl
  | true =>
    have htells : (Event.log .daemonPanics).tellsOfTrouble = true := beq_self_eq_true _
    simp [trouble, outside, Host.record, List.countP_append, htells, Event.isQuestion]

/-- Trouble that is not known yet becomes known and is told of, and an update is to be offered if there is
an editor. -/
theorem learnPanic_of_calm {s : Session} (h : s.provider.panicked = false) :
    learnPanic s =
      (if s.connected then changeProvider fun p => { p with offer := .due } else pure ())
        (tell .daemonPanics { s with provider := { s.provider with panicked := true } }).2 := by
  have hlearn : learnPanic s =
      (tell .daemonPanics >>= fun _ =>
        if s.connected then changeProvider fun p => { p with offer := .due } else pure ())
        { s with provider := { s.provider with panicked := true } } := by
    rw [learnPanic, bind_apply_ok (get_apply s), h]
    rfl
  rw [hlearn, (answers_tell .daemonPanics).then_apply]

/-- Learning of trouble is to meet it. -/
theorem trouble_learnPanic (s : Session) : trouble (learnPanic s).2 = (trouble s).met s.connected := by
  cases hpanicked : s.provider.panicked with
  | true =>
    have hlearn : learnPanic s = (.ok (), s) := by
      rw [learnPanic, bind_apply_ok (get_apply s), hpanicked]
      rfl
    rw [hlearn, Trouble.met_of_panicked hpanicked]
  | false =>
    have hcalm : ¬ (trouble s).panicked = true := Bool.eq_false_iff.mp hpanicked
    have htold := trouble_tell { s with provider := { s.provider with panicked := true } }
    rw [learnPanic_of_calm hpanicked, Trouble.met, if_neg hcalm]
    cases hconnected : s.connected with
    | false =>
      simp only [hconnected, Bool.false_eq_true, if_false] at htold ⊢
      exact htold
    | true =>
      simp only [hconnected, if_true] at htold ⊢
      exact congrArg (fun t : Trouble => { t with offer := .due }) htold

/-- Making suggestions of an answer meets trouble if the answer tells of it. -/
theorem trouble_suggestionsOf (found : List Datum) (t : Text) (index : Int) (s : Session) :
    trouble (suggestionsOf found t index s).2 =
      if Suggestion.isPanicAnswer found then (trouble s).met s.connected else trouble s := by
  unfold suggestionsOf
  split
  · rw [answers_learnPanic.then_apply]
    exact trouble_learnPanic s
  · rfl

/-- The request makes suggestions of an answer of the daemon. -/
def Maps (r : Request) (s : Session) (found : List Datum) : Prop :=
  ∃ daemon t, Asks r s daemon t ∧ (consult (questionOf daemon r) (indexOf r) r.word.strip t).1 = .ok found

/-- A request meets trouble if the answer that it makes suggestions of tells of it. -/
theorem trouble_suggest_of_maps {r : Request} {s : Session} {found : List Datum} (h : Maps r s found) :
    trouble (suggest r s).2 =
      if Suggestion.isPanicAnswer found then (trouble s).met s.connected else trouble s := by
  obtain ⟨daemon, t, hasks, hfound⟩ := h
  have hview : ∀ {γ : Type} {view : Session → γ}, Steadfast view →
      view (consult (questionOf daemon r) (indexOf r) r.word.strip t).2 = view s := fun h =>
    (h.consult _ _ _ t).trans (hasks.view_eq h.toSteady)
  rw [hasks.suggest_of_ok (Prod.ext hfound rfl), keeps_trouble_answer]
  change trouble (suggestionsOf found r.document.text (indexOf r) _).2 = _
  rw [trouble_suggestionsOf, hview steadfast_trouble, hview steadfast_connected]

/-- Any other request has nothing to do with trouble. -/
theorem trouble_suggest_of_not_maps {r : Request} {s : Session} (h : ∀ found, ¬ Maps r s found) :
    trouble (suggest r s).2 = trouble s := by
  refine view_suggest steadfast_trouble.toSteady (fun _ _ => keeps_trouble_record ⟨rfl, rfl⟩)
    (fun _ => .modify fun _ => rfl) fun daemon t hasks => ?_
  rcases hc : consult (questionOf daemon r) (indexOf r) r.word.strip t with ⟨e | found, u⟩
  · rw [queryDaemon_of_error hc]
    exact (steadfast_trouble.consult _ _ _).of_eq hc
  · exact absurd ⟨daemon, t, hasks, congrArg Prod.fst hc⟩ (h found)

/-- A provider that is disposed of has no offer any more. -/
theorem trouble_dispose (s : Session) : trouble (dispose s).2 = { trouble s with offer := .none } := by
  have hdispose : dispose s =
      ((if s.provider.offer = .open then outside (Host.record .unask) else pure ()) : Act Session Unit)
        (changeProvider (fun p => { p with subscribers := [], suggestions := [], offer := .none }) s).2 :=
    rfl
  rw [hdispose]
  split
  · rw [keeps_trouble_record ⟨rfl, rfl⟩]
    rfl
  · rfl

/-- What an answer to the offer asks for leaves the offer open only if there is no answer. -/
theorem trouble_follow (reply : Reply) (s : Session) :
    trouble (follow reply s).2 =
      { trouble s with offer := if reply = .silent then .open else s.provider.offer } := by
  cases reply with
  | chosen title =>
    simp only [follow]
    split
    · exact Keeps.bind steadfast_trouble.updateDaemon steadfast_trouble.tellFailures s
    · rfl
  | dismissed => rfl
  | failed reason => rfl
  | silent => rfl

/-- A question to the editor is on record, and there is an answer to it. -/
theorem exists_reply (severity : Severity) (question : Text) (titles : List Text) (s : Session) :
    ∃ reply t, outside (Host.ask severity question titles) s = (.ok reply, t) ∧
      t.provider = s.provider ∧ trouble t = { trouble s with questions := (trouble s).questions + 1 } := by
  obtain ⟨reply, replies, hask⟩ := Host.exists_ask severity question titles s.host
  let asked : Host := { s.host with trace := s.host.trace ++ [.ask severity question titles], replies }
  refine ⟨reply, { s with host := asked }, ?_, rfl, ?_⟩
  · exact congrArg (fun p : Except Fault Reply × Host => (p.1, { s with host := p.2 })) hask
  · simp [asked, trouble, List.countP_append, Event.tellsOfTrouble, Event.isQuestion]

/-- How an update ends is told if it fails. -/
def tellEnd : Except Fault Unit → Act Session Unit
  | .ok () => pure ()
  | .error e => tell (.updateFailed e)

theorem keeps_trouble_tellEnd (r : Except Fault Unit) : (tellEnd r).Keeps trouble := by
  cases r with
  | error e => exact keeps_trouble_tell (by simp)
  | ok _ => exact .pure _

/-- Making the offer is to ask one question. -/
theorem trouble_makeOffer (s : Session) :
    ∃ left, left ≠ .due ∧ trouble (makeOffer s).2 = (trouble s).asked left := by
  let taken : Session := { s with provider := { s.provider with offer := .none } }
  obtain ⟨reply, t, hask, hprovider, htrouble⟩ :=
    exists_reply .error updateQuestion [agreement, refusal] taken
  have hoffer : makeOffer s =
      ((outside (Host.ask .error updateQuestion [agreement, refusal]) >>= follow).attempt >>= tellEnd)
        taken := rfl
  rw [hoffer, Keeps.view_bind keeps_trouble_tellEnd, attempt_apply, bind_apply_ok hask, trouble_follow,
    htrouble, hprovider]
  refine ⟨if reply = .silent then .open else .none, ?_, rfl⟩
  split <;> decide

/-- The offer is made if it is due. -/
theorem rests_settle (s : Session) : (trouble s).Rests (trouble (settle s).2) := by
  have hsettle : settle s = (if s.provider.offer = .due then makeOffer else pure ()) s := rfl
  rw [hsettle]
  split
  · next hdue =>
    obtain ⟨left, hleft, hmade⟩ := trouble_makeOffer s
    rw [hmade]
    exact .asked hdue hleft
  · exact .still _

end Session

/-! ## Answers that tell of trouble -/

namespace Suggestion

/-- The answer has candidates, and the first of them tells that the daemon is in trouble. -/
def PanicsFirst (answer : List Datum) : Prop :=
  ∃ count first rest others, answer = count :: .list (first :: rest) :: others ∧
    Candidate.ofDatum first = .panic

theorem isPanicAnswer_iff {answer : List Datum} : isPanicAnswer answer = true ↔ PanicsFirst answer := by
  constructor
  · intro h
    unfold isPanicAnswer candidatesOf at h
    split at h
    · next count candidates others =>
      cases candidates with
      | nil => cases h
      | cons first rest => exact ⟨count, first, rest, others, rfl, Candidate.isPanic_iff.mp h⟩
    · cases h
  · rintro ⟨count, first, rest, others, rfl, h⟩
    exact Candidate.isPanic_iff.mpr h

/-- The answer without the candidates that tell that the daemon is in trouble, wherever they stand. -/
def withoutPanic : List Datum → List Datum
  | count :: .list candidates :: others =>
    count :: .list (candidates.filter fun d => Candidate.ofDatum d ≠ .panic) :: others
  | answer => answer

/-- Nothing is suggested for candidates that tell of trouble. -/
theorem ofAnswer_withoutPanic (mode : SnippetMode) (answer : List Datum) (t : Text) (index : Int) :
    ofAnswer mode (withoutPanic answer) t index = ofAnswer mode answer t index := by
  have hpanic : ∀ c : Candidate, decide (c ≠ .panic) = !c.isPanic := by
    intro c
    rw [Bool.eq_iff_iff]
    simp [← Candidate.isPanic_iff]
  unfold withoutPanic
  split
  · simp [ofAnswer, candidatesOf, List.filter_map, List.filter_filter, Function.comp_def, hpanic]
  · rfl

end Suggestion

/-! ## Moves -/

/-- What may happen to a session. -/
inductive Move where
  /-- the circumstances change: the files, what the runs of tools come to, what the editor answers -/
  | meanwhile (files : FileTree) (script : Script) (replies : List Reply)
  /-- an operation takes place -/
  | work (o : Operation)
  /-- the offer is made, if it is due -/
  | settle

namespace Move

/-- The session behind a move. -/
def run (s : Session) : Move → Session
  | meanwhile files script replies => { s with host := { s.host with files, script, replies } }
  | work o => (o.act s).2
  | settle => (Session.settle s).2

/-- The move meets trouble: the daemon is found to be in trouble, or an answer is made suggestions of that
tells so. -/
def Meets (s : Session) : Move → Prop
  | work .bounce => True
  | work (.read answer _ _) => Suggestion.PanicsFirst answer
  | work (.request r) => ∃ found, Session.Maps r s found ∧ Suggestion.PanicsFirst found
  | _ => False

end Move

namespace Session

open Act

theorem Maps.unique {r : Request} {s : Session} {found found' : List Datum} (h : Maps r s found)
    (h' : Maps r s found') : found = found' := by
  obtain ⟨daemon, t, hasks, hfound⟩ := h
  obtain ⟨daemon', t', hasks', hfound'⟩ := h'
  cases hasks.found.symm.trans hasks'.found
  exact Except.ok.inj (hfound.symm.trans hfound')

/-- **A move that meets trouble** is all that changes anything, but for the offer being made or taken
back. -/
theorem trouble_run (s : Session) (m : Move) :
    (m.Meets s ∧ trouble (m.run s) = (trouble s).met s.connected) ∨
      (¬ m.Meets s ∧ (trouble s).Rests (trouble (m.run s))) := by
  have hstill : ∀ {t}, t = trouble s → (trouble s).Rests t := fun h => h ▸ .still _
  cases m with
  | meanwhile files script replies => exact .inr ⟨id, .still _⟩
  | settle => exact .inr ⟨id, rests_settle s⟩
  | work o =>
    cases o with
    | request r =>
      have hrun : trouble ((Move.work (.request r)).run s) = trouble (suggest r s).2 :=
        Keeps.view_bind (fun _ => .pure _) s
      rw [hrun]
      by_cases hmaps : ∃ found, Maps r s found
      · obtain ⟨found, hfound⟩ := hmaps
        rw [trouble_suggest_of_maps hfound]
        by_cases hpanics : Suggestion.PanicsFirst found
        · exact .inl ⟨⟨found, hfound, hpanics⟩, if_pos (Suggestion.isPanicAnswer_iff.mpr hpanics)⟩
        · refine .inr ⟨?_, hstill (if_neg (mt Suggestion.isPanicAnswer_iff.mp hpanics))⟩
          rintro ⟨found', hfound', hpanics'⟩
          exact hpanics (hfound.unique hfound' ▸ hpanics')
      · refine .inr ⟨fun ⟨found, hfound, _⟩ => hmaps ⟨found, hfound⟩, ?_⟩
        exact hstill (trouble_suggest_of_not_maps fun found hfound => hmaps ⟨found, hfound⟩)
    | read answer t index =>
      have hrun : trouble ((Move.work (.read answer t index)).run s) =
          trouble (suggestionsOf answer t index s).2 := Keeps.view_bind (fun _ => .pure _) s
      rw [hrun, trouble_suggestionsOf]
      by_cases hpanics : Suggestion.PanicsFirst answer
      · exact .inl ⟨hpanics, if_pos (Suggestion.isPanicAnswer_iff.mpr hpanics)⟩
      · exact .inr ⟨hpanics, hstill (if_neg (mt Suggestion.isPanicAnswer_iff.mp hpanics))⟩
    | configure settings => exact .inr ⟨id, .still _⟩
    | disable blacklist => exact .inr ⟨id, .still _⟩
    | push => exact .inr ⟨id, hstill (steadfast_trouble.pushSettings s)⟩
    | setOption name on => exact .inr ⟨id, hstill ((steadfast_trouble.setOption name on).forget s)⟩
    | subscribe u => exact .inr ⟨id, .still _⟩
    | bounce => exact .inl ⟨trivial, trouble_learnPanic s⟩
    | dispose => exact .inr ⟨id, by rw [Move.run, Operation.act, trouble_dispose]; exact .withdrawn _⟩
    | packages => exact .inr ⟨id, hstill (steadfast_trouble.allPackages.forget s)⟩
    | vendoring => exact .inr ⟨id, hstill (steadfast_trouble.supportsVendoring.forget s)⟩
    | resolve t index offset file =>
      exact .inr ⟨id, hstill ((steadfast_trouble.importWanted t index offset file).forget s)⟩
    | update => exact .inr ⟨id, hstill (steadfast_trouble.updateDaemon.forget s)⟩

/-- The session behind some moves. -/
def moves (s : Session) : List Move → Session
  | [] => s
  | m :: ms => moves (m.run s) ms

@[simp] theorem moves_nil (s : Session) : s.moves [] = s := rfl

@[simp] theorem moves_cons (s : Session) (m : Move) (ms : List Move) :
    s.moves (m :: ms) = (m.run s).moves ms := rfl

theorem moves_append (s : Session) (ms ns : List Move) : s.moves (ms ++ ns) = (s.moves ms).moves ns := by
  induction ms generalizing s with
  | nil => rfl
  | cons m ms ih => exact ih _

/-- A step is an operation in its circumstances, with the offer made right behind it. -/
theorem run_eq_moves (s : Session) (xs : List Step) :
    s.run xs =
      s.moves (xs.flatMap fun x => [.meanwhile x.files x.script x.replies, .work x.operation, .settle]) := by
  induction xs generalizing s with
  | nil => rfl
  | cons x xs ih =>
    have hstep : x.run s = s.moves [.meanwhile x.files x.script x.replies, .work x.operation, .settle] :=
      snd_settled x.operation.act (x.enter s)
    rw [run_cons, ih, hstep, List.flatMap_cons, moves_append]

/-- **Every run of moves keeps to once.** -/
theorem once_moves {s : Session} (h : (trouble s).Once) (ms : List Move) : (trouble (s.moves ms)).Once := by
  induction ms generalizing s with
  | nil => exact h
  | cons m ms ih =>
    refine ih ?_
    obtain ⟨-, hmet⟩ | ⟨-, hrests⟩ := trouble_run s m
    · rw [hmet]
      exact h.met s.connected
    · exact h.rests hrests

/-- Trouble is known behind a move if it was, or if the move meets it. -/
theorem panicked_run (s : Session) (m : Move) :
    (m.run s).provider.panicked = true ↔ s.provider.panicked = true ∨ m.Meets s := by
  obtain ⟨hmeets, hmet⟩ | ⟨hmeets, hrests⟩ := trouble_run s m
  · have hpanicked : (m.run s).provider.panicked = true := by
      change (trouble (m.run s)).panicked = true
      rw [hmet, Trouble.panicked_met]
    simp [hmeets, hpanicked]
  · have hpanicked : (m.run s).provider.panicked = s.provider.panicked := hrests.panicked_eq
    simp [hmeets, hpanicked]

/-- Trouble is known behind some moves if it was, or if one of the moves meets it. -/
theorem panicked_moves (s : Session) (ms : List Move) :
    (s.moves ms).provider.panicked = true ↔
      s.provider.panicked = true ∨
        ∃ before m later, ms = before ++ m :: later ∧ m.Meets (s.moves before) := by
  induction ms generalizing s with
  | nil => simp
  | cons m ms ih =>
    rw [moves_cons, ih, panicked_run, or_assoc]
    refine or_congr_right ⟨?_, ?_⟩
    · rintro (hmeets | ⟨before, m', later, rfl, hmeets⟩)
      · exact ⟨[], m, ms, rfl, hmeets⟩
      · exact ⟨m :: before, m', later, rfl, hmeets⟩
    · rintro ⟨_ | ⟨m', before⟩, m'', later, hms, hmeets⟩
      · obtain ⟨rfl, rfl⟩ := List.cons.inj hms
        exact .inl hmeets
      · obtain ⟨rfl, rfl⟩ := List.cons.inj hms
        exact .inr ⟨before, m'', later, rfl, hmeets⟩

/-- An offer that is pending behind a move was pending before, or the move is the first one to meet
trouble. -/
theorem offer_run {s : Session} {m : Move} (h : (m.run s).provider.offer ≠ .none) :
    s.provider.offer ≠ .none ∨ s.provider.panicked = false ∧ m.Meets s := by
  by_cases hoffer : s.provider.offer = .none
  · refine .inr ?_
    obtain ⟨hmeets, hmet⟩ | ⟨-, hrests⟩ := trouble_run s m
    · cases hpanicked : s.provider.panicked with
      | false => exact ⟨rfl, hmeets⟩
      | true =>
        rw [Trouble.met_of_panicked hpanicked] at hmet
        exact absurd ((congrArg Trouble.offer hmet).trans hoffer) h
    · exact absurd (hrests.offer_eq_none hoffer) h
  · exact .inl hoffer

/-- **Trouble is told of once, and an update is offered once**, whatever is done with a provider. Behind any
moves from its beginning on,

* it is written to the log once or never that the daemon is in trouble, and one question or none is asked or
  about to be asked;
* trouble is known exactly if one of the moves met it;
* no offer is pending before that, none comes up but where trouble is met for the first time, and none is
  left where the provider is disposed of;
* whatever answer is made suggestions of, directly or by a request, nothing is suggested for the candidates
  that tell of trouble. -/
theorem trouble_once (c : Client) (settings : Settings) (connected : Bool) (ms : List Move) :
    let s := (start c settings connected {}).moves ms
    s.host.trace.countP Event.tellsOfTrouble ≤ 1 ∧
      s.host.trace.countP Event.isQuestion + (if s.provider.offer = .due then 1 else 0) ≤ 1 ∧
      (s.provider.panicked = true ↔ ∃ before m later, ms = before ++ m :: later ∧
        m.Meets ((start c settings connected {}).moves before)) ∧
      (s.provider.panicked = false → s.provider.offer = .none) ∧
      (∀ m : Move, (m.run s).provider.offer ≠ .none →
        s.provider.offer ≠ .none ∨ s.provider.panicked = false ∧ m.Meets s) ∧
      ((Move.work .dispose).run s).provider.offer = .none ∧
      (∀ answer t index,
        (suggestionsOf answer t index s).1 = (suggestionsOf (Suggestion.withoutPanic answer) t index s).1) ∧
      ∀ r found, Maps r s found →
        remembered (suggest r s).2 =
          Suggestion.ofAnswer s.provider.snippetMode (Suggestion.withoutPanic found) r.document.text
            (indexOf r) := by
  intro s
  have hstart : (trouble (start c settings connected {})).Once :=
    ⟨Nat.zero_le 1, Nat.zero_le 1, fun _ => ⟨rfl, rfl, rfl⟩⟩
  have honce : (trouble s).Once := once_moves hstart ms
  refine ⟨honce.notices, honce.questions, ?_, fun h => (honce.quiet h).1, fun m => offer_run, ?_, ?_, ?_⟩
  · rw [panicked_moves]
    exact or_iff_right Bool.false_ne_true
  · exact congrArg Trouble.offer (trouble_dispose s)
  · intro answer t index
    rw [fst_suggestionsOf, fst_suggestionsOf, Suggestion.ofAnswer_withoutPanic]
  · rintro r found ⟨daemon, t, hasks, hfound⟩
    rw [Suggestion.ofAnswer_withoutPanic]
    exact (hasks.answered (Prod.ext hfound rfl)).1

/-- The second time that trouble is found, nothing is asked. -/
example :
    let s := (start { home := "/root".toList } {} true {}).moves
      [.work .bounce, .settle, .work .dispose, .work .bounce, .settle]
    (s.host.trace.map fun e => (e.tellsOfTrouble, e.isQuestion)) = [(true, false), (false, true)] := by
  decide +kernel

end Session

end GoCompletion
