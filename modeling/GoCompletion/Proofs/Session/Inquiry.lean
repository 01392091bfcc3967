import GoCompletion.Proofs.Client.Find
import GoCompletion.Proofs.Datum.Json
import GoCompletion.Proofs.Provider.Suppressed
import GoCompletion.Proofs.Session.Course
import GoCompletion.Proofs.Session.Operation
import GoCompletion.Proofs.Session.Record

/-!
# Which queries a request runs

A request that has to be answered by the daemon runs one query, and one more only to try an import.
`Session.queries` is what is on record of them, and `Session.heard` tells beforehand what the queries to
come will say.

* `put_spec` — a question is one query, and says what was to be heard next;
* `exists_again` — there is a second one exactly if the first one says nothing about a dot, and an import
  is found;
* `queries_suggest` — **a request runs exactly the queries that it should**, and answers with what the last
  one of them says.
-/

namespace GoCompletion

/-- The query of the daemon that an event is. -/
def Event.query? : Event → Option Invocation
  | .run i _ => if i.subcommand = queryCommand then some i else none
  | _ => none

namespace Session

open Act

/-- The queries of the daemon that have been run, in turn. -/
def queries (s : Session) : List Invocation := s.host.trace.filterMap Event.query?

/-- The list that the output of a query is: it is empty for one that is blank, is no JSON or is no list. -/
def listOf (output : Text) : Except Fault (List Datum) :=
  if output.strip.isEmpty then .ok []
  else
    (Datum.ofJson output).map fun
      | .ok (.list items) => items
      | _ => []

/-- What is heard of the query that comes behind `n` others. -/
def heard (n : Nat) (s : Session) : Except Fault (List Datum) :=
  (((s.host.script.queue queryCommand)[n]?.getD .quiet).output (.real s.client.limit)).bind listOf

theorem limit_of_listOf {output : Text} {e : Fault} (h : listOf output = .error e) : Json.Limit e := by
  unfold listOf at h
  split at h
  · cases h
  · cases hjson : Datum.ofJson output with
    | ok d =>
      rw [hjson] at h
      cases h
    | error e' =>
      rw [hjson] at h
      cases h
      exact Datum.limit_of_ofJson hjson

/-- **Nothing is heard** where a run fails as nobody expects, or its output passes a limit. -/
theorem heard_eq_error {n : Nat} {s : Session} {e : Fault} (h : heard n s = .error e) :
    (∃ reason, e = .failed reason) ∨ Json.Limit e := by
  unfold heard at h
  cases houtput : ((s.host.script.queue queryCommand)[n]?.getD Outcome.quiet).output
      (.real s.client.limit) with
  | ok output =>
    rw [houtput] at h
    exact .inr (limit_of_listOf h)
  | error e' =>
    rw [houtput] at h
    cases h
    exact .inl (Outcome.output_eq_error houtput)

/-- What there is about queries: those that have been run, and what those to come will come to. -/
def asking (s : Session) : List Invocation × List Outcome × Binary64 :=
  (s.queries, s.host.script.queue queryCommand, s.client.limit)

theorem queries_of_asking {s t : Session} (h : asking t = asking s) : queries t = queries s :=
  congrArg Prod.fst h

theorem heard_of_asking {s t : Session} (h : asking t = asking s) (n : Nat) : heard n t = heard n s := by
  have hqueue : t.host.script.queue queryCommand = s.host.script.queue queryCommand := congrArg (·.2.1) h
  have hlimit : t.client.limit = s.client.limit := congrArg (·.2.2) h
  rw [heard, hqueue, hlimit, heard]

/-! ## What has nothing to do with queries -/

/-- Notices are no queries, and neither is a tool being stopped. -/
theorem overlooks_query? : Overlooks Event.query? := ⟨fun _ => rfl, rfl, rfl⟩

/-- What is done outside is no query, but for runs. -/
theorem keeps_asking_record {e : Event} (h : e.query? = none) : (outside (Host.record e)).Keeps asking :=
  fun s => congrArg (·, _, _) (keeps_noted_record h s)

theorem keeps_asking_tell (n : Notice) : (tell n).Keeps asking := keeps_tell_of (keeps_asking_record rfl)

theorem keeps_asking_exec {i : Invocation} (h : i.subcommand ≠ queryCommand) : (exec i).Keeps asking := by
  intro s
  obtain ⟨r, fed, stopped, hexec, -, hstopped⟩ := exists_exec i s
  have hevent : (Event.run i fed).query? = none := if_neg h
  have hqueries : (s.host.trace ++ .run i fed :: stopped).filterMap Event.query? = s.queries := by
    rw [List.filterMap_append, overlooks_query?.filterMap_run hstopped, hevent]
    exact List.append_nil _
  have hqueue : (s.host.script.take i.subcommand).2.queue queryCommand = s.host.script.queue queryCommand :=
    Script.queue_take_of_ne h s.host.script
  rw [hexec]
  exact Prod.ext hqueries (Prod.ext hqueue rfl)

/-- A query is on record, and uses up what was to come of it. -/
theorem asking_exec {i : Invocation} (h : i.subcommand = queryCommand) (s : Session) :
    asking (exec i s).2 =
      (s.queries ++ [i], (s.host.script.queue queryCommand).tail, s.client.limit) := by
  obtain ⟨r, fed, stopped, hexec, -, hstopped⟩ := exists_exec i s
  have hevent : (Event.run i fed).query? = some i := if_pos h
  have hqueries : (s.host.trace ++ .run i fed :: stopped).filterMap Event.query? = s.queries ++ [i] := by
    rw [List.filterMap_append, overlooks_query?.filterMap_run hstopped, hevent]
    rfl
  have hqueue : (s.host.script.take i.subcommand).2.queue queryCommand =
      (s.host.script.queue queryCommand).tail := by
    rw [h, Script.queue_take_self]
  rw [hexec]
  exact Prod.ext hqueries (Prod.ext hqueue rfl)

theorem steady_asking : Steady asking where
  findTool name := fun s => by
    have hlimit : (s.client.find s.host.files name).2.limit = s.client.limit :=
      Client.view_find (fun _ _ => rfl) _ _ _
    exact Prod.ext rfl (Prod.ext rfl hlimit)
  exec := keeps_asking_exec
  tell _ := keeps_asking_tell _
  forget _ := .modify fun _ => rfl
  keepGroups _ := .modify fun _ => rfl
  keepVendoring _ := .modify fun _ => rfl

theorem keeps_asking_answer (ss : List Suggestion) : (answer ss).Keeps asking :=
  keeps_answer_of (fun _ _ => keeps_asking_record rfl) ss

theorem keeps_asking_suggestionsOf (found : List Datum) (t : Text) (index : Int) :
    (suggestionsOf found t index).Keeps asking :=
  keeps_suggestionsOf_of (keeps_learnPanic_of (.modify fun _ => rfl) (.modify fun _ => rfl)
    (keeps_asking_tell _)) found t index

/-! ## One question -/

theorem Question.subcommand_invocation (q : Question) : q.invocation.subcommand = queryCommand := rfl

/-- The daemon is handed the text of a question, and told the path of the document and the cursor in bytes. -/
theorem Question.invocation_eq (q : Question) :
    q.invocation =
      { command := q.daemon
        args := ["-f=json".toList, "autocomplete".toList, q.file, (toString q.offset).toList]
        input := some q.text
        directory := some (Path.ofText q.file).parent.toText } := by
  rw [invocation, Text.ofInt_eq_toString]
  rfl

/-- The question of a request is about the bytes in front of its cursor. -/
theorem questionOf_eq (daemon : Text) (r : Request) :
    questionOf daemon r =
      { daemon
        file := r.document.path
        text := r.document.text
        offset := (String.ofList (r.document.text.take (indexOf r))).utf8ByteSize } := by
  rw [questionOf, Utf8.byteLength_eq]

theorem answers_tellErrors (r : RunResult) (notice : Text → Notice) : (tellErrors r notice).Answers := by
  unfold tellErrors
  split
  · exact .pure _
  · exact answers_tell _

theorem answers_tellUnreadable (output : Text) (mistake : Json.Mistake) :
    (tellUnreadable output mistake).Answers := by
  refine .bind (answers_tell _) fun _ => .bind .get fun s => ?_
  split
  · exact .within (.modify _)
  · exact .pure _

/-- What is read of an output. -/
theorem fst_readAnswer (output : Text) (s : Session) : (readAnswer output s).1 = listOf output := by
  unfold readAnswer listOf
  split
  · rfl
  · rcases Datum.ofJson output with e | mistake | d
    · rfl
    · exact congrArg Prod.fst ((answers_tellUnreadable output mistake).then_apply (pure []) s)
    · cases d <;> rfl

/-- **A question is one query**, and says what was to be heard next. -/
theorem put_spec (q : Question) (s : Session) :
    (put q s).1 = heard 0 s ∧ queries (put q s).2 = queries s ++ [q.invocation] ∧
      ∀ n, heard n (put q s).2 = heard (n + 1) s := by
  have hrest : ∀ r, (tellErrors r .queryErrors >>= fun _ => readAnswer r.output).Keeps asking := fun r =>
    .bind (steady_asking.tellErrors r nofun) fun _ =>
      steady_asking.readAnswer (fun _ _ => keeps_asking_record rfl) r.output
  obtain ⟨r, fed, stopped, hexec, houtput, -⟩ := exists_exec q.invocation s
  have hrun := asking_exec q.subcommand_invocation s
  rw [q.subcommand_invocation] at houtput
  have hput : (put q s).1 = r.bind (fun r => listOf r.output) ∧
      asking (put q s).2 = asking (exec q.invocation s).2 := by
    rw [put, bind_apply, hexec]
    cases r with
    | error e => exact ⟨rfl, rfl⟩
    | ok r =>
      refine ⟨?_, hrest r _⟩
      dsimp only
      rw [(answers_tellErrors _ _).then_apply, fst_readAnswer]
      rfl
  have hasking := hput.2.trans hrun
  refine ⟨?_, congrArg Prod.fst hasking, fun n => ?_⟩
  · rw [hput.1, heard, ← houtput]
    cases r <;> rfl
  · have hqueue : (put q s).2.host.script.queue queryCommand = (s.host.script.queue queryCommand).tail :=
      congrArg (·.2.1) hasking
    have hlimit : (put q s).2.client.limit = s.client.limit := congrArg (·.2.2) hasking
    rw [heard, hqueue, hlimit, List.getElem?_tail, heard]

/-! ## One question more -/

/-- Looks for the import that may be missing in the text of a question. -/
abbrev Question.wanted (q : Question) (index : Nat) : Act Session (Option AddedImport) :=
  importWanted q.text index q.offset (Path.ofText q.file)

/-- The question about the text with an import added. -/
abbrev Question.importing (q : Question) (added : AddedImport) : Question :=
  { q with text := added.text, offset := added.offset }

/-- A question that is put once more: either an import is found, and the question is about the text with it,
or there is nothing more to ask. -/
theorem putImporting_cases (q : Question) (index : Nat) (s : Session) :
    (∃ added, (q.wanted index s).1 = .ok (some added) ∧
        putImporting q index s = put (q.importing added) (q.wanted index s).2) ∨
      ((∀ added, (q.wanted index s).1 ≠ .ok (some added)) ∧ (putImporting q index s).1 = .ok [] ∧
        asking (putImporting q index s).2 = asking s) := by
  have hkept : asking (q.wanted index s).2 = asking s := steady_asking.importWanted _ _ _ _ s
  rcases hfound : q.wanted index s with ⟨found, t⟩
  have hattempt : (q.wanted index).attempt s = (.ok found, t) := by
    rw [attempt_apply, hfound]
  rw [hfound] at hkept
  rcases found with e | _ | added
  · have hput : putImporting q index s = (tell (.importFailed e) >>= fun _ => pure []) t :=
      bind_apply_ok hattempt _
    rw [hput, (answers_tell _).then_apply]
    exact .inr ⟨nofun, rfl, (keeps_asking_tell _ t).trans hkept⟩
  · have hput : putImporting q index s = (.ok [], t) := bind_apply_ok hattempt _
    rw [hput]
    exact .inr ⟨nofun, rfl, hkept⟩
  · exact .inl ⟨added, rfl, bind_apply_ok hattempt _⟩

/-- A question is put once, unless nothing is said about a dot. -/
theorem consult_of_not_dot {q : Question} {index : Nat} {word : Text} {s : Session}
    (h : ¬ (heard 0 s = .ok [] ∧ word = Provider.dot)) : consult q index word s = put q s := by
  rcases hput : put q s with ⟨e | first, t⟩
  · exact bind_apply_error hput _
  · have hheard : heard 0 s = .ok first := by
      rw [← (put_spec q s).1, hput]
    have hcond : (first.isEmpty && word == Provider.dot) = false := by
      simpa [hheard] using h
    rw [consult, bind_apply_ok hput, hcond]
    rfl

/-- If nothing is said about a dot, the import that may be missing is tried. -/
theorem consult_of_dot {q : Question} {index : Nat} {s : Session} (h : heard 0 s = .ok []) :
    consult q index Provider.dot s = putImporting q index (put q s).2 := by
  have hput : put q s = (.ok [], (put q s).2) := Prod.ext ((put_spec q s).1.trans h) rfl
  rw [consult, bind_apply_ok hput]
  rfl

/-- What is said about a question, and the queries that are run for it: there is a second one exactly if the
first one says nothing about a dot, and an import is found. -/
theorem exists_again (q : Question) (index : Nat) (word : Text) (s : Session) :
    ∃ again : Option AddedImport,
      (∀ added, again = some added ↔
        heard 0 s = .ok [] ∧ word = Provider.dot ∧ (q.wanted index (put q s).2).1 = .ok (some added)) ∧
        (consult q index word s).1 = heard again.toList.length s ∧
        queries (consult q index word s).2 =
          queries s ++ q.invocation :: (again.map fun added => (q.importing added).invocation).toList := by
  obtain ⟨hsaid, hqueries, hheard⟩ := put_spec q s
  by_cases hdot : heard 0 s = .ok [] ∧ word = Provider.dot
  · obtain ⟨hnothing, rfl⟩ := hdot
    rw [consult_of_dot hnothing]
    rcases putImporting_cases q index (put q s).2 with ⟨added, hadded, hagain⟩ | ⟨hnone, hempty, hkept⟩
    · obtain ⟨hsaid', hqueries', -⟩ := put_spec (q.importing added) (q.wanted index (put q s).2).2
      have hkept : asking (q.wanted index (put q s).2).2 = asking (put q s).2 :=
        steady_asking.importWanted _ _ _ _ _
      refine ⟨some added, fun _ => ?_, ?_, ?_⟩
      · simp [hnothing, hadded]
      · rw [hagain, hsaid', heard_of_asking hkept, hheard]
        rfl
      · rw [hagain, hqueries', queries_of_asking hkept, hqueries, List.append_assoc]
        rfl
    · refine ⟨none, fun _ => ?_, hempty.trans hnothing.symm, (queries_of_asking hkept).trans hqueries⟩
      simp [hnone]
  · rw [consult_of_not_dot hdot]
    refine ⟨none, fun _ => ?_, hsaid, hqueries⟩
    simp only [reduceCtorEq, false_iff]
    exact fun h => hdot ⟨h.1, h.2.1⟩

/-! ## Requests -/

/-- What an answer comes to: the fault of the first of those who learn of it that has one, if there is. -/
def returned (us : List Subscriber) (ss : List Suggestion) : Except Fault (List Suggestion) :=
  match us.findSome? (·.fault) with
  | some e => .error e
  | none => .ok ss

/-- An answer that arrives is what was to be answered. -/
theorem eq_of_returned {us : List Subscriber} {ss ss' : List Suggestion} (h : returned us ss = .ok ss') :
    ss' = ss := by
  unfold returned at h
  split at h
  · cases h
  · exact (Except.ok.inj h).symm

/-- The session behind somebody learning of suggestions. -/
def told (ss : List Suggestion) (u : Subscriber) (s : Session) : Session :=
  (outside (Host.record (.notify u.number ss)) s).2

/-- Behind somebody who does not fail, the others learn. -/
theorem notify_cons_of_calm {u : Subscriber} (h : u.fault = none) (ss : List Suggestion)
    (us : List Subscriber) (s : Session) : notify ss (u :: us) s = notify ss us (told ss u s) := by
  rw [notify, h]
  rfl

/-- Behind somebody who fails, nobody learns. -/
theorem notify_cons_of_failing {u : Subscriber} {e : Fault} (h : u.fault = some e) (ss : List Suggestion)
    (us : List Subscriber) (s : Session) : notify ss (u :: us) s = (.error e, told ss u s) := by
  rw [notify, h]
  rfl

theorem fst_notify (ss : List Suggestion) (us : List Subscriber) (s : Session) :
    ((notify ss us s).1.map fun _ => ss) = returned us ss := by
  induction us generalizing s with
  | nil => rfl
  | cons u us ih =>
    rw [returned, List.findSome?_cons]
    cases hu : u.fault with
    | some e =>
      rw [notify_cons_of_failing hu]
      rfl
    | none =>
      rw [notify_cons_of_calm hu]
      exact ih _

/-- Whatever is answered, everybody who subscribed may spoil it. -/
theorem fst_answer (ss : List Suggestion) (s : Session) :
    (answer ss s).1 = returned s.provider.subscribers ss := by
  rw [← fst_notify ss s.provider.subscribers s, answer, bind_apply_ok (get_apply s), bind_apply]
  rcases notify ss s.provider.subscribers s with ⟨e | _, t⟩ <;> rfl

/-- The request is answered without asking the daemon: it is blank and not made by hand, or suppressed, or
refiltered, or the daemon is not found. -/
def Unasked (r : Request) (s : Session) : Prop :=
  (r.word.strip = [] ∧ r.manual = false) ∨
    s.provider.isSuppressed r.document.text r.position r.manual = .ok true ∨
    s.provider.canRefilter r = true ∨ ∀ daemon, (findTool daemonName s).1 ≠ .ok (some daemon)

/-- A query changes nothing about queries behind what the daemon has to say. -/
theorem asking_queryDaemon (daemon word : Text) (r : Request) (s : Session) :
    asking (queryDaemon daemon r word s).2 =
      asking (consult (questionOf daemon r) (indexOf r) word s).2 := by
  rw [queryDaemon_eq]
  refine Keeps.view_bind (fun found => ?_) s
  exact .bind (keeps_asking_suggestionsOf _ _ _) fun ss => .bind (.modify fun _ => rfl) fun _ => .pure _

/-- The request goes on to a query: something is typed, or it is made by hand, and it is neither suppressed
nor refiltered. -/
structure Queries (r : Request) (s : Session) : Prop where
  typed : (r.word.strip.isEmpty && !r.manual) = false
  unsuppressed : s.provider.isSuppressed r.document.text r.position r.manual = .ok false
  anew : s.provider.canRefilter r = false

theorem Queries.suggest_eq {r : Request} {s : Session} (h : Queries r s) :
    suggest r s = (query r r.word.strip >>= answer) s := by
  rw [suggest_of_not_blank h.typed, h.unsuppressed, h.anew]
  rfl

/-- The request asks the daemon: nothing but that answers it, and the daemon is found; `t` is the session
behind looking for it. -/
structure Asks (r : Request) (s : Session) (daemon : Text) (t : Session) : Prop where
  /-- something is typed, or it is made by hand -/
  typed : (r.word.strip.isEmpty && !r.manual) = false
  /-- it is not suppressed -/
  unsuppressed : s.provider.isSuppressed r.document.text r.position r.manual = .ok false
  /-- it is not refiltered -/
  anew : s.provider.canRefilter r = false
  /-- the daemon is found -/
  found : findTool daemonName s = (.ok (some daemon), t)

namespace Asks

variable {r : Request} {s t : Session} {daemon : Text}

theorem queries (h : Asks r s daemon t) : Queries r s := ⟨h.typed, h.unsuppressed, h.anew⟩

theorem suggest_eq (h : Asks r s daemon t) :
    suggest r s = (queryDaemon daemon r r.word.strip >>= answer) t := by
  rw [h.queries.suggest_eq, query, bind_assoc, bind_apply_ok h.found]

theorem view_eq {γ : Type} {view : Session → γ} (h : Asks r s daemon t) (hview : Steady view) :
    view t = view s := (hview.findTool daemonName).of_eq h.found

theorem provider_eq (h : Asks r s daemon t) : t.provider = s.provider :=
  h.view_eq steadfast_provider.toSteady

/-- A request that the daemon has something to say about: what it suggests is remembered and answered. -/
theorem suggest_of_ok (h : Asks r s daemon t) {found : List Datum} {u : Session}
    (hsaid : consult (questionOf daemon r) (indexOf r) r.word.strip t = (.ok found, u)) :
    let ss := Suggestion.ofAnswer s.provider.snippetMode found r.document.text (indexOf r)
    suggest r s = answer ss (remember ss (suggestionsOf found r.document.text (indexOf r) u).2).2 := by
  have hquery := queryDaemon_of_ok hsaid
  rw [h.provider_eq] at hquery
  exact h.suggest_eq.trans (bind_apply_ok hquery _)

/-- A request about which nothing can be heard from the daemon breaks off. -/
theorem suggest_of_error (h : Asks r s daemon t) {e : Fault} {u : Session}
    (hsaid : consult (questionOf daemon r) (indexOf r) r.word.strip t = (.error e, u)) :
    suggest r s = (.error e, u) := by
  rw [h.suggest_eq, bind_apply_error (queryDaemon_of_error hsaid)]

/-- Nothing is remembered or learned of a request that breaks off. -/
theorem broken (h : Asks r s daemon t) {e : Fault} {u : Session}
    (hsaid : consult (questionOf daemon r) (indexOf r) r.word.strip t = (.error e, u)) :
    (suggest r s).2.provider = s.provider ∧ (suggest r s).1 = .error e := by
  rw [h.suggest_of_error hsaid]
  exact ⟨((keeps_consult _ _ _).of_eq hsaid).trans h.provider_eq, rfl⟩

/-- The queries of a request are those that are run for its question. -/
theorem queries_consult (h : Asks r s daemon t) :
    Session.queries (suggest r s).2 =
      Session.queries (consult (questionOf daemon r) (indexOf r) r.word.strip t).2 := by
  have hanswer : asking (suggest r s).2 = asking (queryDaemon daemon r r.word.strip t).2 := by
    rw [h.suggest_eq, Keeps.view_bind keeps_asking_answer]
  exact queries_of_asking (hanswer.trans (asking_queryDaemon _ _ _ _))

/-- What is suggested is remembered and answered. -/
theorem answered (h : Asks r s daemon t) {found : List Datum} {u : Session}
    (hsaid : consult (questionOf daemon r) (indexOf r) r.word.strip t = (.ok found, u)) :
    let ss := Suggestion.ofAnswer s.provider.snippetMode found r.document.text (indexOf r)
    remembered (suggest r s).2 = ss ∧ (suggest r s).1 = returned s.provider.subscribers ss := by
  intro ss
  have hcalm : calm (suggestionsOf found r.document.text (indexOf r) u).2 = calm s :=
    calc calm (suggestionsOf found r.document.text (indexOf r) u).2
      _ = calm u := keeps_suggestionsOf _ _ _ u
      _ = calm t := (keeps_calm (keeps_consult _ _ _)).of_eq hsaid
      _ = calm s := by rw [calm, h.provider_eq]
  have hsubscribers := congrArg Provider.subscribers hcalm
  rw [h.suggest_of_ok hsaid]
  refine ⟨keeps_remembered (keeps_provider (keeps_answer _)) _, ?_⟩
  rw [fst_answer]
  exact congrArg (returned · ss) hsubscribers

end Asks

/-- A request keeps what its parts keep, a query included if there is one. -/
theorem view_suggest {γ : Type} {view : Session → γ} (h : Steady view)
    (hnotify : ∀ number ss, (outside (Host.record (.notify number ss))).Keeps view)
    (hremember : ∀ ss, (remember ss).Keeps view) {r : Request} {s : Session}
    (hquery : ∀ daemon t, Asks r s daemon t → view (queryDaemon daemon r r.word.strip t).2 = view t) :
    view (suggest r s).2 = view s := by
  have hanswer : ∀ ss, (answer ss).Keeps view := keeps_answer_of hnotify
  cases hblank : r.word.strip.isEmpty && !r.manual with
  | true =>
    rw [suggest_of_blank hblank, hanswer]
    exact hremember [] s
  | false =>
    rw [suggest_of_not_blank hblank]
    split
    · rfl
    · exact hanswer _ _
    · next hsup =>
      split
      · exact hanswer _ _
      · next hre =>
        rw [Keeps.view_bind hanswer]
        rcases hf : findTool daemonName s with ⟨e | _ | daemon, t⟩
        · have hfault : query r r.word.strip s = (.error e, t) := bind_apply_error hf _
          rw [hfault]
          exact (h.findTool daemonName).of_eq hf
        · have hmissing : query r r.word.strip s = (tell .daemonMissing >>= fun _ => pure []) t :=
            bind_apply_ok hf _
          have htold : (tell .daemonMissing >>= fun _ => pure ([] : List Suggestion)).Keeps view :=
            .bind (h.tell nofun) fun _ => .pure _
          rw [hmissing, htold]
          exact (h.findTool daemonName).of_eq hf
        · have hasks : Asks r s daemon t := ⟨hblank, hsup, Bool.eq_false_iff.mpr hre, hf⟩
          have hfound : query r r.word.strip s = queryDaemon daemon r r.word.strip t := bind_apply_ok hf _
          rw [hfound, hquery daemon t hasks]
          exact hasks.view_eq h

/-- **Requests that are answered without the daemon** run no query. -/
theorem Unasked.asking_suggest {r : Request} {s : Session} (h : Unasked r s) :
    asking (suggest r s).2 = asking s := by
  refine view_suggest steady_asking (fun _ _ => keeps_asking_record rfl) (fun _ => .modify fun _ => rfl) ?_
  rintro daemon t ⟨htyped, hsup, hanew, hfound⟩
  rcases h with ⟨hword, hmanual⟩ | h | h | h
  · simp [hword, hmanual] at htyped
  · cases hsup.symm.trans h
  · cases hanew.symm.trans h
  · exact absurd (congrArg Prod.fst hfound) (h daemon)

/-- Any other request asks the daemon, if the cursor lies in the text. -/
theorem exists_asks {r : Request} {s : Session} (h : ¬ Unasked r s)
    (hcursor : indexOf r ≤ r.document.text.length) : ∃ daemon t, Asks r s daemon t := by
  obtain ⟨hword, hsup, hre, hfound⟩ := not_or.mp h |>.imp_right (not_or.mp · |>.imp_right not_or.mp)
  have hunsuppressed : s.provider.isSuppressed r.document.text r.position r.manual = .ok false := by
    obtain ⟨b, hb⟩ := s.provider.isSuppressed_of_le r.document.text r.position r.manual hcursor
    cases b with
    | false => exact hb
    | true => exact absurd hb hsup
  obtain ⟨daemon, hdaemon⟩ := Classical.not_forall_not.mp hfound
  exact ⟨daemon, _, by simpa using hword, hunsuppressed, Bool.eq_false_iff.mpr hre, Prod.ext hdaemon rfl⟩

/-- **A request runs exactly the queries that it should.** If it is answered without the daemon, it runs
none. Otherwise it runs one, which is handed the text of the document, and told its path and the number of bytes in
front of the cursor. It runs one more exactly if that one says nothing about a dot and an import is found, about the
text with the import. What is heard of the last of them is made suggestions of, for the text as it was, and these
are remembered and answered. If nothing is heard of it, because the run fails or its output passes a limit, the
request breaks off, and the provider is as before. -/
theorem queries_suggest (r : Request) (s : Session) (hcursor : indexOf r ≤ r.document.text.length) :
    let text := r.document.text
    let file := Path.ofText r.document.path
    let bytes : Nat := (String.ofList (text.take (indexOf r))).utf8ByteSize
    (Unasked r s → queries (suggest r s).2 = queries s) ∧
      (¬ Unasked r s → ∃ daemon again, (findTool "gocode".toList s).1 = .ok (some daemon) ∧
        let asks (t : Text) (offset : Int) : Invocation :=
          { command := daemon
            args := ["-f=json".toList, "autocomplete".toList, r.document.path, (toString offset).toList]
            input := some t
            directory := some file.parent.toText }
        let asked := put { daemon, file := r.document.path, text, offset := bytes }
        (∀ added, again = some added ↔
          heard 0 s = .ok [] ∧ r.word.strip = ['.'] ∧
            (importWanted text (indexOf r) bytes file (asked (findTool "gocode".toList s).2).2).1 =
              .ok (some added)) ∧
          queries (suggest r s).2 =
            queries s ++ asks text bytes :: (again.map fun a => asks a.text a.offset).toList ∧
          (∀ found, heard again.toList.length s = .ok found →
            let ss := Suggestion.ofAnswer s.provider.snippetMode found text (indexOf r)
            remembered (suggest r s).2 = ss ∧ (suggest r s).1 = returned s.provider.subscribers ss) ∧
          ∀ e, heard again.toList.length s = .error e →
            ((∃ reason, e = .failed reason) ∨ Json.Limit e) ∧
              (suggest r s).2.provider = s.provider ∧ (suggest r s).1 = .error e) := by
  intro text file bytes
  refine ⟨fun h => queries_of_asking h.asking_suggest, fun h => ?_⟩
  obtain ⟨daemon, t, hasks⟩ := exists_asks h hcursor
  have hasking : asking t = asking s := hasks.view_eq steady_asking
  have hfound : findTool "gocode".toList s = (.ok (some daemon), t) := hasks.found
  obtain ⟨again, hagain, hsaid, hqueries⟩ := exists_again (questionOf daemon r) (indexOf r) r.word.strip t
  rw [heard_of_asking hasking] at hagain hsaid
  rw [← hasks.queries_consult, queries_of_asking hasking] at hqueries
  rw [questionOf_eq] at hagain hqueries
  refine ⟨daemon, again, congrArg Prod.fst hfound, ?_⟩
  intro asks asked
  refine ⟨?_, ?_, fun found hheard => ?_, fun e hheard => ?_⟩
  · rw [hfound]
    exact hagain
  · simpa only [Question.importing, Question.invocation_eq] using hqueries
  · exact hasks.answered (Prod.ext (hsaid.trans hheard) rfl)
  · exact ⟨heard_eq_error hheard, hasks.broken (Prod.ext (hsaid.trans hheard) rfl)⟩

/-! ## A daemon at work -/

/-- A session with a daemon and with Go, the runs of which come to what is given. -/
def working (script : Script) : Session :=
  start
    { home := "/root".toList
      tools := [(daemonName, "/usr/bin/gocode".toList), (goName, "/usr/bin/go".toList)] }
    {} true { script }

/-- A tool that writes a text and is content. -/
def writes (output : String) : Outcome := .exited output.toUTF8.toList [] (some 0)

/-- A completion at the end of a document of two lines, the second of which is given. -/
def atLineEnd (line word : String) : Request :=
  { document :=
      { uri := "file:///main.go".toList, path := "/main.go".toList
        text := "package main\n".toList ++ line.toList }
    position := { line := 1, character := line.length }
    word := word.toList }

/-- Behind a dot, a package is imported for the second query, and the answer to that is remembered. -/
theorem queries_dot :
    let r := atLineEnd "var é = fmt." "."
    let s := working [
      (queryCommand,
        [writes "[]", writes "[0,[\x7b\"class\":\"var\",\"name\":\"foo\",\"type\":\"int\"\x7d]]"]),
      ("version".toList, [writes "go version go1.20 linux/amd64\n"]), ("list".toList, [writes "fmt\n"])]
    let first : Invocation :=
      { command := "/usr/bin/gocode".toList
        args := ["-f=json", "autocomplete", "/main.go", "26"].map String.toList
        input := some "package main\nvar é = fmt.".toList
        directory := some "/".toList }
    let second : Invocation :=
      { command := "/usr/bin/gocode".toList
        args := ["-f=json", "autocomplete", "/main.go", "40"].map String.toList
        input := some "package main\n\nimport \"fmt\"\nvar é = fmt.".toList
        directory := some "/".toList }
    let foo : Suggestion :=
      { label := "int".toList, kind := .variable, text := some "foo".toList, key := some "foo".toList }
    (indexOf r ≤ r.document.text.length ∧ ¬ Unasked r s) ∧ queries (suggest r s).2 = [first, second] ∧
      remembered (suggest r s).2 = [foo] ∧ (suggest r s).1 = .ok [foo] := by
  intro r s first second foo
  have hcursor : indexOf r ≤ r.document.text.length := by decide +kernel
  have hdaemon : (findTool daemonName s).1 = .ok (some "/usr/bin/gocode".toList) := by decide +kernel
  have hasked : ¬ Unasked r s := by
    rintro (h | h | h | h)
    · exact absurd h.1 (by decide +kernel)
    · exact absurd h (by decide +kernel)
    · exact absurd h (by decide +kernel)
    · exact h _ hdaemon
  have hnothing : heard 0 s = .ok [] := by
    have hempty : (heard 0 s).map List.isEmpty = .ok true := by decide +kernel
    cases hfirst : heard 0 s with
    | error e =>
      rw [hfirst] at hempty
      cases hempty
    | ok found =>
      rw [hfirst] at hempty
      exact congrArg _ (List.isEmpty_iff.mp (Except.ok.inj hempty))
  obtain ⟨daemon, again, hfound, hagain, hqueries, hok, -⟩ := (queries_suggest r s hcursor).2 hasked
  obtain rfl : "/usr/bin/gocode".toList = daemon :=
    Option.some.inj (Except.ok.inj (hdaemon.symm.trans hfound))
  obtain rfl : again = some _ := (hagain ⟨"package main\n\nimport \"fmt\"\nvar é = fmt.".toList, 40⟩).mpr
    ⟨hnothing, by decide +kernel, by decide +kernel⟩
  have hfoo : (heard 1 s).map (Suggestion.ofAnswer s.provider.snippetMode · r.document.text (indexOf r)) =
      .ok [foo] := by decide +kernel
  cases hsecond : heard 1 s with
  | error e =>
    rw [hsecond] at hfoo
    cases hfoo
  | ok found =>
    rw [hsecond] at hfoo
    obtain ⟨hremembered, hreturned⟩ := hok found hsecond
    have hss : Suggestion.ofAnswer s.provider.snippetMode found r.document.text (indexOf r) = [foo] :=
      Except.ok.inj hfoo
    rw [hss] at hremembered hreturned
    exact ⟨⟨hcursor, hasked⟩, hqueries.trans (by decide +kernel), hremembered, hreturned⟩

/-- **An answer that holds a number of too many digits** cannot be heard: the request breaks off, although
the answer is no list. -/
theorem longNumber_unheard :
    let r := atLineEnd "fo" "fo"
    let s := working [(queryCommand, [.exited (List.replicate 4301 '1'.toUInt8) [] (some 0)])]
    indexOf r ≤ r.document.text.length ∧ ¬ Unasked r s ∧ s.provider.subscribers = [] ∧
      (suggest r s).1 = .error (Numeral.tooMany 4301) := by
  intro r s
  refine ⟨by decide +kernel, ?_, rfl, by decide +kernel⟩
  rintro (h | h | h | h)
  · exact absurd h.1 (by decide +kernel)
  · exact absurd h (by decide +kernel)
  · exact absurd h (by decide +kernel)
  · exact h "/usr/bin/gocode".toList (by decide +kernel)

end Session

end GoCompletion
