import GoCompletion.Proofs.Session.Frame

/-!
# The course of a request

A request is answered on one of a few courses, and **which one it is depends on the session in front of it
and on what the runs of tools come to** (`Session.course`). The course settles the answer and what becomes
of the suggestions that are remembered (`Session.took_course`):

* `blank` and `suppressed` — nothing is completed; only in the first case nothing is remembered any more;
* `refiltered` — what is remembered is filtered, and stays;
* `missing` — there is no daemon, and what is remembered stays;
* `queried` — the daemon was asked to the end, and what it suggests is answered and remembered;
* `failed` — something goes wrong before there are suggestions, and what is remembered stays.
-/

namespace GoCompletion

/-- The course that a request takes. -/
inductive Course where
  /-- nothing is typed, and it was not asked for by hand -/
  | blank
  /-- nothing is completed at the cursor -/
  | suppressed
  /-- what is remembered is refiltered -/
  | refiltered
  /-- the daemon is not installed -/
  | missing
  /-- the daemon is asked to the end, with some suggestions -/
  | queried (ss : List Suggestion)
  /-- something goes wrong before there are suggestions -/
  | failed (e : Fault)
  deriving DecidableEq

namespace Session

open Act

/-- The course of a request that is neither settled by the text nor by what is remembered. -/
def queryCourse (r : Request) (s : Session) : Course :=
  match findTool daemonName s with
  | (.error e, _) => .failed e
  | (.ok none, _) => .missing
  | (.ok (some daemon), t) =>
    match (queryDaemon daemon r r.word.strip t).1 with
    | .error e => .failed e
    | .ok ss => .queried ss

/-- The course that a request takes in a session. -/
def course (r : Request) (s : Session) : Course :=
  if r.word.strip.isEmpty && !r.manual then .blank
  else
    match s.provider.isSuppressed r.document.text r.position r.manual with
    | .error e => .failed e
    | .ok true => .suppressed
    | .ok false => if s.provider.canRefilter r then .refiltered else queryCourse r s

/-! ## A query -/

theorem answers_tell (n : Notice) : (tell n).Answers := by
  refine .bind .get fun s => ?_
  split
  · exact .within (.modify _)
  · exact .pure _

/-- The daemon being in trouble is learnt of without fail. -/
theorem answers_learnPanic : learnPanic.Answers := by
  refine .bind .get fun s => ?_
  split
  · exact .pure _
  · refine .bind (.modify _) fun _ => .bind (answers_tell _) fun _ => ?_
    split
    · exact .modify _
    · exact .pure _

/-- Whatever is left to be settled, that never fails. -/
theorem answers_settle : settle.Answers := by
  have hmake : makeOffer.Answers := by
    refine .bind (.modify _) fun _ => .bind (.attempt _) fun r => ?_
    split
    · exact .pure _
    · exact answers_tell _
  refine .bind .get fun s => ?_
  split
  · exact hmake
  · exact .pure _

/-- Making suggestions of an answer never fails, and goes by the settings. -/
theorem fst_suggestionsOf (found : List Datum) (t : Text) (index : Int) (s : Session) :
    (suggestionsOf found t index s).1 =
      .ok (Suggestion.ofAnswer s.provider.snippetMode found t index) := by
  unfold suggestionsOf
  split
  · have hcalm := keeps_learnPanic s
    rw [answers_learnPanic.then_apply]
    change Except.ok (Suggestion.ofAnswer (calm (learnPanic s).2).snippetMode found t index) = _
    rw [hcalm]
  · rfl

/-- What the daemon has to say about a question; once more, with the wanted package imported, if it has
nothing to say about a dot. -/
def consult (q : Question) (index : Nat) (word : Text) : Act Session (List Datum) := do
  let first ← put q
  if first.isEmpty && word == Provider.dot then putImporting q index else pure first

/-- The question that a request puts to the daemon. -/
def questionOf (daemon : Text) (r : Request) : Question :=
  { daemon
    file := r.document.path
    text := r.document.text
    offset := Utf8.byteLength (r.document.text.take (Document.locate r.document.text r.position).1) }

/-- The index of the cursor of a request. -/
abbrev indexOf (r : Request) : Nat := (Document.locate r.document.text r.position).1

/-- A query makes suggestions of what the daemon has to say, and remembers them. -/
theorem queryDaemon_eq (daemon : Text) (r : Request) (word : Text) :
    queryDaemon daemon r word =
      (consult (questionOf daemon r) (indexOf r) word >>= fun found =>
        suggestionsOf found r.document.text (indexOf r) >>= fun ss => remember ss >>= fun _ => pure ss) := by
  unfold queryDaemon consult
  rw [bind_assoc]
  refine bind_congr fun first => ?_
  split <;> rfl

theorem Steadfast.consult {γ : Type} {view : Session → γ} (h : Steadfast view) (q : Question)
    (index : Nat) (word : Text) : (consult q index word).Keeps view := by
  refine .bind (h.put q) fun first => ?_
  split
  · exact h.putImporting q index
  · exact .pure _

theorem keeps_consult (q : Question) (index : Nat) (word : Text) :
    (consult q index word).Keeps (·.provider) := steadfast_provider.consult q index word

/-- A query of a daemon that has something to say: what is suggested is remembered. -/
theorem queryDaemon_of_ok {daemon word : Text} {r : Request} {s t : Session} {found : List Datum}
    (h : consult (questionOf daemon r) (indexOf r) word s = (.ok found, t)) :
    let ss := Suggestion.ofAnswer s.provider.snippetMode found r.document.text (indexOf r)
    queryDaemon daemon r word s =
      (.ok ss, (remember ss (suggestionsOf found r.document.text (indexOf r) t).2).2) := by
  intro ss
  have hprovider : t.provider = s.provider := (keeps_consult _ _ _).of_eq h
  have hss := fst_suggestionsOf found r.document.text (indexOf r) t
  rw [hprovider] at hss
  rw [queryDaemon_eq, bind_apply_ok h, bind_apply_ok (Prod.ext hss rfl)]
  rfl

/-- A query that fails. -/
theorem queryDaemon_of_error {daemon word : Text} {r : Request} {s t : Session} {e : Fault}
    (h : consult (questionOf daemon r) (indexOf r) word s = (.error e, t)) :
    queryDaemon daemon r word s = (.error e, t) := by
  rw [queryDaemon_eq, bind_apply_error h]

/-- **What a query answers is remembered**, and a query that fails has not touched the provider. -/
theorem queryDaemon_cases (daemon : Text) (r : Request) (word : Text) (s : Session) :
    (∃ ss t, queryDaemon daemon r word s = (.ok ss, t) ∧ remembered t = ss) ∨
      ∃ e t, queryDaemon daemon r word s = (.error e, t) ∧ t.provider = s.provider := by
  rcases hc : consult (questionOf daemon r) (indexOf r) word s with ⟨e | found, t⟩
  · exact .inr ⟨e, t, queryDaemon_of_error hc, (keeps_consult _ _ _).of_eq hc⟩
  · exact .inl ⟨_, _, queryDaemon_of_ok hc, rfl⟩

/-- A query without a daemon finds nothing, and that is told. -/
theorem query_of_missing (r : Request) (word : Text) {s t : Session}
    (h : findTool daemonName s = (.ok none, t)) :
    query r word s = (.ok [], (tell .daemonMissing t).2) ∧
      (tell .daemonMissing t).2.provider = s.provider := by
  refine ⟨(bind_apply_ok h _).trans ((answers_tell _).then_apply _ t), ?_⟩
  exact (keeps_provider (keeps_tell _) t).trans ((steadfast_provider.findTool daemonName).of_eq h)

/-! ## What a request does -/

/-- What a request does on a course: what is answered, and the session in which it is answered. -/
def Took (r : Request) (s : Session) : Course → Prop
  | .blank => suggest r s = answer [] (remember [] s).2
  | .suppressed => suggest r s = answer [] s
  | .refiltered => suggest r s = answer (s.provider.refilter r.word.strip) s
  | .missing => ∃ t, t.provider = s.provider ∧ suggest r s = answer [] t
  | .queried ss => ∃ t, remembered t = ss ∧ suggest r s = answer ss t
  | .failed e => ∃ t, t.provider = s.provider ∧ suggest r s = (.error e, t)

/-- A request that goes on to a query takes the course of that. -/
theorem took_queryCourse {r : Request} {s : Session}
    (h : suggest r s = (query r r.word.strip >>= answer) s) : Took r s (queryCourse r s) := by
  have hkept : (findTool daemonName s).2.provider = s.provider := steadfast_provider.findTool daemonName s
  unfold queryCourse
  rcases hf : findTool daemonName s with ⟨e | _ | daemon, t⟩ <;> rw [hf] at hkept
  · -- looking for the daemon fails
    refine ⟨t, hkept, ?_⟩
    rw [h, query, bind_assoc, bind_apply_error hf]
  · obtain ⟨hmissing, hprovider⟩ := query_of_missing r r.word.strip hf
    exact ⟨_, hprovider, h.trans (bind_apply_ok hmissing _)⟩
  · -- the daemon is there, and the query decides
    have hquery : suggest r s = (queryDaemon daemon r r.word.strip >>= answer) t := by
      rw [h, query, bind_assoc, bind_apply_ok hf]
    rcases queryDaemon_cases daemon r r.word.strip t with ⟨ss, u, hq, hss⟩ | ⟨e, u, hq, hu⟩
    · simp only [hq]
      exact ⟨u, hss, hquery.trans (bind_apply_ok hq _)⟩
    · simp only [hq]
      exact ⟨u, hu.trans hkept, hquery.trans (bind_apply_error hq _)⟩

/-- A request with nothing typed that is not made by hand. -/
theorem suggest_of_blank {r : Request} (h : (r.word.strip.isEmpty && !r.manual) = true) (s : Session) :
    suggest r s = answer [] (remember [] s).2 := by
  simp only [suggest, h, if_true]
  rfl

/-- Any other request goes by what is in front of the cursor, and then by what is remembered. -/
theorem suggest_of_not_blank {r : Request} (h : (r.word.strip.isEmpty && !r.manual) = false)
    (s : Session) :
    suggest r s =
      match s.provider.isSuppressed r.document.text r.position r.manual with
      | .error e => (.error e, s)
      | .ok true => answer [] s
      | .ok false =>
        if s.provider.canRefilter r then answer (s.provider.refilter r.word.strip) s
        else (query r r.word.strip >>= answer) s := by
  simp only [suggest, h, Bool.false_eq_true, if_false, bind_apply, get_apply, ofExcept_apply]
  rcases s.provider.isSuppressed r.document.text r.position r.manual with e | _ | _
  · rfl
  · simp only [Bool.false_eq_true, if_false]
    split <;> rfl
  · rfl

/-- **A request does what its course says.** -/
theorem took_course (r : Request) (s : Session) : Took r s (course r s) := by
  unfold course
  cases hblank : r.word.strip.isEmpty && !r.manual with
  | true => exact suggest_of_blank hblank s
  | false =>
    have hsuggest := suggest_of_not_blank hblank s
    rw [if_neg Bool.false_ne_true]
    rcases hsup : s.provider.isSuppressed r.document.text r.position r.manual with e | _ | _ <;>
      rw [hsup] at hsuggest
    · exact ⟨s, rfl, hsuggest⟩
    · by_cases hre : s.provider.canRefilter r = true
      · simp only [hre, if_true] at hsuggest ⊢
        exact hsuggest
      · simp only [hre, Bool.false_eq_true, if_false] at hsuggest ⊢
        exact took_queryCourse hsuggest
    · exact hsuggest

end Session

end GoCompletion
