import GoCompletion.Proofs.Session.Delivery

/-!
# What a request breaks off with

A request for which the daemon is asked breaks off in three places: where the daemon is looked for, at the
first query and at the second one (`Session.Breaks`). **Nothing that happens while a package is looked up**
breaks it off, whatever the version of Go and the list of packages come to; and a query does so only if its
process fails as nobody expects, or writes what passes a limit of JSON (`Session.suggest_error_iff`).
-/

namespace GoCompletion

namespace Session

open Act

/-! ## Queries that are not heard -/

/-- A query for which there are `limit` seconds is not heard: its process fails as nobody expects, or what it
has written in time passes a limit. -/
def Unheard (limit : Seconds) (e : Fault) : Outcome → Prop
  | .failed reason => e = .failed reason
  | .exited bytes _ _ =>
    limit.isNone = false ∧ listOf (Utf8.decodeLenient bytes) = .error e ∧ Json.Limit e
  | .unstarted _ | .hung => False

/-- What the query behind `n` others comes to. -/
def outcome (n : Nat) (s : Session) : Outcome := (s.host.script.queue queryCommand)[n]?.getD .quiet

theorem heard_eq_error_iff {n : Nat} {s : Session} {e : Fault} :
    heard n s = .error e ↔ Unheard (.real s.client.limit) e (outcome n s) := by
  have hheard : heard n s = ((outcome n s).output (.real s.client.limit)).bind listOf := rfl
  rw [hheard]
  cases outcome n s with
  | failed reason =>
    have hsame : Fault.failed reason = e ↔ e = Fault.failed reason := eq_comm
    simpa [Outcome.output, Except.bind, Unheard] using hsame
  | unstarted reason => simp [Outcome.output, Except.bind, Unheard, listOf]
  | hung => simp [Outcome.output, Except.bind, Unheard, Seconds.isTooLarge, listOf]
  | exited bytes errors code =>
    cases hnone : (Seconds.real s.client.limit).isNone with
    | true => simp [Outcome.output, Except.bind, Unheard, Seconds.isTooLarge, hnone, listOf]
    | false =>
      simp only [Outcome.output, Except.bind, Unheard, Seconds.isTooLarge, hnone, Bool.false_eq_true,
        if_false, true_and]
      exact ⟨fun h => ⟨h, limit_of_listOf h⟩, And.left⟩

/-! ## Requests that break off -/

/-- The request breaks off with a fault, in one of three places. -/
inductive Breaks (r : Request) (s : Session) (e : Fault) : Prop
  /-- the daemon cannot be looked for -/
  | lookup (queries : Queries r s) (failed : (findTool daemonName s).1 = .error e)
  /-- the query is not heard -/
  | first {daemon : Text} {t : Session} (asks : Asks r s daemon t) (unheard : heard 0 s = .error e)
  /-- nothing is said about a dot, and the query with an import is not heard -/
  | second {daemon : Text} {t : Session} (asks : Asks r s daemon t) (nothing : heard 0 s = .ok [])
      (dot : r.word.strip = Provider.dot) {added : AddedImport}
      (wanted : ((questionOf daemon r).wanted (indexOf r) (put (questionOf daemon r) t).2).1 =
        .ok (some added))
      (unheard : heard 1 s = .error e)

variable {r : Request} {s t : Session}

/-- Those who do not fail leave an answer as it is. -/
theorem returned_of_calm {us : List Subscriber} (h : ∀ u ∈ us, u.fault = none) (ss : List Suggestion) :
    returned us ss = .ok ss := by
  have hnobody : us.findSome? (·.fault) = none := List.findSome?_eq_none_iff.mpr h
  rw [returned, hnobody]

namespace Asks

variable {daemon : Text}

/-- Only one session is there behind looking for the daemon. -/
theorem unique {daemon' : Text} {t' : Session} (h : Asks r s daemon t) (h' : Asks r s daemon' t') :
    daemon' = daemon ∧ t' = t := by
  obtain ⟨hfound, ht⟩ := Prod.mk.inj (h'.found.symm.trans h.found)
  exact ⟨Option.some.inj (Except.ok.inj hfound), ht⟩

/-- A request that asks the daemon breaks off where one of its queries is not heard. -/
theorem fst_eq_error_iff (h : Asks r s daemon t) (hcalm : ∀ u ∈ s.provider.subscribers, u.fault = none)
    {e : Fault} : (suggest r s).1 = .error e ↔ Breaks r s e := by
  have hheard : ∀ n, heard n t = heard n s := heard_of_asking (h.view_eq steady_asking)
  obtain ⟨again, hagain, hsaid, -⟩ := exists_again (questionOf daemon r) (indexOf r) r.word.strip t
  simp only [hheard] at hagain hsaid
  have hanswer : (suggest r s).1 = .error e ↔ heard again.toList.length s = .error e := by
    cases hlast : heard again.toList.length s with
    | error e' =>
      rw [h.suggest_of_error (Prod.ext (hsaid.trans hlast) rfl), Except.error.injEq, Except.error.injEq]
    | ok found =>
      rw [(h.answered (Prod.ext (hsaid.trans hlast) rfl)).2, returned_of_calm hcalm]
      simp only [reduceCtorEq]
  rw [hanswer]
  constructor
  · intro hunheard
    cases again with
    | none => exact .first h hunheard
    | some added =>
      obtain ⟨hnothing, hdot, hwanted⟩ := (hagain added).mp rfl
      exact .second h hnothing hdot hwanted hunheard
  · rintro (⟨-, hfailed⟩ | ⟨-, hunheard⟩ | ⟨hasks, hnothing, hdot, hwanted, hunheard⟩)
    · cases (congrArg Prod.fst h.found).symm.trans hfailed
    · -- where the first query is not heard, there is no second one
      have hnone : again = none := by
        refine Option.eq_none_iff_forall_ne_some.mpr fun added hadded => ?_
        cases hunheard.symm.trans ((hagain added).mp hadded).1
      rw [hnone]
      exact hunheard
    · obtain ⟨rfl, rfl⟩ := h.unique hasks
      rw [(hagain _).mpr ⟨hnothing, hdot, hwanted⟩]
      exact hunheard

end Asks

/-- A request that breaks off goes on to a query. -/
theorem Breaks.queries {e : Fault} (h : Breaks r s e) : Queries r s := by
  cases h with
  | lookup hquery _ => exact hquery
  | first hasks _ => exact hasks.queries
  | second hasks _ _ _ _ => exact hasks.queries

/-- Without a daemon a request breaks off only where that is looked for. -/
theorem Breaks.lookup_of_missing {e : Fault} (h : Breaks r s e)
    (hmissing : ∀ daemon, (findTool daemonName s).1 ≠ .ok (some daemon)) :
    (findTool daemonName s).1 = .error e := by
  cases h with
  | lookup _ hfailed => exact hfailed
  | first hasks _ => exact absurd (congrArg Prod.fst hasks.found) (hmissing _)
  | second hasks _ _ _ _ => exact absurd (congrArg Prod.fst hasks.found) (hmissing _)

/-- A request that goes on to a query. -/
theorem Queries.fst_eq_error_iff (hquery : Queries r s)
    (hcalm : ∀ u ∈ s.provider.subscribers, u.fault = none) {e : Fault} :
    (suggest r s).1 = .error e ↔ Breaks r s e := by
  have hsuggest := hquery.suggest_eq
  rcases hf : findTool daemonName s with ⟨e' | _ | daemon, t⟩
  · have hlookup : (suggest r s).1 = (findTool daemonName s).1.map fun _ => [] := by
      rw [hsuggest, query, bind_assoc, bind_apply_error hf, hf]
      rfl
    rw [hlookup, hf]
    refine ⟨fun h => ?_, fun h => ?_⟩
    · cases h
      exact .lookup hquery (congrArg Prod.fst hf)
    · have hfailed := h.lookup_of_missing (by simp [hf])
      rw [hf] at hfailed
      cases hfailed
      rfl
  · obtain ⟨hmissing, hprovider⟩ := query_of_missing r r.word.strip hf
    have hok : (suggest r s).1 = .ok [] := by
      rw [hsuggest, bind_apply_ok hmissing, fst_answer, hprovider, returned_of_calm hcalm]
    refine ⟨fun h => ?_, fun h => ?_⟩
    · cases hok.symm.trans h
    · have hfailed := h.lookup_of_missing (by simp [hf])
      cases (congrArg Prod.fst hf).symm.trans hfailed
  · exact Asks.fst_eq_error_iff ⟨hquery.typed, hquery.unsuppressed, hquery.anew, hf⟩ hcalm

/-- A request that does not go on to a query is answered, if the cursor lies in the text. -/
theorem exists_answered_of_not_query (hcalm : ∀ u ∈ s.provider.subscribers, u.fault = none)
    (hcursor : indexOf r ≤ r.document.text.length) (hnot : ¬ Queries r s) :
    ∃ ss, (suggest r s).1 = .ok ss := by
  cases hblank : r.word.strip.isEmpty && !r.manual with
  | true =>
    rw [suggest_of_blank hblank, fst_answer]
    exact ⟨[], returned_of_calm hcalm []⟩
  | false =>
    obtain ⟨b, hsup⟩ := s.provider.isSuppressed_of_le r.document.text r.position r.manual hcursor
    have hsuggest := suggest_of_not_blank hblank s
    rw [hsup] at hsuggest
    cases b with
    | true =>
      rw [hsuggest, fst_answer]
      exact ⟨[], returned_of_calm hcalm []⟩
    | false =>
      have hre : s.provider.canRefilter r = true :=
        Bool.not_eq_false _ |>.mp fun hanew => hnot ⟨hblank, hsup, hanew⟩
      rw [hsuggest, hre, if_pos rfl, fst_answer]
      exact ⟨_, returned_of_calm hcalm _⟩

/-- **What a request breaks off with.** If nobody who learns of suggestions fails, and the cursor lies in the
text, a request breaks off exactly

* where the daemon cannot be looked for,
* where the query about the text is not heard, and
* where nothing is said about a dot, an import is found, and the query about the text with it is not heard;

and what keeps a query from being heard is exactly a process that fails as nobody expects, or an output that
passes a limit. So if the daemon can be looked for and neither query is unheard, there is an answer,
**whatever the processes come to that look up packages**. -/
theorem suggest_error_iff (r : Request) (s : Session)
    (hcalm : ∀ u ∈ s.provider.subscribers, u.fault = none)
    (hcursor : indexOf r ≤ r.document.text.length) :
    (∀ e, (suggest r s).1 = .error e ↔ Breaks r s e) ∧
      (∀ n e, heard n s = .error e ↔ Unheard (.real s.client.limit) e (outcome n s)) ∧
      ((∀ e, (findTool daemonName s).1 ≠ .error e) → (∀ n < 2, ∀ e, heard n s ≠ .error e) →
        ∃ ss, (suggest r s).1 = .ok ss) := by
  have hbreaks : ∀ e, (suggest r s).1 = .error e ↔ Breaks r s e := by
    intro e
    by_cases hquery : Queries r s
    · exact hquery.fst_eq_error_iff hcalm
    · obtain ⟨ss, hss⟩ := exists_answered_of_not_query hcalm hcursor hquery
      rw [hss]
      exact ⟨nofun, fun h => absurd h.queries hquery⟩
  refine ⟨hbreaks, fun n e => heard_eq_error_iff, fun hlookup hheard => ?_⟩
  cases hsuggest : (suggest r s).1 with
  | ok ss => exact ⟨ss, rfl⟩
  | error e =>
    obtain ⟨-, hfailed⟩ | ⟨-, hunheard⟩ | ⟨-, -, -, -, hunheard⟩ := (hbreaks e).mp hsuggest
    · exact absurd hfailed (hlookup e)
    · exact absurd hunheard (hheard 0 Nat.zero_lt_two e)
    · exact absurd hunheard (hheard 1 Nat.one_lt_two e)

/-- A session in which asking for the version of Go fails as nobody expects, behind a query that says
nothing. -/
def versionFails : Session :=
  working [(queryCommand, [writes "[]"]), ("version".toList, [.failed "boom".toList])]

/-- Behind a dot, the version of Go is asked for, and that it fails does not matter. -/
theorem suggest_versionFails :
    let r := atLineEnd "fmt." "."
    ((∀ u ∈ versionFails.provider.subscribers, u.fault = none) ∧
        indexOf r ≤ r.document.text.length) ∧
      (∃ ss, (suggest r versionFails).1 = .ok ss) ∧
        (suggest r versionFails).2.host.script.queue "version".toList = [] := by
  intro r
  have hcursor : indexOf r ≤ r.document.text.length := by decide +kernel
  obtain ⟨-, -, hanswered⟩ := suggest_error_iff r versionFails nofun hcursor
  have hfound : (findTool daemonName versionFails).1 = .ok (some "/usr/bin/gocode".toList) := by
    decide +kernel
  have hheard : ∀ n < 2, ∀ e, heard n versionFails ≠ .error e := by
    have hok : ∀ n < 2, (heard n versionFails).isOk = true := by decide +kernel
    intro n hn e herror
    have hthere := hok n hn
    rw [herror] at hthere
    cases hthere
  exact ⟨⟨nofun, hcursor⟩, hanswered (by simp [hfound]) hheard, by decide +kernel⟩

/-- **A query that fails as nobody expects** takes the answer with it, although nobody who learns of
suggestions fails, and the cursor lies in the text. -/
theorem suggest_queryFails :
    let r := atLineEnd "fo" "fo"
    let s := working [(queryCommand, [.failed "boom".toList])]
    s.provider.subscribers = [] ∧ indexOf r ≤ r.document.text.length ∧
      (suggest r s).1 = .error (.failed "boom".toList) := by
  intro r s
  exact ⟨rfl, by decide +kernel, by decide +kernel⟩

end Session

end GoCompletion
