import GoCompletion.Proofs.Session.Steady

/-!
# What is on record

All that a session does outside is on record, in turn, and what matters of it is read off event by event
(`Session.noted`). **Events that a reading passes over add nothing to what is noted.** No reading here is
about notices or about stopping a tool (`Overlooks`), so a run of a tool adds at most one note, that of the
run itself (`Overlooks.exists_noted_exec`).
-/

namespace GoCompletion

/-- A reading of events that passes over notices, and over tools being stopped. -/
structure Overlooks {β : Type} (reading : Event → Option β) : Prop where
  /-- it passes over notices -/
  log (n : Notice) : reading (.log n) = none
  /-- it passes over tools that are killed -/
  kill : reading .kill = none
  /-- it passes over the end of killed tools -/
  wait : reading .wait = none

namespace Session

open Act

/-- What a run of a tool comes to, and what is on record behind it: the run, and that the tool is stopped if
it is. -/
theorem exists_exec (i : Invocation) (s : Session) :
    ∃ r fed stopped, exec i s = (r, { s with host := s.host.behind i (.run i fed :: stopped) }) ∧
      r.map RunResult.output =
        ((s.host.script.queue i.subcommand)[0]?.getD Outcome.quiet).output (.real s.client.limit) ∧
      ∀ e ∈ stopped, e = .kill ∨ e = .wait := by
  obtain ⟨r, fed, stopped, houtput, hstopped, hrun⟩ := Host.exists_run (.real s.client.limit) i s.host
  refine ⟨r, fed, stopped, ?_, ?_, hstopped⟩
  · change ((Host.run (.real s.client.limit) i s.host).1,
      { s with host := (Host.run (.real s.client.limit) i s.host).2 }) = _
    rw [hrun]
  · rw [houtput, Script.fst_take, List.headD_eq_head?_getD, List.head?_eq_getElem?]

variable {β : Type} {reading : Event → Option β}

/-- What a reading has to say of the events on record, in turn. -/
def noted (reading : Event → Option β) (s : Session) : List β := s.host.trace.filterMap reading

/-- Behind more events there is on record what there was, and what the reading has to say of these. -/
theorem noted_behind (s : Session) {h : Host} {events : List Event}
    (htrace : h.trace = s.host.trace ++ events) :
    noted reading { s with host := h } = noted reading s ++ events.filterMap reading := by
  rw [noted, htrace, List.filterMap_append, noted]

theorem keeps_noted_record {e : Event} (h : reading e = none) :
    (outside (Host.record e)).Keeps (noted reading) := by
  intro s
  have hnothing : [e].filterMap reading = [] := List.filterMap_cons_none h
  exact (noted_behind s rfl).trans (by rw [hnothing, List.append_nil])

/-- A question to the editor is one event, whatever the answer. -/
theorem keeps_noted_ask {severity : Severity} {question : Text} {titles : List Text}
    (h : reading (.ask severity question titles) = none) :
    (outside (Host.ask severity question titles)).Keeps (noted reading) := by
  intro s
  obtain ⟨reply, replies, hask⟩ := Host.exists_ask severity question titles s.host
  have hnothing : [Event.ask severity question titles].filterMap reading = [] :=
    List.filterMap_cons_none h
  change noted reading { s with host := (Host.ask severity question titles s.host).2 } = _
  rw [hask]
  exact (noted_behind s rfl).trans (by rw [hnothing, List.append_nil])

end Session

namespace Overlooks

open Session

variable {β : Type} {reading : Event → Option β}

theorem keeps_tell (h : Overlooks reading) (n : Notice) : (tell n).Keeps (noted reading) :=
  keeps_tell_of (keeps_noted_record (h.log n))

/-- Of a run, and of its tool being stopped, a reading says what it says of the run. -/
theorem filterMap_run (h : Overlooks reading) {stopped : List Event}
    (hstopped : ∀ e ∈ stopped, e = .kill ∨ e = .wait) (i : Invocation) (fed : Bool) :
    (Event.run i fed :: stopped).filterMap reading = (reading (.run i fed)).toList := by
  have hnothing : stopped.filterMap reading = [] := by
    refine List.filterMap_eq_nil_iff.mpr fun e he => ?_
    rcases hstopped e he with rfl | rfl
    · exact h.kill
    · exact h.wait
  rw [List.filterMap_cons, hnothing]
  cases reading (.run i fed) <;> rfl

/-- **A run of a tool** adds what the reading says of it. -/
theorem exists_noted_exec (h : Overlooks reading) (i : Invocation) (s : Session) :
    ∃ fed, noted reading (exec i s).2 = noted reading s ++ (reading (.run i fed)).toList := by
  obtain ⟨r, fed, stopped, hexec, -, hstopped⟩ := exists_exec i s
  refine ⟨fed, ?_⟩
  rw [hexec]
  exact (noted_behind s rfl).trans (by rw [h.filterMap_run hstopped])

/-- A run that the reading has nothing to say of adds nothing. -/
theorem keeps_exec (h : Overlooks reading) {i : Invocation} (hi : ∀ fed, reading (.run i fed) = none) :
    (exec i).Keeps (noted reading) := by
  intro s
  obtain ⟨fed, hnoted⟩ := h.exists_noted_exec i s
  rw [hnoted, hi]
  exact List.append_nil _

end Overlooks

end GoCompletion
