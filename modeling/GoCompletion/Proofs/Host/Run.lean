import GoCompletion.Host.Basic
import GoCompletion.Proofs.Act
import GoCompletion.Text.Lines

/-!
# Runs of tools

What the runs to come will come to is known by their subcommands (`Script.queue`):

* a run writes what was to come of it, and is on record (`Host.exists_run`);
* it uses up what was to come of its own subcommand, and **leaves all others alone** (`Host.keeps_run`).

A question to the editor is on record as well (`Host.exists_ask`).
-/

namespace GoCompletion

open Act

namespace Script

/-- What the runs of a subcommand will come to, as far as it is known beforehand. -/
def queue (subcommand : Text) : Script → List Outcome
  | [] => []
  | (s, outcomes) :: rest => if s = subcommand then outcomes else queue subcommand rest

/-- The next run comes to what is first in its queue. -/
theorem fst_take (subcommand : Text) (script : Script) :
    (script.take subcommand).1 = (script.queue subcommand).headD .quiet := by
  induction script with
  | nil => rfl
  | cons entry rest ih =>
    obtain ⟨s, _ | ⟨o, outcomes⟩⟩ := entry <;> by_cases hs : s = subcommand <;>
      simp [take, queue, hs, ih]

/-- A run uses up what is first in its queue. -/
theorem queue_take_self (subcommand : Text) (script : Script) :
    (script.take subcommand).2.queue subcommand = (script.queue subcommand).tail := by
  induction script with
  | nil => rfl
  | cons entry rest ih =>
    obtain ⟨s, _ | ⟨o, outcomes⟩⟩ := entry <;> by_cases hs : s = subcommand <;>
      simp [take, queue, hs, ih]

/-- What the runs of one subcommand come to does not depend on the runs of others. -/
theorem queue_take_of_ne {a b : Text} (h : a ≠ b) (script : Script) :
    (script.take a).2.queue b = script.queue b := by
  induction script with
  | nil => rfl
  | cons entry rest ih =>
    obtain ⟨s, outcomes⟩ := entry
    by_cases ha : s = a
    · have hb : s ≠ b := fun hb => h (ha.symm.trans hb)
      cases outcomes <;> simp only [take, queue, if_pos ha, if_neg hb]
    · simp only [take, queue, if_neg ha, ih]

end Script

/-- The subcommand is the first argument, if that is no flag. -/
theorem Invocation.subcommand_eq {i : Invocation} {a : Text} {rest : List Text} (hi : i.args = a :: rest)
    (ha : a ≠ jsonFlag) : i.subcommand = a := by
  rw [subcommand, hi]
  exact if_neg ha

namespace Outcome

/-- What is known of the output of a run for which there are `limit` seconds: a tool that is never started,
or is stopped, has no output. -/
def output (limit : Seconds) : Outcome → Except Fault Text
  | .unstarted _ => .ok []
  | .failed reason => .error (.failed reason)
  | .exited bytes _ _ =>
    if limit.isTooLarge then .error .numberTooLarge
    else .ok (if limit.isNone then [] else Utf8.decodeLenient bytes)
  | .hung => if limit.isTooLarge then .error .numberTooLarge else .ok []

/-- In a time that can be waited for, only a run that fails as nobody expects has no output at all. -/
theorem eq_failed_of_output {o : Outcome} {x : Binary64} {e : Fault} (h : o.output (.real x) = .error e) :
    ∃ reason, o = .failed reason ∧ e = .failed reason := by
  cases o with
  | unstarted reason => cases h
  | failed reason =>
    cases h
    exact ⟨reason, rfl, rfl⟩
  | exited bytes errors code => cases h
  | hung => cases h

theorem output_eq_error {o : Outcome} {x : Binary64} {e : Fault} (h : o.output (.real x) = .error e) :
    ∃ reason, e = .failed reason :=
  (eq_failed_of_output h).imp fun _ h => h.2

/-- The lines that a run writes, if it comes to an end. -/
def lines : Outcome → List Text
  | .exited output _ _ => (Utf8.decodeLenient output).bareLines
  | _ => []

/-- What is put out has the lines that are written, or none. -/
theorem bareLines_output {o : Outcome} {limit : Seconds} {t : Text} (h : o.output limit = .ok t) :
    t.bareLines = [] ∨ t.bareLines = o.lines := by
  cases o with
  | unstarted reason =>
    cases h
    exact .inl rfl
  | failed reason => cases h
  | exited bytes errors code =>
    simp only [output] at h
    split at h
    · cases h
    · cases h
      split
      · exact .inl rfl
      · exact .inr rfl
  | hung =>
    simp only [output] at h
    split at h
    · cases h
    · cases h
      exact .inl rfl

end Outcome

namespace Host

/-- The host behind a run of which some events are on record. -/
def behind (h : Host) (i : Invocation) (events : List Event) : Host :=
  { h with script := (h.script.take i.subcommand).2, trace := h.trace ++ events }

/-- A tool that is killed leaves two more events on record. -/
theorem stop_behind (limit : Seconds) (i : Invocation) (h : Host) (events : List Event) :
    stop limit i (h.behind i events) =
      (.ok (.stopped i.command limit), h.behind i (events ++ [.kill, .wait])) := by
  have hstop : stop limit i (h.behind i events) =
      (.ok (.stopped i.command limit),
        { h.behind i events with trace := h.trace ++ events ++ [.kill] ++ [.wait] }) := rfl
  rw [hstop, List.append_assoc, List.append_assoc]
  rfl

/-- **What a run comes to and what it does**: it writes what was to come of it, and on record are the run
itself and, if it is stopped, that. It uses up nothing but what was to come of its own subcommand. -/
theorem exists_run (limit : Seconds) (i : Invocation) (h : Host) :
    ∃ r fed stopped, r.map RunResult.output = (h.script.take i.subcommand).1.output limit ∧
      (∀ e ∈ stopped, e = .kill ∨ e = .wait) ∧
      run limit i h = (r, h.behind i (.run i fed :: stopped)) := by
  have hstop : ∀ fed, stop limit i (h.behind i [.run i fed]) =
      (.ok (.stopped i.command limit), h.behind i [.run i fed, .kill, .wait]) := fun fed =>
    stop_behind limit i h [.run i fed]
  have hrun : ∀ f : Outcome → Act Host RunResult, (nextOutcome i.subcommand >>= f) h =
      f (h.script.take i.subcommand).1 { h with script := (h.script.take i.subcommand).2 } := fun _ => rfl
  rw [run, hrun]
  cases (h.script.take i.subcommand).1 with
  | unstarted reason => exact ⟨_, false, [], rfl, nofun, rfl⟩
  | failed reason => exact ⟨_, false, [], rfl, nofun, rfl⟩
  | exited bytes errors code =>
    simp only [Outcome.output]
    cases limit.isTooLarge with
    | true => exact ⟨.error .numberTooLarge, false, [], rfl, nofun, rfl⟩
    | false =>
      cases limit.isNone with
      | true => exact ⟨_, false, [.kill, .wait], rfl, by simp, hstop false⟩
      | false => exact ⟨_, true, [], rfl, nofun, rfl⟩
  | hung =>
    simp only [Outcome.output]
    cases limit.isTooLarge with
    | true => exact ⟨.error .numberTooLarge, false, [], rfl, nofun, rfl⟩
    | false =>
      cases limit.isNone with
      | true => exact ⟨_, false, [.kill, .wait], rfl, by simp, hstop false⟩
      | false => exact ⟨_, true, [.kill, .wait], rfl, by simp, hstop true⟩

/-- A run uses up nothing but what was to come of its own subcommand. -/
theorem keeps_run (limit : Seconds) (i : Invocation) {subcommand : Text} (h : i.subcommand ≠ subcommand) :
    (run limit i).Keeps fun h => h.script.queue subcommand := by
  intro s
  obtain ⟨r, fed, stopped, -, -, hs⟩ := exists_run limit i s
  rw [hs]
  exact Script.queue_take_of_ne h s.script

/-- A run that ends has written the lines that were to come of it; one that is stopped, or never started, has
written none. -/
theorem bareLines_run {limit : Seconds} {i : Invocation} {h u : Host} {r : RunResult}
    (hr : run limit i h = (.ok r, u)) :
    r.output.bareLines = [] ∨ r.output.bareLines = (h.script.take i.subcommand).1.lines := by
  obtain ⟨r', fed, stopped, houtput, -, hs⟩ := exists_run limit i h
  rw [hs] at hr
  obtain rfl := (Prod.mk.inj hr).1
  exact Outcome.bareLines_output houtput.symm

/-- A question to the editor is on record, and there is an answer to it. -/
theorem exists_ask (severity : Severity) (question : Text) (titles : List Text) (h : Host) :
    ∃ reply replies, ask severity question titles h =
      (.ok reply, { h with trace := h.trace ++ [.ask severity question titles], replies }) := by
  cases hreplies : h.replies with
  | nil =>
    refine ⟨.dismissed, h.replies, (bind_apply_ok (modify_apply _ _) _).trans ?_⟩
    rw [hreplies]
  | cons reply replies =>
    refine ⟨reply, replies, (bind_apply_ok (modify_apply _ _) _).trans ?_⟩
    rw [hreplies]

end Host

end GoCompletion
