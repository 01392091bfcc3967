import GoCompletion.Act
import GoCompletion.FileTree
import GoCompletion.Host.Notice
import GoCompletion.Host.Process
import GoCompletion.Suggestion.Basic

/-!
# The host

All that lies outside: the files, the tools that are run, and the editor. What will happen there is
given beforehand, and what is done there is written down: **the trace only grows**.
-/

namespace GoCompletion

/-- What an editor answers to a question. -/
inductive Reply where
  /-- one of the titles that were offered -/
  | chosen (title : Text)
  /-- nothing -/
  | dismissed
  /-- the question fails -/
  | failed (reason : Text)
  /-- there is no answer yet -/
  | silent
  deriving DecidableEq, Repr

/-- What is done outside. -/
inductive Event where
  /-- a tool is run; what is written to it may never arrive -/
  | run (i : Invocation) (fed : Bool)
  /-- a tool that takes too long is killed -/
  | kill
  /-- the end of a killed tool is awaited -/
  | wait
  /-- a notice is written to the log -/
  | log (n : Notice)
  /-- a message is displayed -/
  | display (severity : Severity) (message : Text)
  /-- a question is asked, with the titles of its answers -/
  | ask (severity : Severity) (question : Text) (titles : List Text)
  /-- a question is taken back -/
  | unask
  /-- a subscriber is handed suggestions -/
  | notify (subscriber : Nat) (suggestions : List Suggestion)
  deriving DecidableEq, Repr

/-- What lies outside. -/
structure Host where
  /-- the files -/
  files : FileTree := {}
  /-- what the runs to come will come to -/
  script : Script := []
  /-- what the editor answers to the questions to come -/
  replies : List Reply := []
  /-- what has been done, in order -/
  trace : List Event := []

namespace Host

/-- Something has been done. -/
def record (e : Event) : Act Host Unit := .modify fun h => { h with trace := h.trace ++ [e] }

/-- What a run comes to, as far as it is known beforehand. -/
def nextOutcome (subcommand : Text) : Act Host Outcome := fun h =>
  let (o, script) := h.script.take subcommand
  (.ok o, { h with script })

/-- Kills a tool that takes too long and waits for its end. -/
def stop (limit : Seconds) (i : Invocation) : Act Host RunResult := do
  record .kill
  record .wait
  return .stopped i.command limit

/-- What a run comes to that there is time for: all is written to the tool, and it runs to its end or
is stopped. -/
def follow (limit : Seconds) (i : Invocation) (outcome : Outcome) : Act Host RunResult := do
  record (.run i true)
  match outcome with
  | .exited output errors code => return .ofExit output errors code
  | _ => stop limit i

/-- Runs a tool, for no longer than `limit`. Where that is no time at all, the tool is stopped before
anything is written to it. -/
def run (limit : Seconds) (i : Invocation) : Act Host RunResult := do
  match ← nextOutcome i.subcommand with
  | .unstarted reason =>
    record (.run i false)
    return .unstarted reason
  | .failed reason =>
    record (.run i false)
    Act.raise (.failed reason)
  | outcome =>
    if limit.isTooLarge then
      record (.run i false)
      Act.raise .numberTooLarge
    else if limit.isNone then
      record (.run i false)
      stop limit i
    else follow limit i outcome

/-- Asks a question; an editor that has no answers left dismisses it. -/
def ask (severity : Severity) (question : Text) (titles : List Text) : Act Host Reply := do
  record (.ask severity question titles)
  fun h =>
    match h.replies with
    | [] => (.ok .dismissed, h)
    | r :: replies => (.ok r, { h with replies })

end Host

end GoCompletion
