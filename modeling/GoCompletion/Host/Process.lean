import GoCompletion.Number.Shortest
import GoCompletion.Text.Utf8

/-!
# Runs of tools

What is run, what a run may come to, and what is made of it. A run that takes too long is stopped; that
and a tool that cannot be started are results of their own, with a negative exit code and the reason in
place of the errors that the tool would have written.
-/

namespace GoCompletion

/-- A number of seconds. -/
inductive Seconds where
  /-- whole seconds -/
  | whole (n : Int)
  /-- seconds and parts of them -/
  | real (x : Binary64)
  deriving DecidableEq, Repr

/-- The text of a number of seconds. -/
def Seconds.toText : Seconds → Text
  | whole n => Text.ofInt n
  | real x => x.render

/-- There are no seconds. -/
def Seconds.isNone : Seconds → Bool
  | whole n => n ≤ 0
  | real x => x.isNegative || x.isZero

/-- The number is too large to be waited for. -/
def Seconds.isTooLarge : Seconds → Bool
  | whole n => (Binary64.ofInt n).isInfinite
  | real _ => false

/-- What is run, and how. -/
structure Invocation where
  /-- the path of the tool -/
  command : Text
  /-- the arguments -/
  args : List Text
  /-- the text that is written to it -/
  input : Option Text := none
  /-- the directory it runs in -/
  directory : Option Text := none
  deriving DecidableEq, Repr

/-- The flag in front of a subcommand that asks for JSON. -/
def jsonFlag : Text := "-f=json".toList

/-- The subcommand of a tool that is run. -/
def Invocation.subcommand (i : Invocation) : Text :=
  match i.args with
  | a :: rest => if a = jsonFlag then rest.headD [] else a
  | [] => []

/-- What a run comes to. -/
inductive Outcome where
  /-- the tool has run to its end -/
  | exited (output errors : List UInt8) (code : Option Int)
  /-- the tool cannot be started, for the given reason -/
  | unstarted (reason : Text)
  /-- starting the tool fails in a way that nobody expects -/
  | failed (reason : Text)
  /-- the tool does not end in time -/
  | hung
  deriving DecidableEq, Repr

/-- What a run comes to if nothing else is known: the tool writes nothing and is content. -/
def Outcome.quiet : Outcome := .exited [] [] (some 0)

/-- The result of a run. -/
structure RunResult where
  /-- the exit code -/
  code : Int
  /-- what the tool has written -/
  output : Text
  /-- the errors that it has written, or why there are none -/
  errors : Text
  deriving DecidableEq, Repr

namespace RunResult

/-- The tool is content. -/
def isOk (r : RunResult) : Bool := r.code == 0

/-- The exit code of a run that has none of its own. -/
def noCode : Int := -1

/-- The result of a tool that has run to its end. -/
def ofExit (output errors : List UInt8) (code : Option Int) : RunResult :=
  { code := code.getD noCode
    output := Utf8.decodeLenient output
    errors := Utf8.decodeLenient errors }

/-- The result of a tool that cannot be started. -/
def unstarted (reason : Text) : RunResult := { code := noCode, output := [], errors := reason }

/-- The result of a tool that has been stopped after some time. -/
def stopped (command : Text) (limit : Seconds) : RunResult :=
  { code := noCode
    output := []
    errors := command ++ " timed out after ".toList ++ limit.toText ++ ['s'] }

end RunResult

/-- What the runs to come will come to, by subcommand; each queue is used from its front. -/
abbrev Script : Type := List (Text × List Outcome)

/-- What the next run of a subcommand comes to, and what is left. -/
def Script.take (subcommand : Text) : Script → Outcome × Script
  | [] => (.quiet, [])
  | (s, queue) :: rest =>
    if s = subcommand then
      match queue with
      | [] => (.quiet, (s, []) :: rest)
      | o :: queue => (o, (s, queue) :: rest)
    else
      let (o, rest) := take subcommand rest
      (o, (s, queue) :: rest)

end GoCompletion
