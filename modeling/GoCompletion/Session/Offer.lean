import GoCompletion.Session.Basic

/-!
# The offer to update the daemon

A daemon that is in trouble is offered to be updated, once for all. The question is put as soon as the
work that found out is over (`settle`), and it stays open until there is an answer or the provider is
disposed of.
-/

namespace GoCompletion

namespace Session

/-- The question whether to update. -/
def updateQuestion : Text :=
  ("gocode is panicking. This often happens when you install a new Go version, or when you are " ++
    "running an out of date version of gocode. Often, running \x60gocode close && go get -u " ++
    "github.com/nsf/gocode\x60 is able to fix the issue. Would you like to try running it " ++
    "now?").toList

/-- The answer that agrees to an update. -/
def agreement : Text := "Yes".toList

/-- The answer that does not. -/
def refusal : Text := "Not Now".toList

/-- Learns that the daemon is in trouble. -/
def learnPanic : Act Session Unit := do
  let s ← Act.get
  unless s.provider.panicked do
    changeProvider fun p => { p with panicked := true }
    tell .daemonPanics
    if s.connected then changeProvider fun p => { p with offer := .due }

/-- Tells of the results of an update that are not ok. -/
def tellFailures : List RunResult → Act Session Unit
  | [] => pure ()
  | r :: rest => do
    unless r.isOk do tell (.updateErrors r.errors.strip)
    tellFailures rest

/-- Does what the answer to the offer asks for. -/
def follow : Reply → Act Session Unit
  | .chosen title => do
    if title = agreement then tellFailures (← updateDaemon)
  | .dismissed => pure ()
  | .failed reason => .raise (.failed reason)
  | .silent => changeProvider fun p => { p with offer := .open }

/-- Makes the offer. Whatever goes wrong then is told. -/
def makeOffer : Act Session Unit := do
  -- the offer is over unless it is left open by `follow`
  changeProvider fun p => { p with offer := .none }
  let r ← Act.attempt do
    follow (← outside (Host.ask .error updateQuestion [agreement, refusal]))
  match r with
  | .ok () => pure ()
  | .error e => tell (.updateFailed e)

/-- Makes the offer that is due, if one is. -/
def settle : Act Session Unit := do
  if (← Act.get).provider.offer = .due then makeOffer

/-- Some work, and behind it what it left to be settled. -/
def settled {α : Type} (work : Act Session α) : Act Session α := do
  let r ← work.attempt
  settle
  Act.ofExcept r

/-- Disposes of the provider: nobody learns of suggestions any more, there are none, and an open
question is taken back. -/
def dispose : Act Session Unit := do
  let offer := (← Act.get).provider.offer
  changeProvider fun p => { p with subscribers := [], suggestions := [], offer := .none }
  if offer = .open then outside (Host.record .unask)

end Session

end GoCompletion
