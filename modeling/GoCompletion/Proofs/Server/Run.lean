import GoCompletion.Proofs.Session.Course
import GoCompletion.Server.Basic

/-!
# Runs of a server

An editor sends messages to a server, one after another. Each message arrives in its own circumstances: the
files, the documents that are open, what the tools that are run come to, and what the editor answers to
questions. **Nothing is assumed about them**, so that a run stands for anything that may happen outside.

* `Message` — what an editor sends, and `Message.act`, the act that handles it;
* `Arrival.run` — one message, with all that is left to be settled behind it;
* `Server.run` — messages in turn, beginning with a new server (`Server.fresh`) or with any other.

A message is handled as a whole before the next one arrives: handlers are atomic, and two messages the handling of
which overlaps, as when one of them waits for a tool, cannot be written as a run.

What an act on the exchange or on the session leaves alone, the server leaves alone with it
(`Server.keeps_exchange`, `Server.keeps_onSession`).
-/

namespace GoCompletion

open Act

/-- What an editor sends to a server. -/
inductive Message where
  /-- everything is to be set up for a workspace -/
  | setUp (rootUri : Text) (options : Datum)
  /-- settings have changed -/
  | reconfigure (layer : Datum)
  /-- a completion is asked for -/
  | complete (p : CompletionParams) (position : Position)

/-- The act that handles a message, without its answer. -/
def Message.act : Message → Act Server Unit
  | setUp rootUri options => Server.setUp rootUri options
  | reconfigure layer => Server.reconfigure layer
  | complete p position => do let _ ← Server.complete p position

/-- A message and the circumstances in which it arrives. -/
structure Arrival where
  /-- the message -/
  message : Message
  /-- the files -/
  files : FileTree := {}
  /-- the documents that are open -/
  documents : DocumentStore := {}
  /-- what the runs of tools come to -/
  script : Script := []
  /-- what the editor answers to questions -/
  replies : List Reply := []

namespace Arrival

/-- The server when a message arrives. What has been done outside so far stays on record. -/
def enter (x : Arrival) (s : Server) : Server :=
  { s with
    documents := x.documents
    host := { s.host with files := x.files, script := x.script, replies := x.replies } }

/-- How handling a message ends. -/
def outcome (x : Arrival) (s : Server) : Except Fault Unit :=
  (Server.settled x.message.act (x.enter s)).1

/-- The server behind a message. A fault does not end the server. -/
def run (x : Arrival) (s : Server) : Server := (Server.settled x.message.act (x.enter s)).2

end Arrival

/-! ## Exchanges -/

namespace Exchange

/-- An act on the session keeps of the exchange what it keeps of the session. -/
theorem keeps_onSession {α γ : Type} {part : Session → γ} {a : Act Session α} (h : a.Keeps part) :
    (onSession a).Keeps fun x => part x.session := fun x => h x.session

theorem keeps_document {γ : Type} {view : Exchange → γ} (uri : Text) : (document uri).Keeps view :=
  .bind .get fun _ => .ofExcept _

/-- Moving the cursor is nothing to the session. -/
theorem keeps_locate {γ : Type} {part : Session → γ} (t : Text) :
    (locate t).Keeps fun x => part x.session := fun _ => rfl

end Exchange

namespace Capability

variable {γ : Type} {part : Session → γ}

/-- Capabilities together keep what each of them keeps, if it does not matter that faults are told. -/
theorem keeps_completeAll (htell : ∀ n, (Session.outside (Host.record (.log n))).Keeps part)
    (p : CompletionParams) {cs : List Capability}
    (haccepts : ∀ c ∈ cs, (c.accepts p).Keeps fun x => part x.session)
    (hcomplete : ∀ c ∈ cs, (c.complete p).Keeps fun x => part x.session) :
    (completeAll p cs).Keeps fun x => part x.session := by
  induction cs with
  | nil => exact .pure _
  | cons c cs ih =>
    obtain ⟨hacceptsc, haccepts⟩ := List.forall_mem_cons.mp haccepts
    obtain ⟨hcompletec, hcomplete⟩ := List.forall_mem_cons.mp hcomplete
    have hcontribution : (c.contribution p).Keeps fun x => part x.session := by
      refine .bind hacceptsc fun accepted => ?_
      split
      · exact hcompletec
      · exact .pure _
    have hsafely : (c.safely p).Keeps fun x => part x.session := by
      refine .bind (Keeps.attempt hcontribution) fun r => ?_
      split
      · exact .pure _
      · exact .bind (Exchange.keeps_onSession (htell _)) fun _ => .pure _
    exact .bind hsafely fun l => .bind (ih haccepts hcomplete) fun _ => .pure _

/-- The capability that completes Go keeps what requests keep. -/
theorem keeps_completeByDaemon (hsuggest : ∀ r, (Session.suggest r).Keeps part) (p : CompletionParams) :
    (completeByDaemon p).Keeps fun x => part x.session := by
  have hdocument : ∀ d, (completeDocument d p.trigger).Keeps fun x => part x.session := fun d =>
    .bind (Exchange.keeps_locate _) fun _ => .bind .get fun _ =>
      .bind (Exchange.keeps_onSession (hsuggest _)) fun _ => .pure _
  refine .bind .get fun x => ?_
  split
  · exact .bind (Exchange.keeps_document _) fun d => hdocument d
  · exact .pure _

end Capability

namespace Server

/-! ## Runs -/

/-- A new server. -/
def fresh (home : Text) (environment : List (Text × Text)) (host : Host) : Server :=
  { home, environment, host }

/-- The server behind some messages. -/
def run (s : Server) : List Arrival → Server
  | [] => s
  | x :: xs => run (x.run s) xs

@[simp] theorem run_nil (s : Server) : s.run [] = s := rfl

@[simp] theorem run_cons (s : Server) (x : Arrival) (xs : List Arrival) :
    s.run (x :: xs) = (x.run s).run xs := rfl

/-! ## Acts on the session -/

/-- The session of a server with its parts set up. -/
def session (s : Server) (e : Engine) : Session := { e with host := s.host }

/-- The server with a session put back. -/
def putBack (s : Server) (t : Session) : Server := { s with engine := some t.toEngine, host := t.host }

theorem onSession_of_none {s : Server} (h : s.engine = none) (a : Act Session Unit) :
    onSession a s = (.ok (), s) := by
  simp only [onSession, exchange, h]

theorem onSession_of_some {s : Server} {e : Engine} (h : s.engine = some e) (a : Act Session Unit) :
    onSession a s = ((a (s.session e)).1, s.putBack (a (s.session e)).2) := by
  simp only [onSession, exchange, h]
  rfl

section Keeping

variable {α γ δ : Type} {view : Server → γ} {part : Session → δ}

/-- The server keeps a view that depends on no more of the session than an act on the exchange keeps. -/
theorem keeps_exchange {idle : α} {p : Position} {a : Act Exchange α}
    (ha : a.Keeps fun x => part x.session)
    (hview : ∀ s e t, s.engine = some e → part t = part (s.session e) → view (s.putBack t) = view s) :
    (exchange idle p a).Keeps view := by
  intro s
  unfold exchange
  split
  · rfl
  · next e he => exact hview s e _ he (ha _)

theorem keeps_onSession {a : Act Session Unit} (ha : a.Keeps part)
    (hview : ∀ s e t, s.engine = some e → part t = part (s.session e) → view (s.putBack t) = view s) :
    (onSession a).Keeps view := keeps_exchange (Exchange.keeps_onSession ha) hview

/-- A completion keeps what requests and notices keep. -/
theorem keeps_complete (hsuggest : ∀ r, (Session.suggest r).Keeps part)
    (htell : ∀ n, (Session.outside (Host.record (.log n))).Keeps part)
    (hview : ∀ s e t, s.engine = some e → part t = part (s.session e) → view (s.putBack t) = view s)
    (p : CompletionParams) (position : Position) : (complete p position).Keeps view := by
  have hall : (Capability.completeAll p (Capability.common.map (·.2))).Keeps fun x => part x.session :=
    Capability.keeps_completeAll htell p (List.forall_mem_singleton.mpr (.bind .get fun _ => .pure _))
      (List.forall_mem_singleton.mpr (Capability.keeps_completeByDaemon hsuggest p))
  refine .bind .get fun s => ?_
  split
  · exact keeps_exchange hall hview
  · exact .pure _

end Keeping

/-! ## Settling -/

/-- Some work is settled behind it, whether or not it breaks off. -/
theorem snd_settled {α : Type} (work : Act Server α) (s : Server) :
    (settled work s).2 = (onSession Session.settle (work s).2).2 :=
  snd_bind_ofExcept (onSession Session.settle) (fun _ => (work s).1) (work s).2

/-- Settling breaks nothing off, so work ends as it would without it. -/
theorem fst_settled {α : Type} (work : Act Server α) (s : Server) : (settled work s).1 = (work s).1 := by
  have hsettle : (onSession Session.settle).Answers := by
    intro t
    cases he : t.engine with
    | none =>
      rw [onSession_of_none he]
      exact ⟨(), rfl⟩
    | some e =>
      rw [onSession_of_some he]
      exact Session.answers_settle _
  have hsettled : settled work s =
      (onSession Session.settle >>= fun _ => ofExcept (work s).1) (work s).2 := rfl
  rw [hsettled, hsettle.then_apply]
  rfl

end Server

end GoCompletion
