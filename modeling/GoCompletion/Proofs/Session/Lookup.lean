import GoCompletion.Proofs.Session.Inquiry

/-!
# Lookups that are kept

A lookup asks Go, and **what a content run says is kept** (`Lookup`): what is known is answered at once;
otherwise Go is run, if it is there.

* `Lookup.perform` — a lookup as an act, up to what is done with a run (`Lookup.Deals`);
* `Lookup.AnsweredOnce` — all that a call of a lookup does, given the answer that has been kept;
* `Lookup.Deals.index_perform`, `Lookup.Deals.answeredOnce` — what is known behind one call, and what it does.
-/

namespace GoCompletion

/-- The run of a tool that an event is. -/
def Event.run? : Event → Option Invocation
  | .run i _ => some i
  | _ => none

/-- A lookup that is answered by a run of Go. -/
structure Lookup (α : Type) where
  /-- the arguments that Go is run with -/
  args : List Text
  /-- the answer that is known -/
  known : PackageIndex → Option α
  /-- what is known of packages, with an answer kept -/
  keep : α → PackageIndex → PackageIndex
  /-- the answer without Go -/
  missing : α
  /-- the answer that a run comes to -/
  read : Client → RunResult → Except Fault α
  /-- an answer that is kept is known -/
  known_keep (a : α) (i : PackageIndex) : known (keep a i) = some a
  /-- keeping what is known changes nothing -/
  keep_known {a : α} {i : PackageIndex} : known i = some a → keep a i = i
  /-- which tools have been found does not matter to the answer -/
  read_find (c : Client) (files : FileTree) (name : Text) : read (c.find files name).2 = read c

namespace Session

open Act

/-- The tools that have been run, in turn. -/
def runs (s : Session) : List Invocation := noted Event.run? s

theorem overlooks_run? : Overlooks Event.run? := ⟨fun _ => rfl, rfl, rfl⟩

/-- A run of a tool is on record, whatever it comes to. -/
theorem runs_exec (i : Invocation) (s : Session) : runs (exec i s).2 = runs s ++ [i] := by
  obtain ⟨fed, hnoted⟩ := overlooks_run?.exists_noted_exec i s
  exact hnoted

/-- Runs Go, if it is there. -/
def runGo (args : List Text) : Act Session (Option RunResult) := do
  match ← findTool goName with
  | none => return none
  | some go => return some (← exec { command := go, args })

/-- The session with something else known of packages. -/
def knowing (i : PackageIndex) (s : Session) : Session := { s with index := i }

/-- What is known of packages does not matter to a run of Go. -/
theorem ignores_runGo (args : List Text) (i : PackageIndex) : (runGo args).Ignores (knowing i) := by
  have hexec : ∀ run : Invocation, (exec run).Ignores (knowing i) := fun run =>
    .get_bind (fun _ => rfl) fun _ => .within (fun _ => rfl) fun _ _ => rfl
  refine .bind (fun _ => rfl) fun go => ?_
  cases go with
  | none => exact .pure _
  | some go => exact .bind (hexec _) fun _ => .pure _

end Session

open Session

namespace Lookup

open Act

variable {α : Type} (l : Lookup α)

/-- What is kept of a run: the answer that a content one comes to. -/
def kept (c : Client) (r : RunResult) : Option α := if r.isOk then (l.read c r).toOption else none

/-- The answer that a content run of Go comes to, if there is one in the circumstances. -/
def found (s : Session) : Option α :=
  match (runGo l.args s).1 with
  | .ok (some r) => l.kept s.client r
  | _ => none

/-- What is known of packages behind an answer, if there is one. -/
def keepIf (answer : Option α) (i : PackageIndex) : PackageIndex := answer.elim i (l.keep · i)

theorem known_keepIf (answer : Option α) (i : PackageIndex) :
    l.known (l.keepIf ((l.known i).or answer) i) = (l.known i).or answer := by
  cases hanswer : (l.known i).or answer with
  | some a => exact l.known_keep a i
  | none => exact (Option.or_eq_none_iff.mp hanswer).1

/-- The lookup as an act, where `deal` is what is done with a run of Go. -/
def perform (deal : RunResult → Act Session α) : Act Session α := do
  match l.known (← Act.get).index with
  | some a => return a
  | none =>
    match ← findTool goName with
    | none => return l.missing
    | some go => deal (← exec { command := go, args := l.args })

/-- Dealing with a run is answering what it comes to and keeping it, without running anything else. -/
structure Deals (deal : RunResult → Act Session α) : Prop where
  /-- the answer is what the run comes to -/
  answer (r : RunResult) (s : Session) : (deal r s).1 = l.read s.client r
  /-- what a content run comes to is kept -/
  index (r : RunResult) (s : Session) : (deal r s).2.index = l.keepIf (l.kept s.client r) s.index
  /-- nothing is run -/
  runs (r : RunResult) : (deal r).Keeps Session.runs

/-- **All that a call of a lookup does**, where `first` is the answer that has been kept, if there is one. -/
structure AnsweredOnce (act : Act Session α) (first : Option α) (s : Session) : Prop where
  /-- an answer that has been kept is given again, and nothing else happens -/
  again {a : α} : first = some a → act s = (.ok a, s)
  /-- without one and without Go, nothing happens -/
  missing : first = none → (findTool goName s).1 = .ok none → act s = (.ok l.missing, s)
  /-- nothing happens either where Go cannot be looked for -/
  unsought {e : Fault} : first = none → (findTool goName s).1 = .error e → act s = (.error e, s)
  /-- otherwise Go is run once, and the answer is what that run comes to -/
  asked {go : Text} : first = none → (findTool goName s).1 = .ok (some go) →
    (act s).1 = (exec ⟨go, l.args, none, none⟩ (findTool goName s).2).1.bind (l.read s.client) ∧
      Session.runs (act s).2 = Session.runs s ++ [⟨go, l.args, none, none⟩]
  /-- a fault leaves all that is known of packages as it was -/
  fault {e : Fault} : (act s).1 = .error e → (act s).2.index = s.index

/-! ## What a run of Go comes to -/

/-- A run that a lookup goes by: Go is found, and what the run comes to is the answer of the tool. -/
theorem fst_runGo_of_found {args : List Text} {s : Session} {go : Text}
    (h : (findTool goName s).1 = .ok (some go)) :
    (runGo args s).1 = (exec ⟨go, args, none, none⟩ (findTool goName s).2).1.map some := by
  have hfind : findTool goName s = (.ok (some go), (findTool goName s).2) := Prod.ext h rfl
  rw [runGo, bind_apply_ok hfind]
  change ((exec ⟨go, args, none, none⟩ >>= fun r => pure (some r)) (findTool goName s).2).1 = _
  rw [bind_apply]
  rcases exec ⟨go, args, none, none⟩ (findTool goName s).2 with ⟨_ | r, t⟩ <;> rfl

theorem kept_eq_some_iff {c : Client} {r : RunResult} {a : α} :
    l.kept c r = some a ↔ r.isOk = true ∧ l.read c r = .ok a := by
  unfold kept
  rcases l.read c r with e | b <;> simp [Except.toOption]

/-- **What is found out** is what a content run of Go comes to. -/
theorem found_eq_some_iff {s : Session} {a : α} :
    l.found s = some a ↔
      ∃ go r, (findTool goName s).1 = .ok (some go) ∧
        (exec ⟨go, l.args, none, none⟩ (findTool goName s).2).1 = .ok r ∧
          r.isOk = true ∧ l.read s.client r = .ok a := by
  constructor
  · intro h
    rcases hfind : findTool goName s with ⟨e | _ | go, t⟩
    · rw [found, runGo, bind_apply_error hfind] at h
      cases h
    · rw [found, runGo, bind_apply_ok hfind] at h
      cases h
    · rw [found, fst_runGo_of_found (by rw [hfind]), hfind] at h
      rcases hexec : (exec ⟨go, l.args, none, none⟩ t).1 with e | r
      · rw [hexec] at h
        cases h
      · rw [hexec] at h
        obtain ⟨hok, hread⟩ := l.kept_eq_some_iff.mp h
        exact ⟨go, r, rfl, hexec, hok, hread⟩
  · rintro ⟨go, r, hfind, hexec, hok, hread⟩
    rw [found, fst_runGo_of_found hfind, hexec]
    exact l.kept_eq_some_iff.mpr ⟨hok, hread⟩

/-- What has been known of packages does not matter to what is found. -/
theorem found_knowing (i : PackageIndex) (s : Session) : l.found (knowing i s) = l.found s := by
  unfold found
  rw [ignores_runGo l.args i s]
  rfl

/-! ## One call -/

/-- Looking for a tool that is not found, or cannot be looked for, changes nothing. -/
theorem snd_findTool {name : Text} {s : Session} (h : ∀ path, (findTool name s).1 ≠ .ok (some path)) :
    (findTool name s).2 = s := by
  have hclient : (s.client.find s.host.files name).2 = s.client := Client.snd_find_of_unfound h
  change { s with client := (s.client.find s.host.files name).2 } = s
  rw [hclient]

variable {l} {deal : RunResult → Act Session α} {s : Session}

theorem perform_of_known {a : α} (h : l.known s.index = some a) : l.perform deal s = (.ok a, s) := by
  rw [perform, bind_apply_ok (get_apply s)]
  simp [h]

theorem perform_of_unknown (h : l.known s.index = none) :
    l.perform deal s = (findTool goName >>= fun path =>
      match path with
      | none => pure l.missing
      | some go => exec ⟨go, l.args, none, none⟩ >>= deal) s := by
  rw [perform, bind_apply_ok (get_apply s)]
  simp only [h]

theorem perform_of_missing (h : l.known s.index = none) (hfind : (findTool goName s).1 = .ok none) :
    l.perform deal s = (.ok l.missing, s) := by
  have hs : findTool goName s = (.ok none, s) := Prod.ext hfind (snd_findTool (by simp [hfind]))
  rw [perform_of_unknown h, bind_apply_ok hs]
  rfl

theorem perform_of_unsought {e : Fault} (h : l.known s.index = none)
    (hfind : (findTool goName s).1 = .error e) : l.perform deal s = (.error e, s) := by
  have hs : findTool goName s = (.error e, s) := Prod.ext hfind (snd_findTool (by simp [hfind]))
  rw [perform_of_unknown h, bind_apply_error hs]

theorem perform_of_found {go : Text} (h : l.known s.index = none)
    (hfind : (findTool goName s).1 = .ok (some go)) :
    l.perform deal s = (exec ⟨go, l.args, none, none⟩ >>= deal) (findTool goName s).2 := by
  have hs : findTool goName s = (.ok (some go), (findTool goName s).2) := Prod.ext hfind rfl
  rw [perform_of_unknown h, bind_apply_ok hs]

/-- What is kept of a run does not depend on which tools have been found. -/
theorem kept_find (c : Client) (files : FileTree) (name : Text) (r : RunResult) :
    l.kept (c.find files name).2 r = l.kept c r := by
  rw [kept, l.read_find, kept]

/-- Without Go nothing is found out. -/
theorem found_of_unfound (h : ∀ go, (findTool goName s).1 ≠ .ok (some go)) : l.found s = none := by
  refine Option.eq_none_iff_forall_not_mem.mpr fun a ha => ?_
  obtain ⟨go, -, hfind, -⟩ := l.found_eq_some_iff.mp ha
  exact h go hfind

/-- What is found out is what is kept of the run of Go. -/
theorem found_of_exec {go : Text} {r : RunResult} (hfind : (findTool goName s).1 = .ok (some go))
    (hexec : (exec ⟨go, l.args, none, none⟩ (findTool goName s).2).1 = .ok r) :
    l.found s = l.kept s.client r := by
  rw [found, fst_runGo_of_found hfind, hexec]
  rfl

/-- Nothing is found out by a run that breaks off. -/
theorem found_of_broken {go : Text} {e : Fault} (hfind : (findTool goName s).1 = .ok (some go))
    (hexec : (exec ⟨go, l.args, none, none⟩ (findTool goName s).2).1 = .error e) : l.found s = none := by
  rw [found, fst_runGo_of_found hfind, hexec]
  rfl

/-- A call that asks Go runs it once, answers what the run comes to, and keeps what is found out. -/
theorem Deals.asked (hdeal : l.Deals deal) {go : Text} (h : l.known s.index = none)
    (hfind : (findTool goName s).1 = .ok (some go)) :
    (l.perform deal s).1 = (exec ⟨go, l.args, none, none⟩ (findTool goName s).2).1.bind (l.read s.client) ∧
      Session.runs (l.perform deal s).2 = Session.runs s ++ [⟨go, l.args, none, none⟩] ∧
        (l.perform deal s).2.index = l.keepIf (l.found s) s.index := by
  have hruns := runs_exec ⟨go, l.args, none, none⟩ (findTool goName s).2
  have hclient : (exec ⟨go, l.args, none, none⟩ (findTool goName s).2).2.client =
      (s.client.find s.host.files goName).2 := (keeps_exec _).of_view Engine.client _
  have hindex : (exec ⟨go, l.args, none, none⟩ (findTool goName s).2).2.index = s.index :=
    (keeps_exec _).of_view Engine.index _
  rw [perform_of_found h hfind]
  rcases hexec : exec ⟨go, l.args, none, none⟩ (findTool goName s).2 with ⟨e | r, u⟩
  · rw [hexec] at hruns hindex
    rw [bind_apply_error hexec, found_of_broken hfind (by rw [hexec])]
    exact ⟨rfl, hruns, hindex⟩
  · rw [hexec] at hruns hclient hindex
    rw [bind_apply_ok hexec, found_of_exec hfind (by rw [hexec])]
    refine ⟨?_, (hdeal.runs r u).trans hruns, ?_⟩
    · rw [hdeal.answer, hclient, l.read_find]
      rfl
    · rw [hdeal.index, hclient, kept_find, hindex]

/-- **What is known behind a call**: what was known, and otherwise what is found out. -/
theorem Deals.index_perform (hdeal : l.Deals deal) (s : Session) :
    (l.perform deal s).2.index = l.keepIf ((l.known s.index).or (l.found s)) s.index := by
  cases hknown : l.known s.index with
  | some a =>
    rw [perform_of_known hknown]
    exact (l.keep_known hknown).symm
  | none =>
    by_cases hgo : ∃ go, (findTool goName s).1 = .ok (some go)
    · obtain ⟨go, hfind⟩ := hgo
      exact (hdeal.asked hknown hfind).2.2
    · have hnone : ∀ go, (findTool goName s).1 ≠ .ok (some go) := not_exists.mp hgo
      rw [found_of_unfound hnone]
      rcases hfind : (findTool goName s).1 with e | _ | go
      · rw [perform_of_unsought hknown hfind]
        rfl
      · rw [perform_of_missing hknown hfind]
        rfl
      · exact absurd hfind (hnone go)

/-- A call that breaks off has found nothing out. -/
theorem Deals.found_of_fault (hdeal : l.Deals deal) {e : Fault} (h : l.known s.index = none)
    (hfault : (l.perform deal s).1 = .error e) : l.found s = none := by
  refine Option.eq_none_iff_forall_not_mem.mpr fun a ha => ?_
  obtain ⟨go, r, hfind, hexec, -, hread⟩ := l.found_eq_some_iff.mp ha
  rw [(hdeal.asked h hfind).1, hexec] at hfault
  cases hread.symm.trans hfault

/-- **One call of a lookup**, where what is known is the answer that has been kept. -/
theorem Deals.answeredOnce (hdeal : l.Deals deal) (s : Session) :
    l.AnsweredOnce (l.perform deal) (l.known s.index) s where
  again := perform_of_known
  missing := perform_of_missing
  unsought := perform_of_unsought
  asked hknown hfind := ⟨(hdeal.asked hknown hfind).1, (hdeal.asked hknown hfind).2.1⟩
  fault hfault := by
    cases hknown : l.known s.index with
    | some a => rw [perform_of_known hknown]
    | none =>
      rw [hdeal.index_perform, hknown, hdeal.found_of_fault hknown hfault]
      rfl

end Lookup

end GoCompletion
