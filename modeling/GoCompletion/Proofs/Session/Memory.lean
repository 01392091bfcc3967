import GoCompletion.Proofs.Fuzzy.Filter
import GoCompletion.Proofs.Session.Course
import GoCompletion.Proofs.Session.Operation

/-!
# What a session remembers

A session remembers suggestions so that they can be refiltered. What it remembers is told by its history:
by what the steps behind it came to (`Session.history`).

* `remembered_run_step` — a step leaves what is remembered as it is, unless it writes it (`Upshot.written`);
* `remembered_run` — behind any steps, what was written last is remembered, and refiltering picks from
  the whole of it;
* `refiltered_history` — what is refiltered was suggested by a query, though requests may have passed over
  it since then (`Course.passesOver`).
-/

namespace GoCompletion

/-- What a step came to. -/
inductive Upshot where
  /-- a request took a course -/
  | request (c : Course)
  /-- the provider was disposed of -/
  | disposed
  /-- something that has nothing to do with what is remembered -/
  | other
  deriving DecidableEq

/-- What is remembered because of a step, if the step has to do with that. -/
def Upshot.written : Upshot → Option (List Suggestion)
  | request .blank => some []
  | request (.queried ss) => some ss
  | disposed => some []
  | _ => none

/-- What an operation comes to in a session. -/
def Operation.upshot (s : Session) : Operation → Upshot
  | request r => .request (Session.course r s)
  | dispose => .disposed
  | _ => .other

/-- The course of a request that was not refiltered. -/
def Upshot.course? : Upshot → Option Course
  | request .refiltered => none
  | request c => some c
  | _ => none

/-- On this course a request passes over what is remembered: it is answered with nothing, or fails, and
leaves what is remembered to the requests behind it. -/
def Course.passesOver : Course → Bool
  | suppressed | missing | failed _ => true
  | blank | refiltered | queried _ => false

/-- A refiltered request, by the operation that it is. -/
theorem Operation.upshot_eq_refiltered {o : Operation} {s : Session} :
    o.upshot s = .request .refiltered ↔
      ∃ r, o = .request r ∧ Session.course r s = .refiltered := by
  cases o <;> simp [upshot]

/-- What a step comes to. -/
def Step.upshot (x : Step) (s : Session) : Upshot := x.operation.upshot (x.enter s)

namespace Session

open Act

/-- What some steps come to, in turn. -/
def history (s : Session) : List Step → List Upshot
  | [] => []
  | x :: xs => x.upshot s :: history (x.run s) xs

@[simp] theorem history_nil (s : Session) : s.history [] = [] := rfl

@[simp] theorem history_cons (s : Session) (x : Step) (xs : List Step) :
    s.history (x :: xs) = x.upshot s :: (x.run s).history xs := rfl

/-! ## One step -/

/-- What a request leaves to be remembered. -/
theorem remembered_suggest (r : Request) (s : Session) :
    remembered (suggest r s).2 = (Upshot.request (course r s)).written.getD (remembered s) := by
  have hanswer : ∀ ss t, remembered (answer ss t).2 = remembered t := fun ss =>
    keeps_remembered (keeps_provider (keeps_answer ss))
  have htook := took_course r s
  cases hc : course r s <;> rw [hc] at htook
  case blank =>
    rw [htook, hanswer]
    rfl
  case suppressed =>
    rw [htook, hanswer]
    rfl
  case refiltered =>
    rw [htook, hanswer]
    rfl
  case missing =>
    obtain ⟨t, ht, hs⟩ := htook
    rw [hs, hanswer]
    exact congrArg Provider.suggestions ht
  case queried ss =>
    obtain ⟨t, ht, hs⟩ := htook
    rw [hs, hanswer]
    exact ht
  case failed e =>
    obtain ⟨t, ht, hs⟩ := htook
    rw [hs]
    exact congrArg Provider.suggestions ht

/-- Behind its disposal a provider remembers nothing. -/
theorem remembered_dispose (s : Session) : remembered (dispose s).2 = [] := by
  have hdispose : dispose s =
      ((if s.provider.offer = .open then outside (Host.record .unask) else pure ()) : Act Session Unit)
        (changeProvider (fun p => { p with subscribers := [], suggestions := [], offer := .none }) s).2 :=
    rfl
  rw [hdispose]
  split <;> rfl

/-- What an operation leaves to be remembered. -/
theorem remembered_act (o : Operation) (s : Session) :
    remembered (o.act s).2 = (o.upshot s).written.getD (remembered s) := by
  cases o with
  | request r =>
    have hact : (Operation.act (.request r) s).2 = (suggest r s).2 :=
      snd_bind_ofExcept (suggest r) (fun _ => .ok ()) s
    rw [hact]
    exact remembered_suggest r s
  | dispose => exact remembered_dispose s
  -- the others have nothing to do with it
  | read found t index =>
    exact ((keeps_suggestionsOf found t index).of_view Provider.suggestions).forget s
  | configure settings => rfl
  | disable blacklist => rfl
  | push => exact keeps_remembered steadfast_provider.pushSettings s
  | setOption name on => exact (keeps_remembered (steadfast_provider.setOption name on)).forget s
  | subscribe u => rfl
  | bounce => exact keeps_learnPanic.of_view Provider.suggestions s
  | packages => exact (keeps_remembered steadfast_provider.allPackages).forget s
  | vendoring => exact (keeps_remembered steadfast_provider.supportsVendoring).forget s
  | resolve t index offset file =>
    exact (keeps_remembered (steadfast_provider.importWanted t index offset file)).forget s
  | update => exact (keeps_remembered steadfast_provider.updateDaemon).forget s

/-- **A step leaves what is remembered as it is, unless it writes it.** -/
theorem remembered_run_step (x : Step) (s : Session) :
    remembered (x.run s) = (x.upshot s).written.getD (remembered s) := by
  have hsettled := congrArg Provider.suggestions (calm_settled x.operation.act (x.enter s))
  exact hsettled.trans (remembered_act x.operation (x.enter s))

/-! ## Any steps -/

/-- Behind any steps that is remembered which was written last. -/
theorem remembered_run_eq (s : Session) (xs : List Step) :
    remembered (s.run xs) = ((s.history xs).filterMap Upshot.written).getLast?.getD (remembered s) := by
  induction xs generalizing s with
  | nil => rfl
  | cons x xs ih =>
    rw [run_cons, history_cons, ih, remembered_run_step]
    cases hw : (x.upshot s).written with
    | none => rw [List.filterMap_cons_none hw, Option.getD_none]
    | some ss => rw [List.filterMap_cons_some hw, List.getLast?_cons, Option.getD_some, Option.getD_some]

/-- Refiltered suggestions are remembered ones, from places of their own, with the word to replace put
anew. -/
theorem exists_places_refilter (p : Provider) (word : Text) :
    ∃ places : List (Fin p.suggestions.length), places.Nodup ∧
      p.refilter word = places.map fun i => { p.suggestions.get i with replaced := word } := by
  obtain ⟨places, hnodup, hplaces⟩ := fuzzyFilter_eq_map_get Suggestion.key word p.suggestions
  refine ⟨places, hnodup, ?_⟩
  rw [Provider.refilter, hplaces, List.map_map]
  rfl

/-- **What was written last is remembered**: nothing, if that was the start of the session, the disposal of
the provider or a blank request, and otherwise what the last query to be answered came to. And **a
request that is refiltered picks from the whole of it**: from places of their own it takes suggestions, in
which only the word to replace is put anew, and leaves what is remembered as it is. -/
theorem remembered_run (c : Client) (settings : Settings) (connected : Bool) (host : Host)
    (xs : List Step) :
    let s := (start c settings connected host).run xs
    remembered s =
        (((start c settings connected host).history xs).filterMap Upshot.written).getLast?.getD [] ∧
      ∀ x : Step, x.upshot s = .request .refiltered →
        remembered (x.run s) = remembered s ∧
          ∃ (r : Request) (places : List (Fin (remembered s).length)),
            x.operation = .request r ∧ places.Nodup ∧
              suggest r (x.enter s) =
                answer
                  (places.map fun i => { (remembered s).get i with replaced := r.word.strip })
                  (x.enter s) := by
  intro s
  refine ⟨remembered_run_eq _ xs, fun x hx => ⟨?_, ?_⟩⟩
  · rw [remembered_run_step, hx]
    rfl
  · obtain ⟨r, hr, hcourse⟩ := Operation.upshot_eq_refiltered.mp hx
    obtain ⟨places, hnodup, hplaces⟩ := exists_places_refilter s.provider r.word.strip
    refine ⟨r, places, hr, hnodup, ?_⟩
    have htook := took_course r (x.enter s)
    rw [hcourse] at htook
    rw [htook, Step.enter_provider, hplaces]

/-! ## A line that is typed

A word is typed, an opening parenthesis behind it, and behind that another word. -/

/-- A session with a daemon. -/
def typing : Session :=
  start { home := "/root".toList, tools := [(daemonName, "/usr/bin/gocode".toList)] } {} true {}

/-- A completion is asked for at the end of a line. If the daemon is asked, it knows a single variable. -/
def typed (line word : String) (continued : Bool) (known : String) : Step :=
  let answer := "[" ++ toString word.length ++ ",[\x7b\"class\":\"var\",\"name\":\"" ++ known ++
    "\",\"type\":\"int\"\x7d]]"
  { operation := .request
      { document := { uri := "file:///main.go".toList, path := "/main.go".toList, text := line.toList }
        position := { line := 0, character := line.length }
        word := word.toList, continued }
    script := [("autocomplete".toList, [.exited answer.toUTF8.toList [] (some 0)])] }

/-- A word. -/
def firstWord : Step := typed "fo" "fo" false "foo"

/-- More of that word. -/
def moreOfIt : Step := typed "foo" "foo" true "foo"

/-- An opening parenthesis behind the word. -/
def parenthesis : Step := typed "fo(" "(" true "fob"

/-- Another word behind the parenthesis. -/
def secondWord : Step := typed "fo(f" "f" true "fob"

/-- The variable that is suggested for the first word. -/
def foo : Suggestion :=
  { replaced := "fo".toList, label := "int".toList, kind := .variable, text := some "foo".toList
    key := some "foo".toList }

theorem upshot_moreOfIt : moreOfIt.upshot (typing.run [firstWord]) = .request .refiltered := by
  decide +kernel

/-- While more of the word is typed, what is remembered is filtered and stays. -/
theorem remembered_moreOfIt :
    let s := typing.run [firstWord]
    remembered s = [foo] ∧ moreOfIt.upshot s = .request .refiltered ∧
      remembered (moreOfIt.run s) = remembered s ∧
        ∃ (r : Request) (places : List (Fin (remembered s).length)),
          moreOfIt.operation = .request r ∧ places.Nodup ∧
            suggest r (moreOfIt.enter s) =
              answer
                (places.map fun i => { (remembered s).get i with replaced := r.word.strip })
                (moreOfIt.enter s) :=
  ⟨by decide +kernel, upshot_moreOfIt, (remembered_run _ _ _ _ [firstWord]).2 moreOfIt upshot_moreOfIt⟩

/-! ## Where refiltered suggestions come from -/

/-- The last value that a list gives, and where it comes from. -/
theorem exists_last_of_filterMap {α β : Type} {f : α → Option β} {l : List α} {b : β}
    (h : (l.filterMap f).getLast? = some b) :
    ∃ l₁ a l₂, l = l₁ ++ a :: l₂ ∧ f a = some b ∧ ∀ x ∈ l₂, f x = none := by
  obtain ⟨bs, hbs⟩ := List.getLast?_eq_some_iff.mp h
  obtain ⟨l₁, r, rfl, -, hr⟩ := List.filterMap_eq_append_iff.mp hbs
  obtain ⟨m, a, l₂, rfl, -, ha, hl₂⟩ := List.filterMap_eq_cons_iff.mp hr
  exact ⟨l₁ ++ m, a, l₂, (List.append_assoc _ _ _).symm, ha, List.filterMap_eq_nil_iff.mp hl₂⟩

/-- Only a query writes suggestions. -/
theorem eq_queried_of_written {u : Upshot} {ss : List Suggestion} (h : u.written = some ss)
    (hss : ss ≠ []) : u = .request (.queried ss) := by
  cases u with
  | request c =>
    cases c with
    | queried ss' =>
      obtain rfl : ss' = ss := Option.some.inj h
      rfl
    | blank => exact absurd (Option.some.inj h).symm hss
    | suppressed | refiltered | missing | failed => cases h
  | disposed => exact absurd (Option.some.inj h).symm hss
  | other => cases h

theorem queryCourse_ne_refiltered (r : Request) (s : Session) : queryCourse r s ≠ .refiltered := by
  unfold queryCourse
  split
  · nofun
  · nofun
  · split <;> nofun

/-- A request is refiltered only if something is remembered. -/
theorem remembered_ne_nil_of_refiltered {r : Request} {s : Session}
    (h : course r s = .refiltered) : remembered s ≠ [] := by
  unfold course at h
  split at h
  · cases h
  · split at h
    · cases h
    · cases h
    · split at h
      · next hre =>
        simp only [Provider.canRefilter, Bool.and_eq_true] at hre
        intro hnil
        rw [show s.provider.suggestions = [] from hnil] at hre
        cases hre.2
      · exact absurd h (queryCourse_ne_refiltered r s)

/-- A request that does not write passes over what is remembered, unless it is refiltered. -/
theorem passesOver_of_course? {u : Upshot} {c : Course} (hw : u.written = none)
    (hc : u.course? = some c) : c.passesOver = true := by
  cases u with
  | request d =>
    cases d with
    | refiltered => cases hc
    | blank | queried => cases hw
    | suppressed | missing | failed =>
      obtain rfl := Option.some.inj hc
      rfl
  | disposed | other => cases hc

/-- Behind a query and steps that do not write, the last request that was not refiltered is that query or
has passed over it. -/
theorem getLast?_courses_eq_iff {earlier later : List Upshot} {ss : List Suggestion}
    (hlater : ∀ u ∈ later, u.written = none) :
    ((earlier ++ .request (.queried ss) :: later).filterMap Upshot.course?).getLast? =
        some (.queried ss) ↔
      ∀ d ∈ ((earlier ++ .request (.queried ss) :: later).filterMap Upshot.course?).getLast?,
        d.passesOver = false := by
  have hlast : ((earlier ++ .request (.queried ss) :: later).filterMap Upshot.course?).getLast? =
      some ((later.filterMap Upshot.course?).getLast?.getD (.queried ss)) := by
    have hquery : (Upshot.request (.queried ss) :: later).filterMap Upshot.course? =
        .queried ss :: later.filterMap Upshot.course? := rfl
    rw [List.filterMap_append, hquery, List.getLast?_append_of_ne_nil _ (List.cons_ne_nil _ _),
      List.getLast?_cons]
  rw [hlast]
  cases hd : (later.filterMap Upshot.course?).getLast? with
  | none =>
    rw [Option.getD_none]
    refine iff_of_true rfl fun c hc => ?_
    obtain rfl := Option.some.inj hc
    rfl
  | some d =>
    obtain ⟨u, hu, hud⟩ := List.mem_filterMap.mp (List.mem_of_getLast? hd)
    have hpasses : d.passesOver = true := passesOver_of_course? (hlater u hu) hud
    rw [Option.getD_some]
    refine iff_of_false (fun heq => ?_) fun hall => ?_
    · rw [Option.some.inj heq] at hpasses
      cases hpasses
    · rw [hall d rfl] at hpasses
      cases hpasses

/-- **What is refiltered was suggested by a query**, and nothing has been written since then. That query is
the last request that was not refiltered exactly if no other one has passed over its suggestions: if that
last request was not suppressed, did not miss the daemon and did not fail. -/
theorem refiltered_history (c : Client) (settings : Settings) (connected : Bool) (host : Host)
    (xs : List Step) (x : Step) :
    let s := (start c settings connected host).run xs
    let past := (start c settings connected host).history xs
    x.upshot s = .request .refiltered →
      (∃ r, x.operation = .request r ∧
        suggest r (x.enter s) = answer (s.provider.refilter r.word.strip) (x.enter s)) ∧
      (∃ earlier later, past = earlier ++ .request (.queried (remembered s)) :: later ∧
        ∀ u ∈ later, u.written = none) ∧
      ((past.filterMap Upshot.course?).getLast? = some (.queried (remembered s)) ↔
        ∀ d ∈ (past.filterMap Upshot.course?).getLast?, d.passesOver = false) := by
  intro s past hx
  obtain ⟨r, hr, hcourse⟩ := Operation.upshot_eq_refiltered.mp hx
  have hne : remembered s ≠ [] := remembered_ne_nil_of_refiltered (s := x.enter s) hcourse
  have hlast : (past.filterMap Upshot.written).getLast? = some (remembered s) := by
    have hrun : remembered s = (past.filterMap Upshot.written).getLast?.getD [] :=
      remembered_run_eq (start c settings connected host) xs
    cases hwritten : (past.filterMap Upshot.written).getLast? with
    | none => exact absurd (by rw [hrun, hwritten]; rfl) hne
    | some ss => rw [hrun, hwritten]; rfl
  obtain ⟨earlier, u, later, hpast, hu, hlater⟩ := exists_last_of_filterMap hlast
  obtain rfl := eq_queried_of_written hu hne
  refine ⟨⟨r, hr, ?_⟩, ⟨earlier, later, hpast, hlater⟩, ?_⟩
  · have htook := took_course r (x.enter s)
    rw [hcourse] at htook
    exact htook
  · rw [hpast]
    exact getLast?_courses_eq_iff hlater

/-- The exact condition is met as long as the word is typed on. -/
theorem refiltered_history_moreOfIt :
    let s := typing.run [firstWord]
    let past := typing.history [firstWord]
    moreOfIt.upshot s = .request .refiltered ∧
      (∃ earlier later, past = earlier ++ .request (.queried (remembered s)) :: later ∧
        ∀ u ∈ later, u.written = none) ∧
      (past.filterMap Upshot.course?).getLast? = some (.queried (remembered s)) := by
  obtain ⟨-, hquery, hiff⟩ := refiltered_history _ _ _ _ [firstWord] moreOfIt upshot_moreOfIt
  exact ⟨upshot_moreOfIt, hquery, hiff.mpr (by decide +kernel)⟩

/-- Behind a parenthesis, where nothing is completed, the second word is completed with what was suggested
for the first one. -/
theorem secondWord_refiltered :
    let s := typing.run [firstWord, parenthesis]
    secondWord.upshot s = .request .refiltered ∧
      s.provider.refilter "f".toList = [{ foo with replaced := "f".toList }] ∧
        ((typing.history [firstWord, parenthesis]).filterMap Upshot.course?).getLast? =
          some .suppressed := by
  decide +kernel

end Session

end GoCompletion
