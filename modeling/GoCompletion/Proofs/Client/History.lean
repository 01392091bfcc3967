import GoCompletion.Proofs.Client.Locate

/-!
# What is known of tools

**A tool is known exactly if it has been found**, under the path where it was found last, and the daemon only if it
has not been installed anew since (`FoundIn`, `Client.Recalls`). Each search and each installation keeps this so
(`Client.Recalls.find`, `Client.Recalls.forget`), and so each search on the way through some events is one of a
client that knows what has been found by then (`Client.Passage.exists_answered`).
-/

namespace GoCompletion

/-- What happens to the tools that are known. -/
inductive ToolEvent where
  /-- a tool is looked for, among the files that there are at that moment -/
  | sought (name : Text) (files : FileTree) (answer : Except Fault (Option Text))
  /-- the daemon is installed anew -/
  | renewed
  deriving DecidableEq

/-- The tool has been found under a path, and if it is the daemon, that has not been installed anew since. -/
def FoundIn (events : List ToolEvent) (name path : Text) : Prop :=
  ∃ earlier files since, events = earlier ++ .sought name files (.ok (some path)) :: since ∧
    (name = daemonName → .renewed ∉ since)

theorem not_foundIn_nil {name path : Text} : ¬ FoundIn [] name path := by
  rintro ⟨earlier, files, since, h, -⟩
  cases earlier <;> cases h

/-- What the last event does to what has been found. -/
theorem foundIn_concat {events : List ToolEvent} {e : ToolEvent} {name path : Text} :
    FoundIn (events ++ [e]) name path ↔
      (∃ files, e = .sought name files (.ok (some path))) ∨
        FoundIn events name path ∧ (name = daemonName → .renewed ≠ e) := by
  constructor
  · rintro ⟨earlier, files, since, hsplit, hsince⟩
    rcases since.eq_nil_or_concat with rfl | ⟨since, e', rfl⟩
    · obtain ⟨-, he⟩ := List.append_inj' hsplit rfl
      exact .inl ⟨files, List.singleton_inj.mp he⟩
    · rw [List.concat_eq_append] at hsplit hsince
      rw [← List.cons_append, ← List.append_assoc] at hsplit
      obtain ⟨hevents, he⟩ := List.append_inj' hsplit rfl
      obtain rfl := List.singleton_inj.mp he
      refine .inr ⟨⟨earlier, files, since, hevents, fun hn hm => ?_⟩, fun hn he => ?_⟩
      · exact hsince hn (List.mem_append_left _ hm)
      · exact hsince hn (List.mem_append_right _ (List.mem_singleton.mpr he))
  · rintro (⟨files, rfl⟩ | ⟨⟨earlier, files, since, rfl, hsince⟩, he⟩)
    · exact ⟨events, files, [], rfl, fun _ => List.not_mem_nil⟩
    · refine ⟨earlier, files, since ++ [e], List.append_assoc _ _ _, fun hn hm => ?_⟩
      rcases List.mem_append.mp hm with hm | hm
      · exact hsince hn hm
      · exact he hn (List.mem_singleton.mp hm)

namespace Client

variable {c d : Client}

/-- The way of a client through some events: each search is one of the client as it is at that moment, and a daemon
that is installed anew is forgotten. -/
inductive Passage : Client → List ToolEvent → Client → Prop
  /-- nothing happens -/
  | done (c : Client) : Passage c [] c
  /-- a tool is looked for -/
  | sought {c d : Client} {events : List ToolEvent} (name : Text) (files : FileTree) :
    Passage (c.find files name).2 events d → Passage c (.sought name files (c.find files name).1 :: events) d
  /-- the daemon is installed anew -/
  | renewed {c d : Client} {events : List ToolEvent} :
    Passage (c.forget daemonName) events d → Passage c (.renewed :: events) d

theorem Passage.append {b : Client} {events others : List ToolEvent} (h : c.Passage events d)
    (hothers : d.Passage others b) : c.Passage (events ++ others) b := by
  induction h with
  | done => exact hothers
  | sought name files _ ih => exact .sought name files (ih hothers)
  | renewed _ ih => exact .renewed (ih hothers)

/-- The tools that are known are those that have been found. -/
def Recalls (c : Client) (events : List ToolEvent) : Prop :=
  ∀ name path, c.known? name = some path ↔ FoundIn events name path

theorem recalls_nil (h : c.tools = []) : c.Recalls [] := by
  intro name path
  rw [known?, h]
  exact iff_of_false (Option.some_ne_none path).symm not_foundIn_nil

theorem known?_cons (c : Client) (name path other : Text) :
    known? { c with tools := (name, path) :: c.tools } other =
      if name = other then some path else c.known? other := by
  rw [known?, List.find?_cons]
  split <;> simp_all [known?]

theorem known?_forget (c : Client) (name other : Text) :
    (c.forget name).known? other = if other = name then none else c.known? other := by
  rw [known?, forget, known?, List.find?_filter]
  split
  · next h =>
    subst h
    simp
  · next h =>
    congr 2
    funext t
    by_cases ht : t.1 = other <;> simp [ht, h]

variable {events : List ToolEvent}

/-- **A search is recalled**: what it finds is known from then on. -/
theorem Recalls.find (h : c.Recalls events) (files : FileTree) (name : Text) :
    (c.find files name).2.Recalls (events ++ [.sought name files (c.find files name).1]) := by
  intro other path
  have hkept : other = daemonName → ToolEvent.renewed ≠ .sought name files (c.find files name).1 := nofun
  rw [foundIn_concat, and_iff_left hkept, ← h]
  obtain ⟨found, hknown, hfind⟩ | ⟨hknown, ⟨found, -, hfind⟩ | ⟨hnone, hfind⟩⟩ := c.find_cases files name
  · -- it is known already, under the path that is found again
    rw [hfind]
    refine ⟨.inr, ?_⟩
    rintro (⟨_, he⟩ | hother)
    · cases he
      exact hknown
    · exact hother
  · -- it is found and was not known
    rw [hfind, known?_cons]
    split
    · next hname =>
      subst hname
      simp [hknown]
    · next hname => simp [hname]
  · -- it is not found
    rw [hfind]
    refine ⟨.inr, ?_⟩
    rintro (⟨_, he⟩ | hother)
    · exact absurd (ToolEvent.sought.inj he).2.2 (hnone path)
    · exact hother

/-- **A daemon that is installed anew has not been found since.** -/
theorem Recalls.forget (h : c.Recalls events) : (c.forget daemonName).Recalls (events ++ [.renewed]) := by
  intro name path
  rw [known?_forget, foundIn_concat, ← h]
  split
  · next hname => simp [hname]
  · next hname => simp [hname]

/-- **Each search on the way** is one of a client that knows what has been found by then, and that looks for tools
where the first one does. -/
theorem Passage.exists_answered (hpassage : c.Passage events d) {past : List ToolEvent} (h : c.Recalls past)
    {before after : List ToolEvent} {name : Text} {files : FileTree} {answer : Except Fault (Option Text)}
    (hsplit : events = before ++ .sought name files answer :: after) :
    ∃ b : Client, b.Recalls (past ++ before) ∧ b.locate = c.locate ∧ answer = (b.find files name).1 := by
  induction hpassage generalizing past before with
  | done => exact absurd hsplit (by simp)
  | @sought c d events first there _ ih =>
    cases before with
    | nil =>
      cases hsplit
      exact ⟨c, by rwa [List.append_nil], rfl, rfl⟩
    | cons e before =>
      obtain ⟨rfl, hrest⟩ := List.cons.inj hsplit
      obtain ⟨b, hb, hlocate, hanswer⟩ := ih (h.find there first) hrest
      have hfirst : (c.find there first).2.locate = c.locate := view_find (fun _ _ => rfl) c there first
      exact ⟨b, by simpa using hb, hlocate.trans hfirst, hanswer⟩
  | @renewed c d events _ ih =>
    cases before with
    | nil => cases hsplit
    | cons e before =>
      obtain ⟨rfl, hrest⟩ := List.cons.inj hsplit
      obtain ⟨b, hb, hlocate, hanswer⟩ := ih h.forget hrest
      exact ⟨b, by simpa using hb, hlocate, hanswer⟩

end Client

end GoCompletion
