import GoCompletion.Proofs.Session.Inquiry

/-!
# Completion at every cursor

A request breaks off because of where its cursor is in one case only: the position is behind the last line,
a character of that line has two units, and the character in front of the cursor has to be looked at
(`Provider.LooksBehind`). **Nothing else that happens to a request is about positions**: neither looking for
the daemon nor what it says, and a package that is looked for at a position behind the end of the text is
not found (`Session.outOfRange_iff`).
-/

namespace GoCompletion

namespace Session

open Act

/-! ## Requests -/

theorem heard_ne_outOfRange (n : Nat) (s : Session) : heard n s ≠ .error .outOfRange := by
  intro h
  obtain ⟨reason, hreason⟩ | hlimit := heard_eq_error h
  · cases hreason
  · cases hlimit

theorem returned_eq_error {us : List Subscriber} {ss : List Suggestion} {e : Fault}
    (h : returned us ss = .error e) : ∃ u ∈ us, u.fault = some e := by
  unfold returned at h
  split at h
  · next hfault =>
    cases h
    exact List.exists_of_findSome?_eq_some hfault
  · cases h

/-- Whatever is answered, a fault is that of somebody who learns of it. -/
theorem answer_ne_outOfRange {us : List Subscriber} (h : ∀ u ∈ us, u.fault ≠ some .outOfRange)
    (ss : List Suggestion) : returned us ss ≠ .error .outOfRange := by
  intro hreturned
  obtain ⟨u, hu, hfault⟩ := returned_eq_error hreturned
  exact h u hu hfault

/-- Asking the daemon is not about positions. -/
theorem query_ne_outOfRange {r : Request} {s : Session}
    (hsubscribers : ∀ u ∈ s.provider.subscribers, u.fault ≠ some .outOfRange) (hquery : Queries r s) :
    (suggest r s).1 ≠ .error .outOfRange := by
  have hsuggest := hquery.suggest_eq
  rcases hf : findTool daemonName s with ⟨e | _ | daemon, t⟩
  · rw [hsuggest, query, bind_assoc, bind_apply_error hf]
    obtain ⟨obstacle, path, rfl⟩ := Client.find_eq_error (congrArg Prod.fst hf)
    simp
  · obtain ⟨hmissing, hprovider⟩ := query_of_missing r r.word.strip hf
    rw [hsuggest, bind_apply_ok hmissing, fst_answer, hprovider]
    exact answer_ne_outOfRange hsubscribers _
  · have hasks : Asks r s daemon t := ⟨hquery.typed, hquery.unsuppressed, hquery.anew, hf⟩
    obtain ⟨again, -, hsaid, -⟩ := exists_again (questionOf daemon r) (indexOf r) r.word.strip t
    cases hheard : heard again.toList.length t with
    | ok found =>
      rw [(hasks.answered (Prod.ext (hsaid.trans hheard) rfl)).2]
      exact answer_ne_outOfRange hsubscribers _
    | error e =>
      rw [hasks.suggest_of_error (Prod.ext (hsaid.trans hheard) rfl)]
      rintro ⟨⟩
      exact heard_ne_outOfRange _ t hheard

/-- A request that gets over the check in front of the cursor does not break off because of its position. -/
theorem suggest_ne_outOfRange {r : Request} {s : Session}
    (hsubscribers : ∀ u ∈ s.provider.subscribers, u.fault ≠ some .outOfRange)
    (hlooks : r.word.strip = [] ∨ ¬ s.provider.LooksBehind r.document.text r.position r.manual) :
    (suggest r s).1 ≠ .error .outOfRange := by
  cases hblank : r.word.strip.isEmpty && !r.manual with
  | true =>
    rw [suggest_of_blank hblank, fst_answer]
    exact answer_ne_outOfRange hsubscribers _
  | false =>
    have hsuggest := suggest_of_not_blank hblank s
    have hchecked : ¬ s.provider.LooksBehind r.document.text r.position r.manual := by
      rcases hlooks with hword | hlooks
      · rintro ⟨-, hmanual, -⟩
        simp [hword, hmanual] at hblank
      · exact hlooks
    obtain ⟨b, hsup⟩ := (s.provider.exists_isSuppressed_iff _ _ _).mpr hchecked
    rw [hsup] at hsuggest
    cases b with
    | true =>
      rw [hsuggest, fst_answer]
      exact answer_ne_outOfRange hsubscribers _
    | false =>
      cases hre : s.provider.canRefilter r with
      | true =>
        rw [hsuggest, hre, if_pos rfl, fst_answer]
        exact answer_ne_outOfRange hsubscribers _
      | false => exact query_ne_outOfRange hsubscribers ⟨hblank, hsup, hre⟩

/-- **A request breaks off because of its position** exactly if something is typed, and the check in front
of the cursor looks for a character behind the end of the text; and that check, on its own, breaks off in no
other case either. -/
theorem outOfRange_iff (r : Request) (s : Session)
    (hsubscribers : ∀ u ∈ s.provider.subscribers, u.fault ≠ some .outOfRange) :
    ((∃ b, s.provider.isSuppressed r.document.text r.position r.manual = .ok b) ↔
        ¬ s.provider.LooksBehind r.document.text r.position r.manual) ∧
      ((suggest r s).1 = .error .outOfRange ↔
        r.word.strip ≠ [] ∧ s.provider.LooksBehind r.document.text r.position r.manual) := by
  refine ⟨s.provider.exists_isSuppressed_iff _ _ _, fun h => ?_, fun ⟨hword, hlooks⟩ => ?_⟩
  · refine ⟨fun hword => suggest_ne_outOfRange hsubscribers (.inl hword) h, ?_⟩
    exact Decidable.byContradiction fun hlooks => suggest_ne_outOfRange hsubscribers (.inr hlooks) h
  · have hblank : (r.word.strip.isEmpty && !r.manual) = false := by
      simp [hword]
    rw [suggest_of_not_blank hblank, (s.provider.isSuppressed_eq_error_iff _ _ _).mpr ⟨rfl, hlooks⟩]

/-- A completion behind the last line of a document the only line of which has a character of two units. -/
def behindLastLine : Request :=
  { document := { uri := "file:///main.go".toList, path := "/main.go".toList, text := "😀a".toList }
    position := { line := 1, character := 0 }
    word := "a".toList }

/-- Somebody learns of suggestions, but not of those for a cursor that is in no place. -/
theorem suggest_behindLastLine :
    let s := (subscribe { number := 0 } (working [])).2
    (∀ u ∈ s.provider.subscribers, u.fault ≠ some .outOfRange) ∧
      (suggest behindLastLine s).1 = .error .outOfRange := by
  intro s
  have hsubscribers : ∀ u ∈ s.provider.subscribers, u.fault ≠ some .outOfRange :=
    List.forall_mem_singleton.mpr nofun
  exact ⟨hsubscribers, (outOfRange_iff behindLastLine s hsubscribers).2.mpr (by decide +kernel)⟩

/-- **The check in front of the cursor breaks off** behind the last line of that document. -/
theorem isSuppressed_behindLastLine :
    (Provider.ofSettings {}).isSuppressed "😀a".toList { line := 1, character := 0 } false =
      .error .outOfRange := by
  decide +kernel

end Session

end GoCompletion
