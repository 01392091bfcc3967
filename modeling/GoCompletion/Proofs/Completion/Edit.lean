import GoCompletion.Capability.Daemon
import GoCompletion.Proofs.Document.Cursor
import GoCompletion.Proofs.Session.Trouble

/-!
# What accepting an item replaces

An item replaces what is between two positions, which editors count in UTF-16 units. It ends at the cursor, and
begins as many units in front of it as the text to be replaced has **characters**. So it covers that text
exactly if every character of it is a single unit, and it does not reach beyond the line
(`Capability.items_cover`).
-/

namespace GoCompletion

/-! ## Units of a range -/

/-- The units of a text between two positions on a line, as an editor reads them. -/
def unitsBetween (t : Text) (start stop : Position) : List Nat :=
  ((Utf16.encode ((t.shownLines[start.line]?).getD [])).take stop.character).drop start.character

/-- A text of single units, without line breaks. -/
def Text.Plain (t : Text) : Prop := ∀ c ∈ t, c.toNat < 0x10000 ∧ isLineBreak c = false

instance (t : Text) : Decidable t.Plain := List.decidableBAll _ t

namespace Text

/-- A text at the end of closed text and more is at the end of what is more, if it holds no break. -/
theorem suffix_of_unbroken {r above before : Text} (hr : r <:+ above ++ before) (habove : above.Closed)
    (h : r.Unbroken) : r <:+ before := by
  by_cases hlength : r.length ≤ before.length
  · exact List.suffix_of_suffix_length_le hr (List.suffix_append above before) hlength
  · -- otherwise it ends with the last character above and what is in front of the cursor
    obtain ⟨s, rfl⟩ : before <:+ r :=
      List.suffix_of_suffix_length_le (List.suffix_append above before) hr (by omega)
    have hs : s <:+ above := by
      obtain ⟨u, hu⟩ := hr
      rw [← List.append_assoc] at hu
      exact ⟨u, List.append_cancel_right hu⟩
    have hne : s ≠ [] := by
      rintro rfl
      simp at hlength
    obtain ⟨c, hc⟩ : ∃ c, s.getLast? = some c := ⟨_, List.getLast?_eq_some_getLast hne⟩
    have hbreak : isLineBreak c = true := habove.of_suffix hs c hc
    cases (h c (List.mem_append_left _ (List.mem_of_getLast? hc))).symm.trans hbreak

end Text

/-- **The units right in front of the cursor**, as many as a text has characters, are those of the text exactly
if it is plain. -/
theorem drop_encode_eq_iff {r above before : Text} (hr : r <:+ above ++ before) (habove : above.Closed)
    (hbefore : before.Unbroken) :
    (Utf16.encode before).drop (Utf16.units before - r.length) = Utf16.encode r ↔ r.Plain := by
  constructor
  · intro h
    -- there are not more units than characters, so each character is one unit
    have hlength := congrArg List.length h
    rw [List.length_drop, Utf16.length_encode, Utf16.length_encode] at hlength
    have hunits := Utf16.length_le_units r
    have hsingle : ∀ c ∈ r, c.toNat < 0x10000 := (Utf16.units_le_length_iff r).mp (by omega)
    have hsuffix : r <:+ before := by
      by_cases hle : r.length ≤ before.length
      · exact List.suffix_of_suffix_length_le hr (List.suffix_append above before) hle
      · have hwhole : before <:+ r :=
          List.suffix_of_suffix_length_le (List.suffix_append above before) hr (by omega)
        have hbeforeUnits : Utf16.units before ≤ before.length :=
          (Utf16.units_le_length_iff before).mpr fun c hc => hsingle c (hwhole.subset hc)
        omega
    exact fun c hc => ⟨hsingle c hc, hbefore c (hsuffix.subset hc)⟩
  · intro h
    obtain ⟨u, rfl⟩ := Text.suffix_of_unbroken hr habove fun c hc => (h c hc).2
    have hunits : Utf16.units r = r.length :=
      Nat.le_antisymm ((Utf16.units_le_length_iff r).mpr fun c hc => (h c hc).1) (Utf16.length_le_units r)
    rw [Utf16.units_append, hunits, Nat.add_sub_cancel, Utf16.encode_append, ← Utf16.length_encode]
    exact List.drop_left

/-! ## What suggestions replace -/

namespace Suggestion

/-- What is replaced stands right in front of the cursor. -/
theorem replacedText_suffix (t : Text) (index : Nat) (count : Int) :
    replacedText t index count <:+ t.take index := by
  have htake : t.take (min index t.length) = t.take index := by
    rw [← List.take_take, List.take_length]
  unfold replacedText Text.slice
  rw [Text.position_natCast, htake]
  exact List.drop_suffix _ _

/-- **What is replaced is the end of the line in front of the cursor**, as many characters as the answer is
about, or the whole of it. -/
theorem replacedText_eq_drop {t : Text} {index : Nat} (hindex : index ≤ t.length) (count : Int) :
    replacedText t index count = (t.lineBefore index).drop ((t.lineBefore index).length - count.toNat) := by
  obtain ⟨above, hcut, hstart, -⟩ := t.exists_above_lineBefore index
  have hlength := congrArg List.length hcut
  rw [List.length_take, List.length_append, Nat.min_eq_left hindex] at hlength
  have hhere : t.position index = index := by rw [Text.position_natCast, Nat.min_eq_left hindex]
  -- a negative number of characters begins behind the cursor, where nothing is left
  obtain ⟨k, hk, hdrop⟩ : ∃ k, t.position (max (index - count) above.length) = above.length + k ∧
      (t.lineBefore index).drop k = (t.lineBefore index).drop ((t.lineBefore index).length - count.toNat) := by
    rw [t.position_of_nonneg (by omega)]
    by_cases hcount : 0 ≤ count
    · exact ⟨(t.lineBefore index).length - count.toNat, by omega, rfl⟩
    · refine ⟨min (index - count).toNat t.length - above.length, by omega, ?_⟩
      rw [List.drop_eq_nil_of_le (by omega), List.drop_eq_nil_of_le (by omega)]
  unfold replacedText Text.slice
  rw [hhere, hstart]
  dsimp only
  rw [hk, hcut, List.drop_length_add_append, hdrop]

/-- The number of characters that an answer claims to be about: what its first item says, where a truth value
counts as a number, and what is no number says nothing. -/
def claimed : List Datum → Int
  | .int n :: _ => n
  | .bool true :: _ => 1
  | _ => 0

theorem replacedCount_headD (answer : List Datum) : replacedCount (answer.headD .null) = claimed answer := by
  rcases answer with _ | ⟨d, rest⟩
  · rfl
  · cases d with
    | bool b => cases b <;> rfl
    | _ => rfl

/-- All suggestions of an answer replace the same. -/
theorem replaced_of_mem_ofAnswer {mode : SnippetMode} {answer : List Datum} {t : Text} {index : Int}
    {s : Suggestion} (h : s ∈ ofAnswer mode answer t index) :
    s.replaced = replacedText t index (claimed answer) := by
  obtain ⟨c, -, rfl⟩ := List.mem_map.mp h
  rw [← replacedCount_headD]
  unfold ofCandidate
  dsimp only
  split
  · split <;> rfl
  · rfl

end Suggestion

/-- A request that makes suggestions of an answer is answered with these. -/
theorem Session.eq_ofAnswer_of_maps {r : Request} {s : Session} {found : List Datum} {ss : List Suggestion}
    (h : Maps r s found) (hss : (suggest r s).1 = .ok ss) :
    ss = Suggestion.ofAnswer s.provider.snippetMode found r.document.text (indexOf r) := by
  obtain ⟨daemon, t, hasks, hfound⟩ := h
  have hreturned := (hasks.answered (Prod.ext hfound rfl)).2
  rw [hss] at hreturned
  exact (eq_of_returned hreturned.symm)

/-- A request that nothing else answers makes suggestions of what the daemon says, if it says something. -/
theorem Session.exists_maps {β : Type} {r : Request} {s : Session} {daemon : Text} {b : β}
    (hdaemon : (findTool daemonName s).1 = .ok (some daemon)) (hqueries : Queries r s)
    (view : List Datum → β)
    (hsaid : (consult (questionOf daemon r) (indexOf r) r.word.strip (findTool daemonName s).2).1.map view =
      .ok b) : ∃ found, Maps r s found ∧ view found = b := by
  cases hconsult : (consult (questionOf daemon r) (indexOf r) r.word.strip (findTool daemonName s).2).1 with
  | error e =>
    rw [hconsult] at hsaid
    cases hsaid
  | ok found =>
    rw [hconsult] at hsaid
    have hasks : Asks r s daemon (findTool daemonName s).2 :=
      ⟨hqueries.typed, hqueries.unsuppressed, hqueries.anew, Prod.ext hdaemon rfl⟩
    exact ⟨found, ⟨daemon, _, hasks, hconsult⟩, Except.ok.inj hsaid⟩

/-! ## Items -/

namespace Capability

/-- The request that a completion of a document makes. -/
def requestFor (d : Document) (p : Position) (trigger : Option Trigger) : Request :=
  requestAt d (Document.locate d.text p).2 (Document.locate d.text p).1 trigger

/-- The items of a completion are those for the suggestions that its request is answered with, at the position
that the cursor is taken for. -/
theorem exists_of_completeDocument_ok {d : Document} {trigger : Option Trigger} {x y : Exchange}
    {l : CompletionList} (h : completeDocument d trigger x = (.ok l, y)) :
    ∃ ss, (Session.suggest (requestFor d x.position trigger) x.session).1 = .ok ss ∧
      l = { isIncomplete := true
            items := CompletionItem.ofSuggestions (Document.locate d.text x.position).2 ss } := by
  obtain ⟨index, u, hlocate, h⟩ := Act.bind_apply_eq_ok.mp h
  cases hlocate
  obtain ⟨_, _, hget, h⟩ := Act.bind_apply_eq_ok.mp h
  cases hget
  obtain ⟨ss, v, hsuggest, h⟩ := Act.bind_apply_eq_ok.mp h
  cases h
  exact ⟨ss, congrArg Prod.fst hsuggest, rfl⟩

/-- What is completed, if it is known how many items that has. -/
theorem exists_of_length_items {d : Document} {trigger : Option Trigger} {x : Exchange} {n : Nat}
    (h : ((completeDocument d trigger x).1.map fun l => l.items.length) = .ok n) :
    ∃ l y, completeDocument d trigger x = (.ok l, y) ∧ l.items.length = n := by
  rcases hl : completeDocument d trigger x with ⟨e | l, y⟩ <;> rw [hl] at h
  · cases h
  · exact ⟨l, y, rfl, Except.ok.inj h⟩

/-- At the position of a cursor, the request is about the cursor. -/
theorem indexOf_requestFor {d : Document} {p : Position} (h : (Document.locate d.text p).2 = p)
    (trigger : Option Trigger) :
    Session.indexOf (requestFor d p trigger) = (Document.locate d.text p).1 := by
  change (Document.locate d.text (Document.locate d.text p).2).1 = _
  rw [h]

/-- The item at a cursor covers what its suggestion replaces exactly if that is plain. -/
theorem unitsBetween_ofSuggestion {t before behind above : Text} {p : Position} {s : Suggestion} (rank : Nat)
    (hcursor : Document.CursorAt t p before behind) (habove : above.Closed) (hbefore : before.Unbroken)
    (hs : s.replaced <:+ above ++ before) :
    let item := CompletionItem.ofSuggestion p rank s
    unitsBetween t item.start item.stop = Utf16.encode s.replaced ↔ s.replaced.Plain := by
  intro item
  have hline : unitsBetween t item.start item.stop =
      (Utf16.encode before).drop (Utf16.units before - s.replaced.length) := by
    have htake : (Utf16.encode (before ++ behind)).take p.character = Utf16.encode before := by
      rw [Utf16.encode_append, ← hcursor.character, ← Utf16.length_encode, List.take_left]
    change ((Utf16.encode ((t.shownLines[p.line]?).getD [])).take p.character).drop
      (p.character - s.replaced.length) = _
    rw [hcursor.line, Option.getD_some, htake, hcursor.character]
  rw [hline, drop_encode_eq_iff hs habove hbefore]

/-- **What accepting an item replaces.** At the position of a cursor, a completion for which the daemon is
asked has an item for each suggestion of the answer, on the line of the cursor and up to the cursor. What the
item covers is the text that its suggestion replaces exactly if that holds no character of two units and no
line break. -/
theorem items_cover {d : Document} {trigger : Option Trigger} {x y : Exchange} {found : List Datum}
    {l : CompletionList} (hcursor : Document.InRange d.text x.position)
    (hfound : Session.Maps (requestFor d x.position trigger) x.session found)
    (hl : completeDocument d trigger x = (.ok l, y)) :
    let ss := Suggestion.ofAnswer x.session.provider.snippetMode found d.text
      (Document.locate d.text x.position).1
    l.items.length = ss.length ∧
      ∀ (i : Nat) (item : CompletionItem) (s : Suggestion), l.items[i]? = some item → ss[i]? = some s →
        item.start.line = x.position.line ∧ item.stop = x.position ∧
          (unitsBetween d.text item.start item.stop = Utf16.encode s.replaced ↔ s.replaced.Plain) := by
  intro ss
  obtain ⟨before, behind, hcursor⟩ := hcursor
  obtain ⟨above, habove, hbefore, hmoved, htake, -⟩ := hcursor.exists_above
  obtain ⟨ss', hss', rfl⟩ := exists_of_completeDocument_ok hl
  have hanswer : ss' = ss := by
    rw [Session.eq_ofAnswer_of_maps hfound hss', indexOf_requestFor hmoved]
    rfl
  rw [hanswer, hmoved]
  refine ⟨List.length_mapIdx, fun i item s hitem hs => ?_⟩
  have hmem : s ∈ ss := List.mem_of_getElem? hs
  change (ss.mapIdx fun rank s => CompletionItem.ofSuggestion x.position rank s)[i]? = some item at hitem
  rw [List.getElem?_mapIdx, hs] at hitem
  cases hitem
  refine ⟨rfl, rfl, unitsBetween_ofSuggestion i hcursor habove hbefore ?_⟩
  rw [Suggestion.replaced_of_mem_ofAnswer hmem, ← htake]
  exact Suggestion.replacedText_suffix _ _ _

/-- An exchange about a cursor on the second line of a document, with a daemon that writes an answer. -/
def exchangeOn (character : Nat) (answer : String) : Exchange :=
  { session := Session.working [(queryCommand, [Session.writes answer])]
    position := { line := 1, character } }

/-- The two characters in front of the cursor are replaced. -/
theorem items_cover_plain :
    let d := (Session.atLineEnd "fo" "").document
    let x := exchangeOn 2 "[2,[\x7b\"class\":\"var\",\"name\":\"foo\",\"type\":\"int\"\x7d]]"
    ∃ found l y, Document.InRange d.text x.position ∧
      Session.Maps (requestFor d x.position none) x.session found ∧
        completeDocument d none x = (.ok l, y) ∧
          ∃ item, l.items[0]? = some item ∧
            unitsBetween d.text item.start item.stop = Utf16.encode "fo".toList := by
  intro d x
  have hcursor : Document.InRange d.text x.position :=
    ⟨"fo".toList, [], by decide +kernel, by decide +kernel⟩
  have hdaemon : (Session.findTool daemonName x.session).1 = .ok (some "/usr/bin/gocode".toList) := by
    decide +kernel
  have hqueries : Session.Queries (requestFor d x.position none) x.session :=
    ⟨by decide +kernel, by decide +kernel, by decide +kernel⟩
  obtain ⟨found, hfound, hreplaced⟩ := Session.exists_maps (b := ["fo".toList]) hdaemon hqueries
    (fun found => (Suggestion.ofAnswer .nameAndType found d.text (Document.locate d.text x.position).1).map
      (·.replaced)) (by decide +kernel)
  have hanswered : ((completeDocument d none x).1.map fun l => l.items.length) = .ok 1 := by decide +kernel
  obtain ⟨l, y, hl, hlength⟩ := exists_of_length_items hanswered
  obtain ⟨-, hitems⟩ := items_cover hcursor hfound hl
  obtain ⟨s, hs, hsingle⟩ := List.map_eq_singleton_iff.mp hreplaced
  have hfirst : (Suggestion.ofAnswer .nameAndType found d.text (Document.locate d.text x.position).1)[0]? =
      some s := by
    rw [hs]
    rfl
  obtain ⟨-, -, hcover⟩ := hitems 0 l.items[0] s (List.getElem?_eq_getElem _) hfirst
  rw [hsingle] at hcover
  exact ⟨found, l, y, hcursor, hfound, hl, l.items[0], List.getElem?_eq_getElem _, hcover.mpr (by decide)⟩

/-- **A character of two units** in front of the cursor is to be replaced, but the item covers only its second
unit. -/
theorem items_cover_halfCharacter :
    let d := (Session.atLineEnd "𝒳" "").document
    let x := exchangeOn 2 "[1,[\x7b\"class\":\"var\",\"name\":\"𝒳1\",\"type\":\"int\"\x7d]]"
    Document.InRange d.text x.position ∧
      ((Session.suggest (requestFor d x.position none) x.session).1.map fun ss => ss.map (·.replaced)) =
          .ok ["𝒳".toList] ∧
        ((completeDocument d none x).1.map fun l =>
          l.items.map fun item => unitsBetween d.text item.start item.stop) = .ok [[0xdcb3]] ∧
            Utf16.encode "𝒳".toList = [0xd835, 0xdcb3] := by
  intro d x
  exact ⟨⟨"𝒳".toList, [], by decide +kernel, by decide +kernel⟩, by decide +kernel, by decide +kernel,
    by decide +kernel⟩

end Capability

end GoCompletion
