import GoCompletion.Proofs.Completion.Edit
import GoCompletion.Proofs.Import.Site
import GoCompletion.Proofs.Text.Blank
import GoCompletion.Proofs.Text.Search

/-!
# The word in front of the cursor

A word ends at the cursor: a stretch of word characters that is as long as it can be (`EndsIn`). A fresh answer
of the daemon that is about as many characters replaces exactly that word. What refiltering replaces is read
off the line instead, and there **dashes join a word to the one in front of it** (`joined`). So the two replace
the same exactly if no other word is joined to the word by dashes (`Capability.word_replaced`).
-/

namespace GoCompletion

/-! ## Words -/

/-- A text ends in a word, behind another text: the word is as long as it can be. -/
structure EndsIn (t front word : Text) : Prop where
  /-- the text is made of the two -/
  eq_append : t = front ++ word
  /-- there is a word -/
  ne_nil : word ≠ []
  /-- it is made of word characters -/
  isWord : ∀ c ∈ word, isWord c = true
  /-- it begins where it can -/
  longest : ∀ c ∈ front.getLast?, GoCompletion.isWord c = false

theorem endsIn_iff {t front word : Text} :
    EndsIn t front word ↔
      t = front ++ word ∧ word ≠ [] ∧ word.all GoCompletion.isWord = true ∧
        front.getLast?.any GoCompletion.isWord = false := by
  rw [List.all_eq_true, Option.any_eq_false]
  exact ⟨fun h => ⟨h.eq_append, h.ne_nil, h.isWord, h.longest⟩, fun ⟨h, hne, hword, hlongest⟩ =>
    ⟨h, hne, hword, hlongest⟩⟩

instance (t front word : Text) : Decidable (EndsIn t front word) := decidable_of_iff _ endsIn_iff.symm

/-- What dashes join to a word behind a text: the stretch of word characters and dashes at its end, from the
first word character on. -/
def joined (front : Text) : Text :=
  ((front.reverse.takeWhile isWordOrDash).reverse).dropWhile (!isWord ·)

theorem isBlank_eq_false_of_isWordOrDash {c : Char} (h : isWordOrDash c = true) : isBlank c = false := by
  rcases Bool.or_eq_true_iff.mp h with hword | hdash
  · exact isBlank_eq_false_of_isWord hword
  · rw [beq_iff_eq.mp hdash]
    decide

theorem isBlank_of_isLineBreak {c : Char} (h : isLineBreak c = true) : isBlank c = true := by
  simp only [isLineBreak, Bool.or_eq_true, beq_iff_eq] at h
  rcases h with ((((((((rfl | rfl) | rfl) | rfl) | rfl) | rfl) | rfl) | rfl) | rfl) | rfl <;> decide

/-- Neither words nor dashes break lines. -/
theorem isWordOrDash_eq_false_of_isLineBreak {c : Char} (h : isLineBreak c = true) :
    isWordOrDash c = false := by
  refine Bool.eq_false_iff.mpr fun hword => ?_
  cases (isBlank_of_isLineBreak h).symm.trans (isBlank_eq_false_of_isWordOrDash hword)

/-- What is joined stands right in front of the word. -/
theorem joined_suffix (front : Text) : joined front <:+ front := by
  refine (List.dropWhile_suffix _).trans ?_
  rw [← List.reverse_prefix, List.reverse_reverse]
  exact List.takeWhile_prefix _

/-- What is joined holds word characters and dashes only. -/
theorem isWordOrDash_of_mem_joined {front : Text} : ∀ c ∈ joined front, isWordOrDash c = true := by
  intro c hc
  have hstretch : c ∈ front.reverse.takeWhile isWordOrDash :=
    List.mem_reverse.mp ((List.dropWhile_sublist _).subset hc)
  exact List.mem_takeWhile_imp hstretch

/-- Nothing is joined beyond a line break. -/
theorem joined_append_of_closed {above front : Text} (h : above.Closed) :
    joined (above ++ front) = joined front := by
  have hstretch : (above ++ front).reverse.takeWhile isWordOrDash = front.reverse.takeWhile isWordOrDash := by
    rw [List.reverse_append]
    cases hr : above.reverse with
    | nil => rw [List.append_nil]
    | cons c r =>
      have hlast : above.getLast? = some c := by rw [← List.head?_reverse, hr, List.head?_cons]
      exact Text.takeWhile_append_cons (isWordOrDash_eq_false_of_isLineBreak (h c hlast)) _ _
  rw [joined, hstretch, joined]

/-- Something is joined to a word exactly if dashes stand in front of that, behind a word character. -/
theorem joined_ne_nil_iff {front : Text} :
    joined front ≠ [] ↔
      ∃ (rest : Text) (c : Char) (dashes : Text), front = rest ++ c :: dashes ∧ isWord c = true ∧
        ∀ d ∈ dashes, d = '-' := by
  constructor
  · intro h
    -- the stretch, read backwards, is dashes up to a word character
    let stretch := front.reverse.takeWhile isWordOrDash
    obtain ⟨behind, hreverse⟩ : ∃ behind, stretch ++ behind = front.reverse :=
      ⟨_, List.takeWhile_append_dropWhile⟩
    have hdashes : ∀ d ∈ stretch.takeWhile (!isWord ·), d = '-' := by
      intro d hd
      have hnoword : isWord d = false := by simpa using List.mem_takeWhile_imp hd
      have hdash : isWordOrDash d = true :=
        List.mem_takeWhile_imp ((List.takeWhile_prefix _).subset hd)
      rw [isWordOrDash, hnoword, Bool.false_or] at hdash
      exact beq_iff_eq.mp hdash
    cases hword : stretch.dropWhile (!isWord ·) with
    | nil =>
      refine absurd (List.dropWhile_eq_nil_iff.mpr fun d hd => ?_) h
      exact List.dropWhile_eq_nil_iff.mp hword d (List.mem_reverse.mp hd)
    | cons c r =>
      have hc : isWord c = true := by
        have hhead := List.head?_dropWhile_not (!isWord ·) stretch
        rw [hword] at hhead
        simpa using hhead
      have hsplit : stretch = stretch.takeWhile (!isWord ·) ++ c :: r := by
        rw [← hword, List.takeWhile_append_dropWhile]
      refine ⟨(r ++ behind).reverse, c, (stretch.takeWhile (!isWord ·)).reverse, ?_, hc,
        fun d hd => hdashes d (List.mem_reverse.mp hd)⟩
      calc front = (stretch ++ behind).reverse := by rw [hreverse, List.reverse_reverse]
        _ = (stretch.takeWhile (!isWord ·) ++ c :: r ++ behind).reverse := by rw [← hsplit]
        _ = _ := by simp
  · rintro ⟨rest, c, dashes, rfl, hc, hdashes⟩ hnil
    have hdash : ∀ d ∈ dashes.reverse, isWordOrDash d = true := by
      intro d hd
      rw [hdashes d (List.mem_reverse.mp hd)]
      decide
    have hstretch : c ∈ ((rest ++ c :: dashes).reverse.takeWhile isWordOrDash).reverse := by
      have hwd : isWordOrDash c = true := by rw [isWordOrDash, hc, Bool.true_or]
      rw [List.reverse_append, List.reverse_cons, List.append_assoc, List.takeWhile_append_of_pos hdash,
        List.singleton_append, List.takeWhile_cons_of_pos hwd]
      simp
    have hnoword := List.dropWhile_eq_nil_iff.mp hnil c hstretch
    rw [hc] at hnoword
    cases hnoword

/-- **The word at the end of a text** that ends in a word is that word, with what is joined to it. -/
theorem wordAtEnd_append {front word : Text} (hne : word ≠ []) (hword : ∀ c ∈ word, isWord c = true) :
    wordAtEnd (front ++ word) = joined front ++ word := by
  have hwd : ∀ c ∈ word.reverse, isWordOrDash c = true := by
    intro c hc
    rw [isWordOrDash, hword c (List.mem_reverse.mp hc), Bool.true_or]
  obtain ⟨c, r, hr⟩ := List.exists_cons_of_ne_nil (mt List.reverse_eq_nil_iff.mp hne)
  have hc : c ∈ word := List.mem_reverse.mp (hr ▸ List.mem_cons_self)
  have hreverse : (front ++ word).reverse = c :: (r ++ front.reverse) := by
    rw [List.reverse_append, hr, List.cons_append]
  have hline : withoutNewline (front ++ word) = front ++ word := by
    have hnewline : Text.endsWith (front ++ word) ['\n'] = false := by
      refine Bool.eq_false_iff.mpr fun h => ?_
      obtain ⟨u, hu⟩ := List.isSuffixOf_iff_suffix.mp h
      rw [← hu, List.reverse_append] at hreverse
      obtain rfl : '\n' = c := (List.cons.inj hreverse).1
      cases (hword _ hc).symm.trans (by decide : isWord '\n' = false)
    rw [withoutNewline, hnewline]
    rfl
  have hhead : (word.dropWhile (!isWord ·)) = word := by
    cases word with
    | nil => rfl
    | cons d w => exact List.dropWhile_cons_of_neg (by simp [hword d List.mem_cons_self])
  unfold wordAtEnd
  rw [hline, hreverse]
  dsimp only
  rw [if_pos (hwd c (hr ▸ List.mem_cons_self)), ← List.cons_append, ← hr,
    List.takeWhile_append_of_pos hwd, List.reverse_append, List.reverse_reverse, List.dropWhile_append, hhead,
    joined]
  split
  · next hempty => rw [List.isEmpty_iff.mp hempty, List.nil_append]
  · rfl

/-! ## What is replaced -/

/-- An answer about as many characters as a text has, which stands in front of the cursor on its line, replaces
that text. -/
theorem Suggestion.replacedText_eq {t front word : Text} {index : Nat}
    (htake : t.take index = front ++ word) (hindex : index = (front ++ word).length)
    (hline : '\n' ∉ word) : replacedText t index word.length = word := by
  have hle : index ≤ t.length := by
    have hlength := congrArg List.length htake
    rw [List.length_take, ← hindex] at hlength
    omega
  have hkept : ∀ c ∈ word.reverse, (c != '\n') = true := fun c hc =>
    bne_iff_ne.mpr fun h => hline (h ▸ List.mem_reverse.mp hc)
  have hbefore : t.lineBefore index = (front.reverse.takeWhile (· != '\n')).reverse ++ word := by
    rw [Text.lineBefore, htake, List.reverse_append, List.takeWhile_append_of_pos hkept, List.reverse_append,
      List.reverse_reverse]
  rw [replacedText_eq_drop hle, hbefore, List.length_append, Int.toNat_natCast, Nat.add_sub_cancel,
    List.drop_left]

/-- What refiltering replaces is the word that it is about. -/
theorem Provider.replaced_of_mem_refilter {p : Provider} {word : Text} {s : Suggestion}
    (h : s ∈ p.refilter word) : s.replaced = word := by
  obtain ⟨_, -, rfl⟩ := List.mem_map.mp h
  rfl

/-- The word that a request is about at a cursor behind a word. -/
theorem wordAtEnd_lineBefore {t above front word : Text} {index : Nat}
    (htake : t.take index = above ++ (front ++ word)) (habove : above.Closed)
    (hbefore : Text.Unbroken (front ++ word)) (hne : word ≠ []) (hword : ∀ c ∈ word, isWord c = true) :
    (wordAtEnd (t.lineBefore index)).strip = joined front ++ word := by
  have hnewline : ∀ c ∈ (front ++ word).reverse, (c != '\n') = true := by
    intro c hc
    refine bne_iff_ne.mpr ?_
    rintro rfl
    cases (hbefore _ (List.mem_reverse.mp hc)).symm.trans (by decide : isLineBreak '\n' = true)
  -- more of the text may be on the line than an editor shows there
  obtain ⟨more, hmore, hline⟩ : ∃ more, more <:+ above ∧ t.lineBefore index = more ++ front ++ word := by
    refine ⟨(above.reverse.takeWhile (· != '\n')).reverse, ?_, ?_⟩
    · rw [← List.reverse_prefix, List.reverse_reverse]
      exact List.takeWhile_prefix _
    · rw [Text.lineBefore, htake, List.reverse_append, List.takeWhile_append_of_pos hnewline,
        List.reverse_append, List.reverse_reverse, List.append_assoc]
  have hchars : ∀ c ∈ joined front ++ word, isBlank c = false := by
    intro c hc
    refine isBlank_eq_false_of_isWordOrDash ?_
    rcases List.mem_append.mp hc with hc | hc
    · exact isWordOrDash_of_mem_joined c hc
    · rw [isWordOrDash, hword c hc, Bool.true_or]
  rw [hline, wordAtEnd_append hne hword, joined_append_of_closed (habove.of_suffix hmore)]
  exact Text.strip_eq_self_iff.mpr
    ⟨fun c hc => hchars c (List.mem_of_head? hc), fun c hc => hchars c (List.mem_of_getLast? hc)⟩

namespace Capability

/-- All items of a list replace a text at a cursor. -/
structure Replaces (t : Text) (p : Position) (l : CompletionList) (replaced : Text) : Prop where
  /-- the text is what their suggestions are to replace -/
  suggestions : ∃ ss, l.items = CompletionItem.ofSuggestions p ss ∧ ∀ s ∈ ss, s.replaced = replaced
  /-- it is what they cover, unless it has characters of two units -/
  cover : (∀ c ∈ replaced, c.toNat < 0x10000) → ∀ item ∈ l.items,
    item.start.line = p.line ∧ item.stop = p ∧ unitsBetween t item.start item.stop = Utf16.encode replaced

/-- The items for suggestions that replace a text in front of the cursor on its line replace that text. -/
theorem Replaces.of_suggestions {t before behind above replaced : Text} {p : Position} {l : CompletionList}
    {ss : List Suggestion} (hcursor : Document.CursorAt t p before behind) (habove : above.Closed)
    (hbefore : before.Unbroken) (hl : l.items = CompletionItem.ofSuggestions p ss)
    (hsuffix : replaced <:+ before) (hss : ∀ s ∈ ss, s.replaced = replaced) :
    Replaces t p l replaced := by
  refine ⟨⟨ss, hl, hss⟩, fun hbasic item hitem => ?_⟩
  rw [hl, CompletionItem.ofSuggestions] at hitem
  obtain ⟨rank, hrank, rfl⟩ := List.mem_mapIdx.mp hitem
  have hreplaced := hss ss[rank] (List.getElem_mem hrank)
  have hplain : Text.Plain replaced := fun c hc => ⟨hbasic c hc, hbefore c (hsuffix.subset hc)⟩
  refine ⟨rfl, rfl, ?_⟩
  rw [← hreplaced] at hsuffix hplain ⊢
  exact (unitsBetween_ofSuggestion rank hcursor habove hbefore
    (hsuffix.trans (List.suffix_append above before))).mpr hplain

/-- **What is replaced at the end of a word.** A fresh answer that is about as many characters as the word has
replaces exactly the word. Refiltering replaces with it what is joined to it, and that is more than the word
exactly if dashes stand in front of it behind a word character. -/
theorem word_replaced {d : Document} {trigger : Option Trigger} {x y : Exchange} {l : CompletionList}
    {before behind front word : Text} (hcursor : Document.CursorAt d.text x.position before behind)
    (hword : EndsIn before front word) (hl : completeDocument d trigger x = (.ok l, y)) :
    (∀ found, Session.Maps (requestFor d x.position trigger) x.session found →
        Suggestion.claimed found = word.length →
          Replaces d.text x.position l word) ∧
      (Session.course (requestFor d x.position trigger) x.session = .refiltered →
        Replaces d.text x.position l (joined front ++ word)) ∧
      (joined front ++ word ≠ word ↔
        ∃ (rest : Text) (c : Char) (dashes : Text), front = rest ++ c :: dashes ∧ isWord c = true ∧
          ∀ d ∈ dashes, d = '-') := by
  obtain ⟨above, habove, hbefore, hmoved, htake, hindex⟩ := hcursor.exists_above
  obtain ⟨rfl, hne, hchars, -⟩ := hword
  have hindex := hindex (List.append_ne_nil_of_right_ne_nil front hne)
  obtain ⟨ss, hss, rfl⟩ := exists_of_completeDocument_ok hl
  rw [hmoved]
  refine ⟨fun found hfound hcount => ?_, fun hcourse => ?_, ?_⟩
  · refine .of_suggestions hcursor habove hbefore rfl (List.suffix_append front word) fun s hs => ?_
    rw [Session.eq_ofAnswer_of_maps hfound hss, indexOf_requestFor hmoved] at hs
    rw [Suggestion.replaced_of_mem_ofAnswer hs, hcount]
    rw [← List.append_assoc] at htake hindex
    refine Suggestion.replacedText_eq htake hindex fun hnewline => ?_
    cases (hchars _ hnewline).symm.trans (by decide : isWord '\n' = false)
  · have htook := Session.took_course (requestFor d x.position trigger) x.session
    rw [hcourse] at htook
    have hanswer : ss = x.session.provider.refilter (joined front ++ word) := by
      have hasked : (requestFor d x.position trigger).word.strip = joined front ++ word :=
        wordAtEnd_lineBefore htake habove hbefore hne hchars
      have hsuggest : Session.suggest (requestFor d x.position trigger) x.session =
          Session.answer (x.session.provider.refilter (requestFor d x.position trigger).word.strip)
            x.session := htook
      rw [hsuggest, Session.fst_answer, hasked] at hss
      exact Session.eq_of_returned hss
    have hsuffix : joined front ++ word <:+ front ++ word := by
      obtain ⟨rest, hrest⟩ := joined_suffix front
      exact ⟨rest, by rw [← List.append_assoc, hrest]⟩
    refine .of_suggestions hcursor habove hbefore rfl hsuffix fun s hs => ?_
    rw [hanswer] at hs
    exact Provider.replaced_of_mem_refilter hs
  · rw [← joined_ne_nil_iff, ne_eq, ne_eq, List.append_left_eq_self]

/-- What the daemon says of a variable, in place of so many characters. -/
def saysBar (count : String) : String :=
  "[" ++ count ++ ",[\x7b\"class\":\"var\",\"name\":\"bar\",\"type\":\"int\"\x7d]]"

/-- An exchange about a line on which a character more is typed behind a completion. -/
def typedOn (line : String) : Exchange :=
  { (completeDocument (Session.atLineEnd line "").document none (exchangeOn line.length (saysBar "1"))).2 with
    position := { line := 1, character := line.length + 1 } }

/-- A word that nothing is joined to is replaced by a fresh answer and by refiltering alike. -/
theorem word_replaced_alike :
    let d := (Session.atLineEnd "-ba" "").document
    let x := exchangeOn 3 (saysBar "2")
    let x' := typedOn "-b"
    EndsIn "-ba".toList "-".toList "ba".toList ∧
      (∃ l y, completeDocument d none x = (.ok l, y) ∧ l.items.length = 1 ∧
        Replaces d.text x.position l "ba".toList) ∧
      ∃ l y, completeDocument d (some .incomplete) x' = (.ok l, y) ∧ l.items.length = 1 ∧
        Replaces d.text x'.position l "ba".toList := by
  intro d x x'
  have hcursor : Document.CursorAt d.text x.position "-ba".toList [] := ⟨by decide +kernel, by decide +kernel⟩
  have hcursor' : Document.CursorAt d.text x'.position "-ba".toList [] :=
    ⟨by decide +kernel, by decide +kernel⟩
  have hword : EndsIn "-ba".toList "-".toList "ba".toList := by decide +kernel
  have hdaemon : (Session.findTool daemonName x.session).1 = .ok (some "/usr/bin/gocode".toList) := by
    decide +kernel
  have hqueries : Session.Queries (requestFor d x.position none) x.session :=
    ⟨by decide +kernel, by decide +kernel, by decide +kernel⟩
  refine ⟨hword, ?_, ?_⟩
  · have hanswered : ((completeDocument d none x).1.map fun l => l.items.length) = .ok 1 := by decide +kernel
    obtain ⟨l, y, hl, hlength⟩ := exists_of_length_items hanswered
    obtain ⟨found, hfound, hcount⟩ := Session.exists_maps (b := 2) hdaemon hqueries
      Suggestion.claimed (by decide +kernel)
    exact ⟨l, y, hl, hlength, (word_replaced hcursor hword hl).1 found hfound hcount⟩
  · have hcourse : Session.course (requestFor d x'.position (some .incomplete)) x'.session = .refiltered := by
      decide +kernel
    have hanswered : ((completeDocument d (some .incomplete) x').1.map fun l => l.items.length) = .ok 1 := by
      decide +kernel
    obtain ⟨l, y, hl, hlength⟩ := exists_of_length_items hanswered
    exact ⟨l, y, hl, hlength, (word_replaced hcursor' hword hl).2.1 hcourse⟩

/-- **A dash joins a word to another one**: with the word in front of the cursor, refiltering replaces both. -/
theorem word_replaced_joined :
    let d := (Session.atLineEnd "foo-ba" "").document
    let x := typedOn "foo-b"
    Document.CursorAt d.text x.position "foo-ba".toList [] ∧
      EndsIn "foo-ba".toList "foo-".toList "ba".toList ∧
        Session.course (requestFor d x.position (some .incomplete)) x.session = .refiltered ∧
          ((Session.suggest (requestFor d x.position (some .incomplete)) x.session).1.map fun ss =>
            ss.map (·.replaced)) = .ok ["foo-ba".toList] ∧
          ((completeDocument d (some .incomplete) x).1.map fun l =>
            l.items.map fun item => (item.start, item.stop)) = .ok [(⟨1, 0⟩, ⟨1, 6⟩)] := by
  intro d x
  exact ⟨⟨by decide +kernel, by decide +kernel⟩, by decide +kernel, by decide +kernel, by decide +kernel,
    by decide +kernel⟩

end Capability

end GoCompletion
