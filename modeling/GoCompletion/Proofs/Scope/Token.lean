import GoCompletion.Scope.Construct

/-!
# Tokens

What comments and literals are, without a scan: `Lexeme` tells for every kind which characters a construct
consists of and what may stand behind it, and `Tokenised` cuts a text into constructs and characters of
code. The scan and the tokens agree:

* `owns_lexeme` — the scan gives all characters of a construct to it, and goes on as in code behind it;
* `Tokenised.unique` — a text has no more than one tokenisation;
* `constructAt_tokenised` — **every character is owned by the token that it belongs to**.
-/

namespace GoCompletion

/-! ## The constructs -/

/-- What stands between the quotes of a literal on one line: escapes, each of them a backslash with the
character behind it, **whatever that is**, and other characters that neither close the literal nor break
the line. -/
inductive LiteralBody (q : Char) : Text → Prop
  | nil : LiteralBody q []
  | escape (c : Char) {r : Text} : LiteralBody q r → LiteralBody q ('\\' :: c :: r)
  | plain {c : Char} {r : Text} (hescape : c ≠ '\\') (hquote : c ≠ q) (hbreak : c ≠ '\n') :
      LiteralBody q r → LiteralBody q (c :: r)

/-- What closes a block comment. -/
def commentEnd : Text := ['*', '/']

/-- The text breaks the line, or is over. -/
def EndsLine (t : Text) : Prop := ∀ c ∈ t.head?, c = '\n'

/-- A construct of a kind with its characters, and the text behind it. -/
inductive Lexeme : Construct → Text → Text → Prop
  /-- a line comment goes on to the end of its line -/
  | lineComment {body rest : Text} (hbody : '\n' ∉ body) (hrest : EndsLine rest) :
      Lexeme .lineComment ('/' :: '/' :: body) rest
  /-- a block comment goes on through the first end of a comment behind the two characters that open it -/
  | blockComment {body : Text} (rest : Text) (hbody : ¬ commentEnd <:+: body ++ ['*']) :
      Lexeme .blockComment ('/' :: '*' :: (body ++ commentEnd)) rest
  /-- a block comment that is not closed goes on to the end of the text -/
  | openComment {body : Text} (hbody : ¬ commentEnd <:+: body) :
      Lexeme .blockComment ('/' :: '*' :: body) []
  /-- a raw string goes on through the next back quote -/
  | rawString {body : Text} (rest : Text) (hbody : '\x60' ∉ body) :
      Lexeme .rawString ('\x60' :: (body ++ ['\x60'])) rest
  /-- a raw string that is not closed goes on to the end of the text -/
  | openString {body : Text} (hbody : '\x60' ∉ body) : Lexeme .rawString ('\x60' :: body) []
  /-- a literal goes on through the first quote that is not part of an escape -/
  | literal {kind : Construct} {q : Char} {body : Text} (rest : Text) (hquote : kind.quote = some q)
      (hbody : LiteralBody q body) : Lexeme kind (q :: (body ++ [q])) rest
  /-- a literal that is not closed goes on to the end of its line -/
  | brokenLiteral {kind : Construct} {q : Char} {body rest : Text} (hquote : kind.quote = some q)
      (hbody : LiteralBody q body) (hrest : EndsLine rest) : Lexeme kind (q :: body) rest
  /-- a literal at the end of the text may break off behind a backslash -/
  | brokenEscape {kind : Construct} {q : Char} {body : Text} (hquote : kind.quote = some q)
      (hbody : LiteralBody q body) : Lexeme kind (q :: (body ++ ['\\'])) []

/-- A comment or literal starts at the start of the text. -/
def Opens (t : Text) : Prop :=
  ['/', '/'] <+: t ∨ ['/', '*'] <+: t ∨ ∃ c ∈ t.head?, c = '\x60' ∨ c = '"' ∨ c = '\x27'

/-- A token: a construct, or a character of code. -/
structure Token where
  /-- the kind of the construct; nothing for code -/
  kind : Option Construct
  /-- the characters -/
  text : Text

/-- A text and its tokens. -/
inductive Tokenised : Text → List Token → Prop
  | nil : Tokenised [] []
  | construct {kind : Construct} {body rest : Text} {ts : List Token} :
      Lexeme kind body rest → Tokenised rest ts → Tokenised (body ++ rest) (⟨some kind, body⟩ :: ts)
  | code {c : Char} {rest : Text} {ts : List Token} :
      ¬ Opens (c :: rest) → Tokenised rest ts → Tokenised (c :: rest) (⟨none, [c]⟩ :: ts)

/-! ## The scan over a stretch of characters -/

/-- From one state to the next the scan gives a stretch of characters at position `i`, with `rest` behind
it, to one owner. -/
def Owns (owner state : Owner) (i : Nat) (s rest : Text) (next : Owner) : Prop :=
  ownersFrom state i (s ++ rest) =
    List.replicate s.length owner ++ ownersFrom next (i + s.length) rest

namespace Owns

variable {owner state next : Owner} {i : Nat} {s rest : Text}

theorem nil : Owns owner state i [] rest state := rfl

/-- One stretch behind another. -/
theorem append {between : Owner} {s' : Text} (h : Owns owner state i s (s' ++ rest) between)
    (h' : Owns owner between (i + s.length) s' rest next) : Owns owner state i (s ++ s') rest next := by
  unfold Owns at *
  rw [List.append_assoc, h, h', List.length_append, ← List.replicate_append_replicate, List.append_assoc,
    Nat.add_assoc]

/-- A step of the scan that takes a single character. -/
theorem single {c : Char} (h : scanStep state i c rest = ⟨owner, next, false⟩) :
    Owns owner state i [c] rest next := by
  cases rest <;> simp_all [Owns, ownersFrom]

/-- A step of the scan that takes two characters. -/
theorem pair {c d : Char} (h : scanStep state i c (d :: rest) = ⟨owner, next, true⟩) :
    Owns owner state i [c, d] rest next := by
  simp [Owns, ownersFrom, h, List.replicate]

/-- A step of the scan that would take two characters where there is only one left. -/
theorem last {c : Char} (h : scanStep state i c [] = ⟨owner, next, true⟩) :
    Owns owner state i [c] [] next := by
  simp [Owns, ownersFrom, h]

/-- At the end of the text the state does not matter any more. -/
theorem of_nil {next' : Owner} (h : Owns owner state i s [] next) : Owns owner state i s [] next' := h

end Owns

/-- The scan takes a character for the construct that it is in, and stays in it. -/
def Inside (state : Owner) (c : Char) (r : Text) : Prop :=
  ∀ i, scanStep state i c r = ⟨state, state, false⟩

/-- A construct owns a stretch of characters inside it. -/
theorem owns_of_inside {state : Owner} {body rest : Text}
    (h : ∀ a c b, body = a ++ c :: b → Inside state c (b ++ rest)) (i : Nat) :
    Owns state state i body rest state := by
  induction body generalizing i with
  | nil => exact .nil
  | cons c body ih =>
    have hbody : ∀ a d b, body = a ++ d :: b → Inside state d (b ++ rest) := fun a d b hb =>
      h (c :: a) d b (by rw [hb, List.cons_append])
    exact .append (s := [c]) (.single (h [] c body rfl i)) (ih hbody (i + 1))

/-! ## Comments and raw strings -/

/-- The two characters that open a comment. -/
theorem owns_commentStart {kind : Construct} {d : Char}
    (hd : d = '/' ∧ kind = .lineComment ∨ d = '*' ∧ kind = .blockComment) (i : Nat) (rest : Text) :
    Owns (some (kind, i)) none i ['/', d] rest (some (kind, i)) := by
  refine .pair ?_
  obtain ⟨rfl, rfl⟩ | ⟨rfl, rfl⟩ := hd <;> simp [scanStep]

/-- Nothing but a newline ends a line comment. -/
theorem owns_lineBody {body : Text} (hbody : '\n' ∉ body) (s i : Nat) (rest : Text) :
    Owns (some (.lineComment, s)) (some (.lineComment, s)) i body rest (some (.lineComment, s)) := by
  refine owns_of_inside (fun a c b hb _ => ?_) i
  have hc : c ≠ '\n' := fun he => hbody (by simp [hb, he])
  exact if_neg hc

/-- Nothing but a back quote ends a raw string. -/
theorem owns_rawBody {body : Text} (hbody : '\x60' ∉ body) (s i : Nat) (rest : Text) :
    Owns (some (.rawString, s)) (some (.rawString, s)) i body rest (some (.rawString, s)) := by
  refine owns_of_inside (fun a c b hb _ => ?_) i
  have hc : c ≠ '\x60' := fun he => hbody (by simp [hb, he])
  exact if_neg hc

/-- Nothing but an end of a comment ends a block comment. -/
theorem inside_blockComment {c : Char} {r : Text} (hc : ¬ commentEnd <+: c :: r) (s : Nat) :
    Inside (some (.blockComment, s)) c r := by
  refine fun _ => if_neg fun h => hc ?_
  obtain ⟨rfl, hr⟩ := h
  obtain ⟨r', rfl⟩ := List.head?_eq_some_iff.mp hr
  exact ⟨r', rfl⟩

/-- A block comment goes on up to the first end of a comment. -/
theorem owns_blockBody {body : Text} (hbody : ¬ commentEnd <:+: body ++ ['*']) (s i : Nat) (rest : Text) :
    Owns (some (.blockComment, s)) (some (.blockComment, s)) i body (commentEnd ++ rest)
      (some (.blockComment, s)) := by
  refine owns_of_inside (fun a c b hb => inside_blockComment (fun hprefix => hbody ?_) s) i
  -- the two characters would stand in the body and the asterisk behind it already
  have hend : commentEnd <+: c :: (b ++ ['*']) := by
    cases b with
    | nil => simp [commentEnd] at hprefix
    | cons d b => simpa [commentEnd] using hprefix
  rw [hb, List.append_assoc, List.cons_append]
  exact hend.isInfix.trans (List.suffix_append _ _).isInfix

/-- A block comment without an end goes on. -/
theorem owns_openBlockBody {body : Text} (hbody : ¬ commentEnd <:+: body) (s i : Nat) :
    Owns (some (.blockComment, s)) (some (.blockComment, s)) i body [] (some (.blockComment, s)) := by
  refine owns_of_inside (fun a c b hb => inside_blockComment (fun hprefix => hbody ?_) s) i
  rw [List.append_nil] at hprefix
  rw [hb]
  exact hprefix.isInfix.trans (List.suffix_append _ _).isInfix

/-! ## Literals on one line -/

/-- The literals on one line and their quotes. -/
theorem Construct.quote_eq_some {kind : Construct} {q : Char} :
    kind.quote = some q ↔ kind = doubleString ∧ q = '"' ∨ kind = rune ∧ q = '\x27' := by
  cases kind <;> simp [quote, eq_comm]

/-- A quote is none of the other characters that matter inside a literal. -/
theorem Construct.ne_of_quote {kind : Construct} {q : Char} (h : kind.quote = some q) :
    q ≠ '\\' ∧ q ≠ '\n' ∧ q ≠ '/' := by
  obtain ⟨-, rfl⟩ | ⟨-, rfl⟩ := quote_eq_some.mp h <;> decide

theorem Construct.ofQuote_of_quote {kind : Construct} {q : Char} (h : kind.quote = some q) :
    ofQuote q = some kind := by
  obtain ⟨rfl, rfl⟩ | ⟨rfl, rfl⟩ := quote_eq_some.mp h <;> rfl

/-- A step of the scan in a literal on one line. -/
theorem scanStep_literal {kind : Construct} {q : Char} (hquote : kind.quote = some q) (s i : Nat)
    (c : Char) (r : Text) :
    scanStep (some (kind, s)) i c r =
      if c = '\\' then ⟨some (kind, s), some (kind, s), true⟩
      else if q = c then ⟨some (kind, s), none, false⟩
      else if c = '\n' then ⟨none, none, false⟩
      else ⟨some (kind, s), some (kind, s), false⟩ := by
  obtain ⟨rfl, rfl⟩ | ⟨rfl, rfl⟩ := Construct.quote_eq_some.mp hquote <;>
    simp [scanStep, Construct.quote]

/-- The quote that opens a literal. -/
theorem owns_openingQuote {kind : Construct} {q : Char} (hquote : Construct.ofQuote q = some kind)
    (hne : q ≠ '/') (i : Nat) (rest : Text) :
    Owns (some (kind, i)) none i [q] rest (some (kind, i)) :=
  .single (by simp [scanStep, hne, hquote])

/-- Inside the body of a literal nothing ends it. -/
theorem owns_literalBody {kind : Construct} {q : Char} {body : Text} (hquote : kind.quote = some q)
    (hbody : LiteralBody q body) (s i : Nat) (rest : Text) :
    Owns (some (kind, s)) (some (kind, s)) i body rest (some (kind, s)) := by
  induction hbody generalizing i with
  | nil => exact .nil
  | escape c _ ih =>
    exact .append (s := ['\\', c]) (.pair (by rw [scanStep_literal hquote, if_pos rfl])) (ih (i + 2))
  | plain hescape hq hbreak _ ih =>
    exact .append (s := [_])
      (.single (by rw [scanStep_literal hquote, if_neg hescape, if_neg (Ne.symm hq), if_neg hbreak]))
      (ih (i + 1))

/-- The quote that closes a literal belongs to it. -/
theorem owns_closingQuote {kind : Construct} {q : Char} (hquote : kind.quote = some q) (s i : Nat)
    (rest : Text) : Owns (some (kind, s)) (some (kind, s)) i [q] rest none :=
  .single (by rw [scanStep_literal hquote, if_neg (Construct.ne_of_quote hquote).1, if_pos rfl])

/-- A line comment or a literal that is not closed is over where the line ends. -/
theorem ownersFrom_of_endsLine {kind : Construct} (hkind : kind = .lineComment ∨ ∃ q, kind.quote = some q)
    {rest : Text} (hrest : EndsLine rest) (s i : Nat) :
    ownersFrom (some (kind, s)) i rest = ownersFrom none i rest := by
  cases rest with
  | nil => rfl
  | cons c r =>
    obtain rfl : c = '\n' := hrest c rfl
    have hin : scanStep (some (kind, s)) i '\n' r = ⟨none, none, false⟩ := by
      obtain rfl | ⟨q, hq⟩ := hkind
      · rfl
      · rw [scanStep_literal hq, if_neg (by decide), if_neg (Construct.ne_of_quote hq).2.1, if_pos rfl]
    have hout : scanStep none i '\n' r = ⟨none, none, false⟩ := by simp [scanStep, Construct.ofQuote]
    exact (Owns.single hin : _ = _).trans (Owns.single hout : _ = _).symm

/-- What an owner has up to where its line ends, it has in front of code. -/
theorem Owns.of_endsLine {kind : Construct} {owner state : Owner} {i j : Nat} {s rest : Text}
    (h : Owns owner state i s rest (some (kind, j)))
    (hkind : kind = .lineComment ∨ ∃ q, kind.quote = some q) (hrest : EndsLine rest) :
    Owns owner state i s rest none := by
  rw [Owns, h, ownersFrom_of_endsLine hkind hrest]

/-! ## Constructs and code -/

/-- The scan gives all characters of a construct to it, and goes on as in code behind it. -/
theorem owns_lexeme {kind : Construct} {body rest : Text} (h : Lexeme kind body rest) (i : Nat) :
    Owns (some (kind, i)) none i body rest none := by
  cases h with
  | lineComment hbody hrest =>
    exact .of_endsLine (.append (owns_commentStart (.inl ⟨rfl, rfl⟩) i _) (owns_lineBody hbody i _ rest))
      (.inl rfl) hrest
  | blockComment rest hbody =>
    exact .append (owns_commentStart (.inr ⟨rfl, rfl⟩) i _)
      (.append (owns_blockBody hbody i _ rest) (.pair (by simp [scanStep])))
  | openComment hbody =>
    exact .of_nil (.append (owns_commentStart (.inr ⟨rfl, rfl⟩) i _) (owns_openBlockBody hbody i _))
  | rawString rest hbody =>
    exact .append (s := ['\x60']) (owns_openingQuote rfl (by decide) i _)
      (.append (owns_rawBody hbody i _ _) (.single (by simp [scanStep])))
  | openString hbody =>
    exact .of_nil (.append (s := ['\x60']) (owns_openingQuote rfl (by decide) i _)
      (owns_rawBody hbody i _ _))
  | literal rest hquote hbody =>
    exact .append (s := [_])
      (owns_openingQuote (Construct.ofQuote_of_quote hquote) (Construct.ne_of_quote hquote).2.2 i _)
      (.append (owns_literalBody hquote hbody i _ _) (owns_closingQuote hquote i _ rest))
  | brokenLiteral hquote hbody hrest =>
    exact .of_endsLine (.append (s := [_])
      (owns_openingQuote (Construct.ofQuote_of_quote hquote) (Construct.ne_of_quote hquote).2.2 i _)
      (owns_literalBody hquote hbody i _ rest)) (.inr ⟨_, hquote⟩) hrest
  | brokenEscape hquote hbody =>
    exact .append (s := [_])
      (owns_openingQuote (Construct.ofQuote_of_quote hquote) (Construct.ne_of_quote hquote).2.2 i _)
      (.append (owns_literalBody hquote hbody i _ _)
        (.of_nil (.last (by rw [scanStep_literal hquote, if_pos rfl]))))

/-- Where no construct opens, a character is code. -/
theorem owns_code {c : Char} {rest : Text} (h : ¬ Opens (c :: rest)) (i : Nat) :
    Owns none none i [c] rest none := by
  simp only [Opens, not_or] at h
  obtain ⟨hline, hblock, hquote⟩ := h
  have hopened : Construct.ofQuote c = none := by
    unfold Construct.ofQuote
    split <;> simp_all
  have hstart : ∀ d, ¬ ['/', d] <+: c :: rest → ¬ (c = '/' ∧ rest.head? = some d) := by
    rintro d hd ⟨rfl, hrest⟩
    obtain ⟨r, rfl⟩ := List.head?_eq_some_iff.mp hrest
    exact hd ⟨r, rfl⟩
  exact .single (by
    rw [scanStep, if_neg (hstart _ hline), if_neg (hstart _ hblock), hopened, Option.map_none])

/-! ## Every text has one tokenisation -/

theorem Lexeme.opens {kind : Construct} {body rest : Text} (h : Lexeme kind body rest) :
    Opens (body ++ rest) := by
  have hquote : ∀ {q : Char} {r : Text}, kind.quote = some q → Opens (q :: r) := by
    intro q r hq
    obtain ⟨-, rfl⟩ | ⟨-, rfl⟩ := Construct.quote_eq_some.mp hq
    · exact .inr (.inr ⟨_, rfl, .inr (.inl rfl)⟩)
    · exact .inr (.inr ⟨_, rfl, .inr (.inr rfl)⟩)
  cases h with
  | lineComment _ _ => exact .inl ⟨_, rfl⟩
  | blockComment _ _ => exact .inr (.inl ⟨_, rfl⟩)
  | openComment _ => exact .inr (.inl ⟨_, rfl⟩)
  | rawString _ _ => exact .inr (.inr ⟨_, rfl, .inl rfl⟩)
  | openString _ => exact .inr (.inr ⟨_, rfl, .inl rfl⟩)
  | literal _ hq _ => exact hquote hq
  | brokenLiteral hq _ _ => exact hquote hq
  | brokenEscape hq _ => exact hquote hq

theorem Lexeme.length_pos {kind : Construct} {body rest : Text} (h : Lexeme kind body rest) :
    0 < body.length := by
  cases h <;> simp

/-- Up to the first end of a comment, if there is one. -/
theorem exists_commentEnd (t : Text) :
    (∃ body rest, t = body ++ commentEnd ++ rest ∧ ¬ commentEnd <:+: body ++ ['*']) ∨
      ¬ commentEnd <:+: t := by
  induction t with
  | nil => exact .inr (by simp [commentEnd])
  | cons c t ih =>
    by_cases hc : commentEnd <+: c :: t
    · obtain ⟨rest, hrest⟩ := hc
      exact .inl ⟨[], rest, hrest.symm, by simp [commentEnd, List.infix_cons_iff]⟩
    · obtain ⟨body, rest, rfl, hbody⟩ | ht := ih
      · refine .inl ⟨c :: body, rest, rfl, ?_⟩
        rw [List.cons_append, List.infix_cons_iff, not_or]
        refine ⟨fun hprefix => hc ?_, hbody⟩
        cases body with
        | nil => simp [commentEnd] at hprefix
        | cons d body => simpa [commentEnd] using hprefix
      · exact .inr (by rw [List.infix_cons_iff, not_or]; exact ⟨hc, ht⟩)

/-- The body of a literal, up to where the literal is closed or broken. -/
theorem exists_literalBody (q : Char) (t : Text) :
    ∃ body rest, t = body ++ rest ∧ LiteralBody q body ∧
      (EndsLine rest ∨ rest = ['\\'] ∨ rest.head? = some q) := by
  match t with
  | [] => exact ⟨[], [], rfl, .nil, .inl nofun⟩
  | c :: t =>
    by_cases hq : c = q
    · exact ⟨[], _, rfl, .nil, .inr (.inr (by rw [hq]; rfl))⟩
    by_cases hbreak : c = '\n'
    · exact ⟨[], _, rfl, .nil, .inl (by simp [EndsLine, hbreak])⟩
    by_cases hescape : c = '\\'
    · match t with
      | [] => exact ⟨[], _, rfl, .nil, .inr (.inl (by rw [hescape]))⟩
      | d :: t =>
        obtain ⟨body, rest, rfl, hbody, hrest⟩ := exists_literalBody q t
        exact ⟨_, rest, by rw [hescape]; rfl, .escape d hbody, hrest⟩
    · obtain ⟨body, rest, rfl, hbody, hrest⟩ := exists_literalBody q t
      exact ⟨_, rest, rfl, .plain hescape hq hbreak hbody, hrest⟩

/-- A construct of the kind `kind` that a quote opens. -/
theorem exists_literal {kind : Construct} {q : Char} (hquote : kind.quote = some q) (t : Text) :
    ∃ body rest, q :: t = body ++ rest ∧ Lexeme kind body rest := by
  obtain ⟨body, rest, rfl, hbody, hrest | rfl | hrest⟩ := exists_literalBody q t
  · exact ⟨_, rest, rfl, .brokenLiteral hquote hbody hrest⟩
  · exact ⟨_, [], (List.append_nil _).symm, .brokenEscape hquote hbody⟩
  · obtain ⟨rest', rfl⟩ := List.head?_eq_some_iff.mp hrest
    exact ⟨_, rest', by simp, .literal rest' hquote hbody⟩

/-- Where a construct opens, there is one. -/
theorem Opens.exists_lexeme {t : Text} (h : Opens t) :
    ∃ kind body rest, t = body ++ rest ∧ Lexeme kind body rest := by
  obtain ⟨r, rfl⟩ | ⟨r, rfl⟩ | ⟨q, ht, hq⟩ := h
  · by_cases hr : '\n' ∈ r
    · obtain ⟨body, rest, rfl, hbody⟩ := List.eq_append_cons_of_mem hr
      exact ⟨_, _, '\n' :: rest, by simp, .lineComment hbody (by simp [EndsLine])⟩
    · exact ⟨_, _, [], by simp, .lineComment hr nofun⟩
  · obtain ⟨body, rest, rfl, hbody⟩ | hr := exists_commentEnd r
    · exact ⟨_, _, rest, by simp, .blockComment rest hbody⟩
    · exact ⟨_, _, [], by simp, .openComment hr⟩
  · obtain ⟨r, rfl⟩ := List.head?_eq_some_iff.mp ht
    obtain rfl | rfl | rfl := hq
    · by_cases hr : '\x60' ∈ r
      · obtain ⟨body, rest, rfl, hbody⟩ := List.eq_append_cons_of_mem hr
        exact ⟨_, _, rest, by simp, .rawString rest hbody⟩
      · exact ⟨_, _, [], by simp, .openString hr⟩
    · exact ⟨.doubleString, exists_literal rfl r⟩
    · exact ⟨.rune, exists_literal rfl r⟩

/-- Every text can be cut into tokens. -/
theorem exists_tokenised (t : Text) : ∃ ts, Tokenised t ts := by
  match t with
  | [] => exact ⟨[], .nil⟩
  | c :: t =>
    by_cases h : Opens (c :: t)
    · obtain ⟨kind, body, rest, ht, hlexeme⟩ := h.exists_lexeme
      have hshorter : rest.length < (c :: t).length := by
        rw [ht, List.length_append]
        exact Nat.lt_add_of_pos_left hlexeme.length_pos
      obtain ⟨ts, hts⟩ := exists_tokenised rest
      exact ⟨_, ht ▸ Tokenised.construct hlexeme hts⟩
    · obtain ⟨ts, hts⟩ := exists_tokenised t
      exact ⟨_, .code h hts⟩
termination_by t.length
decreasing_by
  · exact hshorter
  · exact Nat.lt_succ_self _

/-- What a step of the scan makes of a state: nothing, the same one, or a construct that starts here. -/
theorem scanStep_cases (state : Owner) (i : Nat) (c : Char) (r : Text) {o : Owner}
    (h : o = (scanStep state i c r).owner ∨ o = (scanStep state i c r).next) :
    o = none ∨ o = state ∨ ∃ kind, o = some (kind, i) := by
  revert h
  unfold scanStep
  cases Construct.ofQuote c <;> rintro (rfl | rfl) <;> repeat' split
  all_goals simp

/-- Whatever the scan finds behind a position starts there or later, unless the scan is in it already. -/
theorem start_le_of_mem_ownersFrom {state : Owner} {i : Nat} {t : Text} {kind : Construct} {s : Nat}
    (h : some (kind, s) ∈ ownersFrom state i t) : some (kind, s) = state ∨ i ≤ s := by
  have hstep : ∀ {state i c r}, some (kind, s) = (scanStep state i c r).owner ∨
      some (kind, s) = (scanStep state i c r).next → some (kind, s) = state ∨ i ≤ s := by
    intro state i c r ho
    obtain ho | ho | ⟨kind', ho⟩ := scanStep_cases state i c r ho
    · cases ho
    · exact .inl ho
    · cases ho
      exact .inr (Nat.le_refl _)
  fun_induction ownersFrom state i t with
  | case1 => cases h
  | case2 state i c d r step hpair ih =>
    obtain h | h := List.mem_cons.mp h
    · exact hstep (.inl h)
    obtain h | h := List.mem_cons.mp h
    · exact hstep (.inl h)
    obtain h | h := ih h
    · exact hstep (.inr h)
    · exact .inr (by omega)
  | case3 state i c r step hpair ih =>
    obtain h | h := List.mem_cons.mp h
    · exact hstep (.inl h)
    obtain h | h := ih h
    · exact hstep (.inr h)
    · exact .inr (by omega)

/-- A construct is known by what the scan makes of it: there is no other one at the start of a text. -/
theorem Lexeme.unique {kind kind' : Construct} {body rest body' rest' : Text}
    (h : Lexeme kind body rest) (h' : Lexeme kind' body' rest') (ht : body ++ rest = body' ++ rest') :
    kind = kind' ∧ body = body' ∧ rest = rest' := by
  have hcount : ∀ {kind body rest}, Lexeme kind body rest →
      (ownersFrom none 0 (body ++ rest)).head? = some (some (kind, 0)) ∧
        (ownersFrom none 0 (body ++ rest)).count (some (kind, 0)) = body.length := by
    intro kind body rest h
    have hpos := h.length_pos
    have hbehind : some (kind, 0) ∉ ownersFrom none (0 + body.length) rest := fun hm => by
      obtain hm | hm := start_le_of_mem_ownersFrom hm
      · cases hm
      · omega
    rw [owns_lexeme h 0, List.count_append, List.count_replicate_self, List.count_eq_zero_of_not_mem hbehind]
    refine ⟨?_, rfl⟩
    rw [List.head?_append, List.head?_replicate, if_neg (Nat.ne_of_gt hpos), Option.some_or]
  obtain ⟨hhead, hlength⟩ := hcount h
  obtain ⟨hhead', hlength'⟩ := hcount h'
  rw [ht, hhead'] at hhead
  obtain rfl : kind' = kind := by simpa using hhead
  rw [ht, hlength'] at hlength
  obtain ⟨rfl, rfl⟩ := List.append_inj ht hlength.symm
  exact ⟨rfl, rfl, rfl⟩

/-- **A text has no more than one tokenisation.** -/
theorem Tokenised.unique {t : Text} {ts us : List Token} (h : Tokenised t ts) (h' : Tokenised t us) :
    ts = us := by
  induction h generalizing us with
  | nil =>
    generalize ht : ([] : Text) = t at h'
    cases h' with
    | nil => rfl
    | construct hlexeme _ =>
      have := hlexeme.length_pos
      simp_all
    | code _ _ => cases ht
  | @construct kind body rest ts hlexeme _ ih =>
    generalize ht : body ++ rest = t at h'
    cases h' with
    | nil =>
      have := hlexeme.length_pos
      simp_all
    | construct hlexeme' htail =>
      obtain ⟨rfl, rfl, rfl⟩ := hlexeme.unique hlexeme' ht
      rw [ih htail]
    | code hcode _ => exact absurd (ht ▸ hlexeme.opens) hcode
  | @code c rest ts hcode _ ih =>
    generalize ht : c :: rest = t at h'
    cases h' with
    | nil => cases ht
    | construct hlexeme _ => exact absurd hlexeme.opens (ht ▸ hcode)
    | code _ htail =>
      obtain ⟨rfl, rfl⟩ := List.cons.inj ht
      rw [ih htail]

/-! ## The owner of a character -/

/-- The number of characters of some tokens. -/
def Token.extent (ts : List Token) : Nat := Text.total (·.text.length) ts

/-- The character at position `i` is one of a token of those that are laid out from position `start` on, and
the token owns it. -/
def OwnedIn (ts : List Token) (start i : Nat) (owner : Owner) : Prop :=
  ∃ before token after, ts = before ++ token :: after ∧ start + Token.extent before ≤ i ∧
    i < start + Token.extent before + token.text.length ∧
    owner = token.kind.map (·, start + Token.extent before)

/-- The characters of a token and those of the ones behind it. -/
theorem ownedIn_cons (token : Token) {rest : Text} {ts : List Token} {start : Nat}
    (h : Owns (token.kind.map (·, start)) none start token.text rest none)
    (hrest : ∀ i < rest.length, ∃ o, (ownersFrom none (start + token.text.length) rest)[i]? = some o ∧
      OwnedIn ts (start + token.text.length) (start + token.text.length + i) o)
    {i : Nat} (hi : i < (token.text ++ rest).length) :
    ∃ o, (ownersFrom none start (token.text ++ rest))[i]? = some o ∧
      OwnedIn (token :: ts) start (start + i) o := by
  rw [h]
  by_cases hin : i < token.text.length
  · refine ⟨_, ?_, [], token, ts, rfl, by simp [Token.extent], by simpa [Token.extent] using hin, rfl⟩
    rw [List.getElem?_append_left (by simpa using hin), List.getElem?_replicate, if_pos hin]
    simp [Token.extent]
  · rw [List.length_append] at hi
    obtain ⟨o, ho, before, token', after, rfl, hle, hlt, rfl⟩ := hrest (i - token.text.length) (by omega)
    refine ⟨_, ?_, token :: before, token', after, rfl, ?_, ?_, rfl⟩
    · rw [List.getElem?_append_right (by simpa using hin), List.length_replicate, ho]
      simp [Token.extent, Nat.add_assoc]
    · simp only [Token.extent, Text.total_cons] at hle ⊢
      omega
    · simp only [Token.extent, Text.total_cons] at hlt ⊢
      omega

/-- The scan tells for every character which token it belongs to. -/
theorem Tokenised.ownedIn {t : Text} {ts : List Token} (h : Tokenised t ts) (start : Nat) {i : Nat}
    (hi : i < t.length) :
    ∃ o, (ownersFrom none start t)[i]? = some o ∧ OwnedIn ts start (start + i) o := by
  induction h generalizing start i with
  | nil => cases hi
  | @construct kind body rest ts hlexeme _ ih =>
    exact ownedIn_cons ⟨some kind, body⟩ (owns_lexeme hlexeme start) (fun i hi => ih _ hi) hi
  | @code c rest ts hcode _ ih =>
    exact ownedIn_cons ⟨none, [c]⟩ (owns_code hcode start) (fun i hi => ih _ hi) hi

/-- **Every character is owned by the token that it belongs to**: a text has exactly one tokenisation, and
the owner of a character is the kind and the start of the construct of which it is a character, or nothing,
if it is a character of code. -/
theorem constructAt_tokenised (t : Text) :
    ∃ ts, (∀ us, Tokenised t us ↔ us = ts) ∧
      ∀ i < t.length, ∃ before token after, ts = before ++ token :: after ∧
        Token.extent before ≤ i ∧ i < Token.extent before + token.text.length ∧
        constructAt t i = token.kind.map (·, Token.extent before) := by
  obtain ⟨ts, hts⟩ := exists_tokenised t
  refine ⟨ts, fun us => ⟨fun hus => hus.unique hts, fun h => h ▸ hts⟩, fun i hi => ?_⟩
  obtain ⟨o, ho, before, token, after, hsplit, hle, hlt, howner⟩ := hts.ownedIn 0 hi
  simp only [Nat.zero_add] at hle hlt howner
  refine ⟨before, token, after, hsplit, hle, hlt, ?_⟩
  rw [constructAt, owners, ho, Option.join_some, howner]

/-- The slash right behind the start of a block comment does not end it, and an escaped quote does not end a
rune. -/
example : (owners "/*/*/'\\''".toList).map (·.map (·.2)) =
    [some 0, some 0, some 0, some 0, some 0, some 5, some 5, some 5, some 5] := by decide +kernel

end GoCompletion
