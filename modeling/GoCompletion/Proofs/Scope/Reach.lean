import GoCompletion.Proofs.Scope.Token
import GoCompletion.Scope.Basic

/-!
# The scan from stretch to stretch

To know the construct that a character belongs to, nothing has to be known of the text in front of it but
the state in which the scan comes out of that. `Reaches` says which state it is, and is put together from
stretch to stretch (`Reaches.append`). So the scopes of a quoted literal that is reached in plain code depend
on one thing only, whether it is an import path (`scopesAt_inQuotes`).
-/

namespace GoCompletion

/-- From the state `state` in front of the stretch `s` at position `i`, with `rest` behind it, the scan comes
to the state `next`. -/
def Reaches (state : Owner) (i : Nat) (s rest : Text) (next : Owner) : Prop :=
  (ownersFrom state i (s ++ rest)).drop s.length = ownersFrom next (i + s.length) rest

theorem Owns.reaches {owner state next : Owner} {i : Nat} {s rest : Text}
    (h : Owns owner state i s rest next) : Reaches state i s rest next := by
  unfold Owns at h
  rw [Reaches, h]
  exact List.drop_left' List.length_replicate

namespace Reaches

variable {state next : Owner} {i : Nat} {s rest : Text}

theorem nil : Reaches state i [] rest state := rfl

/-- One stretch behind another. -/
theorem append {between : Owner} {s' : Text} (h : Reaches state i s (s' ++ rest) between)
    (h' : Reaches between (i + s.length) s' rest next) : Reaches state i (s ++ s') rest next := by
  unfold Reaches at *
  rw [List.append_assoc, List.length_append, ← List.drop_drop, h, h', Nat.add_assoc]

end Reaches

/-- What stands behind a stretch that the scan has come out of is owned as if nothing stood in front. -/
theorem constructAt_of_reaches {before s rest : Text} {state next owner : Owner}
    (hbefore : Reaches none 0 before (s ++ rest) state)
    (hs : Owns owner state before.length s rest next) {j : Nat} (hj : j < s.length) :
    constructAt (before ++ (s ++ rest)) (before.length + j) = owner := by
  have howners : (owners (before ++ (s ++ rest)))[before.length + j]? = some owner := by
    unfold Reaches at hbefore
    unfold Owns at hs
    rw [owners, ← List.getElem?_drop, hbefore, Nat.zero_add, hs,
      List.getElem?_append_left (by simpa using hj), List.getElem?_replicate, if_pos hj]
  rw [constructAt, howners, Option.join_some]

/-! ## Constructs -/

/-- The scan comes in plain code to each construct among the tokens of a text. -/
theorem Tokenised.exists_lexeme {t : Text} {before after : List Token} {token : Token} {kind : Construct}
    (h : Tokenised t (before ++ token :: after)) (hkind : token.kind = some kind) :
    ∃ front rest, t = front ++ (token.text ++ rest) ∧ front.length = Token.extent before ∧
      Lexeme kind token.text rest ∧ ∀ i, Reaches none i front (token.text ++ rest) none := by
  induction before generalizing t with
  | nil =>
    cases h with
    | construct hlexeme _ =>
      cases hkind
      exact ⟨[], _, rfl, rfl, hlexeme, fun _ => .nil⟩
    | code _ _ => cases hkind
  | cons first before ih =>
    cases h with
    | @construct _ body _ _ hfirst htail =>
      obtain ⟨front, rest, rfl, hlength, hlexeme, hreaches⟩ := ih htail
      refine ⟨body ++ front, rest, (List.append_assoc _ _ _).symm, by simp [Token.extent, hlength], hlexeme,
        fun i => .append (owns_lexeme hfirst i).reaches (hreaches _)⟩
    | @code c _ _ hcode htail =>
      obtain ⟨front, rest, rfl, hlength, hlexeme, hreaches⟩ := ih htail
      refine ⟨[c] ++ front, rest, rfl, by simp [Token.extent, hlength, Nat.add_comm], hlexeme,
        fun i => .append (owns_code hcode i).reaches (hreaches _)⟩

/-- **The owner of a character is a construct around it**, which starts where the owner says and owns all its
characters. -/
theorem exists_lexeme_of_constructAt {t : Text} {i s : Nat} {kind : Construct}
    (h : constructAt t i = some (kind, s)) :
    ∃ front body rest, t = front ++ (body ++ rest) ∧ front.length = s ∧ Lexeme kind body rest ∧
      s ≤ i ∧ i < s + body.length ∧ ∀ k < body.length, constructAt t (s + k) = some (kind, s) := by
  have hi : i < t.length := Nat.lt_of_not_le fun hle => by
    rw [constructAt, List.getElem?_eq_none (by rwa [length_owners])] at h
    cases h
  obtain ⟨ts, hts⟩ := exists_tokenised t
  obtain ⟨o, ho, before, token, after, rfl, hle, hlt, howner⟩ := hts.ownedIn 0 hi
  rw [constructAt, owners, ho, Option.join_some, howner] at h
  obtain ⟨kind', hkind, hstart⟩ := Option.map_eq_some_iff.mp h
  obtain ⟨front, rest, rfl, hlength, hlexeme, hreaches⟩ := hts.exists_lexeme hkind
  simp only [Nat.zero_add, ← hlength] at hle hlt hstart
  obtain ⟨rfl, rfl⟩ := Prod.mk.inj hstart
  exact ⟨front, token.text, rest, rfl, rfl, hlexeme, hle, hlt, fun k hk =>
    constructAt_of_reaches (hreaches 0) (owns_lexeme hlexeme _) hk⟩

/-! ## Code -/

/-- The character opens no comment and no literal, whatever stands behind it. -/
def isCode (c : Char) : Bool := c != '/' && (Construct.ofQuote c).isNone

/-- Code stays code. -/
theorem reaches_code {s : Text} (hs : s.all isCode = true) (i : Nat) (rest : Text) :
    Reaches none i s rest none := by
  refine (owns_of_inside (fun a c b hb j => ?_) i).reaches
  have hc : isCode c = true := List.all_eq_true.mp hs c (by simp [hb])
  rw [isCode, Bool.and_eq_true, bne_iff_ne, Option.isNone_iff_eq_none] at hc
  obtain ⟨hslash, hquote⟩ := hc
  simp [scanStep, hslash, hquote]

theorem reaches_newline (i : Nat) (rest : Text) : Reaches none i ['\n'] rest none :=
  reaches_code (by decide) i rest

/-- The characters that open comments and literals. -/
theorem isCode_eq_false {c : Char} (h : isCode c = false) :
    c = '/' ∨ c = '"' ∨ c = '\x27' ∨ c = '\x60' := by
  unfold isCode Construct.ofQuote at h
  split at h <;> simp_all

/-- A kind of characters without these is code. -/
theorem isCode_of_kind {kind : Char → Bool} {c : Char}
    (hkind : ['/', '"', '\x27', '\x60'].all (!kind ·) = true) (h : kind c = true) : isCode c = true := by
  simp only [List.all_cons, List.all_nil, Bool.and_true, Bool.and_eq_true, Bool.not_eq_true'] at hkind
  cases hc : isCode c with
  | true => rfl
  | false =>
    obtain rfl | rfl | rfl | rfl := isCode_eq_false hc <;> simp_all

theorem isCode_of_isBlank {c : Char} (h : isBlank c = true) : isCode c = true :=
  isCode_of_kind (by decide) h

/-! ## Quoted literals -/

/-- A text in double quotes. -/
def inQuotes (path : Text) : Text := '"' :: (path ++ ['"'])

/-- The text can stand between double quotes as it is: nothing in it ends the literal or escapes what is
behind it. -/
def Quotable (path : Text) : Prop := ∀ c ∈ path, c ≠ '"' ∧ c ≠ '\\' ∧ c ≠ '\n'

instance (path : Text) : Decidable (Quotable path) := List.decidableBAll _ path

theorem Quotable.literalBody {path : Text} (h : Quotable path) : LiteralBody '"' path := by
  induction path with
  | nil => exact .nil
  | cons c path ih =>
    obtain ⟨⟨hquote, hescape, hbreak⟩, hpath⟩ := List.forall_mem_cons.mp h
    exact .plain hescape hquote hbreak (ih hpath)

/-- The literal owns all its characters. -/
theorem owns_inQuotes {path : Text} (h : Quotable path) (i : Nat) (rest : Text) :
    Owns (some (.doubleString, i)) none i (inQuotes path) rest none :=
  owns_lexeme (.literal rest rfl h.literalBody) i

/-- The scopes of an import path. -/
def importScopes : List Text := [sourceScope, importScope, Construct.doubleString.scope]

/-- The scopes of any other string in double quotes. -/
def stringScopes : List Text := [sourceScope, Construct.doubleString.scope]

theorem importScopes_ne_stringScopes : importScopes ≠ stringScopes := by decide

/-- **The scopes of a quoted literal** that stands in code: all its characters have the same, delimiters
included. -/
theorem scopesAt_inQuotes {before path rest : Text} (hpath : Quotable path)
    (hbefore : Reaches none 0 before (inQuotes path ++ rest) none) {j : Nat} (hj : j < (inQuotes path).length) :
    scopesAt (before ++ (inQuotes path ++ rest)) (before.length + j) =
      if isImportPath before then importScopes else stringScopes := by
  rw [scopesAt, constructAt_of_reaches hbefore (owns_inQuotes hpath _ rest) hj]
  simp only [Construct.isString, Bool.true_and, List.take_left]
  rfl

end GoCompletion
