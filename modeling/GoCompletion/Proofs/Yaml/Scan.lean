import GoCompletion.Proofs.Yaml.Slip
import GoCompletion.Yaml.Token

/-!
# What cutting tokens comes to

Tokens are cut off a YAML text with slips only (`Yaml.Scan.confined_look`): an escape in double quotes may
have too large a number (`Yaml.confined_quotedScalar`), and so may the version of YAML (`Yaml.confined_directive`);
everything else that is wrong with a token is refused.
-/

namespace GoCompletion

namespace Yaml

/-! ## Scalars -/

theorem confined_charOfHex (ds : Text) : Confined (charOfHex ds) := by
  unfold charOfHex
  split
  · exact confined_refuse
  · exact .ite (.ok _) (.ite (confined_fault (.form _)) (confined_fault .character))

theorem confined_quotedBreaks (bound : Nat) (c : Cursor) : Confined (quotedBreaks bound c) := by
  induction bound generalizing c with
  | zero => exact confined_refuse
  | succ bound ih =>
    unfold quotedBreaks
    refine .ite confined_refuse ?_
    dsimp only
    split
    · exact .ok _
    · exact .map (ih _) _

theorem confined_quotedWord (double : Bool) (bound : Nat) (c : Cursor) :
    Confined (quotedWord double bound c) := by
  induction bound generalizing c with
  | zero => exact confined_refuse
  | succ bound ih =>
    have hfollow : ∀ (t : Text) (c : Cursor),
        Confined ((quotedWord double bound c).map fun r => (t ++ r.1, r.2)) := fun t c => .map (ih c) _
    unfold quotedWord
    dsimp only
    split
    · exact .ok _
    · refine .ite (.ok _) (.ite (hfollow _ _) (.ite ?_ (.ite (.ok _) (hfollow _ _))))
      -- what stands behind a backslash
      split
      · exact confined_refuse
      · split
        · exact hfollow _ _
        · exact .ite (.bind (confined_charOfHex _) fun _ => hfollow _ _) confined_refuse
        · exact .ite (.bind (confined_quotedBreaks _ _) fun _ => hfollow _ _) confined_refuse

theorem confined_quotedSpaces (c : Cursor) : Confined (quotedSpaces c) := by
  refine .ite confined_refuse ?_
  split
  · exact .ok _
  · exact .map (confined_quotedBreaks _ _) _

/-- **A scalar in quotes.** -/
theorem confined_quotedScalar (double : Bool) (c : Cursor) : Confined (quotedScalar double c) := by
  have hrest : ∀ bound c, Confined (quotedRest double bound c) := by
    intro bound
    induction bound with
    | zero => exact fun _ => confined_refuse
    | succ bound ih =>
      exact fun c => .bind (confined_quotedWord double _ c) fun w =>
        .ite (.ok _) (.bind (confined_quotedSpaces _) fun _ => .map (ih _) _)
  exact hrest _ _

theorem confined_blockScalar (folded : Bool) (indent : Int) (c : Cursor) :
    Confined (blockScalar folded indent c) :=
  .bind (confined_orRefuse _) fun _ => .map (confined_orRefuse _) _

/-! ## Directives -/

theorem confined_number (c : Cursor) : Confined (number c) :=
  .ite confined_refuse (.map (confined_orFault (slips_ofDigits _)) _)

/-- **A directive.** -/
theorem confined_directive (c : Cursor) : Confined (directive c) := by
  have hversion : ∀ c, Confined (versionDirective c) := fun c =>
    .bind (confined_number _) fun major =>
      .ite (.bind (confined_number _) fun minor => .ite (.ok _) confined_refuse) confined_refuse
  refine .ite confined_refuse (.bind ?_ fun _ => .map (confined_orRefuse _) _)
  exact .ite (hversion _) (.ite (confined_orRefuse _) (.ok _))

/-! ## Tokens -/

namespace Scan

theorem confined_dropStale (s : Scan) : Confined s.dropStale := .ite confined_refuse (.ok _)

theorem confined_dropKey (s : Scan) : Confined s.dropKey := .ite confined_refuse (.ok _)

theorem confined_markKey (s : Scan) : Confined s.markKey := .ite (.map (confined_dropKey s) _) (.ok _)

theorem confined_beginBlock (s : Scan) (t : Token) : Confined (s.beginBlock t) := by
  refine .ite (.ok _) (.ite confined_refuse ?_)
  split <;> exact .ok _

theorem confined_value (s : Scan) : Confined s.value := by
  unfold value
  split
  · exact .ok _
  · exact .bind (confined_beginBlock _ _) fun _ => .map (confined_dropKey _) _

theorem confined_keyLike (s : Scan) {token : Cursor → Result (Token × Cursor)}
    (h : ∀ c, Confined (token c)) : Confined (s.keyLike token) :=
  .bind (confined_markKey s) fun _ => .map (h _) _

/-- **One token**, whatever it begins with. -/
theorem confined_token (s : Scan) (ch : Char) : Confined (s.token ch) := by
  have hdocument : ∀ t, Confined (s.document t) := fun _ => .map (confined_dropKey _) _
  have hopen : ∀ t, Confined (s.openFlow t) := fun _ => .map (confined_markKey _) _
  have hclose : ∀ t, Confined (s.closeFlow t) := fun _ =>
    .ite confined_refuse (.map (confined_dropKey _) _)
  have hblock : ∀ folded, Confined (s.block folded) := fun _ =>
    .bind (confined_dropKey _) fun _ => .map (confined_blockScalar _ _ _) _
  have hquoted : ∀ double,
      Confined (s.keyLike fun c => (quotedScalar double c).map fun r => (.scalar false r.1, r.2)) :=
    fun double => confined_keyLike s fun c => .map (confined_quotedScalar double c) _
  refine .ite (.bind (confined_dropKey _) fun _ => .map (confined_directive _) _) ?_
  refine .ite (hdocument _) (.ite (hdocument _) ?_)
  refine .ite (hopen _) (.ite (hopen _) (.ite (hclose _) (.ite (hclose _) ?_)))
  refine .ite (.map (confined_dropKey _) _) ?_
  refine .ite (.bind (confined_beginBlock _ _) fun _ => .map (confined_dropKey _) _) ?_
  refine .ite (.bind (confined_beginBlock _ _) fun _ => .map (confined_dropKey _) _) ?_
  refine .ite (confined_value s) ?_
  refine .ite (confined_keyLike s fun _ => .map (confined_orRefuse _) _) ?_
  refine .ite (confined_keyLike s fun _ => .map (confined_orRefuse _) _) ?_
  refine .ite (confined_keyLike s fun _ => .map (confined_orRefuse _) _) ?_
  refine .ite (hblock _) (.ite (hblock _) (.ite (hquoted _) (.ite (hquoted _) ?_)))
  exact .ite (.map (confined_markKey _) _) confined_refuse

theorem confined_fetch (s : Scan) : Confined s.fetch := by
  refine .bind (confined_dropStale _) fun s => ?_
  dsimp only
  split
  · exact .map (confined_dropKey _) _
  · exact confined_token _ _

/-- **The token ahead.** -/
theorem confined_look (s : Scan) : Confined s.look := by
  have hfill : ∀ bound s, Confined (fill bound s) := by
    intro bound
    induction bound with
    | zero => exact fun _ => confined_refuse
    | succ bound ih =>
      refine fun s => .ite (.ok _) (.ite (.bind (confined_fetch s) ih) ?_)
      exact .bind (confined_dropStale s) fun s => .ite (.bind (confined_fetch s) ih) (.ok _)
  exact hfill _ s

end Scan

theorem confined_scan (t : Text) : Confined (scan t) := .ite (.ok _) confined_refuse

end Yaml

end GoCompletion
