import GoCompletion.Proofs.Act
import GoCompletion.Proofs.Datum.Json
import GoCompletion.Proofs.Number.Binary64
import GoCompletion.Settings.Basic

/-!
# Settings in layers

Data are put over settings one behind the other, and **each key goes by the last one of them that has a valid
value for it** (`Settings.layered_latest`). What a datum says under a name is read in its section if it has
one that is a mapping, and in itself otherwise (`Settings.said`); a key knows which values are valid, and
what they come to (`Settings.Key`).

Two kinds of data cannot be put over settings at all (`Settings.overlay_cases`): those that list an integer
with too many digits, which no JSON does, and those that say a number of seconds that is too large.
-/

namespace GoCompletion

namespace Settings

/-! ## What data say -/

/-- The part of a datum that is read: its section, if that is a mapping, and the datum itself otherwise. -/
def ownPart (d : Datum) : Datum :=
  match d.get? "gocodels".toList with
  | some (.map own) => .map own
  | _ => d

/-- What a datum says under a name; nothing, if it is no mapping. -/
def said (name : Text) (d : Datum) : Option Datum := (ownPart d).get? name

theorem layerOf_eq_said (entries : List (Datum × Datum)) (name : Text) :
    layerOf entries name = said name (.map entries) := by
  have hget : (Datum.map entries).get? "gocodels".toList = Datum.lookup sectionName entries := rfl
  rw [said, ownPart, hget, layerOf]
  rcases Datum.lookup sectionName entries with _ | d
  · rfl
  · cases d <;> rfl

/-- A datum is put over settings by what it says. -/
theorem overlay_eq_withKeys (s : Settings) (d : Datum) : s.overlay d = s.withKeys (said · d) := by
  cases d with
  | map entries => exact congrArg s.withKeys (funext (layerOf_eq_said entries))
  | _ => rfl

/-! ## Keys -/

/-- A key of settings. -/
structure Key (α : Type) where
  /-- its name -/
  name : Text
  /-- what a value under it comes to, if it is valid -/
  valid? : Datum → Option α
  /-- the field that it is about -/
  field : Settings → α

/-- A truth value. -/
def truth? : Datum → Option Bool
  | .bool b => some b
  | _ => none

/-- A text. -/
def text? : Datum → Option Text
  | .text t => some t
  | _ => none

/-- An item of a list as it is shown, if it has a value. -/
def shownItem : Datum → Option Text
  | .null => none
  | item => some item.shown

/-- A list, as the texts of those of its items that have a value. -/
def texts? : Datum → Option (List Text)
  | .list items => some (items.filterMap shownItem)
  | _ => none

/-- The names of the snippet modes: each has one of its own, and two of them have another one. -/
def modeNames : List (Text × SnippetMode) := [
  ("name".toList, .name), ("identifiers-only".toList, .name),
  ("nameAndType".toList, .nameAndType), ("full-names".toList, .nameAndType),
  ("none".toList, .none)]

/-- A text that is one of the names of the snippet modes. -/
def mode? : Datum → Option SnippetMode
  | .text t => modeNames.lookup t
  | _ => none

/-- A number greater than zero; a truth value is none. -/
def positive? : Datum → Option Binary64
  | .int i => if 0 < i then some (.ofInt i) else none
  | .float x => if x.isPositive then some x else none
  | _ => none

namespace Key

variable {α : Type}

/-- What a datum says under a key, if it is valid. -/
def value? (k : Key α) (d : Datum) : Option α := (said k.name d).bind k.valid?

/-- What a layer says under a key, if it is valid. -/
def valueIn? (k : Key α) (layer : Layer) : Option α := (layer k.name).bind k.valid?

/-- The last valid value under a key. -/
def latest? (k : Key α) (ds : List Datum) : Option α := (ds.filterMap k.value?).getLast?

/-- The last valid value is the first one, unless there is another one behind it. -/
theorem latest?_cons (k : Key α) (d : Datum) (ds : List Datum) :
    k.latest? (d :: ds) = (k.latest? ds).or (k.value? d) := by
  unfold latest?
  cases hd : k.value? d with
  | none => rw [List.filterMap_cons_none hd, Option.or_none]
  | some a =>
    rw [List.filterMap_cons_some hd, List.getLast?_cons]
    cases (ds.filterMap k.value?).getLast? <;> rfl

def proposeBuiltins : Key Bool :=
  { name := "proposeBuiltins".toList, valid? := truth?, field := (·.proposeBuiltins) }

def unimportedPackages : Key Bool :=
  { name := "unimportedPackages".toList, valid? := truth?, field := (·.unimportedPackages) }

def scopeBlacklist : Key Text :=
  { name := "scopeBlacklist".toList, valid? := text?, field := (·.scopeBlacklist) }

def suppressed : Key (List Text) :=
  { name := "suppressActivationForCharacters".toList, valid? := texts?, field := (·.suppressed) }

def snippetMode : Key SnippetMode :=
  { name := "snippetMode".toList, valid? := mode?, field := (·.snippetMode) }

def timeout : Key Binary64 :=
  { name := "gocodeTimeout".toList, valid? := positive?, field := (·.timeout) }

/-- The keys that are known. -/
inductive Known : {α : Type} → Key α → Prop
  | proposeBuiltins : Known Key.proposeBuiltins
  | unimportedPackages : Known Key.unimportedPackages
  | scopeBlacklist : Known Key.scopeBlacklist
  | suppressed : Known Key.suppressed
  | snippetMode : Known Key.snippetMode
  | timeout : Known Key.timeout

end Key

/-- The settings with the valid values of a layer put over them. -/
def updatedIn (s : Settings) (layer : Layer) : Settings :=
  { proposeBuiltins := (Key.proposeBuiltins.valueIn? layer).getD s.proposeBuiltins
    unimportedPackages := (Key.unimportedPackages.valueIn? layer).getD s.unimportedPackages
    scopeBlacklist := (Key.scopeBlacklist.valueIn? layer).getD s.scopeBlacklist
    suppressed := (Key.suppressed.valueIn? layer).getD s.suppressed
    snippetMode := (Key.snippetMode.valueIn? layer).getD s.snippetMode
    timeout := (Key.timeout.valueIn? layer).getD s.timeout }

/-- Each key goes by its own valid value, and is left alone without one. -/
theorem field_updatedIn {α : Type} {k : Key α} (h : k.Known) (s : Settings) (layer : Layer) :
    k.field (s.updatedIn layer) = (k.valueIn? layer).getD (k.field s) := by
  cases h <;> rfl

/-- The settings with the valid values of a datum put over them. -/
def updated (s : Settings) (d : Datum) : Settings := s.updatedIn (said · d)

theorem field_updated {α : Type} {k : Key α} (h : k.Known) (s : Settings) (d : Datum) :
    k.field (s.updated d) = (k.value? d).getD (k.field s) := field_updatedIn h s (said · d)

/-! ## One layer -/

/-- A layer lists an integer with more digits than are shown. -/
def ListsOverlongIn (layer : Layer) : Prop :=
  ∃ items, layer Key.suppressed.name = some (.list items) ∧ ∃ item ∈ items, item.isOverlong = true

/-- A layer says a positive integer of seconds that is too large for a binary64 number. -/
def SaysTooLargeIn (layer : Layer) : Prop :=
  ∃ i : Int, layer Key.timeout.name = some (.int i) ∧ 0 < i ∧ (Binary64.ofInt i).isInfinite = true

/-- The datum lists an integer with more digits than are shown. -/
def ListsOverlong (d : Datum) : Prop :=
  ∃ items, said Key.suppressed.name d = some (.list items) ∧ ∃ item ∈ items, item.isOverlong = true

/-- The datum says a positive integer of seconds that is too large for a binary64 number. -/
def SaysTooLarge (d : Datum) : Prop :=
  ∃ i : Int, said Key.timeout.name d = some (.int i) ∧ 0 < i ∧ (Binary64.ofInt i).isInfinite = true

/-- A datum says no number of seconds that is too large if what is valid of it is no infinity. -/
theorem not_saysTooLarge {d : Datum} (h : (Key.timeout.value? d).all (!·.isInfinite) = true) :
    ¬ SaysTooLarge d := by
  rintro ⟨i, hsaid, hpos, hlarge⟩
  have hvalue : Key.timeout.value? d = some (.ofInt i) := by
    rw [Key.value?, hsaid]
    exact if_pos hpos
  rw [hvalue, Option.all_some, hlarge] at h
  cases h

section Reading

variable (layer : Layer) (key : String)

theorem boolAt?_eq : boolAt? layer key = (layer key.toList).bind truth? := by
  unfold boolAt?
  rcases layer key.toList with _ | d
  · rfl
  · cases d <;> rfl

theorem textAt?_eq : textAt? layer key = (layer key.toList).bind text? := by
  unfold textAt?
  rcases layer key.toList with _ | d
  · rfl
  · cases d <;> rfl

theorem ofText?_eq_lookup (t : Text) : SnippetMode.ofText? t = modeNames.lookup t := by
  unfold SnippetMode.ofText?
  split
  · next h => obtain rfl | rfl := h <;> rfl
  · next hname =>
    split
    · next h => obtain rfl | rfl := h <;> rfl
    · next hboth =>
      split
      · next h =>
        subst h
        rfl
      · next hnone =>
        rw [not_or] at hname hboth
        have hother : ∀ n ∈ modeNames, (t != n.1) = true := by
          simp only [modeNames, List.forall_mem_cons, bne_iff_ne]
          exact ⟨hname.1, hname.2, hboth.1, hboth.2, hnone, List.forall_mem_nil _⟩
        exact (List.lookup_eq_none_iff.mpr hother).symm

theorem modeAt?_eq : modeAt? layer key = (layer key.toList).bind mode? := by
  have hmode : ∀ d, (text? d).bind SnippetMode.ofText? = mode? d := by
    intro d
    cases d with
    | text t => exact ofText?_eq_lookup t
    | _ => rfl
  rw [modeAt?, textAt?_eq, Option.bind_assoc]
  simp only [hmode]

theorem itemText?_eq (d : Datum) :
    itemText? d = if d.isOverlong then .error Datum.overlong else .ok (shownItem d) := by
  by_cases hd : d = .null
  · rw [hd]
    rfl
  · have hitem : itemText? d = d.shown?.map some := by
      cases d with
      | null => exact absurd rfl hd
      | _ => rfl
    have hshown : shownItem d = some d.shown := by
      cases d with
      | null => exact absurd rfl hd
      | _ => rfl
    rw [hitem, hshown, Datum.shown?]
    split <;> rfl

/-- Items are shown one after the other, up to one that is too long. -/
theorem mapM_itemText? (items : List Datum) :
    items.mapM itemText? =
      if items.any Datum.isOverlong then .error Datum.overlong else .ok (items.map shownItem) := by
  induction items with
  | nil => rfl
  | cons d items ih =>
    rw [List.mapM_cons, itemText?_eq, ih, List.any_cons]
    cases d.isOverlong with
    | true => rfl
    | false => cases items.any Datum.isOverlong <;> rfl

theorem textsAt?_of_overlong {items : List Datum} (hitems : layer key.toList = some (.list items))
    (h : items.any Datum.isOverlong = true) : textsAt? layer key = .error Datum.overlong := by
  rw [textsAt?, hitems]
  dsimp only
  rw [mapM_itemText?, if_pos h]
  rfl

theorem textsAt?_eq
    (h : ∀ items, layer key.toList = some (.list items) → items.any Datum.isOverlong = false) :
    textsAt? layer key = .ok ((layer key.toList).bind texts?) := by
  unfold textsAt?
  split
  · next items hitems =>
    have hshown : (items.map shownItem).filterMap id = items.filterMap shownItem := List.filterMap_map
    rw [mapM_itemText?, h items hitems, hitems, Option.bind_some, texts?, ← hshown]
    rfl
  · next hother =>
    rcases hsaid : layer key.toList with _ | d
    · rfl
    · cases d with
      | list items => exact absurd hsaid (hother items)
      | _ => rfl

theorem positiveAt?_of_tooLarge {i : Int} (hi : layer key.toList = some (.int i)) (hpos : 0 < i)
    (h : (Binary64.ofInt i).isInfinite = true) : positiveAt? layer key = .error .numberTooLarge := by
  rw [positiveAt?, hi]
  dsimp only
  rw [if_neg (Int.not_le.mpr hpos), if_pos h]

theorem positiveAt?_eq
    (h : ∀ i, layer key.toList = some (.int i) → 0 < i → (Binary64.ofInt i).isInfinite = false) :
    positiveAt? layer key = .ok ((layer key.toList).bind positive?) := by
  unfold positiveAt?
  split
  · next i hi =>
    rw [hi, Option.bind_some, positive?]
    by_cases hpos : 0 < i
    · rw [if_neg (Int.not_le.mpr hpos), h i hi hpos, if_pos hpos]
      rfl
    · rw [if_pos (Int.not_lt.mp hpos), if_neg hpos]
  · next x hx => rw [hx]; rfl
  · next hint hfloat =>
    rcases hsaid : layer key.toList with _ | d
    · rfl
    · cases d with
      | int i => exact absurd hsaid (hint i)
      | float x => exact absurd hsaid (hfloat x)
      | _ => rfl

end Reading

section Layer

variable {layer : Layer}

/-- A layer that lists an integer with too many digits cannot be put over settings. -/
theorem withKeys_of_listsOverlong (h : ListsOverlongIn layer) (s : Settings) :
    s.withKeys layer = .error Datum.overlong := by
  obtain ⟨items, hsaid, hitem⟩ := h
  have htexts : textsAt? layer "suppressActivationForCharacters" = .error Datum.overlong :=
    textsAt?_of_overlong _ _ hsaid (List.any_eq_true.mpr hitem)
  rw [withKeys, htexts]
  rfl

/-- Of any other layer the list of characters is read. -/
theorem textsAt?_of_not_listsOverlong (h : ¬ ListsOverlongIn layer) :
    textsAt? layer "suppressActivationForCharacters" = .ok (Key.suppressed.valueIn? layer) :=
  textsAt?_eq _ _ fun items hsaid => Bool.eq_false_iff.mpr fun hany =>
    h ⟨items, hsaid, List.any_eq_true.mp hany⟩

/-- Nor can one that says too many seconds. -/
theorem withKeys_of_saysTooLarge (hlist : ¬ ListsOverlongIn layer) (h : SaysTooLargeIn layer)
    (s : Settings) : s.withKeys layer = .error .numberTooLarge := by
  obtain ⟨i, hsaid, hpos, hlarge⟩ := h
  have htime : positiveAt? layer "gocodeTimeout" = .error .numberTooLarge :=
    positiveAt?_of_tooLarge _ _ hsaid hpos hlarge
  rw [withKeys, textsAt?_of_not_listsOverlong hlist, htime]
  rfl

/-- **Any other layer** updates the fields for which it has valid values. -/
theorem withKeys_eq_updatedIn (hlist : ¬ ListsOverlongIn layer) (htime : ¬ SaysTooLargeIn layer)
    (s : Settings) : s.withKeys layer = .ok (s.updatedIn layer) := by
  have hpositive : positiveAt? layer "gocodeTimeout" = .ok (Key.timeout.valueIn? layer) :=
    positiveAt?_eq _ _ fun i hsaid hpos => Bool.eq_false_iff.mpr fun hlarge =>
      htime ⟨i, hsaid, hpos, hlarge⟩
  rw [withKeys, textsAt?_of_not_listsOverlong hlist, hpositive, boolAt?_eq, boolAt?_eq, textAt?_eq,
    modeAt?_eq]
  rfl

end Layer

variable {s t : Settings} {d : Datum}

theorem overlay_of_listsOverlong (h : ListsOverlong d) (s : Settings) :
    s.overlay d = .error Datum.overlong :=
  (overlay_eq_withKeys s d).trans (withKeys_of_listsOverlong h s)

theorem overlay_of_saysTooLarge (hlist : ¬ ListsOverlong d) (h : SaysTooLarge d) (s : Settings) :
    s.overlay d = .error .numberTooLarge :=
  (overlay_eq_withKeys s d).trans (withKeys_of_saysTooLarge hlist h s)

theorem overlay_eq_updated (hlist : ¬ ListsOverlong d) (htime : ¬ SaysTooLarge d) (s : Settings) :
    s.overlay d = .ok (s.updated d) :=
  (overlay_eq_withKeys s d).trans (withKeys_eq_updatedIn hlist htime s)

/-- **What becomes of settings** over which a datum is put. -/
theorem overlay_cases (s : Settings) (d : Datum) :
    (ListsOverlong d ∧ s.overlay d = .error Datum.overlong) ∨
      (¬ ListsOverlong d ∧ SaysTooLarge d ∧ s.overlay d = .error .numberTooLarge) ∨
        (¬ ListsOverlong d ∧ ¬ SaysTooLarge d ∧ s.overlay d = .ok (s.updated d)) := by
  by_cases hlist : ListsOverlong d
  · exact .inl ⟨hlist, overlay_of_listsOverlong hlist s⟩
  · by_cases htime : SaysTooLarge d
    · exact .inr (.inl ⟨hlist, htime, overlay_of_saysTooLarge hlist htime s⟩)
    · exact .inr (.inr ⟨hlist, htime, overlay_eq_updated hlist htime s⟩)

/-- Settings over which a datum can be put are updated by it. -/
theorem eq_updated_of_overlay (h : s.overlay d = .ok t) : t = s.updated d := by
  obtain ⟨-, hd⟩ | ⟨-, -, hd⟩ | ⟨-, -, hd⟩ := overlay_cases s d
  · cases hd.symm.trans h
  · cases hd.symm.trans h
  · exact Except.ok.inj (h.symm.trans hd)

/-- What JSON says can be shown. -/
theorem not_listsOverlong_of_ofJson {text : Text} (h : Datum.ofJson text = .ok (.ok d)) :
    ¬ ListsOverlong d := by
  have hd := Datum.not_isOverlong_of_ofJson h
  rintro ⟨items, hsaid, hitem⟩
  have hown : (ownPart d).isOverlong = false := by
    unfold ownPart
    split
    · next own hget => exact Datum.not_isOverlong_of_get? hd hget
    · exact hd
  have hitems : Datum.anyOverlong items = false := Datum.not_isOverlong_of_get? hown hsaid
  rw [Datum.anyOverlong_eq, List.any_eq_true.mpr hitem] at hitems
  cases hitems

/-- **A datum is put over settings key by key**, unless it lists an integer with too many digits, which no
JSON does, or says a number of seconds that is too large: a field takes the valid value under its key, and
keeps its own without one. -/
theorem overlay_spec (s : Settings) (d : Datum) :
    ((∃ t, s.overlay d = .ok t) ↔ ¬ ListsOverlong d ∧ ¬ SaysTooLarge d) ∧
      (∀ t, s.overlay d = .ok t → ∀ {α : Type} {k : Key α}, k.Known →
        k.field t = (k.value? d).getD (k.field s)) ∧
      (∀ e, s.overlay d = .error e ↔
        (ListsOverlong d ∧ e = Datum.overlong) ∨
          (¬ ListsOverlong d ∧ SaysTooLarge d ∧ e = .numberTooLarge)) ∧
      ∀ text, Datum.ofJson text = .ok (.ok d) → ¬ ListsOverlong d := by
  refine ⟨?_, fun t ht _ k hk => ?_, fun e => ?_, fun text => not_listsOverlong_of_ofJson⟩
  · obtain ⟨hlist, hd⟩ | ⟨-, htime, hd⟩ | ⟨hlist, htime, hd⟩ := overlay_cases s d <;> rw [hd]
    · simp [hlist]
    · simp [htime]
    · simp [hlist, htime]
  · rw [eq_updated_of_overlay ht, field_updated hk]
  · obtain ⟨hlist, hd⟩ | ⟨hlist, htime, hd⟩ | ⟨hlist, htime, hd⟩ := overlay_cases s d <;> rw [hd]
    · simp [hlist, eq_comm]
    · simp [hlist, htime, eq_comm]
    · simp [hlist, htime]

/-- **Too many seconds** keep another valid key of the same datum from taking effect. -/
theorem overlay_tooManySeconds :
    ({} : Settings).overlay (.map [
      (.text "gocodeTimeout".toList, .int (Int.pow 10 400)), (.text "proposeBuiltins".toList, .bool false)]) =
        .error .numberTooLarge := by
  decide +kernel

/-- Two data say the same under all keys that are known. -/
def SaysSame (d d' : Datum) : Prop :=
  ∀ {α : Type} {k : Key α}, k.Known → said k.name d = said k.name d'

/-- Keys that are not known do not matter. -/
theorem SaysSame.overlay_eq {d' : Datum} (h : SaysSame d d') (s : Settings) :
    s.overlay d = s.overlay d' := by
  have hvalue : ∀ {α : Type} {k : Key α}, k.Known → k.valueIn? (said · d) = k.valueIn? (said · d') :=
    fun {_ k} hk => congrArg (Option.bind · k.valid?) (h hk)
  have hlist : ListsOverlong d ↔ ListsOverlong d' := by
    rw [ListsOverlong, h .suppressed, ListsOverlong]
  have htime : SaysTooLarge d ↔ SaysTooLarge d' := by
    rw [SaysTooLarge, h .timeout, SaysTooLarge]
  obtain ⟨hlong, hd⟩ | ⟨hlong, hlarge, hd⟩ | ⟨hlong, hlarge, hd⟩ := overlay_cases s d <;> rw [hd]
  · rw [overlay_of_listsOverlong (hlist.mp hlong)]
  · rw [overlay_of_saysTooLarge (mt hlist.mpr hlong) (htime.mp hlarge)]
  · rw [overlay_eq_updated (mt hlist.mpr hlong) (mt htime.mpr hlarge), updated, updated, updatedIn, updatedIn,
      hvalue .proposeBuiltins, hvalue .unimportedPackages, hvalue .scopeBlacklist, hvalue .suppressed,
      hvalue .snippetMode, hvalue .timeout]

/-! ## Layers -/

/-- Settings with data put over them in turn. -/
def layered (s : Settings) (ds : List Datum) : Except Fault Settings := ds.foldlM overlay s

theorem layered_cons (s : Settings) (d : Datum) (ds : List Datum) :
    s.layered (d :: ds) = (s.overlay d).bind (layered · ds) := rfl

theorem layered_append (s : Settings) (ds ds' : List Datum) :
    s.layered (ds ++ ds') = (s.layered ds).bind (layered · ds') := List.foldlM_append

/-- Data that can be put over settings are layers. -/
theorem exists_layered {ds : List Datum} (h : ∀ d ∈ ds, ¬ ListsOverlong d ∧ ¬ SaysTooLarge d)
    (s : Settings) : ∃ t, s.layered ds = .ok t := by
  induction ds generalizing s with
  | nil => exact ⟨s, rfl⟩
  | cons d ds ih =>
    obtain ⟨⟨hlist, htime⟩, hds⟩ := List.forall_mem_cons.mp h
    rw [layered_cons, overlay_eq_updated hlist htime]
    exact ih hds _

/-- **Each key goes by the last valid value for it**, and is left alone without one. -/
theorem field_of_layered {α : Type} {k : Key α} (hk : k.Known) {ds : List Datum} {s t : Settings}
    (h : s.layered ds = .ok t) : k.field t = (k.latest? ds).getD (k.field s) := by
  induction ds generalizing s with
  | nil =>
    cases h
    rfl
  | cons d ds ih =>
    rw [layered_cons] at h
    cases hd : s.overlay d with
    | error e =>
      rw [hd] at h
      cases h
    | ok u =>
      rw [hd] at h
      have hfield := field_updated hk s d
      rw [← eq_updated_of_overlay hd] at hfield
      rw [ih h, hfield, k.latest?_cons]
      cases k.latest? ds <;> rfl

/-- There is no valid number of seconds that is not greater than zero. -/
theorem isPositive_of_value? {x : Binary64} (h : Key.timeout.value? d = some x) : x.isPositive = true := by
  obtain ⟨v, -, hv⟩ := Option.bind_eq_some_iff.mp h
  cases v with
  | int i =>
    obtain ⟨hpos, hx⟩ := Option.ite_none_right_eq_some.mp hv
    cases hx
    exact Binary64.isPositive_ofInt hpos
  | float y =>
    obtain ⟨hpos, hx⟩ := Option.ite_none_right_eq_some.mp hv
    cases hx
    exact hpos
  | _ => cases hv

/-- Behind layers, there are more than no seconds if there were before. -/
theorem isPositive_of_layered {ds : List Datum} (hs : s.timeout.isPositive = true)
    (h : s.layered ds = .ok t) : t.timeout.isPositive = true := by
  have htimeout : t.timeout = (Key.timeout.latest? ds).getD s.timeout := field_of_layered .timeout h
  rw [htimeout]
  cases hlatest : Key.timeout.latest? ds with
  | none => exact hs
  | some x =>
    obtain ⟨d, -, hd⟩ := List.mem_filterMap.mp (List.mem_of_getLast? hlatest)
    exact isPositive_of_value? hd

/-- **The last valid value wins.** JSON data that say no number of seconds that is too large can be put over
the common settings in turn. Then

* every field is what the last valid value under its key comes to, and the common one without any, so there
  are more than no seconds;
* a key influences no other field: settings behind other data with the same valid values under it have the
  same field;
* what data say under other keys changes nothing, and nor does a datum that is no mapping. -/
theorem layered_latest (ds : List Datum)
    (hjson : ∀ d ∈ ds, ∃ text, Datum.ofJson text = .ok (.ok d)) (hsmall : ∀ d ∈ ds, ¬ SaysTooLarge d) :
    ∃ t, layered {} ds = .ok t ∧
      (∀ {α : Type} {k : Key α}, k.Known → k.field t = (k.latest? ds).getD (k.field {})) ∧
      t.timeout.isPositive = true ∧
      (∀ {α : Type} {k : Key α}, k.Known → ∀ ds' t', layered {} ds' = .ok t' →
        ds'.filterMap k.value? = ds.filterMap k.value? → k.field t' = k.field t) ∧
      (∀ before d d' after, ds = before ++ d :: after → SaysSame d d' →
        layered {} (before ++ d' :: after) = .ok t) ∧
      ∀ before d after, ds = before ++ d :: after → (∀ es, d ≠ .map es) →
        layered {} (before ++ after) = .ok t := by
  have hds : ∀ d ∈ ds, ¬ ListsOverlong d ∧ ¬ SaysTooLarge d := by
    intro d hd
    obtain ⟨text, htext⟩ := hjson d hd
    exact ⟨not_listsOverlong_of_ofJson htext, hsmall d hd⟩
  obtain ⟨t, ht⟩ := exists_layered hds {}
  refine ⟨t, ht, fun hk => field_of_layered hk ht, isPositive_of_layered (by decide +kernel) ht,
    fun {_ k} hk ds' t' ht' hvalues => ?_, fun before d d' after hsplit hsame => ?_,
    fun before d after hsplit hne => ?_⟩
  · rw [field_of_layered hk ht', field_of_layered hk ht, Key.latest?, hvalues, Key.latest?]
  · rw [← ht, hsplit, layered_append, layered_append]
    refine congrArg (Except.bind _) (funext fun s => ?_)
    rw [layered_cons, layered_cons, hsame.overlay_eq]
  · rw [← ht, hsplit, layered_append, layered_append]
    refine congrArg (Except.bind _) (funext fun s => ?_)
    rw [layered_cons, overlay_of_ne_map hne]
    rfl

/-- The datum that a text is, if it is JSON, and no value otherwise. -/
def jsonOf (text : Text) : Datum := ((Datum.ofJson text).toOption.bind Except.toOption).getD .null

theorem ofJson_eq_jsonOf {text : Text}
    (h : ((Datum.ofJson text).toOption.bind Except.toOption).isSome = true) :
    Datum.ofJson text = .ok (.ok (jsonOf text)) := by
  unfold jsonOf
  rcases hread : Datum.ofJson text with _ | _ | d <;> rw [hread] at h
  · cases h
  · cases h
  · rfl

/-- A section hides what stands beside it, and a truth value is no number of seconds. Of a list the items that have a
value are shown. Each of the five names says its snippet mode, and another text says none. -/
theorem layered_section :
    let texts (mode : String) : List Text := [
      ("\x7b\"gocodeTimeout\": 5, \"proposeBuiltins\": false, \"snippetMode\": \"name\", " ++
        "\"scopeBlacklist\": \".comment\"\x7d").toList,
      "7".toList,
      ("\x7b\"proposeBuiltins\": true, \"gocodels\": \x7b\"gocodeTimeout\": true, \"scopeBlacklist\": 3, " ++
        "\"suppressActivationForCharacters\": [1, null, \"a\", true], \"snippetMode\": \"").toList ++
        mode.toList ++ "\"\x7d\x7d".toList]
    let data (mode : String) : List Datum := (texts mode).map jsonOf
    let modes : List (String × SnippetMode) := [
      ("name", .name), ("identifiers-only", .name), ("nameAndType", .nameAndType), ("full-names", .nameAndType),
      ("none", .none), ("names", .name)]
    (∀ n ∈ modes, (∀ d ∈ data n.1, ∃ text, Datum.ofJson text = .ok (.ok d)) ∧ ∀ d ∈ data n.1, ¬ SaysTooLarge d) ∧
      ∀ n ∈ modes, ∃ t, layered {} (data n.1) = .ok t ∧ t.proposeBuiltins = false ∧
        t.scopeBlacklist = ".comment".toList ∧ t.suppressed = ["1".toList, "a".toList, "True".toList] ∧
        t.snippetMode = n.2 ∧ t.timeout = .ofInt 5 := by
  intro texts data modes
  -- one check for all of it, so that the texts are read once
  have hread : ∀ n ∈ modes, (∀ text ∈ texts n.1, ((Datum.ofJson text).toOption.bind Except.toOption).isSome = true) ∧
      (∀ d ∈ data n.1, (Key.timeout.value? d).all (!·.isInfinite) = true) ∧
      (Key.proposeBuiltins.latest? (data n.1)).getD true = false ∧
      (Key.scopeBlacklist.latest? (data n.1)).getD [] = ".comment".toList ∧
      (Key.suppressed.latest? (data n.1)).getD commonSuppressed = ["1".toList, "a".toList, "True".toList] ∧
      (Key.snippetMode.latest? (data n.1)).getD .nameAndType = n.2 ∧
      (Key.timeout.latest? (data n.1)).getD (.ofInt 10) = .ofInt 5 := by decide +kernel
  have hdata : ∀ n ∈ modes, (∀ d ∈ data n.1, ∃ text, Datum.ofJson text = .ok (.ok d)) ∧
      ∀ d ∈ data n.1, ¬ SaysTooLarge d := by
    intro n hn
    obtain ⟨hjson, hfinite, -⟩ := hread n hn
    refine ⟨fun d hd => ?_, fun d hd => not_saysTooLarge (hfinite d hd)⟩
    obtain ⟨text, htext, rfl⟩ := List.mem_map.mp hd
    exact ⟨text, ofJson_eq_jsonOf (hjson text htext)⟩
  refine ⟨hdata, fun n hn => ?_⟩
  obtain ⟨hjson, hsmall⟩ := hdata n hn
  obtain ⟨-, -, hbuiltins, hscopes, hshown, hmode, htimeout⟩ := hread n hn
  obtain ⟨t, ht, hfield, -⟩ := layered_latest (data n.1) hjson hsmall
  exact ⟨t, ht, (hfield .proposeBuiltins).trans hbuiltins, (hfield .scopeBlacklist).trans hscopes,
    (hfield .suppressed).trans hshown, (hfield .snippetMode).trans hmode, (hfield .timeout).trans htimeout⟩

end Settings

end GoCompletion
