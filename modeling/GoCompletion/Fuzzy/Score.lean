import GoCompletion.Text.Lowercase
import GoCompletion.Text.Word

/-!
# Scores of similarity

How well a query fits a key is the greatest similarity between the shorter of the two and a window of
the longer one. The similarity of two texts is twice the length of their longest common subsequence
over the sum of their lengths, so it lies between zero and one. Case and punctuation do not count: both
texts are normalised first.
-/

namespace GoCompletion

/-- A text without the spaces at its two ends. -/
def trimSpaces (t : Text) : Text :=
  ((t.dropWhile (· == ' ')).reverse.dropWhile (· == ' ')).reverse

/-- A text as it is compared: every character that is neither a letter nor a number is a space, there
are no spaces at the ends, and all is in lower case. -/
def normalise (t : Text) : Text :=
  (trimSpaces (t.map fun c => if isAlphanumeric c then c else ' ')).map lowercase

/-! ## Longest common subsequences -/

/-- One row of lengths: for every end part of `t`, from the longest to the empty one, the length of the
longest common subsequence with `c` followed by a text, when `row` is the row of that text. -/
def subsequenceStep (c : Char) : (t : Text) → (row : List Nat) → List Nat
  | d :: t, r₀ :: r₁ :: row =>
    let tail := subsequenceStep c t (r₁ :: row)
    (if c = d then r₁ + 1 else max r₀ (tail.headD 0)) :: tail
  | _, _ => [0]

/-- The lengths of the longest common subsequences of `s` with every end part of `t`. -/
def subsequenceRow (s t : Text) : List Nat :=
  s.foldr (fun c row => subsequenceStep c t row) (List.replicate (t.length + 1) 0)

/-- The length of the longest common subsequence of two texts. -/
def commonLength (s t : Text) : Nat := (subsequenceRow s t).headD 0

/-- Twice the length of the longest common subsequence over the sum of the lengths; two empty texts are
the same. -/
def similarity (s t : Text) : Rat :=
  if s.length + t.length = 0 then 1
  else ((2 * commonLength s t : Nat) : Rat) / ((s.length + t.length : Nat) : Rat)

/-! ## Windows -/

/-- The windows of `t` that a text of length `m` is compared with: the stretches of length `m`, and the
shorter ones at the two ends. -/
def windows (m : Nat) (t : Text) : List Text :=
  (List.range m).map (fun k => t.take k) ++
    (List.range (t.length + 1 - m)).map (fun i => (t.drop i).take m) ++
    (List.range m).map (fun k => t.drop (t.length - k))

/-- The greater one of two scores. -/
def greater (a b : Rat) : Rat := if a ≤ b then b else a

/-- The greatest similarity of `s` with a window of `t`. -/
def bestWindow (s t : Text) : Rat :=
  (windows s.length t).foldl (fun best w => greater best (similarity s w)) 0

/-- The score of a query and a key. -/
def score (query key : Text) : Rat :=
  let q := normalise query
  let k := normalise key
  if q.isEmpty && k.isEmpty then 1
  else if q.isEmpty || k.isEmpty then 0
  else if q.length < k.length then bestWindow q k
  else if k.length < q.length then bestWindow k q
  else greater (bestWindow q k) (bestWindow k q)

end GoCompletion
