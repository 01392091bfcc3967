import GoCompletion.Fault
import GoCompletion.Text.Word

/-!
# The package in front of a dot

Behind `fmt.` the package that is wanted is `fmt`: what is left of the word characters right before the
dot when those in front that cannot begin a name are dropped.
-/

namespace GoCompletion

/-- The name at the end of a text: the word characters there, from the first one on that can begin a
name. -/
def nameAtEnd (t : Text) : Text :=
  ((t.reverse.takeWhile isWord).reverse).dropWhile (!isNameStart ·)

/-- The name right before the dot that ends at position `index`, if there are such a dot and such a
name. A position behind the end of the text is a fault. -/
def wantedPackage (t : Text) (index : Int) : Except Fault (Option Text) :=
  if index ≤ 0 then .ok none
  else
    match t[index.toNat - 1]? with
    | none => .error .outOfRange
    | some c =>
      let name := nameAtEnd (t.take (index.toNat - 1))
      .ok (if c = '.' ∧ name ≠ [] then some name else none)

end GoCompletion
