/-!
# Walks

A walk goes through values with further values below them, one by one: what lies below a value comes
right after it, before the rest.  Main statement: what a walk visits is the listing that is made by
recursion, as far as the fuel goes.
-/

namespace JsxOutline

variable {α : Type}

/-- The values of a list and those below them; `fuel` bounds how many are visited. -/
def walkFrom (below : α → List α) : Nat → List α → List α
  | 0, _ => []
  | _, [] => []
  | fuel + 1, x :: rest => x :: walkFrom below fuel (below x ++ rest)

/-- A listing that is made by recursion: a value, then the listings of the values right below it,
one after the other. -/
def IsRecursiveListing (below listing : α → List α) : Prop :=
  ∀ x, listing x = x :: (below x).flatMap listing

theorem walkFrom_eq_take {below listing : α → List α} (h : IsRecursiveListing below listing)
    (fuel : Nat) (xs : List α) :
    walkFrom below fuel xs = (xs.flatMap listing).take fuel := by
  induction fuel generalizing xs with
  | zero => rfl
  | succ fuel ih =>
    cases xs with
    | nil => rfl
    | cons x rest =>
      have hx : (x :: rest).flatMap listing = x :: (below x ++ rest).flatMap listing := by
        rw [List.flatMap_cons, h x, List.flatMap_append, List.cons_append]
      rw [hx, walkFrom, List.take_succ_cons, ih]

end JsxOutline
