/-!
# Sets of characters

A token pattern speaks about characters through sets of code points: some listed ranges, or
everything outside of them.  The code point zero never belongs to a complement, because the scanner
uses it for "no character here".
-/

namespace JsxOutline.Lexicon

inductive CharSet where
  /-- The points that lie in one of the inclusive ranges. -/
  | inside (ranges : List (Nat × Nat))
  /-- The points other than zero that lie in none of the inclusive ranges. -/
  | outside (ranges : List (Nat × Nat))
deriving BEq, Hashable, Repr, Inhabited

namespace CharSet

def inRanges (ranges : List (Nat × Nat)) (c : Nat) : Bool :=
  ranges.any fun r => r.1 ≤ c && c ≤ r.2

def contains : CharSet → Nat → Bool
  | inside ranges, c => inRanges ranges c
  | outside ranges, c => c != 0 && !inRanges ranges c

def ranges : CharSet → List (Nat × Nat)
  | inside rs => rs
  | outside rs => rs

def one (c : Char) : CharSet := inside [(c.toNat, c.toNat)]

/-- The characters of a text, each as a range of its own. -/
def points (s : String) : List (Nat × Nat) := s.toList.map fun c => (c.toNat, c.toNat)

def between (a b : Char) : List (Nat × Nat) := [(a.toNat, b.toNat)]

theorem inRanges_of_mem {rs : List (Nat × Nat)} {lo hi c : Nat} (h : (lo, hi) ∈ rs) (hlo : lo ≤ c)
    (hhi : c ≤ hi) : inRanges rs c = true :=
  List.any_eq_true.2 ⟨(lo, hi), h, by simp [hlo, hhi]⟩

end CharSet

end JsxOutline.Lexicon
