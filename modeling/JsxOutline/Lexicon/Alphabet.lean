import JsxOutline.Lexicon.Pattern

/-!
# The alphabet of a lexicon

Characters that no pattern tells apart form one letter.  The letters of a list of character sets
are the cells of the partition that the ends of their ranges make.
-/

namespace JsxOutline.Lexicon

/-- The partition of the code points into letters. -/
structure Alphabet where
  /-- The first code point of each cell, ascending, starting with zero. -/
  starts : Array Nat
  /-- The letter of each cell. -/
  letters : Array Nat
  /-- A code point of each letter. -/
  samples : Array Nat
  /-- The letters of the first code points, for speed. -/
  table : Array Nat
deriving Inhabited

namespace Alphabet

/-- The index of the last start that is not beyond `c`, between `lo` and `hi`. -/
def search (starts : Array Nat) (c : Nat) : Nat → Nat → Nat → Nat
  | 0, lo, _ => lo
  | fuel + 1, lo, hi =>
    if hi ≤ lo + 1 then lo
    else
      let mid := (lo + hi) / 2
      if starts[mid]! ≤ c then search starts c fuel mid hi else search starts c fuel lo mid

def tableSize : Nat := 256

/-- The letters that a list of character sets tells apart. -/
def ofSets (sets : List CharSet) : Alphabet := Id.run do
  let sets := sets.eraseDups
  let ends := sets.flatMap fun s => s.ranges.flatMap fun r => [r.1, r.2 + 1]
  let starts := ((0 :: 1 :: ends).mergeSort (· ≤ ·)).eraseDups.toArray
  let mut letters : Array Nat := #[]
  let mut samples : Array Nat := #[]
  let mut seen : Array (List Bool) := #[]
  for s in starts do
    let signature := (s == 0) :: sets.map (·.contains s)
    match seen.findIdx? (· == signature) with
    | some i => letters := letters.push i
    | none =>
      letters := letters.push seen.size
      seen := seen.push signature
      samples := samples.push s
  let table := (Array.range tableSize).map fun c => letters[search starts c 64 0 starts.size]!
  return { starts, letters, samples, table }

def size (a : Alphabet) : Nat := a.samples.size

def letterOf (a : Alphabet) (c : Nat) : Nat :=
  if c < tableSize then a.table[c]! else a.letters[search a.starts c 64 0 a.starts.size]!

end Alphabet

end JsxOutline.Lexicon
