/-!
# Positions in a text

A text as an array of code points, with the place of each one: how many bytes precede it, which
line it stands on, and how many bytes precede it on that line.  Only a line feed ends a line, and
bytes are those of UTF-8.
-/

namespace JsxOutline.Text

/-- A place in a text, both parts counted from zero. -/
structure Place where
  /-- How many lines end before it. -/
  line : Nat
  /-- In bytes. -/
  column : Nat
deriving BEq, DecidableEq, Repr, Inhabited

structure Lines where
  /-- The code points of the text. -/
  codes : Array Nat
  /-- The bytes before each code point, and before the end. -/
  bytes : Array Nat
  /-- The place of each code point, and of the end. -/
  places : Array Place
deriving Inhabited

def byteWidth (c : Nat) : Nat :=
  if c < 0x80 then 1 else if c < 0x800 then 2 else if c < 0x10000 then 3 else 4

def Place.after (p : Place) (c : Nat) : Place :=
  if c = 0x0A then ⟨p.line + 1, 0⟩ else ⟨p.line, p.column + byteWidth c⟩

namespace Lines

def ofString (s : String) : Lines :=
  let codes := (s.toList.map Char.toNat).toArray
  let (bytes, places, b, p) := codes.foldl
    (fun (bytes, places, b, p) c => (bytes.push b, places.push p, b + byteWidth c, p.after c))
    ((#[] : Array Nat), (#[] : Array Place), 0, (⟨0, 0⟩ : Place))
  { codes, bytes := bytes.push b, places := places.push p }

def size (t : Lines) : Nat := t.codes.size

def code (t : Lines) (i : Nat) : Nat := t.codes.getD i 0

/-- The bytes before a position. -/
def byte (t : Lines) (i : Nat) : Nat := t.bytes.getD i (t.bytes.back?.getD 0)

def place (t : Lines) (i : Nat) : Place := t.places.getD i (t.places.back?.getD ⟨0, 0⟩)

def slice (t : Lines) (start stop : Nat) : String :=
  String.ofList ((t.codes.extract start stop).toList.map Char.ofNat)

end Lines

end JsxOutline.Text
