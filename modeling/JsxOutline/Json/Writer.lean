import JsxOutline.Json.Reader

/-!
# Writing JSON

Values in ASCII: other characters are written as escapes of their UTF-16 units.  A value is written
on one line, or with a line for each item and member.
-/

namespace JsxOutline.Json

open JsxOutline.Text

/-! ### Strings -/

/-- The units of a character, each as an escape. -/
def unitEscapes (c : Char) : List Char :=
  (Utf16.units c).flatMap fun u => '\\' :: 'u' :: hexadecimal 4 u

def escapeChar (c : Char) : List Char :=
  if c = '"' then ['\\', '"']
  else if c = '\\' then ['\\', '\\']
  else if c = '\n' then ['\\', 'n']
  else if c = '\r' then ['\\', 'r']
  else if c = '\t' then ['\\', 't']
  else if c = '\x08' then ['\\', 'b']
  else if c = '\x0c' then ['\\', 'f']
  else if ' ' ≤ c ∧ c ≤ '~' then [c]
  else unitEscapes c

def writeString (s : String) : List Char := '"' :: s.toList.flatMap escapeChar ++ ['"']

/-! ### Layout -/

/-- Blanks by which a line is indented for each level. -/
structure Indent where
  unit : List Char
  isBlank_unit : ∀ c ∈ unit, isBlank c = true
deriving DecidableEq, Repr

/-- So many blanks for each level. -/
def Indent.ofWidth (width : Nat) : Indent where
  unit := List.replicate width ' '
  isBlank_unit := fun _ hc => (List.mem_replicate.mp hc).2 ▸ rfl

inductive Layout where
  /-- All on one line. -/
  | line
  /-- Each on a line of its own. -/
  | lines (indent : Indent)
deriving DecidableEq, Repr

namespace Layout

/-- Lines that are indented by so many blanks for each level. -/
def indented (width : Nat) : Layout := lines (.ofWidth width)

def newLine (indent : Indent) (level : Nat) : List Char :=
  '\n' :: (List.replicate level indent.unit).flatten

def first : Layout → Nat → List Char
  | line, _ => []
  | lines indent, level => newLine indent level

def between : Layout → Nat → List Char
  | line, _ => [',', ' ']
  | lines indent, level => ',' :: newLine indent level

end Layout

/-! ### Values -/

/-- The digits of an integer, however many.  The limit `Text.Numeral.maxDigits`, which the command
line keeps to, is left out of JSON. -/
def writeInteger : Int → List Char
  | .ofNat n => Nat.toDigits 10 n
  | .negSucc n => '-' :: Nat.toDigits 10 (n + 1)

mutual

/-- A value whose items stand at the level after the given one. -/
def writeValue (l : Layout) (level : Nat) : Value → List Char
  | .null => ['n', 'u', 'l', 'l']
  | .bool true => ['t', 'r', 'u', 'e']
  | .bool false => ['f', 'a', 'l', 's', 'e']
  | .integer n => writeInteger n
  | .real text => text.toList
  | .string s => writeString s
  | .array [] => ['[', ']']
  | .array (v :: vs) =>
    '[' :: l.first (level + 1) ++ writeValue l (level + 1) v ++ writeItems l (level + 1) vs
      ++ l.first level ++ [']']
  | .object [] => ['{', '}']
  | .object ((k, v) :: ms) =>
    '{' :: l.first (level + 1) ++ writeString k ++ [':', ' '] ++ writeValue l (level + 1) v
      ++ writeMembers l (level + 1) ms ++ l.first level ++ ['}']

def writeItems (l : Layout) (level : Nat) : List Value → List Char
  | [] => []
  | v :: vs => l.between level ++ writeValue l level v ++ writeItems l level vs

def writeMembers (l : Layout) (level : Nat) : List (String × Value) → List Char
  | [] => []
  | (k, v) :: ms =>
    l.between level ++ writeString k ++ [':', ' '] ++ writeValue l level v ++ writeMembers l level ms

end

def write (l : Layout) (v : Value) : String := .ofList (writeValue l 0 v)

end JsxOutline.Json
