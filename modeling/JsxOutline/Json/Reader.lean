import JsxOutline.Json.Value
import JsxOutline.Text.Encoding
import JsxOutline.Text.Hexadecimal

/-!
# Reading JSON

Each reader takes the text that is left and gives what it read with the text after it, or the cause
of a fault with how much text was left where the fault lies.  Beyond the format, the reader knows
the numbers `NaN`, `Infinity` and `-Infinity`.
-/

namespace JsxOutline.Json

open JsxOutline.Text

/-! ### Faults -/

inductive Cause where
  | byteOrderMark
  | value
  | propertyName
  | colon
  | comma
  | extraData
  | unterminatedString
  | controlCharacter
  | escape
  | unicodeEscape
deriving DecidableEq, Repr

def Cause.message : Cause → String
  | byteOrderMark => "Unexpected UTF-8 BOM (decode using utf-8-sig)"
  | value => "Expecting value"
  | propertyName => "Expecting property name enclosed in double quotes"
  | colon => "Expecting ':' delimiter"
  | comma => "Expecting ',' delimiter"
  | extraData => "Extra data"
  | unterminatedString => "Unterminated string starting at"
  | controlCharacter => "Invalid control character at"
  | escape => "Invalid \\escape"
  | unicodeEscape => "Invalid \\uXXXX escape"

/-- A fault by how many characters are left where it lies. -/
structure Stop where
  cause : Cause
  left : Nat
deriving DecidableEq, Repr

/-- A fault by its place in the text, counted in characters. -/
structure Fault where
  cause : Cause
  line : Nat
  column : Nat
  offset : Nat
deriving DecidableEq, Repr

/-- The fault in words, with its place. -/
def Fault.message (f : Fault) : String :=
  s!"{f.cause.message}: line {f.line} column {f.column} (char {f.offset})"

/-- The fault of a stop in a text.  Lines and columns are counted from one. -/
def Stop.fault (text : List Char) (s : Stop) : Fault :=
  let before := text.take (text.length - s.left)
  { cause := s.cause
    line := before.count '\n' + 1
    column := (before.reverse.takeWhile (· != '\n')).length + 1
    offset := before.length }

/-- A fault where some text is left. -/
def stop {α : Type} (cause : Cause) (rest : List Char) : Except Stop α := .error ⟨cause, rest.length⟩

def isBlank (c : Char) : Bool := c == ' ' || c == '\t' || c == '\n' || c == '\r'

def skipBlanks (s : List Char) : List Char := s.dropWhile isBlank

/-! ### Strings -/

/-- The character of a letter after a backslash. -/
def simpleEscape? : Char → Option Char
  | '"' => some '"'
  | '\\' => some '\\'
  | '/' => some '/'
  | 'b' => some '\x08'
  | 'f' => some '\x0c'
  | 'n' => some '\n'
  | 'r' => some '\r'
  | 't' => some '\t'
  | _ => none

/-- The second unit that follows a first one as an escape of its own, with the text after it.  No
unit is read at the very end of the text. -/
def lowUnit? : List Char → Except Stop (Option (Nat × List Char))
  | '\\' :: 'u' :: a :: b :: c :: d :: e :: rest =>
    match ofHexadecimal? [a, b, c, d] with
    | none => stop .unicodeEscape ('u' :: a :: b :: c :: d :: e :: rest)
    | some v => .ok (if Utf16.isLow v then some (v, e :: rest) else none)
  | _ => .ok none

/-- What a backslash and a `u` begin: a character of four digits, or of twice four digits. -/
def readUnits (s : List Char) : Except Stop (Char × List Char) :=
  match s with
  | a :: b :: c :: d :: e :: rest =>
    match ofHexadecimal? [a, b, c, d] with
    | none => stop .unicodeEscape ('u' :: s)
    | some u =>
      if Utf16.isHigh u then do
        match ← lowUnit? (e :: rest) with
        | some (v, rest) => return (.ofNat (Utf16.join u v), rest)
        | none => return ('\uFFFD', e :: rest)
      else .ok (if Utf16.isLow u then '\uFFFD' else .ofNat u, e :: rest)
  | _ => stop .unicodeEscape ('u' :: s)

/-- The character that an escape stands for; `opened` is the text from the opening quote. -/
def readEscape (opened : List Char) : List Char → Except Stop (Char × List Char)
  | [] => stop .unterminatedString opened
  | 'u' :: rest => readUnits rest
  | c :: rest =>
    match simpleEscape? c with
    | some d => .ok (d, rest)
    | none => stop .escape ('\\' :: c :: rest)

theorem lowUnit?_length {s rest : List Char} {v : Nat} (h : lowUnit? s = .ok (some (v, rest))) :
    rest.length < s.length := by
  unfold lowUnit? at h
  split at h
  · split at h
    · simp [stop] at h
    · simp only [Except.ok.injEq, Option.ite_none_right_eq_some, Option.some.injEq,
        Prod.mk.injEq] at h
      obtain ⟨-, -, rfl⟩ := h
      simp only [List.length_cons]
      omega
  · simp at h

theorem readUnits_length {s rest : List Char} {c : Char} (h : readUnits s = .ok (c, rest)) :
    rest.length < s.length := by
  unfold readUnits at h
  split at h
  · split at h
    · simp [stop] at h
    · split at h
      · next a b c d e tail _ _ _ _ =>
        cases hl : lowUnit? (e :: tail) with
        | error x => simp [hl, bind, Except.bind] at h
        | ok o =>
          cases o with
          | none =>
            simp only [hl, bind, Except.bind, pure, Except.pure, Except.ok.injEq, Prod.mk.injEq] at h
            rw [← h.2]
            simp only [List.length_cons]
            omega
          | some p =>
            have hlt := lowUnit?_length hl
            simp only [hl, bind, Except.bind, pure, Except.pure, Except.ok.injEq, Prod.mk.injEq] at h
            rw [← h.2]
            simp only [List.length_cons] at hlt ⊢
            omega
      · simp only [Except.ok.injEq, Prod.mk.injEq] at h
        rw [← h.2]
        simp only [List.length_cons]
        omega
  · simp [stop] at h

theorem readEscape_length {opened s rest : List Char} {c : Char}
    (h : readEscape opened s = .ok (c, rest)) : rest.length < s.length := by
  unfold readEscape at h
  split at h
  · simp [stop] at h
  · have hlt := readUnits_length h
    simp only [List.length_cons]
    omega
  · split at h
    · simp only [Except.ok.injEq, Prod.mk.injEq] at h
      rw [← h.2]
      simp
    · simp [stop] at h

/-- The characters up to the closing quote; `opened` is the text from the opening quote. -/
def readString (opened : List Char) (s : List Char) : Except Stop (List Char × List Char) :=
  match s with
  | [] => stop .unterminatedString opened
  | c :: rest =>
    if c = '"' then .ok ([], rest)
    else if c = '\\' then
      match h : readEscape opened rest with
      | .error e => .error e
      | .ok (d, rest') =>
        have : rest'.length < rest.length := readEscape_length h
        (readString opened rest').map fun (cs, after) => (d :: cs, after)
    else if c.toNat < 0x20 then stop .controlCharacter (c :: rest)
    else (readString opened rest).map fun (cs, after) => (c :: cs, after)
termination_by s.length
decreasing_by all_goals simp only [List.length_cons]; omega

/-! ### Numbers -/

/-- The digits at the start of a text, with the text after them. -/
def digits (s : List Char) : List Char × List Char :=
  (s.takeWhile Char.isDigit, s.dropWhile Char.isDigit)

def fraction (s : List Char) : List Char × List Char :=
  match s with
  | '.' :: rest => let (ds, after) := digits rest; if ds.isEmpty then ([], s) else ('.' :: ds, after)
  | _ => ([], s)

def sign (s : List Char) : List Char × List Char :=
  match s with
  | '+' :: rest => (['+'], rest)
  | '-' :: rest => (['-'], rest)
  | _ => ([], s)

def exponent (s : List Char) : List Char × List Char :=
  match s with
  | e :: rest =>
    if e = 'e' ∨ e = 'E' then
      let (sg, rest) := sign rest
      let (ds, after) := digits rest
      if ds.isEmpty then ([], s) else (e :: sg ++ ds, after)
    else ([], s)
  | [] => ([], s)

/-- The digits before the point: no zero stands in front of others. -/
def wholePart? : List Char → Option (List Char × List Char)
  | [] => none
  | c :: rest =>
    if c = '0' then some (['0'], rest)
    else if c.isDigit then let (ds, after) := digits rest; some (c :: ds, after)
    else none

def natOfDigits (ds : List Char) : Nat := ds.foldl (fun n d => 10 * n + (d.toNat - 48)) 0

/-- A number.  An integer may have any number of digits, as in `writeInteger`. -/
def number? (s : List Char) : Option (Value × List Char) := do
  let (negative, afterSign) := match s with
    | '-' :: rest => (true, rest)
    | _ => (false, s)
  let (whole, afterWhole) ← wholePart? afterSign
  let (part, afterPart) := fraction afterWhole
  let (power, after) := exponent afterPart
  if part.isEmpty && power.isEmpty then
    let n := Int.ofNat (natOfDigits whole)
    return (.integer (if negative then -n else n), after)
  else
    return (.real (.ofList (s.take (s.length - after.length))), after)

/-! ### Values -/

def words : List (String × Value) :=
  [("null", .null), ("true", .bool true), ("false", .bool false), ("NaN", .real "NaN"),
   ("Infinity", .real "Infinity"), ("-Infinity", .real "-Infinity")]

def word? (s : List Char) : Option (Value × List Char) :=
  (words.find? fun w => w.1.toList.isPrefixOf s).map fun w => (w.2, s.drop w.1.length)

/-- A key with its quotes and the colon after it. -/
def readKey (s : List Char) : Except Stop (String × List Char) :=
  match s with
  | '"' :: rest => do
    let (key, rest) ← readString s rest
    match skipBlanks rest with
    | ':' :: rest => return (.ofList key, skipBlanks rest)
    | rest => stop .colon rest
  | _ => stop .propertyName s

mutual

/-- A value; `fuel` bounds how many values and items are begun inside of each other, or one after the
other in an array or object. -/
def readValue : Nat → List Char → Except Stop (Value × List Char)
  | 0, s => stop .value s
  | fuel + 1, s =>
    match s with
    | '"' :: rest => (readString s rest).map fun (cs, after) => (.string (.ofList cs), after)
    | '{' :: rest =>
      match skipBlanks rest with
      | '}' :: after => .ok (.object [], after)
      | rest => (readMembers fuel [] rest).map fun (ms, after) => (.object ms, after)
    | '[' :: rest =>
      match skipBlanks rest with
      | ']' :: after => .ok (.array [], after)
      | rest => (readItems fuel rest).map fun (vs, after) => (.array vs, after)
    | _ =>
      match (word? s).or (number? s) with
      | some read => .ok read
      | none => stop .value s

/-- The items of an array up to its bracket. -/
def readItems : Nat → List Char → Except Stop (List Value × List Char)
  | 0, s => stop .value s
  | fuel + 1, s => do
    let (v, rest) ← readValue fuel s
    match skipBlanks rest with
    | ']' :: after => return ([v], after)
    | ',' :: rest =>
      let (vs, after) ← readItems fuel (skipBlanks rest)
      return (v :: vs, after)
    | rest => stop .comma rest

/-- The members of an object up to its brace, put into a table. -/
def readMembers : Nat → Table Value → List Char → Except Stop (Table Value × List Char)
  | 0, _, s => stop .value s
  | fuel + 1, table, s => do
    let (key, rest) ← readKey s
    let (v, rest) ← readValue fuel rest
    let table := table.put key v
    match skipBlanks rest with
    | '}' :: after => return (table, after)
    | ',' :: rest => readMembers fuel table (skipBlanks rest)
    | rest => stop .comma rest

end

/-- The value of a text that holds nothing else. -/
def readText (s : List Char) : Except Stop Value :=
  if s.head? = some '\uFEFF' then stop .byteOrderMark s
  else do
    let (v, rest) ← readValue (2 * s.length + 2) (skipBlanks s)
    match skipBlanks rest with
    | [] => return v
    | rest => stop .extraData rest

def read (text : String) : Except Fault Value :=
  (readText text.toList).mapError (Stop.fault text.toList)

end JsxOutline.Json
