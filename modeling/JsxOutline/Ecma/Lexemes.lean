import JsxOutline.Grammar.Rule

/-!
# The tokens of ECMAScript

The patterns of numbers, names, comments and the parts of strings and regular expressions.
-/

namespace JsxOutline.Ecma

open JsxOutline.Lexicon JsxOutline.Lexicon.CharSet JsxOutline.Lexicon.Pattern

/-! ### Character classes -/

/-- The characters that a pattern class calls white space: tab to carriage return, and the space. -/
def whitespace : List (Nat × Nat) := [(0x09, 0x0D), (0x20, 0x20)]

/-- The separators of the class Zs. -/
def spaceSeparators : List (Nat × Nat) :=
  [(0x20, 0x20), (0xA0, 0xA0), (0x1680, 0x1680), (0x2000, 0x200A), (0x202F, 0x202F),
   (0x205F, 0x205F), (0x3000, 0x3000)]

/-- Line and paragraph separators, and characters without width. -/
def invisible : List (Nat × Nat) :=
  [(0xFEFF, 0xFEFF), (0x2028, 0x2028), (0x2029, 0x2029), (0x2060, 0x2060), (0x200B, 0x200B)]

def blanks : CharSet := .inside (whitespace ++ spaceSeparators ++ invisible)

def digits : List (Nat × Nat) := between '0' '9'

def hexDigits : List (Nat × Nat) := digits ++ between 'a' 'f' ++ between 'A' 'F'

def letters : List (Nat × Nat) := between 'a' 'z' ++ between 'A' 'Z'

/-- The characters that no name contains, digits apart. -/
def nameStops : List (Nat × Nat) :=
  [(0x00, 0x1F)] ++ whitespace ++ spaceSeparators ++ points ":;\x60\"'@#.,|^&<=>+-*/\\%?!~()[]\x7b\x7d"
    ++ invisible

/-! ### Names -/

def nameEscape : Pattern :=
  alt (seqs [text "\\u", times (oneOf hexDigits) 4])
    (seqs [text "\\u\x7b", many1 (oneOf hexDigits), text "\x7d"])

def nameStart : Pattern := alt (noneOf (nameStops ++ digits)) nameEscape

def nameRest : Pattern := alt (noneOf nameStops) nameEscape

def identifier : Lexeme := { pattern := seq nameStart (many nameRest) }

def privateName : Lexeme := { pattern := seqs [text "#", nameStart, many nameRest] }

/-- A name of an element or attribute with a hyphen in it. -/
def hyphenatedName : Lexeme :=
  { pattern := seqs [
      oneOf (letters ++ points "_$"),
      many (oneOf (letters ++ digits ++ points "_$")),
      text "-",
      many (oneOf (letters ++ digits ++ points "_$-"))] }

/-! ### Numbers -/

/-- Digits of a kind with single underscores between them. -/
def spaced (ds : List (Nat × Nat)) : Pattern :=
  seq (oneOf ds) (many (seq (opt (text "_")) (oneOf ds)))

def number : Lexeme :=
  let hex := seq (alt (text "0x") (text "0X")) (spaced hexDigits)
  let decimal := spaced digits
  let binary := seq (alt (text "0b") (text "0B")) (spaced (between '0' '1'))
  let octal := seq (alt (text "0o") (text "0O")) (spaced (between '0' '7'))
  let exponent := seqs [alt (text "e") (text "E"), opt (alt (text "-") (text "+")), decimal]
  let whole := alt (text "0")
    (seqs [opt (text "0"), oneOf (between '1' '9'), opt (seq (opt (text "_")) decimal)])
  let big := seq (alts [hex, binary, octal, decimal]) (text "n")
  { pattern := alts [
      hex,
      seqs [whole, text ".", opt decimal, opt exponent],
      seqs [text ".", decimal, opt exponent],
      seq whole exponent,
      decimal,
      binary, octal, big] }

/-! ### Strings, comments, regular expressions -/

/-- A piece of a string up to a quote, a backslash or the end of the line. -/
def stringPiece (quote : String) : Lexeme :=
  { pattern := many1 (noneOf (points quote ++ points "\\\r\n")), immediate := true, rank := 1 }

def escape : Lexeme :=
  { immediate := true
    pattern := seq (text "\\") (alts [
      noneOf (points "xu" ++ between '0' '7'),
      timesUpTo (oneOf (between '0' '7')) 1 3,
      seq (text "x") (times (oneOf hexDigits) 2),
      seq (text "u") (times (oneOf hexDigits) 4),
      seqs [text "u\x7b", many1 (oneOf hexDigits), text "\x7d"],
      seq (oneOf (points "\r?")) (oneOf [(0x0A, 0x0A), (0x2028, 0x2028), (0x2029, 0x2029)])]) }

/-- A piece of an attribute's text up to a quote or a character reference. -/
def attributePiece (quote : String) : Lexeme :=
  { immediate := true, rank := 1
    pattern := many1 (alt (noneOf (points quote ++ points "&"))
      (seq (text "&") (noneOf (points "#" ++ letters)))) }

def characterReference : Lexeme :=
  { pattern := seqs [text "&", alt
      (seq (text "#") (alt
        (seq (oneOf (points "xX")) (timesUpTo (oneOf hexDigits) 1 6))
        (timesUpTo (oneOf digits) 1 5)))
      (timesUpTo (oneOf letters) 1 30), text ";"] }

def comment : Lexeme :=
  { pattern := alt
      (seq (text "//") (many (noneOf [(0x0D, 0x0D), (0x0A, 0x0A), (0x2028, 0x2029)])))
      (seqs [text "/*", many (noneOf (points "*")), many1 (text "*"),
        many (seqs [noneOf (points "/*"), many (noneOf (points "*")), many1 (text "*")]), text "/"]) }

/-- The first line of a script that names its interpreter. -/
def hashBang : Lexeme := { pattern := seq (text "#!") (many (noneOf (points "\n"))) }

/-- What stands between the slashes of a regular expression. -/
def regexPattern : Lexeme :=
  let escaped := seq (text "\\") (noneOf (points "\n"))
  { immediate := true, rank := -1
    pattern := many1 (alts [
      seqs [text "[", many (alt escaped (noneOf (points "]\n\\"))), text "]"],
      escaped,
      noneOf (points "/\\[\n")]) }

def regexEnd : Lexeme := { pattern := text "/", immediate := true, rank := 1 }

def regexFlags : Lexeme := { pattern := many1 (oneOf (between 'a' 'z')), immediate := true }

/-- The words `static` and `get` with the end of a line after them: a field and a method. -/
def staticGet : Lexeme :=
  { pattern := seqs [text "static", many1 (oneOf whitespace), text "get",
      many (oneOf whitespace), text "\n"] }

end JsxOutline.Ecma
