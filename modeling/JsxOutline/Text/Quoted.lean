import JsxOutline.Text.Hexadecimal
import JsxOutline.Text.Printable

/-!
# Quoted text

Text between quotes in which nothing is ambiguous: the quote and the backslash stand after a
backslash, and what does not print is written as an escape.
-/

namespace JsxOutline.Text.Quoted

/-- Single quotes, unless the text has single quotes and no double ones. -/
def quote (s : List Char) : Char := if s.contains '\'' && !s.contains '"' then '"' else '\''

def escape (quote c : Char) : List Char :=
  let n := c.toNat
  if c = quote ∨ c = '\\' then ['\\', c]
  else if c = '\t' then ['\\', 't']
  else if c = '\n' then ['\\', 'n']
  else if c = '\r' then ['\\', 'r']
  else if isPrintable c then [c]
  else if n < 0x100 then '\\' :: 'x' :: hexadecimal 2 n
  else if n < 0x10000 then '\\' :: 'u' :: hexadecimal 4 n
  else '\\' :: 'U' :: hexadecimal 8 n

def encode (s : List Char) : List Char :=
  let q := quote s
  q :: s.flatMap (escape q) ++ [q]

def ofString (s : String) : String := .ofList (encode s.toList)

end JsxOutline.Text.Quoted
