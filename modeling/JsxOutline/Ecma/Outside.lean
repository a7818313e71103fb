import JsxOutline.Reading.Token
import JsxOutline.Ecma.Grammar

/-!
# Tokens that need to see more of the text

Whether a line end stands for a semicolon, where the text of a template or of an element ends,
whether a question mark begins a ternary, and comments in the style of HTML.
-/

namespace JsxOutline.Ecma

open JsxOutline.Text JsxOutline.Reading

/-! ### Characters -/

def isSpace (c : Nat) : Bool :=
  (0x09 ≤ c && c ≤ 0x0D) || c == 0x20 || c == 0x1680 || (0x2000 ≤ c && c ≤ 0x2006)
    || (0x2008 ≤ c && c ≤ 0x200A) || c == 0x2028 || c == 0x2029 || c == 0x205F || c == 0x3000

def isLineEnd (c : Nat) : Bool := c == 0x0A || c == 0x2028 || c == 0x2029

def isDigit (c : Nat) : Bool := 0x30 ≤ c && c ≤ 0x39

/-- A letter; beyond ASCII everything that is not a space counts. -/
def isLetter (c : Nat) : Bool :=
  (0x41 ≤ c && c ≤ 0x5A) || (0x61 ≤ c && c ≤ 0x7A) || (0xAA ≤ c && !isSpace c)

def holds (t : Lines) (i : Nat) (c : Char) : Bool := t.code i == c.toNat

/-- The first position from `i` on whose character does not fit; `fuel` bounds the way. -/
def passWhile (t : Lines) (p : Nat → Bool) : Nat → Nat → Nat
  | 0, i => i
  | fuel + 1, i => if i < t.size && p (t.code i) then passWhile t p fuel (i + 1) else i

def pass (t : Lines) (p : Nat → Bool) (i : Nat) : Nat := passWhile t p (t.size - i) i

/-! ### The indices of the tokens -/

/-- A line end, or the end of a block, that stands for a semicolon. -/
def semicolonToken : Nat := 0

def templateToken : Nat := 1

def questionToken : Nat := 2

def htmlCommentToken : Nat := 3

/-- Two vertical bars.  A line end before them does not stand for a semicolon. -/
def logicalOrToken : Nat := 4

/-- An escaped character.  Where it may stand, no ternary begins. -/
def escapeToken : Nat := 5

def regexToken : Nat := 6

def jsxTextToken : Nat := 7

/-! ### Templates -/

/-- The end of a piece of a template: before a backtick, a backslash or an embedded expression. -/
def templateEnd (t : Lines) : Nat → Nat → Bool → Option (Nat × Bool)
  | 0, _, _ => none
  | fuel + 1, i, content =>
    if t.size ≤ i || t.code i == 0 then none
    else if t.code i == 0x60 || holds t i '\\' then some (i, content)
    else if holds t i '$' then
      if t.code (i + 1) == 0x7B then some (i, content) else templateEnd t fuel (i + 1) true
    else templateEnd t fuel (i + 1) true

def scanTemplate (t : Lines) (i : Nat) : Option OutsideFind :=
  match templateEnd t (t.size + 1 - i) i false with
  | some (stop, true) => some ⟨templateToken, i, stop⟩
  | _ => none

/-! ### Semicolons -/

inductive Gap where
  /-- A slash that begins no comment. -/
  | slash
  /-- Comments on the same line. -/
  | sameLine
  /-- Anything else. -/
  | clear
deriving BEq

/-- The end of a block comment whose text begins at `i`, and whether it holds a line end. -/
def blockEnd (t : Lines) : Nat → Nat → Bool → Nat × Bool × Bool
  | 0, i, nl => (i, nl, false)
  | fuel + 1, i, nl =>
    if t.code i == 0 then (i, nl, false)
    else if holds t i '*' then
      if holds t (i + 1) '/' then (i + 2, nl, true) else blockEnd t fuel (i + 1) nl
    else blockEnd t fuel (i + 1) (nl || isLineEnd (t.code i))

/-- Passes white space and comments.  Unless all of them are to be passed, a block comment that no
slash follows ends the way.  The result has the position, what was passed, and whether there was a
comment. -/
def passGap (t : Lines) (all : Bool) : Nat → Nat → Bool → Bool → Nat × Gap × Bool
  | 0, i, _, comment => (i, .clear, comment)
  | fuel + 1, i, nl, comment =>
    let i := pass t isSpace i
    if holds t i '/' then
      if holds t (i + 1) '/' then
        passGap t all fuel (pass t (fun c => c != 0 && !isLineEnd c) (i + 2)) nl true
      else if holds t (i + 1) '*' then
        let (j, nl, closed) := blockEnd t (t.size + 1 - i) (i + 2) nl
        if closed && !holds t j '/' && !all then (j, if nl then .clear else .sameLine, true)
        else passGap t all fuel j nl (comment || closed)
      else (i + 1, .slash, comment)
    else (i, .clear, comment)

/-- Whether a semicolon may be thought of before the token at `i`, which begins a line. -/
def allowsSemicolon (t : Lines) (i : Nat) : Bool :=
  let c := t.code i
  if t.size ≤ i then true
  else if (Lexicon.CharSet.points "\x60,:;*%><=[(?^|&/").any (·.1 == c) then false
  else if holds t i '.' then isDigit (t.code (i + 1))
  else if holds t i '+' then holds t (i + 1) '+'
  else if holds t i '-' then holds t (i + 1) '-'
  else if holds t i '!' then !holds t (i + 1) '='
  else if holds t i 'i' then
    if !holds t (i + 1) 'n' then true
    else if !isLetter (t.code (i + 2)) then false
    else
      let rest := "stanceof".toList
      if (rest.zipIdx).all fun (c, k) => holds t (i + 2 + k) c then isLetter (t.code (i + 10))
      else true
  else true

/-- Looks for the place where a line end stands for a semicolon: `some true` if it does, `some
false` if not, together with the position reached and whether a comment was passed.
`commentCounts` says that a comment with a line end in it is enough. -/
def semicolonAt (t : Lines) (commentCounts : Bool) : Nat → Nat → Bool → Bool × Nat × Bool
  | 0, i, comment => (false, i, comment)
  | fuel + 1, i, comment =>
    if t.code i == 0 then (true, i, comment)
    else
      let (i', gap, comment) := if holds t i '/' then passGap t false (t.size + 1 - i) i false comment
        else (i, .sameLine, comment)
      if gap == .slash then (false, i', comment)
      else if gap == .clear && commentCounts && !holds t i' ',' && !holds t i' '=' then
        (true, i', comment)
      else
        let i := i'
        if t.code i == 0x7D then (true, i, comment)
        else if i == 0 then (true, i, comment)
        else if isLineEnd (t.code i) then
          let (j, gap, comment) := passGap t true (t.size + 1 - i) (i + 1) false comment
          if gap == .slash then (false, j, comment) else (allowsSemicolon t j, j, comment)
        else if !isSpace (t.code i) then (false, i, comment)
        else semicolonAt t commentCounts fuel (i + 1) comment

/-! ### Ternaries -/

/-- The question mark of a ternary, as opposed to `??` and `?.`. -/
def scanQuestion (t : Lines) (i : Nat) : Option OutsideFind :=
  let i := pass t isSpace i
  if holds t i '?' then
    if holds t (i + 1) '?' then none
    else if holds t (i + 1) '.' && !isDigit (t.code (i + 2)) then none
    else some ⟨questionToken, i, i + 1⟩
  else none

/-! ### Comments in the style of HTML -/

/-- A comment that begins like one of HTML, or like the end of one, and takes the rest of the line.
It starts at `start` unless blanks are passed from `i` on. -/
def scanHtmlComment (t : Lines) (start i : Nat) : Option OutsideFind :=
  let j := pass t (fun c => isSpace c || c == 0x2028 || c == 0x2029) i
  let mark (s : String) : Bool := (s.toList.zipIdx).all fun (c, k) => holds t (j + k) c
  let first := if j == i then start else j
  let line (k : Nat) : Option OutsideFind :=
    some ⟨htmlCommentToken, first, pass t (fun c => c != 0 && !isLineEnd c) (j + k)⟩
  if mark "<!--" then line 4 else if mark "-->" then line 3 else none

/-! ### Text inside of elements -/

/-- The end of a run of text inside of an element, and whether it is more than line ends with the
blanks after them. -/
def jsxTextEnd (t : Lines) : Nat → Nat → Bool → Bool → Nat × Bool
  | 0, i, _, saw => (i, saw)
  | fuel + 1, i, atLine, saw =>
    let c := t.code i
    if c == 0 || (Lexicon.CharSet.points "<>&\x7b\x7d").any (·.1 == c) then (i, saw)
    else if c == 0x0A then jsxTextEnd t fuel (i + 1) true saw
    else
      let atLine := atLine && isSpace c
      jsxTextEnd t fuel (i + 1) atLine (saw || !atLine)

/-! ### All together -/

/-- Finds a token outside of the lexicon, for the tokens wanted. -/
def scanOutside (t : Lines) (wanted : Nat) (i : Nat) : Option OutsideFind :=
  let wants (k : Nat) : Bool := wanted.testBit k
  if wants templateToken then
    -- while tokens are left out, everything is wanted at once and nothing is found
    if wants semicolonToken then none else scanTemplate t i
  else
    let (textEnd, saw) := if wants jsxTextToken then jsxTextEnd t (t.size + 1 - i) i false false
      else (i, false)
    if saw then some ⟨jsxTextToken, i, textEnd⟩
    else
      let j := textEnd
      if wants semicolonToken then
        let (found, k, comment) := semicolonAt t (!wants logicalOrToken) (t.size + 2 - j) j false
        if found then some ⟨semicolonToken, j, j⟩
        else if !comment && wants questionToken && holds t k '?' then scanQuestion t k
        else none
      else if wants questionToken then scanQuestion t j
      else if wants htmlCommentToken && !wants logicalOrToken && !wants escapeToken
          && !wants regexToken then
        scanHtmlComment t i j
      else none

def language : Language := { tables := .build grammar, outside := scanOutside }

end JsxOutline.Ecma
