import JsxOutline.Module.Imports
import JsxOutline.Text.Word

/-!
# Lines that export what they import

A line `export Name from 'source'` is no statement of the language, so it is read from the text: the
line begins at the start of the text or after a line feed, blanks and tabs stand between its words,
and the source may go on over further lines.  Main statement: a line that is read takes up text, so
reading all lines comes to an end.
-/

namespace JsxOutline.ExportLine

open JsxOutline.Text

/-! ### Characters -/

def isGap (c : Char) : Bool := c == ' ' || c == '\t'

def isQuote (c : Char) : Bool := c == '\'' || c == '"'

def isNameStart (c : Char) : Bool := c.isAlpha || c == '_' || c == '$'

def isNamePart (c : Char) : Bool := isWord c || c == '$'

/-! ### Parts -/

def word? (w : String) (s : List Char) : Option (List Char) :=
  if w.toList.isPrefixOf s then some (s.drop w.toList.length) else none

/-- The text after blanks and tabs, of which there has to be one. -/
def gap? (s : List Char) : Option (List Char) :=
  match s with
  | c :: rest => if isGap c then some (rest.dropWhile isGap) else none
  | [] => none

def name? (s : List Char) : Option (List Char × List Char) :=
  match s with
  | c :: rest =>
    if isNameStart c then some (c :: rest.takeWhile isNamePart, rest.dropWhile isNamePart) else none
  | [] => none

/-- The text between two quotes, which need not be alike, with the text after them. -/
def quoted? (s : List Char) : Option (List Char × List Char) :=
  match s with
  | q :: rest =>
    if isQuote q then
      match rest.takeWhile (!isQuote ·), rest.dropWhile (!isQuote ·) with
      | c :: source, _ :: after => some (c :: source, after)
      | _, _ => none
    else none
  | [] => none

/-! ### Lines -/

/-- The name and the source of the line at the start of a text, with the text after it. -/
def line? (s : List Char) : Option (Binding × List Char) := do
  let s ← word? "export" (s.dropWhile isGap)
  let s ← gap? s
  let (name, s) ← name? s
  let s ← gap? s
  let s ← word? "from" s
  let s ← gap? s
  let (source, s) ← quoted? s
  return (⟨.ofList name, .ofList source⟩, s)

theorem length_dropWhile_le (p : Char → Bool) (s : List Char) : (s.dropWhile p).length ≤ s.length := by
  induction s with
  | nil => simp
  | cons c cs ih =>
    rw [List.dropWhile_cons]
    split
    · simp only [List.length_cons]; omega
    · simp

theorem word?_length {w : String} {s rest : List Char} (h : word? w s = some rest) :
    rest.length ≤ s.length := by
  simp only [word?, Option.ite_none_right_eq_some, Option.some.injEq] at h
  rw [← h.2]
  simp

theorem gap?_length {s rest : List Char} (h : gap? s = some rest) : rest.length < s.length := by
  cases s with
  | nil => simp [gap?] at h
  | cons c cs =>
    simp only [gap?, Option.ite_none_right_eq_some, Option.some.injEq] at h
    rw [← h.2, List.length_cons]
    exact Nat.lt_succ_of_le (length_dropWhile_le _ _)

theorem name?_length {s name rest : List Char} (h : name? s = some (name, rest)) :
    rest.length ≤ s.length := by
  cases s with
  | nil => simp [name?] at h
  | cons c cs =>
    simp only [name?, Option.ite_none_right_eq_some, Option.some.injEq, Prod.mk.injEq] at h
    rw [← h.2.2, List.length_cons]
    exact Nat.le_succ_of_le (length_dropWhile_le _ _)

theorem quoted?_length {s source rest : List Char} (h : quoted? s = some (source, rest)) :
    rest.length ≤ s.length := by
  cases s with
  | nil => simp [quoted?] at h
  | cons q cs =>
    simp only [quoted?, Option.ite_none_right_eq_some] at h
    obtain ⟨-, h⟩ := h
    split at h
    · next c source' q' after _ hd =>
      simp only [Option.some.injEq, Prod.mk.injEq] at h
      have hle := length_dropWhile_le (!isQuote ·) cs
      rw [hd, List.length_cons] at hle
      rw [← h.2, List.length_cons]
      omega
    · simp at h

theorem line?_length {s rest : List Char} {b : Binding} (h : line? s = some (b, rest)) :
    rest.length < s.length := by
  simp only [line?, Option.bind_eq_bind, Option.bind_eq_some_iff, Option.pure_def, Option.some.injEq,
    Prod.mk.injEq, Prod.exists] at h
  obtain ⟨s₁, h₁, s₂, h₂, name, s₃, h₃, s₄, h₄, s₅, h₅, s₆, h₆, source, s₇, h₇, -, rfl⟩ := h
  have l₀ := length_dropWhile_le isGap s
  have l₁ := word?_length h₁
  have l₂ := gap?_length h₂
  have l₃ := name?_length h₃
  have l₄ := gap?_length h₄
  have l₅ := word?_length h₅
  have l₆ := gap?_length h₆
  have l₇ := quoted?_length h₇
  omega

/-- The bindings of all lines in a text; `start` says whether a line may begin here. -/
def scan (start : Bool) (s : List Char) : List Binding :=
  match h : (if start then line? s else none) with
  | some (b, rest) =>
    have : rest.length < s.length := by
      simp only [Option.ite_none_right_eq_some] at h
      exact line?_length h.2
    b :: scan false rest
  | none =>
    match s with
    | c :: rest => scan (c == '\n') rest
    | [] => []
termination_by s.length

/-- The bindings of all lines in a text, except those of the name for the default. -/
def bindings (text : String) : List Binding :=
  (scan true text.toList).filter (·.name != "default")

end JsxOutline.ExportLine

namespace JsxOutline.Module

/-! ### Re-exports -/

/-- The bindings of a part of an export statement that lists names. -/
def exportedNames (source : String) (clause : Tree) : List Binding :=
  (clause.namedOf "export_specifier").map fun s => ⟨Tree.value (s.fieldOr "alias" "name"), source⟩

def exportBindings (statement : Tree) : List Binding :=
  match statement.field? "source" with
  | none => []
  | some source => (statement.namedOf "export_clause").flatMap (exportedNames (Tree.value source))

/-- The names that an index file makes available, with where they come from: what it imports, then
what it exports from elsewhere, then the lines of its text if it has errors. -/
def reexports (m : Module) : List Binding :=
  m.imports ++ (m.statementsOf "export_statement").flatMap exportBindings
    ++ if m.root.hasError then ExportLine.bindings m.root.text else []

/-- The last binding of a name that an index file makes available. -/
def reexport? (m : Module) (name : String) : Option Binding := Binding.last? m.reexports name

end JsxOutline.Module
