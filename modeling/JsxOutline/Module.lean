import JsxOutline.Log
import JsxOutline.Tree

/-!
# Modules

A module is the syntax tree of a file.  A file whose text does not fit the grammar everywhere is
still a module if one of its statements is sound and carries code.  Main statements: parsing fails
exactly when there is an error and no usable statement, and a tree without errors is given back as
it is, without a warning.
-/

namespace JsxOutline

open JsxOutline.Text (Place)

/-! ### Reading trees -/

namespace Tree

def hasError (t : Tree) : Bool := t.label.faulty

def isError (t : Tree) : Bool := t.kind == "ERROR" || t.label.missing

/-- The first node that is an error, parents first. -/
def firstError? (t : Tree) : Option Tree := t.walk.find? isError

def textOf (t : Option Tree) : String := (t.map text).getD ""

def fieldOr (t : Tree) (name other : String) : Option Tree := (t.field? name).or (t.field? other)

/-- The children of a kind that are more than punctuation or keywords. -/
def namedOf (t : Tree) (kind : String) : List Tree := t.named.filter (·.kind == kind)

end Tree

/-- A text without the quotes around it, if there are any. -/
def unquote (s : List Char) : List Char :=
  match s with
  | q :: rest =>
    if (q = '\'' ∨ q = '"' ∨ q = '\x60') ∧ rest.getLast? = some q then rest.dropLast else s
  | [] => s

/-- The value of a string as it is written between its quotes. -/
def Tree.value (t : Option Tree) : String := .ofList (unquote (Tree.textOf t).toList)

/-! ### Modules -/

structure Module where
  file : String
  root : Tree

namespace Module

def statements (m : Module) : List Tree := m.root.named.filter (·.kind != "comment")

def statementsOf (m : Module) (kind : String) : List Tree := m.statements.filter (·.kind == kind)

/-- Whether a statement is sound and carries code. -/
def isUsable (t : Tree) : Bool :=
  !(["ERROR", "comment", "empty_statement"].contains t.kind) && !t.hasError

/-- The statements of a tree that are sound and carry code. -/
def usable (root : Tree) : List Tree := root.named.filter isUsable

/-- The fault of a tree with errors: it lies at the first of them. -/
def faultOf (file : String) (root : Tree) : SyntaxFault :=
  ⟨file, ((root.firstError?).getD root).label.place⟩

/-- The module of a source text. -/
def parse (parser : Parser) (source file : String) : Outcome SyntaxFault Module := do
  let root := parser source
  if root.hasError then
    if (usable root).isEmpty then Outcome.fail (faultOf file root)
    Outcome.tell (.partlyParsed (faultOf file root))
  Outcome.tell (.parsed file)
  return ⟨file, root⟩

theorem parse_of_sound {parser : Parser} {source : String} (file : String)
    (h : (parser source).hasError = false) :
    parse parser source file = ⟨.ok ⟨file, parser source⟩, [.parsed file]⟩ := by
  simp [parse, h, bind, pure, Outcome.andThen, Outcome.tell]

theorem parse_of_usable {parser : Parser} {source : String} (file : String)
    (h : (parser source).hasError = true) (hu : (usable (parser source)).isEmpty = false) :
    parse parser source file =
      ⟨.ok ⟨file, parser source⟩,
        [.partlyParsed (faultOf file (parser source)), .parsed file]⟩ := by
  simp [parse, h, hu, bind, pure, Outcome.andThen, Outcome.tell]

theorem parse_of_unusable {parser : Parser} {source : String} (file : String)
    (h : (parser source).hasError = true) (hu : (usable (parser source)).isEmpty = true) :
    parse parser source file = ⟨.error (faultOf file (parser source)), []⟩ := by
  simp [parse, h, hu, bind, Outcome.andThen, Outcome.fail]

/-- Parsing ends with the tree of the text, or with the fault of the file. -/
theorem parse_result (parser : Parser) (source file : String) :
    (parse parser source file).result =
      if (parser source).hasError = true ∧ (usable (parser source)).isEmpty = true then
        .error (faultOf file (parser source))
      else .ok ⟨file, parser source⟩ := by
  cases h : (parser source).hasError with
  | false => simp [parse_of_sound file h]
  | true =>
    cases hu : (usable (parser source)).isEmpty with
    | false => simp [parse_of_usable file h hu]
    | true => simp [parse_of_unusable file h hu]

theorem file_of_parse_error {parser : Parser} {source file : String} {fault : SyntaxFault}
    (h : (parse parser source file).result = .error fault) : fault.file = file := by
  rw [parse_result] at h
  split at h
  · cases h
    rfl
  · cases h

end Module

end JsxOutline
