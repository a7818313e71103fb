import JsxOutline.Module

/-!
# Imports

The local names that a module binds by its import statements, each with the specifier that it comes
from.  Stylesheets bind nothing.
-/

namespace JsxOutline

/-- A local name with the specifier that it comes from. -/
structure Binding where
  name : String
  source : String
deriving DecidableEq, Repr

/-! ### Specifiers -/

namespace Specifier

/-- How the names of stylesheets end. -/
def styleEndings : List String := ["css", "scss", "sass", "less", "styl"]

/-- Whether a specifier names a stylesheet.  Only letters of ASCII matter to the endings. -/
def isStyle (specifier : String) : Bool :=
  let lower := specifier.toList.map Char.toLower
  styleEndings.any fun ending => ending.toList.isSuffixOf lower

def isRelative (specifier : String) : Bool := specifier.toList.head? == some '.'

end Specifier

/-! ### Bindings -/

namespace Binding

/-- The name whose import marks a module with elements. -/
def react : String := "React"

def hasReact (bs : List Binding) : Bool := bs.any (·.name == react)

def first? (bs : List Binding) (name : String) : Option Binding := bs.find? (·.name == name)

def last? (bs : List Binding) (name : String) : Option Binding := (bs.filter (·.name == name)).getLast?

theorem mem_of_last? {bs : List Binding} {name : String} {b : Binding}
    (h : last? bs name = some b) : b ∈ bs :=
  (List.mem_filter.mp (List.mem_of_getLast? h)).1

end Binding

namespace Module

/-- The bindings of a part of an import clause: a default name, a name for all, or listed names. -/
def partBindings (source : String) (part : Tree) : List Binding :=
  match part.kind with
  | "identifier" => [⟨part.text, source⟩]
  | "namespace_import" => (part.namedOf "identifier").map fun name => ⟨name.text, source⟩
  | "named_imports" =>
    (part.namedOf "import_specifier").map fun s => ⟨Tree.value (s.fieldOr "alias" "name"), source⟩
  | _ => []

def clauseBindings (source : String) (clause : Tree) : List Binding :=
  clause.named.flatMap (partBindings source)

def importBindings (statement : Tree) : List Binding :=
  let source := Tree.value (statement.field? "source")
  if Specifier.isStyle source then []
  else (statement.namedOf "import_clause").flatMap (clauseBindings source)

/-- The bindings of all import statements, in their order. -/
def imports (m : Module) : List Binding := (m.statementsOf "import_statement").flatMap importBindings

end Module

end JsxOutline
