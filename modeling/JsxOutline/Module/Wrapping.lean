import JsxOutline.Module.Imports

/-!
# Wrapped imports

A module without elements often exports by default a call that gets a component as an argument.  The
first import among the arguments is the component that the module wraps; the arguments of a call come
before those of the call that gives its function.  Main statement: what is wrapped is among the
bindings.
-/

namespace JsxOutline

namespace Tree

def argumentNames (l : Label) (cs : List Tree) : List String :=
  match (node l cs).field? "arguments" with
  | some arguments => (arguments.namedOf "identifier").map text
  | none => []

mutual

/-- The identifiers among the arguments of a call, then those of the call that is its function. -/
def callNames : Tree → List String
  | node l cs => if l.kind == "call_expression" then argumentNames l cs ++ functionNames cs else []

/-- The identifiers among the arguments of the first tree of a list that is a function. -/
def functionNames : List Tree → List String
  | [] => []
  | t :: ts => if t.label.fields.contains "function" then callNames t else functionNames ts

end

end Tree

namespace Module

/-- The value that a module exports by default, if its first default export is of a value. -/
def defaultExport? (m : Module) : Option Tree := do
  let statement ← (m.statementsOf "export_statement").find? fun s =>
    s.children.any (·.kind == "default")
  statement.field? "value"

/-- The declaration of variables that a statement is or exports. -/
def declaration? (statement : Tree) : Option Tree := do
  let d ← if statement.kind = "export_statement" then statement.field? "declaration" else some statement
  if d.kind = "lexical_declaration" ∨ d.kind = "variable_declaration" then some d else none

def callsBound (name : String) (declaration : Tree) : List Tree :=
  (declaration.namedOf "variable_declarator").flatMap fun d =>
    if Tree.textOf (d.field? "name") = name then
      (d.field? "value").toList.filter (·.kind == "call_expression")
    else []

/-- The calls that the variables of a name are bound to at the top level. -/
def calls (m : Module) (name : String) : List Tree :=
  (m.statements.filterMap declaration?).flatMap (callsBound name)

def exportedCall? (m : Module) : Option Tree := do
  let value ← m.defaultExport?
  if value.kind = "identifier" then (m.calls value.text).head? else some value

/-- The import that the default export of a module wraps. -/
def wrappedImport? (m : Module) (bs : List Binding) : Option Binding := do
  let call ← m.exportedCall?
  call.callNames.findSome? (Binding.first? bs)

theorem mem_of_wrappedImport? {m : Module} {bs : List Binding} {b : Binding}
    (h : m.wrappedImport? bs = some b) : b ∈ bs := by
  simp only [wrappedImport?, Option.bind_eq_bind, Option.bind_eq_some_iff] at h
  obtain ⟨call, -, h⟩ := h
  obtain ⟨name, -, h⟩ := List.exists_of_findSome?_eq_some h
  exact List.mem_of_find?_eq_some h

end Module

end JsxOutline
