import JsxOutline.Module.Imports

/-!
# Used imports

The imports that a module with elements renders: those that name an element, alone or before a dot,
and those that are handed on in an attribute `component`.  Main statement: what is used is among the
bindings.
-/

namespace JsxOutline

/-! ### Names at use sites -/

namespace Tree

/-- Whether a name is made of names with dots between them. -/
def isDotted (l : Label) : Bool := l.kind == "member_expression" || l.kind == "nested_identifier"

mutual

/-- The identifier that a name begins with. -/
def leftmost? : Tree → Option String
  | node l cs =>
    if isDotted l then leftmostOf? cs else if l.kind == "identifier" then some l.text else none

/-- The identifier that the first named tree of a list begins with. -/
def leftmostOf? : List Tree → Option String
  | [] => none
  | t :: ts => if t.label.named then leftmost? t else leftmostOf? ts

end

def tagName? (t : Tree) : Option String := (t.field? "name").bind leftmost?

/-- The identifier that is the whole value of an attribute `component`. -/
def componentValue? (t : Tree) : Option String :=
  match t.named with
  | [name, value] =>
    if name.text = "component" ∧ value.kind = "jsx_expression" then
      match value.named with
      | [inner] => if inner.kind = "identifier" then some inner.text else none
      | _ => none
    else none
  | _ => none

def usedName? (t : Tree) : Option String :=
  let name :=
    match t.kind with
    | "jsx_opening_element" | "jsx_self_closing_element" => t.tagName?
    | "jsx_attribute" => t.componentValue?
    | _ => none
  name.filter (· != "")

end Tree

/-! ### Used bindings -/

namespace Module

/-- Adds what a name is bound to, unless it is there already. -/
def addUsed (bs : List Binding) (used : List Binding) (name : String) : List Binding :=
  match Binding.first? bs name with
  | some b => if used.contains b then used else used ++ [b]
  | none => used

/-- The bindings that a module uses as components, in the order of their first use; none if the
module does not have elements. -/
def usedImports (m : Module) (bs : List Binding) : List Binding :=
  if Binding.hasReact bs then (m.root.walk.filterMap Tree.usedName?).foldl (addUsed bs) [] else []

theorem mem_addUsed {bs used : List Binding} {name : String} {b : Binding}
    (h : b ∈ addUsed bs used name) : b ∈ used ∨ b ∈ bs := by
  unfold addUsed at h
  split at h
  · next c hc =>
    split at h
    · exact .inl h
    · rcases List.mem_append.1 h with h | h
      · exact .inl h
      · rw [List.mem_singleton.1 h]
        exact .inr (List.mem_of_find?_eq_some hc)
  · exact .inl h

theorem mem_of_mem_usedImports {m : Module} {bs : List Binding} {b : Binding}
    (h : b ∈ m.usedImports bs) : b ∈ bs := by
  have fold : ∀ (names : List String) (used : List Binding),
      b ∈ names.foldl (addUsed bs) used → b ∈ used ∨ b ∈ bs := by
    intro names
    induction names with
    | nil => exact fun _ h => .inl h
    | cons name names ih =>
      intro used h
      rcases ih _ h with h | h
      · exact mem_addUsed h
      · exact .inr h
  unfold usedImports at h
  split at h
  · simpa using fold _ _ h
  · simp at h

end Module

end JsxOutline
