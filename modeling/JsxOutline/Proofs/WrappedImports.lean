import JsxOutline.Module.Wrapping

/-!
# What a default export wraps

A default export stands for a call, by itself or as the name of a variable, and the call has
arguments, as has the call that is its function, and so on.  Main statement: what is wrapped is the
first binding of the first of all these arguments that names one, and nothing is wrapped exactly if
there is no default export of a value, nothing that it stands for, or no such argument.
-/

namespace JsxOutline

/-! ### The first of a list -/

section First

variable {α : Type}

/-- A value is the first of a list that is of some kind. -/
def First (P : α → Prop) (xs : List α) (x : α) : Prop :=
  P x ∧ ∃ front back, xs = front ++ x :: back ∧ ∀ y ∈ front, ¬ P y

theorem find?_eq_some_iff_first {P : α → Prop} [DecidablePred P] {xs : List α} {x : α} :
    xs.find? (fun y => decide (P y)) = some x ↔ First P xs x := by
  simp [List.find?_eq_some_iff_append, First]

theorem exists_first_iff {P : α → Prop} {xs : List α} : (∃ x, First P xs x) ↔ ∃ x ∈ xs, P x := by
  classical
  simp only [← find?_eq_some_iff_first, ← Option.isSome_iff_exists, List.find?_isSome,
    decide_eq_true_eq]

theorem findSome?_eq_some_iff_first {β : Type} {f : α → Option β} {xs : List α} {b : β} :
    xs.findSome? f = some b ↔ ∃ x, First (fun y => (f y).isSome) xs x ∧ f x = some b := by
  rw [List.findSome?_eq_some_iff]
  constructor
  · rintro ⟨front, x, back, rfl, hx, hfront⟩
    exact ⟨x, ⟨by simp [hx], front, back, rfl, by simpa using hfront⟩, hx⟩
  · rintro ⟨x, ⟨-, front, back, rfl, hfront⟩, hx⟩
    exact ⟨front, x, back, rfl, hx, by simpa using hfront⟩

end First

/-! ### Calls -/

namespace Tree

/-- The calls from a tree on: the tree, what is its function, and so on, as long as these are calls. -/
inductive Calls : Tree → List Tree → Prop
  | none {t : Tree} : t.kind ≠ "call_expression" → Calls t []
  | last {t : Tree} : t.kind = "call_expression" → t.field? "function" = none → Calls t [t]
  | next {t f : Tree} {calls : List Tree} : t.kind = "call_expression" →
      t.field? "function" = some f → Calls f calls → Calls t (t :: calls)

mutual

theorem exists_calls : ∀ t : Tree, ∃ calls, t.Calls calls
  | node l cs => by
    by_cases hkind : (node l cs).kind = "call_expression"
    · cases hfunction : (node l cs).field? "function" with
      | none => exact ⟨_, .last hkind hfunction⟩
      | some f =>
        obtain ⟨calls, hcalls⟩ := exists_calls_of_mem cs f (List.mem_of_find?_eq_some hfunction)
        exact ⟨_, .next hkind hfunction hcalls⟩
    · exact ⟨_, .none hkind⟩

theorem exists_calls_of_mem : ∀ (cs : List Tree), ∀ f ∈ cs, ∃ calls, f.Calls calls
  | c :: cs, f, h => by
    rcases List.mem_cons.mp h with h | h
    · exact h ▸ exists_calls c
    · exact exists_calls_of_mem cs f h

end

def arguments (call : Tree) : List Tree :=
  match call.field? "arguments" with
  | some list => list.named
  | none => []

def identifiers (ts : List Tree) : List String := (ts.filter (·.kind == "identifier")).map text

theorem argumentNames_eq (l : Label) (cs : List Tree) :
    argumentNames l cs = identifiers (node l cs).arguments := by
  rw [argumentNames, arguments]
  cases (node l cs).field? "arguments" <;> rfl

theorem functionNames_eq (cs : List Tree) :
    functionNames cs =
      ((cs.find? fun c => c.label.fields.contains "function").map callNames).getD [] := by
  induction cs with
  | nil => rfl
  | cons t ts ih =>
    rw [functionNames, List.find?_cons]
    by_cases h : t.label.fields.contains "function" = true
    · simp only [h, if_true, Option.map_some, Option.getD_some]
    · rw [if_neg h, ih, eq_false_of_ne_true h]

theorem callNames_eq (t : Tree) :
    t.callNames =
      if t.kind = "call_expression" then
        identifiers t.arguments ++ ((t.field? "function").map callNames).getD []
      else [] := by
  cases t with
  | node l cs =>
    rw [callNames, functionNames_eq, argumentNames_eq]
    simp only [beq_iff_eq]
    rfl

theorem identifiers_append (ts us : List Tree) :
    identifiers (ts ++ us) = identifiers ts ++ identifiers us := by
  rw [identifiers, List.filter_append, List.map_append, identifiers, identifiers]

theorem Calls.callNames_eq {t : Tree} {calls : List Tree} (h : t.Calls calls) :
    t.callNames = identifiers (calls.flatMap arguments) := by
  induction h with
  | none hkind => rw [Tree.callNames_eq, if_neg hkind]; rfl
  | last hkind hfunction => simp [Tree.callNames_eq, hkind, hfunction]
  | next hkind hfunction _ ih =>
    rw [Tree.callNames_eq, if_pos hkind, hfunction, Option.map_some, Option.getD_some, ih,
      List.flatMap_cons, identifiers_append]

end Tree

namespace Module

/-! ### What is exported -/

/-- A statement that exports something by default. -/
def IsDefaultExport (statement : Tree) : Prop :=
  statement.kind = "export_statement" ∧ ∃ c ∈ statement.children, c.kind = "default"

/-- The first default export of a module is of a value. -/
def Exports (m : Module) (value : Tree) : Prop :=
  ∃ statement, First IsDefaultExport m.statements statement ∧ statement.field? "value" = some value

/-- What a statement declares: what it exports, or else itself. -/
def declared? (statement : Tree) : Option Tree :=
  if statement.kind = "export_statement" then statement.field? "declaration" else some statement

/-- The variables of a declaration. -/
def variablesOf (declaration : Tree) : List Tree :=
  if declaration.kind = "lexical_declaration" ∨ declaration.kind = "variable_declaration" then
    declaration.namedOf "variable_declarator"
  else []

/-- The variables that are declared at the top level, in their order. -/
def variableNodes (m : Module) : List Tree := (m.statements.filterMap declared?).flatMap variablesOf

/-- A declared variable has a name and is bound to a call. -/
def BindsCall (name : String) (declared : Tree) : Prop :=
  Tree.textOf (declared.field? "name") = name ∧
    ∃ call, declared.field? "value" = some call ∧ call.kind = "call_expression"

/-- A value stands for itself, or, if it is a name, for the call that the first variable of this name
with a call is bound to. -/
def StandsFor (m : Module) (value c : Tree) : Prop :=
  if value.kind = "identifier" then
    ∃ d, First (BindsCall value.text) m.variableNodes d ∧ d.field? "value" = some c
  else c = value

instance : DecidablePred IsDefaultExport := fun _ => inferInstanceAs (Decidable (_ ∧ _))

theorem defaultExport?_eq_some_iff {m : Module} {value : Tree} :
    m.defaultExport? = some value ↔ m.Exports value := by
  have hfind : (m.statementsOf "export_statement").find?
      (fun s => s.children.any (·.kind == "default")) =
        m.statements.find? fun s => decide (IsDefaultExport s) := by
    rw [statementsOf, List.find?_filter]
    refine congrArg (fun p => m.statements.find? p) (funext fun s => ?_)
    have hdefault : decide (IsDefaultExport s) = true ↔ s.kind = "export_statement" ∧
        ∃ c ∈ s.children, c.kind = "default" := decide_eq_true_iff
    rw [Bool.eq_iff_iff, hdefault]
    simp
  rw [defaultExport?, Option.bind_eq_bind, hfind, Option.bind_eq_some_iff]
  simp only [find?_eq_some_iff_first]
  rfl

theorem Exports.unique {m : Module} {value value' : Tree} (h : m.Exports value)
    (h' : m.Exports value') : value = value' := by
  have hvalue := defaultExport?_eq_some_iff.mpr h
  rw [defaultExport?_eq_some_iff.mpr h'] at hvalue
  exact (Option.some.inj hvalue).symm

/-- The call that a declared variable is bound to, if it has a name and there is one. -/
def boundCall (name : String) (declared : Tree) : List Tree :=
  if Tree.textOf (declared.field? "name") = name then
    (declared.field? "value").toList.filter (·.kind == "call_expression")
  else []

theorem declaration?_eq (s : Tree) :
    declaration? s = (declared? s).bind fun d =>
      if d.kind = "lexical_declaration" ∨ d.kind = "variable_declaration" then some d else none := by
  unfold declaration? declared?
  split <;> rfl

theorem flatMap_variablesOf (name : String) (d : Tree) :
    (variablesOf d).flatMap (boundCall name) =
      if d.kind = "lexical_declaration" ∨ d.kind = "variable_declaration" then callsBound name d
      else [] := by
  rw [variablesOf, apply_ite (List.flatMap (boundCall name))]
  rfl

theorem calls_eq (m : Module) (name : String) :
    m.calls name = m.variableNodes.flatMap (boundCall name) := by
  rw [calls, variableNodes]
  induction m.statements with
  | nil => rfl
  | cons s ss ih =>
    rw [List.filterMap_cons, List.filterMap_cons, declaration?_eq]
    cases declared? s with
    | none => exact ih
    | some d =>
      rw [Option.bind_some, List.flatMap_cons, List.flatMap_append, flatMap_variablesOf, ← ih]
      by_cases hkind : d.kind = "lexical_declaration" ∨ d.kind = "variable_declaration"
      · rw [if_pos hkind, if_pos hkind]
        rfl
      · rw [if_neg hkind, if_neg hkind]
        rfl

theorem head?_boundCall_eq_some_iff {name : String} {d c : Tree} :
    (boundCall name d).head? = some c ↔ BindsCall name d ∧ d.field? "value" = some c := by
  rw [boundCall, BindsCall]
  by_cases hname : Tree.textOf (d.field? "name") = name
  · rw [if_pos hname]
    cases hvalue : d.field? "value" with
    | none => simp
    | some value => by_cases hkind : value.kind = "call_expression" <;> simp [hkind, hname]
  · simp [hname]

theorem head?_calls_eq_some_iff {m : Module} {name : String} {c : Tree} :
    (m.calls name).head? = some c ↔
      ∃ d, First (BindsCall name) m.variableNodes d ∧ d.field? "value" = some c := by
  have hbinds : (fun d => (boundCall name d).head?.isSome = true) = BindsCall name := by
    funext d
    simp only [Option.isSome_iff_exists, head?_boundCall_eq_some_iff, exists_and_left, eq_iff_iff]
    exact and_iff_left_of_imp fun h => ⟨_, h.2.choose_spec.1⟩
  rw [calls_eq, List.head?_flatMap, findSome?_eq_some_iff_first, hbinds]
  refine exists_congr fun d => and_congr_right fun hd => ?_
  rw [head?_boundCall_eq_some_iff, and_iff_right hd.1]

theorem exportedCall?_eq_some_iff {m : Module} {c : Tree} :
    m.exportedCall? = some c ↔ ∃ value, m.Exports value ∧ m.StandsFor value c := by
  rw [exportedCall?, Option.bind_eq_bind, Option.bind_eq_some_iff]
  refine exists_congr fun value => and_congr defaultExport?_eq_some_iff ?_
  rw [StandsFor]
  split
  · exact head?_calls_eq_some_iff
  · rw [Option.some.injEq, eq_comm]

/-! ### What is wrapped -/

/-- An argument is an identifier that names a binding. -/
def NamesOne (bs : List Binding) (t : Tree) : Prop :=
  t.kind = "identifier" ∧ ∃ b ∈ bs, b.name = t.text

theorem first?_eq_some_iff {bs : List Binding} {name : String} {b : Binding} :
    Binding.first? bs name = some b ↔ First (·.name = name) bs b := by
  rw [← find?_eq_some_iff_first]
  rfl

/-- The binding that an argument names. -/
def namedBinding? (bs : List Binding) (t : Tree) : Option Binding :=
  if t.kind = "identifier" then Binding.first? bs t.text else none

theorem namedBinding?_eq_some_iff {bs : List Binding} {t : Tree} {b : Binding} :
    namedBinding? bs t = some b ↔ t.kind = "identifier" ∧ First (·.name = t.text) bs b := by
  rw [namedBinding?, Option.ite_none_right_eq_some, first?_eq_some_iff]

theorem isSome_namedBinding? (bs : List Binding) :
    (fun t => (namedBinding? bs t).isSome = true) = NamesOne bs := by
  funext t
  simp only [Option.isSome_iff_exists, namedBinding?_eq_some_iff, exists_and_left, exists_first_iff,
    NamesOne]

theorem findSome?_identifiers (bs : List Binding) (ts : List Tree) :
    (Tree.identifiers ts).findSome? (Binding.first? bs) = ts.findSome? (namedBinding? bs) := by
  induction ts with
  | nil => rfl
  | cons t ts ih =>
    rw [Tree.identifiers] at ih ⊢
    by_cases hkind : t.kind = "identifier" <;> simp [namedBinding?, hkind, List.findSome?_cons, ih]

theorem findSome?_identifiers_eq_some_iff {bs : List Binding} {ts : List Tree} {b : Binding} :
    (Tree.identifiers ts).findSome? (Binding.first? bs) = some b ↔
      ∃ x, First (NamesOne bs) ts x ∧ First (·.name = x.text) bs b := by
  rw [findSome?_identifiers, findSome?_eq_some_iff_first, isSome_namedBinding?]
  refine exists_congr fun x => and_congr_right fun hx => ?_
  rw [namedBinding?_eq_some_iff, and_iff_right hx.1.1]

theorem findSome?_identifiers_eq_none_iff {bs : List Binding} {ts : List Tree} :
    (Tree.identifiers ts).findSome? (Binding.first? bs) = none ↔ ¬ ∃ x ∈ ts, NamesOne bs x := by
  rw [findSome?_identifiers, List.findSome?_eq_none_iff, ← isSome_namedBinding?]
  simp

theorem wrappedImport?_eq_some_iff {m : Module} {bs : List Binding} {b : Binding} :
    m.wrappedImport? bs = some b ↔
      ∃ value c calls x, m.Exports value ∧ m.StandsFor value c ∧ c.Calls calls ∧
        First (NamesOne bs) (calls.flatMap Tree.arguments) x ∧ First (·.name = x.text) bs b := by
  rw [wrappedImport?, Option.bind_eq_bind, Option.bind_eq_some_iff]
  constructor
  · rintro ⟨c, hc, hb⟩
    obtain ⟨value, hvalue, hstands⟩ := exportedCall?_eq_some_iff.mp hc
    obtain ⟨calls, hcalls⟩ := c.exists_calls
    rw [hcalls.callNames_eq, findSome?_identifiers_eq_some_iff] at hb
    obtain ⟨x, hx, hb⟩ := hb
    exact ⟨value, c, calls, x, hvalue, hstands, hcalls, hx, hb⟩
  · rintro ⟨value, c, calls, x, hvalue, hstands, hcalls, hx, hb⟩
    refine ⟨c, exportedCall?_eq_some_iff.mpr ⟨value, hvalue, hstands⟩, ?_⟩
    rw [hcalls.callNames_eq, findSome?_identifiers_eq_some_iff]
    exact ⟨x, hx, hb⟩

theorem wrappedImport?_eq_none_of_call {m : Module} {bs : List Binding} {value c : Tree}
    {calls : List Tree} (hvalue : m.Exports value) (hstands : m.StandsFor value c)
    (hcalls : c.Calls calls) :
    m.wrappedImport? bs = none ↔ ¬ ∃ x ∈ calls.flatMap Tree.arguments, NamesOne bs x := by
  rw [wrappedImport?, exportedCall?_eq_some_iff.mpr ⟨value, hvalue, hstands⟩, Option.bind_eq_bind,
    Option.bind_some, hcalls.callNames_eq, findSome?_identifiers_eq_none_iff]

/-- What a module wraps is the first binding of the first argument that names one, among the
arguments of the call that the default export stands for, then of the call that is its function, and
so on.  Nothing is wrapped exactly if no value is exported, if it stands for nothing, or if no
argument names a binding. -/
theorem wrappedImport?_listing (m : Module) (bs : List Binding) :
    (∀ b, m.wrappedImport? bs = some b ↔
      ∃ value c calls x, m.Exports value ∧ m.StandsFor value c ∧ c.Calls calls ∧
        First (NamesOne bs) (calls.flatMap Tree.arguments) x ∧ First (·.name = x.text) bs b) ∧
    (m.wrappedImport? bs = none ↔
      (¬ ∃ value, m.Exports value) ∨
      (∃ value, m.Exports value ∧ ¬ ∃ c, m.StandsFor value c) ∨
      ∃ value c calls, m.Exports value ∧ m.StandsFor value c ∧ c.Calls calls ∧
        ¬ ∃ x ∈ calls.flatMap Tree.arguments, NamesOne bs x) := by
  refine ⟨fun b => wrappedImport?_eq_some_iff, ?_⟩
  constructor
  · intro hnone
    by_cases hexports : ∃ value, m.Exports value
    · obtain ⟨value, hvalue⟩ := hexports
      by_cases hstands : ∃ c, m.StandsFor value c
      · obtain ⟨c, hstands⟩ := hstands
        obtain ⟨calls, hcalls⟩ := c.exists_calls
        have hargument := (wrappedImport?_eq_none_of_call hvalue hstands hcalls).mp hnone
        exact .inr (.inr ⟨value, c, calls, hvalue, hstands, hcalls, hargument⟩)
      · exact .inr (.inl ⟨value, hvalue, hstands⟩)
    · exact .inl hexports
  · rintro (hexports | ⟨value, hvalue, hstands⟩ | ⟨value, c, calls, hvalue, hstands, hcalls, hnone⟩)
    · refine Option.eq_none_iff_forall_ne_some.mpr ?_
      intro b hb
      obtain ⟨value, -, -, -, hvalue, -⟩ := wrappedImport?_eq_some_iff.mp hb
      exact hexports ⟨value, hvalue⟩
    · refine Option.eq_none_iff_forall_ne_some.mpr ?_
      intro b hb
      obtain ⟨value', c, -, -, hvalue', hstands', -⟩ := wrappedImport?_eq_some_iff.mp hb
      rw [Exports.unique hvalue' hvalue] at hstands'
      exact hstands ⟨c, hstands'⟩
    · exact (wrappedImport?_eq_none_of_call hvalue hstands hcalls).mpr hnone

end Module

end JsxOutline
