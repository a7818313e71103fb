import JsxOutline.Module.Imports
import JsxOutline.Proofs.Growth

/-!
# Imports and stylesheets

Each name in an import statement stands in the listing of the tree.  Main statement: the imports of
a module are the names in this listing, in its order, without those whose specifier ends like a
stylesheet; these are the stylesheets alone if no such ending stands without its dot.
-/

namespace JsxOutline

/-! ### Lineages -/

namespace Tree

mutual

/-- A tree and all trees in it, in the order of the listing, each before the trees that it lies in,
the nearest first. -/
def lineages (above : List Tree) : Tree → List (List Tree)
  | node l cs => (node l cs :: above) :: lineagesAll (node l cs :: above) cs

def lineagesAll (above : List Tree) : List Tree → List (List Tree)
  | [] => []
  | t :: ts => lineages above t ++ lineagesAll above ts

end

theorem lineagesAll_eq_flatMap (above ts : List Tree) :
    lineagesAll above ts = ts.flatMap (lineages above) := by
  induction ts with
  | nil => rfl
  | cons t ts ih => simp [lineagesAll, ih]

theorem lineages_eq (above : List Tree) (t : Tree) :
    lineages above t = (t :: above) :: t.children.flatMap (lineages (t :: above)) := by
  cases t with
  | node l cs => simp [lineages, children, lineagesAll_eq_flatMap]

mutual

theorem length_lt_of_mem_lineages {above lineage : List Tree} :
    ∀ {t : Tree}, lineage ∈ lineages above t → above.length < lineage.length
  | node l cs, h => by
    rcases List.mem_cons.mp h with rfl | h
    · simp
    · exact Nat.lt_of_succ_lt (length_lt_of_mem_lineagesAll h)

theorem length_lt_of_mem_lineagesAll {above lineage : List Tree} :
    ∀ {ts : List Tree}, lineage ∈ lineagesAll above ts → above.length < lineage.length
  | t :: ts, h => by
    rcases List.mem_append.mp h with h | h
    · exact length_lt_of_mem_lineages h
    · exact length_lt_of_mem_lineagesAll h

end

theorem filterMap_lineages {α : Type} (f : List Tree → Option α) (above : List Tree) (t : Tree) :
    (t.lineages above).filterMap f =
      (f (t :: above)).toList ++ t.children.flatMap fun c => (c.lineages (t :: above)).filterMap f := by
  rw [lineages_eq, List.filterMap_cons, List.filterMap_flatMap]
  cases f (t :: above) <;> rfl

theorem filterMap_lineages_of_length {α : Type} {f : List Tree → Option α} {above : List Tree}
    {length : Nat} (hf : ∀ lineage, length < lineage.length → f lineage = none)
    (h : length ≤ above.length) (t : Tree) : (t.lineages above).filterMap f = [] := by
  refine List.filterMap_eq_nil_iff.mpr ?_
  intro lineage hlineage
  exact hf lineage (Nat.lt_of_le_of_lt h (length_lt_of_mem_lineages hlineage))

end Tree

/-! ### Names in import statements -/

namespace Tree

def isNamed (kind : String) (t : Tree) : Bool := t.label.named && t.kind == kind

theorem flatMap_filter {α : Type} (ts : List Tree) (p : Tree → Bool) (f : Tree → List α) :
    (ts.filter p).flatMap f = ts.flatMap fun t => if p t then f t else [] := by
  induction ts with
  | nil => rfl
  | cons t ts ih => by_cases h : p t <;> simp [h, ih]

theorem namedOf_eq (t : Tree) (kind : String) : t.namedOf kind = t.children.filter (isNamed kind) := by
  rw [namedOf, named, List.filter_filter]
  refine List.filter_congr ?_
  intro c _
  exact Bool.and_comm _ _

end Tree

namespace Module

def localName (specifier : Tree) : String :=
  match specifier.field? "alias" with
  | some other => Tree.value (some other)
  | none => Tree.value (specifier.field? "name")

theorem localName_eq (specifier : Tree) :
    localName specifier = Tree.value (specifier.fieldOr "alias" "name") := by
  cases h : specifier.field? "alias" <;> simp [localName, Tree.fieldOr, h]

/-- What a tree binds by itself: a default name, a name for all, or a listed name. -/
def importAt? : List Tree → Option Binding
  | [name, clause, statement, _] =>
    if statement.isNamed "import_statement" ∧ clause.isNamed "import_clause" ∧
        name.isNamed "identifier" then
      some ⟨name.text, Tree.value (statement.field? "source")⟩
    else none
  | [name, part, clause, statement, _] =>
    if statement.isNamed "import_statement" ∧ clause.isNamed "import_clause" then
      if part.isNamed "namespace_import" ∧ name.isNamed "identifier" then
        some ⟨name.text, Tree.value (statement.field? "source")⟩
      else if part.isNamed "named_imports" ∧ name.isNamed "import_specifier" then
        some ⟨localName name, Tree.value (statement.field? "source")⟩
      else none
    else none
  | _ => none

/-- The names in the import statements of a module, in the order of the listing. -/
def importListing (m : Module) : List Binding := (m.root.lineages []).filterMap importAt?

theorem importAt?_of_length (lineage : List Tree) (h : 5 < lineage.length) :
    importAt? lineage = none := by
  match lineage, h with
  | _ :: _ :: _ :: _ :: _ :: _ :: _, _ => rfl

/-- The names in a tree that lies in others. -/
def importsIn (above : List Tree) (t : Tree) : List Binding :=
  (t.lineages above).filterMap importAt?

theorem importsIn_eq (above : List Tree) (t : Tree) :
    importsIn above t =
      (importAt? (t :: above)).toList ++ t.children.flatMap fun c => importsIn (t :: above) c :=
  Tree.filterMap_lineages _ above t

theorem importsIn_of_length {above : List Tree} (h : 5 ≤ above.length) (t : Tree) :
    importsIn above t = [] :=
  Tree.filterMap_lineages_of_length importAt?_of_length h t

/-! ### Statement, clause, part and name -/

/-- All names of an import statement. -/
def statementBindings (statement : Tree) : List Binding :=
  (statement.namedOf "import_clause").flatMap
    (clauseBindings (Tree.value (statement.field? "source")))

-- a name has at most four trees above it, so nothing below one counts
theorem importsIn_name (name part clause statement root : Tree) :
    importsIn [part, clause, statement, root] name =
      (importAt? [name, part, clause, statement, root]).toList := by
  have hbelow : name.children.flatMap (importsIn [name, part, clause, statement, root]) = [] :=
    List.flatMap_eq_nil_iff.mpr fun t _ => importsIn_of_length (by simp) t
  rw [importsIn_eq, hbelow, List.append_nil]

theorem map_namedOf (t : Tree) (kind : String) (f : Tree → Binding) :
    (t.namedOf kind).map f = t.children.flatMap fun c => if c.isNamed kind then [f c] else [] := by
  rw [Tree.namedOf_eq, List.map_eq_flatMap, Tree.flatMap_filter]

theorem partBindings_eq (source : String) (part : Tree) :
    partBindings source part =
      (if part.kind = "identifier" then [⟨part.text, source⟩] else []) ++
        part.children.flatMap fun name =>
          if part.kind = "namespace_import" ∧ name.isNamed "identifier" then [⟨name.text, source⟩]
          else if part.kind = "named_imports" ∧ name.isNamed "import_specifier" then
            [⟨localName name, source⟩]
          else [] := by
  unfold partBindings
  split
  · next hkind => simp [hkind]
  · next hkind => simp [hkind, map_namedOf]
  · next hkind => simp [hkind, map_namedOf, localName_eq]
  · next hidentifier hnamespace hlisted =>
    have hother : part.kind ≠ "identifier" ∧ part.kind ≠ "namespace_import" ∧
        part.kind ≠ "named_imports" := ⟨hidentifier, hnamespace, hlisted⟩
    simp [hother]

theorem importsIn_part (part clause statement root : Tree) :
    importsIn [clause, statement, root] part =
      if (statement.isNamed "import_statement" ∧ clause.isNamed "import_clause") ∧
          part.label.named then
        partBindings (Tree.value (statement.field? "source")) part
      else [] := by
  rw [importsIn_eq, partBindings_eq]
  simp only [importsIn_name, importAt?]
  by_cases hclause : statement.isNamed "import_statement" ∧ clause.isNamed "import_clause"
  · have hkind : ∀ kind, part.isNamed kind = (part.label.named && part.kind == kind) := fun _ => rfl
    by_cases hnamed : part.label.named = true
    · simp [hclause, hkind, hnamed, apply_ite Option.toList]
    · simp [hkind, hnamed]
  · simp [← and_assoc, hclause]

theorem importsIn_clause (clause statement root : Tree) :
    importsIn [statement, root] clause =
      if statement.isNamed "import_statement" ∧ clause.isNamed "import_clause" then
        clauseBindings (Tree.value (statement.field? "source")) clause
      else [] := by
  rw [importsIn_eq, clauseBindings, Tree.named, Tree.flatMap_filter]
  simp only [importsIn_part]
  by_cases hclause : statement.isNamed "import_statement" ∧ clause.isNamed "import_clause"
  · simp [hclause, importAt?]
  · have hnone : importAt? [clause, statement, root] = none := rfl
    simp [hclause, hnone]

theorem importsIn_statement (statement root : Tree) :
    importsIn [root] statement =
      if statement.isNamed "import_statement" then statementBindings statement else [] := by
  rw [importsIn_eq, statementBindings, Tree.namedOf_eq, Tree.flatMap_filter]
  simp only [importsIn_clause]
  by_cases hstatement : statement.isNamed "import_statement" <;> simp [hstatement, importAt?]

theorem statementsOf_eq (m : Module) {kind : String} (h : kind ≠ "comment") :
    m.statementsOf kind = m.root.namedOf kind := by
  rw [statementsOf, statements, List.filter_filter, Tree.namedOf]
  refine List.filter_congr ?_
  intro t _
  by_cases hkind : t.kind = kind
  · simp [hkind, h]
  · simp [hkind]

theorem importListing_eq (m : Module) :
    m.importListing = (m.statementsOf "import_statement").flatMap statementBindings := by
  have hlisting : m.importListing = importsIn [] m.root := rfl
  rw [hlisting, importsIn_eq, m.statementsOf_eq (by decide), Tree.namedOf_eq, Tree.flatMap_filter]
  simp only [importsIn_statement]
  rfl

end Module

/-! ### Stylesheets -/

namespace Specifier

/-- The last part of a specifier ends in a text, in letters of either case. -/
def EndsIn (specifier ending : String) : Prop :=
  ending.toList <:+ (Path.base specifier).toList.map Char.toLower

instance : DecidableRel EndsIn := fun _ _ => inferInstanceAs (Decidable (_ <:+ _))

def IsStylesheet (specifier : String) : Prop :=
  ∃ ending ∈ styleEndings, EndsIn specifier ("." ++ ending)

instance : DecidablePred IsStylesheet := fun _ => inferInstanceAs (Decidable (∃ _ ∈ styleEndings, _))

theorem toLower_ne_slash {c : Char} (h : c ≠ '/') : c.toLower ≠ '/' := by
  unfold Char.toLower
  split
  · next hrange =>
    intro heq
    have hlow : 65 ≤ c.val.toNat := hrange.1
    have hhigh : c.val.toNat ≤ 90 := hrange.2
    have hsum : (c.val.toNat + 32) % 2 ^ 32 = 47 := congrArg (fun d : Char => d.val.toNat) heq
    omega
  · exact h

theorem map_toLower_base (specifier : String) :
    (Path.base specifier).toList.map Char.toLower =
      ((specifier.toList.map Char.toLower).reverse.takeWhile (· != '/')).reverse := by
  have hslash : (· != '/') ∘ Char.toLower = (· != '/') := by
    funext c
    by_cases hc : c = '/'
    · subst hc
      rfl
    · have hlower := toLower_ne_slash hc
      simp only [Function.comp_apply, bne_iff_ne.mpr hc, bne_iff_ne.mpr hlower]
  rw [Path.base, String.toList_ofList, ← List.map_reverse, List.takeWhile_map, hslash,
    List.map_reverse]

/-- No slash stands in an ending, so it does not matter whether the whole specifier or its last part
has it. -/
theorem endsIn_iff {specifier ending : String} (h : '/' ∉ ending.toList) :
    EndsIn specifier ending ↔ ending.toList <:+ specifier.toList.map Char.toLower := by
  rw [EndsIn, map_toLower_base]
  constructor
  · intro hends
    refine hends.trans (List.reverse_prefix.mp ?_)
    simpa using List.takeWhile_prefix _
  · intro hends
    obtain ⟨front, hfront⟩ := hends
    have hnone : ∀ c ∈ ending.toList.reverse, (c != '/') = true := by
      intro c hc
      refine bne_iff_ne.mpr ?_
      rintro rfl
      exact h (List.mem_reverse.mp hc)
    rw [← hfront, List.reverse_append, List.takeWhile_append_of_pos hnone, List.reverse_append,
      List.reverse_reverse]
    exact List.suffix_append _ _

theorem isStyle_iff {specifier : String} :
    isStyle specifier = true ↔ ∃ ending ∈ styleEndings, EndsIn specifier ending := by
  have hslash : ∀ ending ∈ styleEndings, '/' ∉ ending.toList := by decide
  simp only [isStyle, List.any_eq_true, List.isSuffixOf_iff_suffix]
  refine exists_congr fun ending => and_congr_right fun hending => ?_
  exact (endsIn_iff (hslash ending hending)).symm

theorem IsStylesheet.isStyle {specifier : String} (h : IsStylesheet specifier) :
    isStyle specifier = true := by
  obtain ⟨ending, hending, hsuffix⟩ := h
  have hshorter : ending.toList <:+ ("." ++ ending).toList := by simp
  exact isStyle_iff.mpr ⟨ending, hending, hshorter.trans hsuffix⟩

end Specifier

namespace Module

theorem source_of_mem_partBindings {source : String} {part : Tree} {b : Binding}
    (h : b ∈ partBindings source part) : b.source = source := by
  unfold partBindings at h
  split at h
  · rw [List.mem_singleton.mp h]
  · obtain ⟨name, -, rfl⟩ := List.mem_map.mp h
    rfl
  · obtain ⟨name, -, rfl⟩ := List.mem_map.mp h
    rfl
  · cases h

theorem source_of_mem_statementBindings {statement : Tree} {b : Binding}
    (h : b ∈ statementBindings statement) : b.source = Tree.value (statement.field? "source") := by
  obtain ⟨clause, -, h⟩ := List.mem_flatMap.mp h
  obtain ⟨part, -, h⟩ := List.mem_flatMap.mp h
  exact source_of_mem_partBindings h

theorem importBindings_eq_filter (statement : Tree) :
    importBindings statement =
      (statementBindings statement).filter fun b => !Specifier.isStyle b.source := by
  have hsame : ∀ b ∈ statementBindings statement,
      (!Specifier.isStyle b.source) = !Specifier.isStyle (Tree.value (statement.field? "source")) :=
    fun b hb => by rw [source_of_mem_statementBindings hb]
  rw [List.filter_congr hsame, importBindings, statementBindings]
  cases Specifier.isStyle (Tree.value (statement.field? "source")) with
  | true => simp
  | false => exact (List.filter_eq_self.mpr fun _ _ => rfl).symm

theorem imports_eq_filter (m : Module) :
    m.imports = m.importListing.filter fun b => !Specifier.isStyle b.source := by
  rw [imports, importListing_eq, List.filter_flatMap, funext importBindings_eq_filter]

/-- The imports of a module are the names in its import statements without those whose specifier ends
like a stylesheet, with a dot or not.  So nothing but stylesheets is left out exactly if there is
always a dot. -/
theorem imports_eq_listing (m : Module) :
    m.imports = m.importListing.filter (fun b =>
        ∀ ending ∈ Specifier.styleEndings, ¬ Specifier.EndsIn b.source ending) ∧
      (m.imports = m.importListing.filter (fun b => ¬ Specifier.IsStylesheet b.source) ↔
        ∀ b ∈ m.importListing, ∀ ending ∈ Specifier.styleEndings,
          Specifier.EndsIn b.source ending → Specifier.IsStylesheet b.source) := by
  have himports := m.imports_eq_filter
  constructor
  · rw [himports]
    refine List.filter_congr ?_
    intro b _
    rw [Bool.eq_iff_iff]
    simp [← Bool.not_eq_true, Specifier.isStyle_iff]
  constructor
  · intro hsame b hb ending hending hends
    have hstyle := Specifier.isStyle_iff.mpr ⟨ending, hending, hends⟩
    by_contra hnot
    have hkept : b ∈ m.imports := hsame ▸ List.mem_filter.mpr ⟨hb, by simpa using hnot⟩
    simp [himports, hstyle] at hkept
  · intro hdots
    rw [himports]
    refine List.filter_congr ?_
    intro b hb
    have hiff : Specifier.isStyle b.source = true ↔ Specifier.IsStylesheet b.source := by
      refine ⟨?_, Specifier.IsStylesheet.isStyle⟩
      intro hstyle
      obtain ⟨ending, hending, hends⟩ := Specifier.isStyle_iff.mp hstyle
      exact hdots b hb ending hending hends
    rw [Bool.eq_iff_iff]
    simp [← Bool.not_eq_true, hiff]

/-- A component whose name ends like that of a stylesheet is lost. -/
theorem not_imports_useless :
    ¬ Specifier.IsStylesheet "./useless" ∧
      importListing ⟨"A.js", Project.wrapperTree "./useless"⟩ = [⟨"A", "./useless"⟩] ∧
      imports ⟨"A.js", Project.wrapperTree "./useless"⟩ = [] := by
  decide +kernel

end Module

end JsxOutline
