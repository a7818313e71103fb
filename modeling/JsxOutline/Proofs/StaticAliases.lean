import JsxOutline.Alias.Source
import JsxOutline.Proofs.NestedPaths
import JsxOutline.Proofs.Reexports
import JsxOutline.Proofs.WrappedImports

/-!
# Aliases in modules

A module is a configuration if it holds an object under the key `alias`.  Entries whose value is a
text, or a call that joins texts and the directory of the configuration, give an alias each; the
last one of a key counts.  Main statement: what a call stands for is the normal path of its
arguments from the last one on that is written from the root, and this is the normal path of all of
them exactly if what is left out does not matter.
-/

namespace JsxOutline

/-! ### Tables of entries -/

theorem Table.get?_ofEntries_concat {α : Type} (entries : List (String × α)) (e : String × α)
    (key : String) : (ofEntries (entries ++ [e])).get? key =
      if e.1 = key then some e.2 else (ofEntries entries).get? key := by
  rw [ofEntries_concat, get?_put]

/-! ### Values that say what they stand for -/

namespace Tree

/-- A text without anything to be filled in. -/
def IsPlainText (t : Tree) : Prop :=
  (t.kind = "string" ∨ t.kind = "template_string") ∧ t.namedOf "template_substitution" = []

/-- A part of a path: a text, or the directory of the configuration. -/
def IsPathPart (t : Tree) : Prop :=
  t.kind = "string" ∨ t.kind = "identifier" ∧ t.text = "__dirname"

/-- A call of a function with parts of a path, at least one, and nothing else. -/
def IsPathCall (function : String) (t : Tree) : Prop :=
  t.kind = "call_expression" ∧ textOf (t.field? "function") = function ∧ t.arguments ≠ [] ∧
    ∀ argument ∈ t.arguments, argument.IsPathPart

/-- A value that says what it stands for. -/
def IsStatic (t : Tree) : Prop :=
  t.IsPlainText ∨ ∃ function ∈ AliasTable.joiners, t.IsPathCall function

instance : DecidablePred IsPlainText := fun _ => inferInstanceAs (Decidable (_ ∧ _))

instance : DecidablePred IsPathPart := fun _ => inferInstanceAs (Decidable (_ ∨ _))

instance (function : String) : DecidablePred (IsPathCall function) :=
  fun _ => inferInstanceAs (Decidable (_ ∧ _))

instance : DecidablePred IsStatic := fun _ => inferInstanceAs (Decidable (_ ∨ _))

/-- The path that a part stands for, in a directory. -/
def pathPart (dir : String) (t : Tree) : String :=
  if t.kind = "string" then value (some t) else dir

/-- What the arguments of a call stand for, in a directory. -/
def pathParts (dir : String) (call : Tree) : List String := call.arguments.map (pathPart dir)

end Tree

namespace AliasTable

open JsxOutline.Path (nest standing LosesNothing)

theorem pathPart?_eq (dir : String) (t : Tree) :
    pathPart? dir t = if t.IsPathPart then some (t.pathPart dir) else none := by
  unfold pathPart? Tree.IsPathPart Tree.pathPart
  by_cases hstring : t.kind = "string" <;> simp [hstring]

theorem mapM_pathPart? (dir : String) (ts : List Tree) :
    ts.mapM (pathPart? dir) =
      if ∀ t ∈ ts, t.IsPathPart then some (ts.map (Tree.pathPart dir)) else none := by
  induction ts with
  | nil => rfl
  | cons t ts ih =>
    rw [List.mapM_cons, ih, pathPart?_eq]
    by_cases ht : t.IsPathPart
    · by_cases hts : ∀ u ∈ ts, u.IsPathPart
      · have hall : ∀ u ∈ t :: ts, u.IsPathPart := List.forall_mem_cons.mpr ⟨ht, hts⟩
        rw [if_pos ht, if_pos hts, if_pos hall]
        rfl
      · have hnot : ¬ ∀ u ∈ t :: ts, u.IsPathPart := fun h => hts (List.forall_mem_cons.mp h).2
        rw [if_pos ht, if_neg hts, if_neg hnot]
        rfl
    · have hnot : ¬ ∀ u ∈ t :: ts, u.IsPathPart := fun h => ht (List.forall_mem_cons.mp h).1
      rw [if_neg ht, if_neg hnot]
      rfl

/-- What a value stands for, in a directory. -/
inductive Denotes (dir : String) (t : Tree) : String → Prop
  | text : t.IsPlainText → Denotes dir t (Tree.value (some t))
  | call {function : String} : function ∈ joiners → t.IsPathCall function →
      Denotes dir t (nest (standing (t.pathParts dir)))

theorem staticPath?_of_text {dir : String} {t : Tree}
    (h : t.kind = "string" ∨ t.kind = "template_string") :
    staticPath? dir t =
      if (t.namedOf "template_substitution").isEmpty then some (Tree.value (some t)) else none := by
  unfold staticPath?
  rcases h with h | h <;> rw [h] <;> rfl

theorem staticPath?_of_call {dir : String} {t : Tree} (h : t.kind = "call_expression") :
    staticPath? dir t =
      if Tree.textOf (t.field? "function") ∈ joiners ∧ t.arguments ≠ [] ∧
          ∀ argument ∈ t.arguments, argument.IsPathPart then
        some (nest (standing (t.pathParts dir)))
      else none := by
  have hcontains : joiners.contains (Tree.textOf (t.field? "function")) =
      decide (Tree.textOf (t.field? "function") ∈ joiners) := List.elem_eq_mem ..
  unfold staticPath? Tree.arguments Tree.pathParts Tree.arguments
  rw [h, hcontains]
  by_cases hfunction : Tree.textOf (t.field? "function") ∈ joiners
  · cases hlist : t.field? "arguments" with
    | none => simp [hfunction]
    | some list =>
      by_cases hparts : ∀ argument ∈ list.named, argument.IsPathPart
      · cases hnamed : list.named with
        | nil => simp [hfunction, hnamed]
        | cons argument rest =>
          have hmap := mapM_pathPart? dir list.named
          rw [if_pos hparts, hnamed] at hmap
          rw [hnamed, List.forall_mem_cons] at hparts
          simpa [hfunction, hmap, hnamed, hparts.1, Path.normalize_joinAll] using hparts.2
      · have hmap := mapM_pathPart? dir list.named
        rw [if_neg hparts] at hmap
        simp [hfunction, hmap, hparts]
  · simp [hfunction]

theorem staticPath?_of_other {dir : String} {t : Tree}
    (htext : ¬ (t.kind = "string" ∨ t.kind = "template_string")) (hcall : t.kind ≠ "call_expression") :
    staticPath? dir t = none := by
  rw [not_or] at htext
  unfold staticPath?
  split
  · exact absurd ‹_› htext.1
  · exact absurd ‹_› htext.2
  · contradiction
  · rfl

theorem staticPath?_eq_some_iff {dir path : String} {t : Tree} :
    staticPath? dir t = some path ↔ Denotes dir t path := by
  constructor
  · intro h
    by_cases htext : t.kind = "string" ∨ t.kind = "template_string"
    · rw [staticPath?_of_text htext, Option.ite_none_right_eq_some] at h
      obtain ⟨hplain, h⟩ := h
      cases h
      exact .text ⟨htext, List.isEmpty_iff.mp hplain⟩
    by_cases hcall : t.kind = "call_expression"
    · rw [staticPath?_of_call hcall, Option.ite_none_right_eq_some] at h
      obtain ⟨⟨hfunction, harguments⟩, h⟩ := h
      cases h
      exact .call hfunction ⟨hcall, rfl, harguments⟩
    · rw [staticPath?_of_other htext hcall] at h
      cases h
  · intro h
    cases h with
    | text h => rw [staticPath?_of_text h.1, if_pos (List.isEmpty_iff.mpr h.2)]
    | call hfunction h =>
      obtain ⟨hcall, rfl, harguments⟩ := h
      rw [staticPath?_of_call hcall, if_pos ⟨hfunction, harguments⟩]

theorem isStatic_iff (dir : String) (t : Tree) : t.IsStatic ↔ ∃ path, Denotes dir t path := by
  constructor
  · rintro (htext | ⟨function, hfunction, hcall⟩)
    · exact ⟨_, .text htext⟩
    · exact ⟨_, .call hfunction hcall⟩
  · rintro ⟨path, htext | ⟨hfunction, hcall⟩⟩
    · exact .inl htext
    · exact .inr ⟨_, hfunction, hcall⟩

/-! ### Entries -/

/-- An entry whose value says what it stands for. -/
def IsStaticEntry (e : Tree) : Prop := ∃ t ∈ e.field? "value", t.IsStatic

instance : DecidablePred IsStaticEntry := fun e =>
  inferInstanceAs (Decidable (∃ t ∈ e.field? "value", t.IsStatic))

/-- An entry gives a key such a value. -/
def Assigns (key : String) (e : Tree) : Prop := Tree.value (e.field? "key") = key ∧ IsStaticEntry e

/-- The value that an object gives a key: that of the last entry which gives it one. -/
def Gives (object : Tree) (key : String) (t : Tree) : Prop :=
  ∃ e, Last (Assigns key) (object.namedOf "pair") e ∧ e.field? "value" = some t

theorem namedPath?_eq_some_iff {dir : String} {e : Tree} {entry : String × String} :
    namedPath? dir e = some entry ↔
      Tree.value (e.field? "key") = entry.1 ∧ ∃ t ∈ e.field? "value", Denotes dir t entry.2 := by
  obtain ⟨key, path⟩ := entry
  simp only [namedPath?, Option.bind_eq_bind, Option.bind_eq_some_iff, staticPath?_eq_some_iff,
    Option.pure_def, Option.some.injEq, Prod.mk.injEq, Option.mem_def]
  constructor
  · rintro ⟨t, ht, path, hpath, rfl, rfl⟩
    exact ⟨rfl, t, ht, hpath⟩
  · rintro ⟨rfl, t, ht, hpath⟩
    exact ⟨t, ht, path, hpath, rfl, rfl⟩

theorem namedPath?_eq_none_iff {dir : String} {e : Tree} :
    namedPath? dir e = none ↔ ¬ IsStaticEntry e := by
  rw [Option.eq_none_iff_forall_ne_some]
  simp only [ne_eq, namedPath?_eq_some_iff, IsStaticEntry, isStatic_iff dir]
  constructor
  · rintro h ⟨t, ht, path, hpath⟩
    exact h (_, path) ⟨rfl, t, ht, hpath⟩
  · rintro h ⟨key, path⟩ ⟨-, t, ht, hpath⟩
    exact h ⟨t, ht, path, hpath⟩

/-- A key stands for what the last entry that gives it a value says. -/
theorem get?_ofEntries_eq_some_iff {dir key path : String} {es : List Tree} :
    (Table.ofEntries (es.filterMap (namedPath? dir))).get? key = some path ↔
      ∃ e, Last (Assigns key) es e ∧ ∃ t ∈ e.field? "value", Denotes dir t path := by
  induction es using List.reverseRecOn with
  | nil => simp [Table.ofEntries, not_last_nil]
  | append_singleton es e ih =>
    simp only [last_concat_iff]
    rw [List.filterMap_append]
    cases he : namedPath? dir e with
    | none =>
      have hnot : ¬ Assigns key e := fun h => namedPath?_eq_none_iff.mp he h.2
      simp [he, ih, hnot]
    | some entry =>
      obtain ⟨hkey, t, ht, hpath⟩ := namedPath?_eq_some_iff.mp he
      rw [List.filterMap_cons_some he, List.filterMap_nil, Table.get?_ofEntries_concat]
      by_cases hentry : entry.1 = key
      · have hassigns : Assigns key e :=
          ⟨hkey.trans hentry, t, ht, (isStatic_iff dir t).mpr ⟨_, hpath⟩⟩
        have hvalue : entry.2 = path ↔ ∃ t ∈ e.field? "value", Denotes dir t path := by
          constructor
          · rintro rfl
            exact ⟨t, ht, hpath⟩
          · intro h
            have hsome : namedPath? dir e = some (entry.1, path) :=
              namedPath?_eq_some_iff.mpr ⟨hkey, h⟩
            rw [he] at hsome
            exact congrArg Prod.snd (Option.some.inj hsome)
        simp [hentry, hassigns, hvalue]
      · have hnot : ¬ Assigns key e := fun h => hentry (hkey.symm.trans h.1)
        simp [hentry, hnot, ih]

theorem Gives.isStatic {object t : Tree} {key : String} (h : Gives object key t) : t.IsStatic := by
  obtain ⟨e, ⟨⟨-, u, hu, hstatic⟩, -⟩, ht⟩ := h
  cases Option.some.inj (hu.symm.trans ht)
  exact hstatic

/-- A key that is not repeated is given the value of its entry. -/
theorem gives_of_sole {object e t : Tree} {key : String}
    (hsole : (object.namedOf "pair").filter (fun e => Tree.value (e.field? "key") == key) = [e])
    (ht : e.field? "value" = some t) (hstatic : t.IsStatic) : Gives object key t := by
  obtain ⟨front, back, hpairs, -, hkey, hback⟩ := List.filter_eq_cons_iff.mp hsole
  refine ⟨e, ⟨⟨beq_iff_eq.mp hkey, t, ht, hstatic⟩, front, back, hpairs, ?_⟩, ht⟩
  intro other hother hassigns
  exact List.filter_eq_nil_iff.mp hback other hother (beq_iff_eq.mpr hassigns.1)

/-! ### Configurations -/

/-- A pair whose value is an object of aliases. -/
def IsAliasPair (pair : Tree) : Prop :=
  pair.kind = "pair" ∧ Tree.value (pair.field? "key") = "alias" ∧
    ∃ object ∈ pair.field? "value", object.kind = "object"

/-- The aliases of a module are those of the first such pair in it. -/
def IsAliasObject (m : Module) (object : Tree) : Prop :=
  ∃ pair, First IsAliasPair m.root.preorder pair ∧ pair.field? "value" = some object

/-- The entries of an object whose value says what it stands for. -/
def staticEntries (object : Tree) : List Tree :=
  (object.namedOf "pair").filter fun e => decide (IsStaticEntry e)

theorem aliasObject?_eq_some_iff {t object : Tree} :
    aliasObject? t = some object ↔ IsAliasPair t ∧ t.field? "value" = some object := by
  simp only [aliasObject?, Option.ite_none_right_eq_some, Option.filter_eq_some_iff, beq_iff_eq,
    IsAliasPair, and_assoc]
  constructor
  · rintro ⟨hkind, hkey, hvalue, hobject⟩
    exact ⟨hkind, hkey, ⟨object, hvalue, hobject⟩, hvalue⟩
  · rintro ⟨hkind, hkey, ⟨found, hfound, hobject⟩, hvalue⟩
    cases Option.some.inj (hfound.symm.trans hvalue)
    exact ⟨hkind, hkey, hvalue, hobject⟩

theorem isSome_aliasObject? : (fun t => (aliasObject? t).isSome = true) = IsAliasPair := by
  funext t
  simp only [Option.isSome_iff_exists, aliasObject?_eq_some_iff, exists_and_left, eq_iff_iff]
  constructor
  · exact fun h => h.1
  · intro h
    obtain ⟨object, hobject, -⟩ := h.2.2
    exact ⟨h, object, hobject⟩

theorem findSome?_aliasObject? {m : Module} {object : Tree} :
    m.root.walk.findSome? aliasObject? = some object ↔ IsAliasObject m object := by
  rw [Tree.walk_eq_preorder, findSome?_eq_some_iff_first, isSome_aliasObject?]
  constructor
  · rintro ⟨pair, hfirst, hpair⟩
    exact ⟨pair, hfirst, (aliasObject?_eq_some_iff.mp hpair).2⟩
  · rintro ⟨pair, hfirst, hvalue⟩
    exact ⟨pair, hfirst, aliasObject?_eq_some_iff.mpr ⟨hfirst.1, hvalue⟩⟩

theorem ofModule_eq {dir : String} {m : Module} {object : Tree} (h : IsAliasObject m object) :
    ofModule dir m = Table.ofEntries ((object.namedOf "pair").filterMap (namedPath? dir)) := by
  rw [ofModule, findSome?_aliasObject?.mpr h]

theorem filterMap_staticEntries (dir : String) (object : Tree) :
    (staticEntries object).filterMap (namedPath? dir) =
      (object.namedOf "pair").filterMap (namedPath? dir) := by
  rw [staticEntries, List.filterMap_filter]
  apply List.filterMap_congr
  intro e _
  by_cases he : IsStaticEntry e
  · simp [he]
  · simp [he, namedPath?_eq_none_iff.mpr he]

theorem get?_ofModule {dir key path : String} {m : Module} {object : Tree}
    (h : IsAliasObject m object) :
    (ofModule dir m).get? key = some path ↔ ∃ t, Gives object key t ∧ Denotes dir t path := by
  rw [ofModule_eq h, get?_ofEntries_eq_some_iff]
  constructor
  · rintro ⟨e, hlast, t, ht, hpath⟩
    exact ⟨t, ⟨e, hlast, ht⟩, hpath⟩
  · rintro ⟨t, ⟨e, hlast, ht⟩, hpath⟩
    exact ⟨e, hlast, t, ht, hpath⟩

/-- What a table says about an object of aliases in a directory. -/
structure ReadsObject (dir : String) (object : Tree) (table : Table String) : Prop where
  /-- Keys are those that are given a value that says what it stands for. -/
  keys : ∀ key, (table.get? key).isSome ↔ ∃ t, Gives object key t
  /-- Entries with other values do not matter. -/
  others : ∀ m other, IsAliasObject m other → staticEntries other = staticEntries object →
    ofModule dir m = table
  /-- Texts stand for themselves. -/
  text : ∀ key t, Gives object key t → t.IsPlainText →
    table.get? key = some (Tree.value (some t))
  /-- What is resolved are the parts from the last one on that is written from the root. -/
  resolve : ∀ key call, Gives object key call → call.IsPathCall "path.resolve" →
    table.get? key = some (nest (standing (call.pathParts dir)))
  /-- What is joined are all parts exactly if nothing is lost with those before this one. -/
  join : ∀ key call, Gives object key call → call.IsPathCall "path.join" →
    (table.get? key = some (nest (call.pathParts dir)) ↔ LosesNothing (call.pathParts dir))
  /-- All parts are the path with slashes between them, if the first one has more than slashes. -/
  joinText : ∀ key call first rest, Gives object key call → call.IsPathCall "path.join" →
    call.pathParts dir = first :: rest → (∃ c ∈ first.toList, c ≠ '/') →
    (table.get? key = some (Path.normalize ("/".intercalate (first :: rest))) ↔
      LosesNothing (first :: rest))

theorem readsObject_ofModule {dir : String} {m : Module} {object : Tree}
    (h : IsAliasObject m object) : ReadsObject dir object (ofModule dir m) := by
  have hcall : ∀ key call function, function ∈ joiners → Gives object key call →
      call.IsPathCall function →
      (ofModule dir m).get? key = some (nest (standing (call.pathParts dir))) := by
    intro key call function hfunction hgives hcall
    exact (get?_ofModule h).mpr ⟨call, hgives, .call hfunction hcall⟩
  constructor
  case keys =>
    intro key
    simp only [Option.isSome_iff_exists, get?_ofModule h]
    constructor
    · rintro ⟨path, t, ht, -⟩
      exact ⟨t, ht⟩
    · rintro ⟨t, ht⟩
      obtain ⟨path, hpath⟩ := (isStatic_iff dir t).mp ht.isStatic
      exact ⟨path, t, ht, hpath⟩
  case others =>
    intro other o hother hentries
    rw [ofModule_eq h, ofModule_eq hother, ← filterMap_staticEntries, hentries,
      filterMap_staticEntries]
  case text => exact fun key t ht hplain => (get?_ofModule h).mpr ⟨t, ht, .text hplain⟩
  case resolve => exact fun key call => hcall key call _ (by decide)
  case join =>
    intro key call hgives hjoin
    rw [hcall key call _ (by decide) hgives hjoin, Option.some.injEq, Path.nest_standing_iff]
  case joinText =>
    intro key call first rest hgives hjoin hparts hfirst
    rw [hcall key call _ (by decide) hgives hjoin, Option.some.injEq, hparts,
      ← Path.nest_eq_normalize_intercalate hfirst, Path.nest_standing_iff]

theorem read_module {parser : Parser} {files : FileSystem} {path source : String} {m : Module}
    (hsource : files.readText (Path.tidy path) = .ok source)
    (hmodule : Path.extension (Path.tidy path) ∈ moduleExtensions)
    (hparsed : (Module.parse parser source (Path.tidy path)).result = .ok m) :
    (read parser files path).result = .ok (ofModule (Path.parent (Path.tidy path)) m) := by
  have hcontains : moduleExtensions.contains (Path.extension (Path.tidy path)) = true :=
    List.elem_iff.mpr hmodule
  unfold read
  simp only [hsource]
  rw [if_pos hcontains, Outcome.bind_result_eq_ok_iff]
  exact ⟨m, Outcome.mapError_result_eq_ok_iff.mpr hparsed, rfl⟩

/-- The table of a module is read from its object of aliases in the directory of the file. -/
theorem read_statically {parser : Parser} {files : FileSystem} {path source : String} {m : Module}
    {object : Tree} (hsource : files.readText (Path.tidy path) = .ok source)
    (hmodule : Path.extension (Path.tidy path) ∈ moduleExtensions)
    (hparsed : (Module.parse parser source (Path.tidy path)).result = .ok m)
    (hobject : IsAliasObject m object) :
    ∃ table, (read parser files path).result = .ok table ∧
      ReadsObject (Path.parent (Path.tidy path)) object table :=
  ⟨_, read_module hsource hmodule hparsed, readsObject_ofModule hobject⟩

/-! ### A configuration with one alias -/

def leaf (kind text : String) (fields : List String) : Tree := .node { kind, text, fields } []

def mark (text : String) : Tree := .node { kind := text, text, named := false } []

def memberTree (object property field : String) : Tree :=
  .node { kind := "member_expression", text := object ++ "." ++ property, fields := [field] }
    [leaf "identifier" object ["object"], mark ".", leaf "property_identifier" property ["property"]]

def objectTree (key : String) (value : Tree) (field : String) : Tree :=
  let pair := key ++ ":" ++ value.text
  .node { kind := "object", text := "\x7b" ++ pair ++ "\x7d", fields := [field] } [mark "\x7b",
    .node { kind := "pair", text := pair } [leaf "property_identifier" key ["key"], mark ":", value],
    mark "\x7d"]

def callTree (function argument : String) : Tree :=
  let quoted := "'" ++ argument ++ "'"
  let arguments := "(__dirname," ++ quoted ++ ")"
  .node { kind := "call_expression", text := "path." ++ function ++ arguments, fields := ["value"] }
    [memberTree "path" function "function",
     .node { kind := "arguments", text := arguments, fields := ["arguments"] }
      [mark "(", leaf "identifier" "__dirname" [], mark ",",
       .node { kind := "string", text := quoted }
        [mark "'", leaf "string_fragment" argument [], mark "'"],
       mark ")"]]

def configTree (function argument : String) : Tree :=
  let aliases := objectTree "S" (callTree function argument) "value"
  let config := objectTree "resolve" (objectTree "alias" aliases "value") "right"
  let text := "module.exports=" ++ config.text
  .node { kind := "program", text } [.node { kind := "expression_statement", text }
    [.node { kind := "assignment_expression", text }
      [memberTree "module" "exports" "left", mark "=", config]]]

def configFiles (function argument : String) : FileSystem where
  root := .directory [("p", .directory
    [("webpack.config.js", .file (Text.toBytes (configTree function argument).text))])]
  current := ["p"]

/-- What is joined below the directory of the configuration is found there. -/
theorem read_statically_below :
    ∃ table, (read (fun _ => configTree "join" "src") (configFiles "join" "src")
        "/p/webpack.config.js").result = .ok table ∧
      table.get? "S" = some "/p/src" := by
  have hsource : (configFiles "join" "src").readText (Path.tidy "/p/webpack.config.js") =
      .ok (configTree "join" "src").text := by decide +kernel
  have hmodule : Path.extension (Path.tidy "/p/webpack.config.js") ∈ moduleExtensions := by
    decide +kernel
  have hparsed : (Module.parse (fun _ => configTree "join" "src") (configTree "join" "src").text
      (Path.tidy "/p/webpack.config.js")).result =
        .ok ⟨Path.tidy "/p/webpack.config.js", configTree "join" "src"⟩ := rfl
  have hobject : IsAliasObject ⟨Path.tidy "/p/webpack.config.js", configTree "join" "src"⟩
      (objectTree "S" (callTree "join" "src") "value") := findSome?_aliasObject?.mp rfl
  have hgives : Gives (objectTree "S" (callTree "join" "src") "value") "S" (callTree "join" "src") :=
    gives_of_sole rfl rfl (by decide +kernel)
  have hpath : nest ((callTree "join" "src").pathParts
      (Path.parent (Path.tidy "/p/webpack.config.js"))) = "/p/src" := by decide +kernel
  obtain ⟨table, htable, hreads⟩ := read_statically hsource hmodule hparsed hobject
  refine ⟨table, htable, ?_⟩
  rw [← hpath]
  exact (hreads.join "S" _ hgives (by decide +kernel)).mpr (by decide +kernel)

/-- A text with a slash before it is not found below the directory that it is joined to. -/
theorem not_read_join_below :
    (callTree "join" "/src").pathParts "/p" = ["/p", "/src"] ∧
      Path.normalize ("/".intercalate ["/p", "/src"]) = "/p/src" ∧
      (read (fun _ => configTree "join" "/src") (configFiles "join" "/src")
        "/p/webpack.config.js").result = .ok [("S", "/src")] := by
  decide +kernel

end AliasTable

end JsxOutline
