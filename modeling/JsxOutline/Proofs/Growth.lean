import JsxOutline.Build
import JsxOutline.Proofs.Locating
import JsxOutline.Proofs.Occurrence
import Mathlib.Control.Monad.Basic

/-!
# Derivations of growth

All ways in which the component of a site can grow, one rule for each.  Main statements: growing
succeeds exactly when a derivation says with what, and each component of a tree that was built was
grown by a derivation of its own, whose files above are those of the components above it.
-/

namespace JsxOutline

namespace Component

/-- Whether a component has a file that is not above it and that could be parsed. -/
def isOpen (n : Component) : Bool :=
  n.info.resolved && !n.info.recursive && n.info.error.isNone

/-- The module of a component was looked into for its children. -/
def Expanded (c : Config) (n : Component) : Prop :=
  n.isOpen = true ∧ c.looksInto n.info.depth = true

instance (c : Config) : DecidablePred (Expanded c) := fun _ => inferInstanceAs (Decidable (_ ∧ _))

theorem Expanded.resolved {c : Config} {n : Component} (h : n.Expanded c) :
    n.info.resolved = true := by
  have hopen := h.1
  simp only [isOpen, Bool.and_eq_true] at hopen
  exact hopen.1.1

/-- What a component uses, as its children tell it. -/
def uses (n : Component) : List (String × Option String × Option String) :=
  n.children.map fun d => (d.info.name, d.info.source, d.info.shownSource)

end Component

/-- What a component is told by a binding in the file that uses it. -/
def Config.use (c : Config) (file : String) (b : Binding) :
    String × Option String × Option String :=
  (b.name, some b.source, some (c.guess b.source file).2)

namespace Project

variable {p : Project} {c : Config}

/-! ### Rules -/

/-- With so many levels left and below the components of some files, a site grows into something. -/
inductive Grows (p : Project) (c : Config) : Nat → List String → Site → Growth → Prop
  | unresolved {levels : Nat} {seen : List String} {s : Site} :
      (p.locateSite c s).result = .ok none →
      Grows p c levels seen s (.ofInfo { s.info s.guess with hidden := c.hideThirdParty })
  | recursive {levels : Nat} {seen : List String} {s : Site} {l : Located} :
      (p.locateSite c s).result = .ok (some l) → l.file ∈ seen →
      Grows p c levels seen s (.ofInfo { s.info l.file with resolved := true, recursive := true })
  | limit {seen : List String} {s : Site} {l : Located} :
      (p.locateSite c s).result = .ok (some l) → l.file ∉ seen → c.scanDepth.isSome = true →
      Grows p c 0 seen s (.ofInfo { s.info l.file with resolved := true })
  | unparsable {levels : Nat} {seen : List String} {s : Site} {l : Located} {fault : SyntaxFault} :
      (p.locateSite c s).result = .ok (some l) → l.file ∉ seen →
      (Module.parse p.parser l.source l.file).result = .error fault →
      Grows p c (levels + 1) seen s (.ofFault { s.info l.file with resolved := true } fault)
  | expanded {levels : Nat} {seen : List String} {s : Site} {l : Located} {m : Module}
      (uses : List (Binding × Growth)) :
      (p.locateSite c s).result = .ok (some l) → l.file ∉ seen →
      (Module.parse p.parser l.source l.file).result = .ok m →
      uses.map Prod.fst = m.childBindings.1 →
      (∀ u ∈ uses, Grows p c levels (l.file :: seen) (.ofBinding c (s.depth + 1) l.file u.1) u.2) →
      Grows p c (levels + 1) seen s
        (.ofChildren { s.info l.file with resolved := true, unwrapped := m.childBindings.2 }
          (uses.map Prod.snd))

theorem grows_of_grow {levels : Nat} {seen : List String} {s : Site} {g : Growth}
    (h : (p.grow c levels seen s).result = .ok g) : p.Grows c levels seen s g := by
  induction levels using Nat.strongRecOn generalizing seen s g with
  | ind levels ih =>
    rw [grow.eq_def] at h
    obtain ⟨located, hlocated, h⟩ := Outcome.bind_result_eq_ok_iff.mp h
    cases located with
    | none =>
      simp only [Outcome.tell_bind_result, Outcome.pure_result, Except.ok.injEq] at h
      subst h
      exact .unresolved hlocated
    | some l =>
      simp only [List.contains_iff_mem] at h
      by_cases hseen : l.file ∈ seen
      · simp only [hseen, if_true, Outcome.tell_bind_result, Outcome.pure_result,
          Except.ok.injEq] at h
        subst h
        exact .recursive hlocated hseen
      · simp only [hseen, if_false] at h
        cases levels with
        | zero =>
          by_cases hdepth : c.scanDepth.isSome = true
          · simp only [hdepth, if_true, Outcome.pure_result, Except.ok.injEq] at h
            subst h
            exact .limit hlocated hseen hdepth
          · simp only [hdepth, Bool.false_eq_true, if_false, Outcome.fail_result, reduceCtorEq] at h
        | succ levels =>
          simp only [Outcome.bind_result_eq_ok_iff, Outcome.attempt_result, Except.ok.injEq] at h
          obtain ⟨parsed, rfl, h⟩ := h
          cases hparsed : (Module.parse p.parser l.source l.file).result with
          | error fault =>
            simp only [hparsed, Outcome.tell_bind_result, Outcome.pure_result,
              Except.ok.injEq] at h
            subst h
            exact .unparsable hlocated hseen hparsed
          | ok m =>
            simp only [hparsed, Outcome.bind_result_eq_ok_iff, Outcome.pure_result,
              Except.ok.injEq] at h
            obtain ⟨gs, hgs, rfl⟩ := h
            obtain ⟨uses, hfst, rfl, huses⟩ := Outcome.mapM_result_eq_ok_iff.mp hgs
            refine .expanded uses hlocated hseen hparsed hfst ?_
            intro u hu
            exact ih levels (Nat.lt_succ_self _) (huses u hu)

theorem grow_of_grows {levels : Nat} {seen : List String} {s : Site} {g : Growth}
    (h : p.Grows c levels seen s g) : (p.grow c levels seen s).result = .ok g := by
  induction h with
  | unresolved hlocated =>
    rw [grow.eq_def, Outcome.bind_result_eq_ok_iff]
    exact ⟨none, hlocated, rfl⟩
  | recursive hlocated hseen =>
    rw [grow.eq_def, Outcome.bind_result_eq_ok_iff]
    refine ⟨_, hlocated, ?_⟩
    simp only [List.contains_iff_mem, hseen, if_true, Outcome.tell_bind_result, Outcome.pure_result]
  | limit hlocated hseen hdepth =>
    rw [grow.eq_def, Outcome.bind_result_eq_ok_iff]
    refine ⟨_, hlocated, ?_⟩
    simp only [List.contains_iff_mem, hseen, if_false, hdepth, if_true, Outcome.pure_result]
  | unparsable hlocated hseen hparsed =>
    rw [grow.eq_def, Outcome.bind_result_eq_ok_iff]
    refine ⟨_, hlocated, ?_⟩
    simp only [List.contains_iff_mem, hseen, if_false, Outcome.bind_result_eq_ok_iff,
      Outcome.attempt_result, Except.ok.injEq]
    refine ⟨_, rfl, ?_⟩
    simp only [hparsed, Outcome.tell_bind_result, Outcome.pure_result]
  | expanded uses hlocated hseen hparsed hfst _ ih =>
    rw [grow.eq_def, Outcome.bind_result_eq_ok_iff]
    refine ⟨_, hlocated, ?_⟩
    simp only [List.contains_iff_mem, hseen, if_false, Outcome.bind_result_eq_ok_iff,
      Outcome.attempt_result, Except.ok.injEq]
    refine ⟨_, rfl, ?_⟩
    simp only [hparsed, Outcome.bind_result_eq_ok_iff, Outcome.pure_result]
    exact ⟨_, Outcome.mapM_result_eq_ok_iff.mpr ⟨uses, hfst, rfl, ih⟩, rfl⟩

theorem Grows.unique {levels : Nat} {seen : List String} {s : Site} {g g' : Growth}
    (h : p.Grows c levels seen s g) (h' : p.Grows c levels seen s g') : g = g' :=
  Except.ok.inj ((grow_of_grows h).symm.trans (grow_of_grows h'))

theorem Grows.exists_located {levels : Nat} {seen : List String} {s : Site} {g : Growth}
    (h : p.Grows c levels seen s g) : ∃ found, (p.locateSite c s).result = .ok found := by
  cases h <;> exact ⟨_, by assumption⟩

/-- What a site grows into if its module is parsed. -/
theorem Grows.of_parsed {levels : Nat} {seen : List String} {s : Site} {g : Growth} {l : Located}
    {m : Module} (h : p.Grows c (levels + 1) seen s g)
    (hlocated : (p.locateSite c s).result = .ok (some l)) (hnew : l.file ∉ seen)
    (hparsed : (Module.parse p.parser l.source l.file).result = .ok m) :
    ∃ uses : List (Binding × Growth), uses.map Prod.fst = m.childBindings.1 ∧
      (∀ u ∈ uses, p.Grows c levels (l.file :: seen) (.ofBinding c (s.depth + 1) l.file u.1) u.2) ∧
      g = .ofChildren { s.info l.file with resolved := true, unwrapped := m.childBindings.2 }
        (uses.map Prod.snd) := by
  cases h with
  | unresolved hnone =>
    rw [hlocated] at hnone
    cases hnone
  | recursive hlocated' hseen =>
    rw [hlocated] at hlocated'
    cases hlocated'
    exact absurd hseen hnew
  | unparsable hlocated' _ hfault =>
    rw [hlocated] at hlocated'
    cases hlocated'
    rw [hparsed] at hfault
    cases hfault
  | expanded uses hlocated' _ hparsed' hfst huses =>
    rw [hlocated] at hlocated'
    cases hlocated'
    rw [hparsed] at hparsed'
    cases hparsed'
    exact ⟨uses, hfst, huses, rfl⟩

theorem grows_of_build {path : String} {g : Growth} (h : (p.build c path).result = .ok g) :
    p.Grows c (c.levels?.getD maxLevels) [] (.ofRoot (p.rootFile c path)) g :=
  grows_of_grow h

/-! ### Growth of each component -/

/-- The site of a component of a tree: that of the root, or that of a binding which the module in the
file of the component right above uses or wraps. -/
def SiteBelow (p : Project) (c : Config) (s : Site) : List Component → Site → Prop
  | [], t => t = s
  | parent :: _, t => parent.info.resolved = true ∧ ∃ text m b,
      p.Holds parent.info.file text ∧
      (Module.parse p.parser text parent.info.file).result = .ok m ∧ b ∈ m.childBindings.1 ∧
      t = .ofBinding c (parent.info.depth + 1) parent.info.file b

theorem locateSite_holds {s : Site} {l : Located}
    (h : (p.locateSite c s).result = .ok (some l)) : p.Holds l.file l.source :=
  locate_holds (Outcome.mapError_result_eq_ok_iff.mp h)

namespace Grows

variable {levels : Nat} {seen : List String} {s : Site} {g : Growth}

theorem info_eq (h : p.Grows c levels seen s g) :
    g.component.info.name = s.name ∧ g.component.info.depth = s.depth ∧
      g.component.info.source = s.source ∧ g.component.info.shownSource = s.shownSource := by
  cases h <;> exact ⟨rfl, rfl, rfl, rfl⟩

/-- Each component of a tree was grown by itself, below the files of the components above it. -/
theorem of_occurs (h : p.Grows c levels seen s g) {above : List Component} {n : Component}
    (hn : g.component.Occurs above n) :
    ∃ rest t gn, p.Grows c rest (above.map (·.info.file) ++ seen) t gn ∧ gn.component = n ∧
      rest + above.length = levels ∧ p.SiteBelow c s above t := by
  induction hn with
  | root => exact ⟨levels, s, g, h, rfl, rfl, rfl⟩
  | @child above d e hd he ih =>
    obtain ⟨rest, t, gd, hgrows, rfl, hlength, -⟩ := ih
    cases hgrows with
    | unresolved | recursive | limit | unparsable => cases he
    | @expanded rest _ _ l m uses hlocated _ hparsed hfst huses =>
      obtain ⟨ge, hge, rfl⟩ := List.mem_map.mp he
      obtain ⟨u, hu, rfl⟩ := List.mem_map.mp hge
      have hbinding : u.1 ∈ m.childBindings.1 := hfst ▸ List.mem_map_of_mem hu
      refine ⟨rest, _, u.2, huses u hu, rfl, ?_, rfl, l.source, m, u.1, locateSite_holds hlocated,
        hparsed, hbinding, rfl⟩
      rw [List.length_cons]
      omega

/-- Components stand at their distance from the root. -/
theorem depth_of_occurs (h : p.Grows c levels seen s g) {above : List Component} {n : Component}
    (hn : g.component.Occurs above n) : n.info.depth = s.depth + above.length := by
  induction hn with
  | root => simp [h.info_eq.2.1]
  | child hd he ih =>
    obtain ⟨_, t, gn, hgrows, rfl, -, -, _, _, b, -, -, -, rfl⟩ := h.of_occurs (hd.child he)
    rw [hgrows.info_eq.2.1, List.length_cons]
    change _ + 1 = _
    rw [ih]
    omega

theorem uses_eq {file : String} {bs : List Binding} {us : List (Binding × Growth)}
    {depth : Int} (hfst : us.map Prod.fst = bs)
    (hgrows : ∀ u ∈ us, p.Grows c levels seen (.ofBinding c depth file u.1) u.2) :
    us.map (fun u => (u.2.component.info.name, u.2.component.info.source,
      u.2.component.info.shownSource)) = bs.map (c.use file) := by
  rw [← hfst, List.map_map]
  refine List.map_congr_left ?_
  intro u hu
  obtain ⟨hname, -, hsource, hshown⟩ := (hgrows u hu).info_eq
  rw [hname, hsource, hshown]
  rfl

end Grows

theorem looksInto_of_levels_left {rest depth : Nat}
    (h : rest + 1 + depth = c.levels?.getD maxLevels) : c.looksInto depth = true := by
  cases hlevels : c.levels? with
  | none => exact Config.looksInto_of_levels?_eq_none hlevels _
  | some levels =>
    rw [hlevels, Option.getD_some] at h
    rw [Config.looksInto_iff_of_levels? hlevels]
    omega

theorem looksInto_of_no_levels_left {depth : Nat} (h : 0 + depth = c.levels?.getD maxLevels)
    (hlimit : c.scanDepth.isSome = true) : c.looksInto depth = false := by
  obtain ⟨limit, hscan⟩ := Option.isSome_iff_exists.mp hlimit
  have hlevels : c.levels? = some limit.toNat := by rw [Config.levels?, hscan, Option.map_some]
  rw [hlevels, Option.getD_some] at h
  rw [← Bool.not_eq_true, Config.looksInto_iff_of_levels? hlevels]
  omega

/-- What an expanded component of a tree that was built came from. -/
theorem expanded_of_build {path : String} {g : Growth} (h : (p.build c path).result = .ok g)
    {above : List Component} {n : Component} (hn : g.component.Occurs above n)
    (hexpanded : n.Expanded c) :
    ∃ l m, (∃ t, (p.locateSite c t).result = .ok (some l)) ∧ l.file = n.info.file ∧
      l.file ∉ above.map (·.info.file) ∧
      (Module.parse p.parser l.source l.file).result = .ok m ∧
      n.info.unwrapped = m.childBindings.2 ∧ n.uses = m.childBindings.1.map (c.use l.file) := by
  have hroot := grows_of_build h
  obtain ⟨rest, t, gn, hgrows, rfl, hlevels, -⟩ := hroot.of_occurs hn
  obtain ⟨hopen, hinside⟩ := hexpanded
  rw [List.append_nil] at hgrows
  have hdepth : gn.component.info.depth = above.length := by
    rw [hroot.depth_of_occurs hn]
    exact Int.zero_add _
  cases hgrows with
  | unresolved _ => simp [Component.isOpen, Site.info] at hopen
  | recursive _ _ => simp [Component.isOpen] at hopen
  | unparsable _ _ _ => simp [Component.isOpen] at hopen
  | limit _ _ hlimit =>
    rw [hdepth, looksInto_of_no_levels_left hlevels hlimit] at hinside
    cases hinside
  | @expanded _ _ _ l m us hlocated hseen hparsed hfst hus =>
    refine ⟨l, m, ⟨t, hlocated⟩, rfl, hseen, hparsed, rfl, ?_⟩
    rw [← Grows.uses_eq hfst hus, Component.uses, Growth.component_ofChildren,
      Component.children_node, List.map_map, List.map_map]
    rfl

/-! ### A module that wraps itself -/

def token (kind text : String) (column : Nat) (named : Bool) (fields : List String) : Tree :=
  .node { kind, text, named, fields, place := ⟨0, column⟩ } []

def wrapperText (specifier : String) : String :=
  "import A from '" ++ specifier ++ "';export default f(A)"

def wrapperTree (specifier : String) : Tree :=
  let quoted := "'" ++ specifier ++ "'"
  let column := 14 + quoted.length
  .node { kind := "program", text := wrapperText specifier } [
    .node { kind := "import_statement", text := "import A from " ++ quoted ++ ";" } [
      token "import" "import" 0 false [],
      .node { kind := "import_clause", text := "A", place := ⟨0, 7⟩ }
        [token "identifier" "A" 7 true []],
      token "from" "from" 9 false [],
      .node { kind := "string", text := quoted, fields := ["source"], place := ⟨0, 14⟩ } [
        token "'" "'" 14 false [],
        token "string_fragment" specifier 15 true [],
        token "'" "'" (column - 1) false []],
      token ";" ";" column false []],
    .node { kind := "export_statement", text := "export default f(A)", place := ⟨0, column + 1⟩ } [
      token "export" "export" (column + 1) false [],
      token "default" "default" (column + 8) false [],
      .node { kind := "call_expression", text := "f(A)", fields := ["value"],
              place := ⟨0, column + 16⟩ } [
        token "identifier" "f" (column + 16) true ["function"],
        .node { kind := "arguments", text := "(A)", fields := ["arguments"],
                place := ⟨0, column + 17⟩ } [
          token "(" "(" (column + 17) false [],
          token "identifier" "A" (column + 18) true [],
          token ")" ")" (column + 19) false []]]]]

/-- A project whose only module is that one. -/
def wrapper (specifier : String) : Project where
  parser := fun _ => wrapperTree specifier
  files := {
    root := .directory [("p", .directory
      [("A.js", .file (Text.toBytes (wrapperText specifier)))])]
    current := ["p"] }

/-- An alias that stands for the directory of the project. -/
def aliased : Config where
  aliases := [("@", some ".")]
  base := "/p"

/-- What the module grows into if it imports its own file by that alias: the file comes back under
another name first. -/
def aliasedGrowth : Growth where
  component :=
    .node { name := "A", file := "/p/A.js", resolved := true, unwrapped := true } [
      .node { name := "A", file := "/p/./A.js", depth := 1, source := "@/A", shownSource := "A",
              resolved := true, unwrapped := true } [
        .node { name := "A", file := "/p/./A.js", depth := 2, source := "@/A", shownSource := "A",
                resolved := true, recursive := true } []]]
  parsed := 2

theorem build_aliased : ((wrapper "@/A").build aliased "A.js").result = .ok aliasedGrowth := by
  decide +kernel

end Project

end JsxOutline
