import JsxOutline.Proofs.Telling
import Mathlib.Algebra.GroupWithZero.Nat
import Mathlib.Data.List.Forall2

/-!
# Accounts of growth

Which components of a tree the counts and faults of its growth belong to.  Main statements: the
faults are those of the components with an error, in the order of the listing, and so are the
warnings told on the way; the modules that were parsed are counted once for each component that was
looked into.
-/

namespace JsxOutline

namespace Component

def failures (n : Component) : List Component := n.preorder.filter (·.info.error.isSome)

theorem failures_node (i : Info) (cs : List Component) :
    (node i cs).failures =
      (if i.error.isSome then [node i cs] else []) ++ cs.flatMap failures :=
  filter_preorder_node _ i cs

end Component

namespace Growth

/-- The components with an error, each with its fault. -/
def entries (g : Growth) : List (Component × SyntaxFault) := g.component.failures.zip g.faults

theorem parsed_ofChildren (i : Component.Info) (gs : List Growth) :
    (ofChildren i gs).parsed = 1 + (gs.map (·.parsed)).sum := by
  have fold : ∀ n, gs.foldl (fun n g => n + g.parsed) n = n + (gs.map (·.parsed)).sum := by
    induction gs with
    | nil => exact fun n => rfl
    | cons g gs ih =>
      intro n
      rw [List.foldl_cons, ih, List.map_cons, List.sum_cons, Nat.add_assoc]
  exact fold 1

end Growth

/-- A fault belongs to a component: it names the file, and its words are the error. -/
def SyntaxFault.BelongsTo (f : SyntaxFault) (n : Component) : Prop :=
  f.file = n.info.file ∧ n.info.error = some f.message

theorem forall₂_flatMap {α β γ : Type} {r : β → γ → Prop} {f : α → List β} {g : α → List γ}
    {xs : List α} (h : ∀ x ∈ xs, List.Forall₂ r (f x) (g x)) :
    List.Forall₂ r (xs.flatMap f) (xs.flatMap g) := by
  induction xs with
  | nil => exact .nil
  | cons x xs ih =>
    obtain ⟨hx, hxs⟩ := List.forall_mem_cons.mp h
    rw [List.flatMap_cons, List.flatMap_cons]
    exact List.rel_append hx (ih hxs)

theorem zip_flatMap {α β γ : Type} {f : α → List β} {g : α → List γ} {xs : List α}
    (h : ∀ x ∈ xs, (f x).length = (g x).length) :
    (xs.flatMap f).zip (xs.flatMap g) = xs.flatMap fun x => (f x).zip (g x) := by
  induction xs with
  | nil => rfl
  | cons x xs ih =>
    obtain ⟨hx, hxs⟩ := List.forall_mem_cons.mp h
    rw [List.flatMap_cons, List.flatMap_cons, List.flatMap_cons, List.zip_append hx, ih hxs]

namespace Project.Grows

variable {p : Project} {c : Config} {levels : Nat} {seen : List String} {s : Site} {g : Growth}

/-- The faults are those of the components with an error, in the order of the listing. -/
theorem faults_belong (h : p.Grows c levels seen s g) :
    List.Forall₂ (fun n f => SyntaxFault.BelongsTo f n) g.component.failures g.faults := by
  induction h with
  | unresolved | recursive | limit => exact .nil
  | unparsable _ _ hparsed =>
    exact .cons ⟨Module.file_of_parse_error hparsed, rfl⟩ .nil
  | expanded uses _ _ _ _ _ ih =>
    rw [Growth.component_ofChildren, Component.failures_node, List.flatMap_map]
    exact forall₂_flatMap (List.forall_mem_map.mpr ih)

theorem errors_eq (h : p.Grows c levels seen s g) :
    g.component.failures.map (·.info.error) = g.faults.map (some ·.message) := by
  rw [← List.forall₂_eq_eq_eq, List.forall₂_map_left_iff, List.forall₂_map_right_iff]
  exact h.faults_belong.imp fun _ _ hbelongs => hbelongs.2

/-- Each fault is listed with the component that it belongs to, and no fault is left out. -/
theorem entries_belong (h : p.Grows c levels seen s g) :
    g.entries.map Prod.fst = g.component.failures ∧ g.entries.map Prod.snd = g.faults ∧
      ∀ e ∈ g.entries, e.2.BelongsTo e.1 := by
  have hlength := h.faults_belong.length_eq
  refine ⟨?_, ?_, ?_⟩
  · exact List.map_fst_zip (Nat.le_of_eq hlength)
  · exact List.map_snd_zip (Nat.le_of_eq hlength.symm)
  · intro e he
    exact (List.forall₂_iff_zip.mp h.faults_belong).2 he

/-- The modules that were parsed are those of the components that were looked into, one for each. -/
theorem parsed_eq (h : p.Grows c levels seen s g)
    (hlevels : ∀ k : Nat, c.looksInto (s.depth + k) = true ↔ k < levels ∨ c.scanDepth = none) :
    g.parsed = (g.component.preorder.filter fun n => n.Expanded c).length := by
  induction h with
  | unresolved | recursive | unparsable =>
    simp [Growth.ofInfo, Growth.ofFault, Component.Expanded, Component.isOpen, Site.info]
  | @limit _ s _ _ _ hlimit =>
    have hunlimited : c.scanDepth ≠ none := Option.isSome_iff_ne_none.mp hlimit
    have houtside := hlevels 0
    simp only [Int.ofNat_zero, Int.add_zero, Nat.not_lt_zero, hunlimited, or_self,
      iff_false] at houtside
    simp [Growth.ofInfo, Component.Expanded, Site.info, houtside]
  | @expanded levels seen s l m uses hlocated hseen hparsed hfst huses ih =>
    have hinside : c.looksInto s.depth = true := by
      have hzero := (hlevels 0).mpr (.inl (Nat.succ_pos levels))
      rw [Int.ofNat_zero, Int.add_zero] at hzero
      exact hzero
    have hbelow : ∀ k : Nat,
        c.looksInto (s.depth + 1 + k) = true ↔ k < levels ∨ c.scanDepth = none := by
      intro k
      have hnext := hlevels (k + 1)
      rw [Nat.add_lt_add_iff_right] at hnext
      rw [← hnext, Int.add_assoc, Int.add_comm 1]
      rfl
    have hself : (Component.node
        { s.info l.file with resolved := true, unwrapped := m.childBindings.2 }
        ((uses.map Prod.snd).map (·.component))).Expanded c := by
      refine ⟨?_, hinside⟩
      simp [Component.isOpen, Site.info]
    have hchildren : uses.map (fun u => u.2.parsed) =
        uses.map (fun u => (u.2.component.preorder.filter fun n => n.Expanded c).length) :=
      List.map_congr_left fun u hu => ih u hu hbelow
    rw [Growth.parsed_ofChildren, Growth.component_ofChildren, Component.filter_preorder_node,
      if_pos (decide_eq_true hself), List.length_append, List.length_flatMap, List.map_map,
      List.map_map, List.map_map]
    exact congrArg (fun ns => 1 + ns.sum) hchildren

end Project.Grows

/-! ### Warnings -/

namespace Growth

def notFoundWarning (file : String) : String := s!"Root file not found: {file}"

def incompleteWarning (count : Nat) : String :=
  s!"{count} file(s) couldn't be parsed; their subtrees are incomplete"

theorem notFoundWarning_ne_incompleteWarning (file : String) (count : Nat) :
    notFoundWarning file ≠ incompleteWarning count := by
  intro h
  have hfirst : (incompleteWarning count).toList.head? = some 'R' := by
    rw [← h]
    change ("Root file not found: " ++ file).toList.head? = some 'R'
    rw [String.toList_append]
    rfl
  have hne : Nat.toDigits 10 count ≠ [] := Nat.toDigits_ne_nil
  obtain ⟨digit, digits, hdigits⟩ := List.exists_cons_of_ne_nil hne
  have hcount : (incompleteWarning count).toList.head? = some digit := by
    change (String.ofList (Nat.toDigits 10 count) ++
      " file(s) couldn't be parsed; their subtrees are incomplete").toList.head? = some digit
    rw [String.toList_append, String.toList_ofList, hdigits]
    rfl
  have hisDigit : digit.isDigit = true :=
    Nat.isDigit_of_mem_toDigits (by decide) (by decide) (hdigits ▸ List.mem_cons_self)
  rw [hcount] at hfirst
  rw [Option.some.inj hfirst] at hisDigit
  cases hisDigit

theorem mem_warnings_iff {g : Growth} {warning : String} :
    warning ∈ g.warnings ↔
      g.component.info.resolved = false ∧ warning = notFoundWarning g.component.info.file ∨
        g.faults ≠ [] ∧ warning = incompleteWarning g.faults.length := by
  have hnotFound : warning ∈ (if g.component.info.resolved then []
      else [notFoundWarning g.component.info.file]) ↔
        g.component.info.resolved = false ∧ warning = notFoundWarning g.component.info.file := by
    cases g.component.info.resolved <;> simp
  have hincomplete : warning ∈ (if g.faults.isEmpty then []
      else [incompleteWarning g.faults.length]) ↔
        g.faults ≠ [] ∧ warning = incompleteWarning g.faults.length := by
    cases g.faults <;> simp
  rw [← hnotFound, ← hincomplete]
  exact List.mem_append

theorem notFoundWarning_mem_warnings_iff {g : Growth} {file : String}
    (hfile : g.component.info.resolved = false → g.component.info.file = file) :
    notFoundWarning file ∈ g.warnings ↔ g.component.info.resolved = false := by
  rw [mem_warnings_iff]
  constructor
  · rintro (⟨hresolved, -⟩ | ⟨-, hsame⟩)
    · exact hresolved
    · exact absurd hsame (notFoundWarning_ne_incompleteWarning _ _)
  · intro hresolved
    exact .inl ⟨hresolved, by rw [hfile hresolved]⟩

theorem incompleteWarning_mem_warnings_iff {g : Growth} :
    incompleteWarning g.faults.length ∈ g.warnings ↔ g.faults ≠ [] := by
  rw [mem_warnings_iff]
  constructor
  · rintro (⟨-, hsame⟩ | ⟨hfaults, -⟩)
    · exact absurd hsame.symm (notFoundWarning_ne_incompleteWarning _ _)
    · exact hfaults
  · intro hfaults
    exact .inr ⟨hfaults, rfl⟩

/-- What is reported of a tree agrees with it: the count of parsed modules, the faults, the events
and the warnings. -/
structure Accounted (c : Config) (root : String) (log : List Event) (g : Growth) : Prop where
  /-- A module counts once for each component that it was looked into for. -/
  parsed : g.parsed = (g.component.preorder.filter fun n => n.Expanded c).length
  /-- The faults are those of the components with an error, in the order of the listing. -/
  faults : List.Forall₂
    (fun n f => f.file = n.info.file ∧
      n.info.error = some ("Could not parse " ++ f.file ++ ": " ++ f.summary))
    (g.component.preorder.filter (·.info.error.isSome)) g.faults
  /-- The warnings of modules that cannot be parsed are these errors, in the same order. -/
  told : (log.filter Event.isFailure).map (some ·.message) =
    (g.component.preorder.filter (·.info.error.isSome)).map (·.info.error)
  notFound : notFoundWarning root ∈ g.warnings ↔ g.component.info.resolved = false
  incomplete : incompleteWarning g.faults.length ∈ g.warnings ↔ g.faults ≠ []
  others : ∀ warning ∈ g.warnings,
    warning = notFoundWarning root ∨ warning = incompleteWarning g.faults.length

end Growth

namespace Project

variable {p : Project} {c : Config}

theorem Grows.file_of_unresolved {levels : Nat} {seen : List String} {s : Site} {g : Growth}
    (h : p.Grows c levels seen s g) (hresolved : g.component.info.resolved = false) :
    g.component.info.file = s.guess := by
  cases h with
  | unresolved => rfl
  | recursive | limit | unparsable | expanded => cases hresolved

theorem looksInto_iff_of_build (k : Nat) :
    c.looksInto (0 + k) = true ↔ k < c.levels?.getD maxLevels ∨ c.scanDepth = none := by
  rw [Int.zero_add]
  cases hlevels : c.levels? with
  | none =>
    have hunlimited : c.scanDepth = none := Option.map_eq_none_iff.mp hlevels
    simp [hunlimited, Config.looksInto_of_levels?_eq_none hlevels]
  | some levels =>
    have hlimited : c.scanDepth ≠ none := by
      intro hnone
      rw [Config.levels?, hnone] at hlevels
      cases hlevels
    simp [hlimited, Config.looksInto_iff_of_levels? hlevels]

/-- A build reports on its tree as it is. -/
theorem accounted_of_build {path : String} {g : Growth} (h : (p.build c path).result = .ok g) :
    g.Accounted c (p.rootFile c path) (p.build c path).log := by
  have hgrows := grows_of_build h
  have hguess : ∀ file, (Site.ofRoot file).guess = file := fun _ => rfl
  have hfile : g.component.info.resolved = false → g.component.info.file = p.rootFile c path := by
    intro hresolved
    rw [hgrows.file_of_unresolved hresolved, hguess]
  refine ⟨hgrows.parsed_eq looksInto_iff_of_build, hgrows.faults_belong, ?_,
    Growth.notFoundWarning_mem_warnings_iff hfile, Growth.incompleteWarning_mem_warnings_iff, ?_⟩
  · rw [build, hgrows.log_failures, List.map_map]
    exact hgrows.errors_eq.symm
  · intro warning hwarning
    rcases Growth.mem_warnings_iff.mp hwarning with ⟨hresolved, rfl⟩ | ⟨-, rfl⟩
    · exact .inl (congrArg Growth.notFoundWarning (hfile hresolved))
    · exact .inr rfl

/-- A project whose root module wraps the component of a file of which no statement can be used. -/
def broken : Project where
  parser := fun text =>
    if text = "(" then
      .node { kind := "program", faulty := true, text }
        [.node { kind := "ERROR", faulty := true, text } [token text text 0 false []]]
    else wrapperTree "./B"
  files := {
    root := .directory [("p", .directory
      [("A.js", .file (Text.toBytes (wrapperText "./B"))), ("B.js", .file (Text.toBytes "("))])]
    current := ["p"] }

def brokenFault : SyntaxFault := ⟨"/p/B.js", ⟨0, 0⟩⟩

def brokenTree : Growth where
  component :=
    .node { name := "A", file := "/p/A.js", resolved := true, unwrapped := true } [
      .leaf { name := "A", file := "/p/B.js", depth := 1, source := "./B", shownSource := "B",
              resolved := true, error := some brokenFault.message }]
  parsed := 1
  faults := [brokenFault]

theorem accounted_of_build_broken :
    (broken.build { base := "/p" } "A.js").result = .ok brokenTree ∧
      brokenTree.Accounted { base := "/p" } "/p/A.js" (broken.build { base := "/p" } "A.js").log ∧
      brokenTree.warnings = ["1 file(s) couldn't be parsed; their subtrees are incomplete"] := by
  have hbuild : (broken.build { base := "/p" } "A.js").result = .ok brokenTree := by
    decide +kernel
  have hroot : broken.rootFile { base := "/p" } "A.js" = "/p/A.js" := by decide +kernel
  exact ⟨hbuild, hroot ▸ accounted_of_build hbuild, by decide +kernel⟩

end Project

end JsxOutline
