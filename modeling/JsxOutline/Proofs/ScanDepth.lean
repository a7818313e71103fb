import JsxOutline.Proofs.Accounting

/-!
# Scan depths

Cutting a tree at a depth.  Main statement: building with a smaller scan depth gives the tree of a
larger one, cut at the smaller.
-/

namespace JsxOutline

def Config.withScanDepth (c : Config) (limit : Option Int) : Config := { c with scanDepth := limit }

/-! ### Cutting -/

namespace Component

mutual

/-- The tree without what lies below a depth.  Of a component at that depth remains what is known
before its module is looked into. -/
def cut (limit : Int) : Component → Component
  | node i cs =>
    if i.depth < limit then node i (cutAll limit cs)
    else leaf { i with unwrapped := false, error := none }

def cutAll (limit : Int) : List Component → List Component
  | [] => []
  | c :: cs => cut limit c :: cutAll limit cs

end

theorem cutAll_eq_map (limit : Int) (cs : List Component) : cutAll limit cs = cs.map (cut limit) := by
  induction cs with
  | nil => rfl
  | cons c cs ih => rw [cutAll, ih, List.map_cons]

theorem cut_of_lt {limit : Int} {i : Info} (h : i.depth < limit) (cs : List Component) :
    cut limit (node i cs) = node i (cs.map (cut limit)) := by
  rw [cut, if_pos h, cutAll_eq_map]

theorem cut_of_le {limit : Int} {i : Info} (h : limit ≤ i.depth) (cs : List Component) :
    cut limit (node i cs) = leaf { i with unwrapped := false, error := none } := by
  rw [cut, if_neg (Int.not_lt.mpr h)]

theorem cut_leaf (limit : Int) {i : Info} (hunwrapped : i.unwrapped = false)
    (herror : i.error = none) : cut limit (leaf i) = leaf i := by
  rcases Int.lt_or_le i.depth limit with h | h
  · exact cut_of_lt h []
  · rw [leaf, cut_of_le h, ← hunwrapped, ← herror]
    rfl

/-- The components above a depth that have a file of their own that could be parsed. -/
def openAbove (limit : Int) (n : Component) : List Component :=
  n.preorder.filter fun d => d.isOpen && d.info.depth < limit

theorem openAbove_node (limit : Int) (i : Info) (cs : List Component) :
    (node i cs).openAbove limit =
      (if (node i cs).isOpen && i.depth < limit then [node i cs] else []) ++
        cs.flatMap (openAbove limit) :=
  filter_preorder_node _ i cs

theorem openAbove_leaf (limit : Int) {i : Info} (h : (leaf i).isOpen = false) :
    (leaf i).openAbove limit = [] := by
  rw [leaf, openAbove_node, ← leaf, h]
  rfl

end Component

namespace Growth

/-- The growth without what lies below a depth. -/
def cut (limit : Int) (g : Growth) : Growth where
  component := g.component.cut limit
  parsed := (g.component.openAbove limit).length
  faults := (g.entries.filter (·.1.info.depth < limit)).map Prod.snd

theorem cut_ofChildren {limit : Int} {i : Component.Info} {gs : List Growth}
    (hdepth : i.depth < limit) (herror : i.error = none)
    (hopen : (Component.node i (gs.map (·.component))).isOpen = true)
    (hfaults : ∀ g ∈ gs, g.component.failures.length = g.faults.length) :
    (ofChildren i gs).cut limit = ofChildren i (gs.map (cut limit)) := by
  have hcomponent : (ofChildren i gs).component.cut limit =
      (ofChildren i (gs.map (cut limit))).component := by
    rw [component_ofChildren, Component.cut_of_lt hdepth, component_ofChildren, List.map_map,
      List.map_map]
    rfl
  have hparsed : ((ofChildren i gs).component.openAbove limit).length =
      (ofChildren i (gs.map (cut limit))).parsed := by
    rw [component_ofChildren, Component.openAbove_node, hopen, parsed_ofChildren, List.map_map]
    simp only [hdepth, decide_true, Bool.and_true, if_true, List.length_append, List.length_cons,
      List.length_nil, List.flatMap_map, List.length_flatMap]
    rfl
  have hentries : (ofChildren i gs).entries = gs.flatMap entries := by
    rw [entries, component_ofChildren, Component.failures_node, herror]
    simp only [Option.isSome_none, Bool.false_eq_true, if_false, List.nil_append,
      List.flatMap_map]
    exact zip_flatMap hfaults
  have hcut : ((ofChildren i gs).entries.filter (·.1.info.depth < limit)).map Prod.snd =
      (ofChildren i (gs.map (cut limit))).faults := by
    rw [hentries, List.filter_flatMap, List.map_flatMap]
    change _ = (gs.map (cut limit)).flatMap (·.faults)
    rw [List.flatMap_map]
    rfl
  rw [cut, hcomponent, hparsed, hcut]

theorem cut_ofInfo (limit : Int) {i : Component.Info} (hunwrapped : i.unwrapped = false)
    (herror : i.error = none) (hclosed : (Component.leaf i).isOpen = false) :
    (ofInfo i).cut limit = ofInfo i := by
  have hentries : (ofInfo i).entries = [] := List.zip_nil_right
  rw [cut, hentries, component_ofInfo, Component.cut_leaf limit hunwrapped herror,
    Component.openAbove_leaf limit hclosed]
  rfl

theorem cut_ofFault {limit : Int} {i : Component.Info} (fault : SyntaxFault)
    (hdepth : i.depth < limit) : (ofFault i fault).cut limit = ofFault i fault := by
  let failed : Component.Info := { i with error := some fault.message }
  have hclosed : (Component.leaf failed).isOpen = false := by simp [failed, Component.isOpen]
  have hcomponent : (Component.leaf failed).cut limit = .leaf failed :=
    Component.cut_of_lt (i := failed) hdepth []
  have hentries : (ofFault i fault).entries.filter (·.1.info.depth < limit) =
      [(.leaf failed, fault)] := List.filter_cons_of_pos (decide_eq_true hdepth)
  rw [cut, hentries, component_ofFault, hcomponent, Component.openAbove_leaf limit hclosed]
  rfl

/-- Of a growth that lies below a depth altogether only its root remains. -/
theorem cut_of_le {limit : Int} {g : Growth}
    (hdepth : ∀ n ∈ g.component.preorder, limit ≤ n.info.depth) :
    g.cut limit = ofInfo { g.component.info with unwrapped := false, error := none } := by
  have hroot : g.component ∈ g.component.preorder := by
    rw [Component.preorder_eq]
    exact List.mem_cons_self
  have hparsed : g.component.openAbove limit = [] := by
    refine List.filter_eq_nil_iff.mpr ?_
    intro n hn
    simp [Int.not_lt.mpr (hdepth n hn)]
  have hfaults : g.entries.filter (·.1.info.depth < limit) = [] := by
    refine List.filter_eq_nil_iff.mpr ?_
    intro e he
    have hmem : e.1 ∈ g.component.preorder := (List.mem_filter.mp (List.of_mem_zip he).1).1
    simp [Int.not_lt.mpr (hdepth _ hmem)]
  have hcomponent : g.component.cut limit =
      .leaf { g.component.info with unwrapped := false, error := none } := by
    have hle := hdepth _ hroot
    cases hg : g.component with
    | node i cs =>
      rw [hg] at hle
      exact Component.cut_of_le hle cs
  rw [cut, hcomponent, hparsed, hfaults]
  rfl

end Growth

/-! ### Building with a smaller scan depth -/

namespace Project

variable {p : Project} {c : Config}

theorem Grows.depth_le {levels : Nat} {seen : List String} {s : Site} {g : Growth}
    (h : p.Grows c levels seen s g) {n : Component} (hn : n ∈ g.component.preorder) :
    s.depth ≤ n.info.depth := by
  obtain ⟨above, hocc⟩ := Component.mem_preorder_iff.mp hn
  rw [h.depth_of_occurs hocc]
  omega

/-- Cut at its own depth, what a site with a file grows into is that file alone. -/
theorem Grows.cut_self {levels : Nat} {seen : List String} {s : Site} {g : Growth}
    (h : p.Grows c levels seen s g) :
    g.cut (s.depth + (0 : Nat)) =
      .ofInfo { g.component.info with unwrapped := false, error := none } := by
  refine Growth.cut_of_le ?_
  intro n hn
  have hle := h.depth_le hn
  omega

/-- Through fewer levels a site grows into what it grows into through more, cut at the last. -/
theorem Grows.cut {levels : Nat} {seen : List String} {s : Site} {g : Growth}
    (h : p.Grows c levels seen s g) (limit : Int) (fewer : Nat)
    (hfewer : fewer ≤ levels ∨ c.scanDepth = none) :
    p.Grows (c.withScanDepth (some limit)) fewer seen s (g.cut (s.depth + fewer)) := by
  induction h generalizing fewer with
  | unresolved hlocated =>
    rw [Growth.cut_ofInfo _ rfl rfl rfl]
    exact .unresolved hlocated
  | recursive hlocated hseen =>
    rw [Growth.cut_ofInfo _ rfl rfl (by simp [Component.isOpen])]
    exact .recursive hlocated hseen
  | limit hlocated hseen hlimit =>
    have hzero : fewer = 0 := by
      rcases hfewer with hfewer | hnone
      · exact Nat.le_zero.mp hfewer
      · rw [hnone] at hlimit
        cases hlimit
    subst hzero
    rw [(Grows.limit hlocated hseen hlimit).cut_self]
    exact .limit hlocated hseen rfl
  | @unparsable levels seen s _ _ hlocated hseen hparsed =>
    have hgrows : p.Grows c (levels + 1) seen s _ := .unparsable hlocated hseen hparsed
    cases fewer with
    | zero =>
      rw [hgrows.cut_self]
      exact .limit hlocated hseen rfl
    | succ fewer =>
      have hinside : s.depth < s.depth + ((fewer + 1 : Nat) : Int) := by omega
      rw [Growth.cut_ofFault _ hinside]
      exact .unparsable hlocated hseen hparsed
  | @expanded levels seen s l m uses hlocated hseen hparsed hfst huses ih =>
    cases fewer with
    | zero =>
      rw [(Grows.expanded uses hlocated hseen hparsed hfst huses).cut_self]
      exact .limit hlocated hseen rfl
    | succ fewer =>
      have hchildren : ∀ g ∈ uses.map Prod.snd, g.component.failures.length = g.faults.length := by
        refine List.forall_mem_map.mpr ?_
        intro u hu
        exact (huses u hu).faults_belong.length_eq
      have hinside : s.depth < s.depth + ((fewer + 1 : Nat) : Int) := by omega
      have hshift : s.depth + 1 + (fewer : Int) = s.depth + ((fewer + 1 : Nat) : Int) := by omega
      have hless : fewer ≤ levels ∨ c.scanDepth = none := hfewer.imp Nat.le_of_succ_le_succ id
      rw [Growth.cut_ofChildren hinside rfl (by simp [Component.isOpen, Site.info]) hchildren,
        List.map_map]
      have hcut : uses.map (Growth.cut (s.depth + ((fewer + 1 : Nat) : Int)) ∘ Prod.snd) =
          (uses.map fun u => (u.1, u.2.cut (s.depth + 1 + (fewer : Int)))).map Prod.snd := by
        rw [List.map_map, hshift]
        rfl
      rw [hcut]
      refine .expanded _ hlocated hseen hparsed ?_ ?_
      · rw [List.map_map]
        exact hfst
      · refine List.forall_mem_map.mpr ?_
        intro u hu
        exact ih u hu fewer hless

/-- Building with a smaller scan depth succeeds where building with a larger one does, with the same
tree cut at the smaller depth, and with the faults that belong to components above it. -/
theorem build_cut {path : String} {larger : Option Int} {depth : Int} {g : Growth}
    (hdepth : 0 ≤ depth) (hlarger : ∀ limit ∈ larger, depth ≤ limit)
    (h : (p.build (c.withScanDepth larger) path).result = .ok g) :
    (p.build (c.withScanDepth (some depth)) path).result = .ok (g.cut depth) ∧
      g.entries.map Prod.fst = g.component.failures ∧ g.entries.map Prod.snd = g.faults ∧
      ∀ e ∈ g.entries, e.2.BelongsTo e.1 := by
  have hgrows := grows_of_build h
  refine ⟨?_, hgrows.entries_belong⟩
  obtain ⟨fewer, rfl⟩ := Int.eq_ofNat_of_zero_le hdepth
  have hfewer : fewer ≤ (c.withScanDepth larger).levels?.getD maxLevels ∨
      (c.withScanDepth larger).scanDepth = none := by
    cases larger with
    | none => exact .inr rfl
    | some limit =>
      have hle := hlarger limit rfl
      refine .inl ?_
      change fewer ≤ limit.toNat
      omega
  have hcut := hgrows.cut fewer fewer hfewer
  have hstart : (Site.ofRoot (p.rootFile (c.withScanDepth larger) path)).depth + (fewer : Int) =
      fewer := Int.zero_add _
  rw [hstart] at hcut
  exact grow_of_grows hcut

theorem build_cut_aliased :
    ((wrapper "@/A").build (aliased.withScanDepth none) "A.js").result = .ok aliasedGrowth ∧
      ((wrapper "@/A").build (aliased.withScanDepth (some 1)) "A.js").result =
        .ok (aliasedGrowth.cut 1) ∧
      (aliasedGrowth.cut 1).component.preorder.length = 2 := by
  refine ⟨build_aliased, ?_, by decide +kernel⟩
  have hlarger : ∀ limit ∈ (none : Option Int), (1 : Int) ≤ limit := by simp
  exact (build_cut (by decide) hlarger build_aliased).1

end Project

end JsxOutline
