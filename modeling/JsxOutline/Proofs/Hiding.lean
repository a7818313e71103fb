import JsxOutline.Outline
import JsxOutline.Proofs.NodeState

/-!
# Hiding components without a file

Hidden components stay in the tree and are left out of its outline.  Main statement: hiding the
components without a file shows what is left when they are taken out of the tree, and changes
nothing else of a build.
-/

namespace JsxOutline

def Config.withHiding (c : Config) (hide : Bool) : Config := { c with hideThirdParty := hide }

namespace Component

/-! ### Changing what is known of components -/

mutual

/-- The tree with a change to what is known of each component. -/
def mapInfo (f : Info → Info) : Component → Component
  | node i cs => node (f i) (mapInfoAll f cs)

def mapInfoAll (f : Info → Info) : List Component → List Component
  | [] => []
  | c :: cs => mapInfo f c :: mapInfoAll f cs

end

theorem mapInfo_node (f : Info → Info) (i : Info) (cs : List Component) :
    (node i cs).mapInfo f = node (f i) (cs.map (mapInfo f)) := by
  have all : mapInfoAll f cs = cs.map (mapInfo f) := by
    induction cs with
    | nil => rfl
    | cons c cs ih => rw [mapInfoAll, ih, List.map_cons]
  rw [mapInfo, all]

@[simp] theorem info_mapInfo (f : Info → Info) (c : Component) : (c.mapInfo f).info = f c.info := by
  cases c
  rfl

theorem mapInfo_mapInfo (f g : Info → Info) (c : Component) :
    (c.mapInfo f).mapInfo g = c.mapInfo (g ∘ f) := by
  induction c using induction with
  | node i cs ih =>
    rw [mapInfo_node, mapInfo_node, mapInfo_node, List.map_map]
    exact congrArg (node _) (List.map_congr_left ih)

/-- What is known of a component if those without a file are hidden, or are not. -/
def Info.withHiding (hide : Bool) (i : Info) : Info := { i with hidden := !i.resolved && hide }

def withHiding (hide : Bool) : Component → Component := mapInfo (Info.withHiding hide)

def unhidden : Component → Component := mapInfo fun i => { i with hidden := false }

theorem unhidden_withHiding (hide : Bool) (c : Component) :
    (c.withHiding hide).unhidden = c.unhidden := by
  rw [withHiding, unhidden, mapInfo_mapInfo]
  rfl

/-! ### Taking components out -/

mutual

/-- The tree without the components that are to be dropped, the root apart, and all below them. -/
def without (drop : Info → Bool) : Component → Component
  | node i cs => node i (withoutAll drop cs)

/-- The trees of a list without those whose roots are to be dropped, and without what is to be
dropped below the others. -/
def withoutAll (drop : Info → Bool) : List Component → List Component
  | [] => []
  | c :: cs => if drop c.info then withoutAll drop cs else without drop c :: withoutAll drop cs

end

theorem without_node (drop : Info → Bool) (i : Info) (cs : List Component) :
    (node i cs).without drop = node i ((cs.filter fun c => !drop c.info).map (without drop)) := by
  have all : withoutAll drop cs = (cs.filter fun c => !drop c.info).map (without drop) := by
    induction cs with
    | nil => rfl
    | cons c cs ih =>
      rw [withoutAll, List.filter_cons, ih]
      cases drop c.info <;> rfl
  rw [without, all]

@[simp] theorem info_without (drop : Info → Bool) (c : Component) :
    (c.without drop).info = c.info := by
  cases c
  rfl

theorem marked_without (drop : Info → Bool) (c : Component) :
    (c.without drop).marked = c.marked.without drop := by
  cases c
  rfl

/-! ### Outlines without hidden components -/

/-- Each component that says that its module wraps another one has one child. -/
def WrapsOne (root : Component) : Prop :=
  ∀ n ∈ root.preorder, n.info.unwrapped = true → ∃ d, n.children = [d]

theorem wrapsOne_iff {c : Component} :
    c.WrapsOne ↔ (c.info.unwrapped = true → ∃ d, c.children = [d]) ∧
      ∀ d ∈ c.children, d.WrapsOne := by
  rw [WrapsOne, preorder_eq, List.forall_mem_cons]
  refine and_congr_right fun _ => ?_
  constructor
  · intro h d hd n hn
    exact h n (List.mem_flatMap.mpr ⟨d, hd, hn⟩)
  · intro h n hn
    obtain ⟨d, hd, hn⟩ := List.mem_flatMap.mp hn
    exact h d hd n hn

theorem WrapsOne.marked {c : Component} (h : c.WrapsOne) : c.marked.WrapsOne := by
  cases c with
  | node i cs =>
    obtain ⟨hself, hbelow⟩ := wrapsOne_iff.mp h
    exact wrapsOne_iff.mpr ⟨hself, hbelow⟩

theorem WrapsOne.collapse {c : Component} (h : c.WrapsOne) : c.collapse.WrapsOne := by
  fun_induction Component.collapse c with
  | case1 c d hwrapped ih => exact ih ((wrapsOne_iff.mp h).2 d (wrapped?_mem hwrapped)).marked
  | case2 c => exact h

theorem WrapsOne.shown {c : Component} (h : c.WrapsOne) (hideContainers : Bool) :
    (c.shown hideContainers).WrapsOne := by
  cases hideContainers with
  | false => exact h
  | true => exact h.collapse

theorem wrapped?_of_not_unwrapped {i : Info} (h : i.unwrapped = false) (cs : List Component) :
    (node i cs).wrapped? = none := by
  rcases cs with _ | ⟨c, _ | ⟨d, ds⟩⟩
  · rfl
  · simp [wrapped?, h]
  · rfl

theorem wrapped?_without {c : Component} (h : c.WrapsOne) :
    (c.without (·.hidden)).wrapped? = c.wrapped?.map (without (·.hidden)) := by
  obtain ⟨i, cs⟩ := c
  cases hunwrapped : i.unwrapped with
  | false =>
    rw [without_node, wrapped?_of_not_unwrapped hunwrapped, wrapped?_of_not_unwrapped hunwrapped]
    rfl
  | true =>
    obtain ⟨d, hd⟩ := (wrapsOne_iff.mp h).1 hunwrapped
    rw [children_node] at hd
    subst hd
    rw [without_node]
    cases hhidden : d.info.hidden with
    | false => simp [wrapped?, hidden, hunwrapped, hhidden]
    | true => simp [wrapped?, hidden, hunwrapped, hhidden]

theorem collapse_without {c : Component} (h : c.WrapsOne) :
    (c.without (·.hidden)).collapse = c.collapse.without (·.hidden) := by
  have hwithout := wrapped?_without h
  fun_induction collapse c with
  | case1 c d hwrapped ih =>
    have hd := ((wrapsOne_iff.mp h).2 d (wrapped?_mem hwrapped)).marked
    rw [hwrapped] at hwithout
    rw [collapse_of_some hwithout, marked_without]
    exact ih hd (wrapped?_without hd)
  | case2 c hwrapped =>
    rw [hwrapped] at hwithout
    exact collapse_of_none hwithout

theorem shown_without {c : Component} (h : c.WrapsOne) (hideContainers : Bool) :
    (c.without (·.hidden)).shown hideContainers =
      (c.shown hideContainers).without (·.hidden) := by
  cases hideContainers with
  | false => rfl
  | true => exact collapse_without h

theorem visible_without (c : Component) :
    (c.without (·.hidden)).visible = c.visible.map (without (·.hidden)) := by
  obtain ⟨i, cs⟩ := c
  rw [without_node]
  refine List.filter_eq_self.mpr ?_
  intro d hd
  obtain ⟨e, he, rfl⟩ := List.mem_map.mp hd
  rw [hidden, info_without]
  exact (List.mem_filter.mp he).2

theorem label_without (drop : Info → Bool) (c : Component) : (c.without drop).label = c.label := by
  cases c
  rfl

theorem sortKey_without (drop : Info → Bool) (c : Component) :
    (c.without drop).sortKey = c.sortKey := by
  cases c
  rfl

/-- Taking the hidden components out of a tree does not change its outline. -/
theorem outline_without {c : Component} (h : c.WrapsOne) (hideContainers : Bool) :
    (c.without (·.hidden)).outline hideContainers = c.outline hideContainers := by
  have hbelow : ∀ d ∈ (c.shown hideContainers).visible,
      (((d.without (·.hidden)).shown hideContainers).sortKey,
          (d.without (·.hidden)).outline hideContainers) =
        ((d.shown hideContainers).sortKey, d.outline hideContainers) := by
    intro d hd
    have hlt := size_lt_of_mem_visible hd
    have hwraps := (wrapsOne_iff.mp (h.shown hideContainers)).2 d (List.mem_filter.mp hd).1
    rw [shown_without hwraps, sortKey_without, outline_without hwraps]
  rw [outline_eq, outline_eq, shown_without h, label_without, visible_without, List.map_map]
  exact congrArg (fun ds => Outline.item _ (arrange ds)) (List.map_congr_left hbelow)
termination_by c.size

/-- The outline of a tree does not tell whether its root is hidden. -/
theorem outline_eq_of_info {c d : Component}
    (hinfo : c.info = { d.info with hidden := c.info.hidden }) (hchildren : c.children = d.children)
    (hideContainers : Bool) : c.outline hideContainers = d.outline hideContainers := by
  obtain ⟨i, cs⟩ := c
  obtain ⟨j, ds⟩ := d
  rw [info_node, info_node] at hinfo
  rw [children_node, children_node] at hchildren
  subst hchildren
  rw [hinfo]
  have hwrapped : (node { j with hidden := i.hidden } cs).wrapped? = (node j cs).wrapped? := by
    rcases cs with _ | ⟨c, _ | ⟨d, ds⟩⟩ <;> rfl
  rw [outline_eq, outline_eq]
  cases hideContainers with
  | false => rfl
  | true =>
    simp only [shown, if_true]
    cases h : (node j cs).wrapped? with
    | none =>
      rw [collapse_of_none h, collapse_of_none (hwrapped.trans h)]
      rfl
    | some d => rw [collapse_of_some h, collapse_of_some (hwrapped.trans h)]

/-! ### Outlines without components that have no file -/

theorem info_without_withHiding (hide : Bool) (drop : Info → Bool) (c : Component) :
    ((c.withHiding hide).without drop).info = c.info.withHiding hide := by
  rw [info_without, withHiding, info_mapInfo]

theorem children_without_withHiding (hide : Bool) (drop : Info → Bool) (c : Component) :
    ((c.withHiding hide).without drop).children =
      (c.children.filter fun d => !drop (d.info.withHiding hide)).map
        fun d => (d.withHiding hide).without drop := by
  cases c with
  | node i cs =>
    rw [withHiding, mapInfo_node, without_node, children_node, List.filter_map, List.map_map]
    simp only [Function.comp_def, info_mapInfo]
    rfl

/-- Below the root the hidden components are those without a file, and the others are not hidden. -/
theorem children_without_hidden (c : Component) :
    ((c.withHiding true).without (·.hidden)).children =
      ((c.withHiding false).without (!·.resolved)).children := by
  induction c using induction with
  | node i cs ih =>
    rw [children_without_withHiding, children_without_withHiding]
    simp only [Info.withHiding, Bool.and_true, Bool.not_not]
    refine List.map_congr_left ?_
    intro d hd
    obtain ⟨hmem, hresolved⟩ := List.mem_filter.mp hd
    refine ext ?_ (ih d hmem)
    rw [info_without_withHiding, info_without_withHiding, Info.withHiding, Info.withHiding,
      hresolved]
    rfl

/-- Hiding the components without a file shows what is left when they are taken out. -/
theorem outline_withHiding {c : Component} (h : (c.withHiding true).WrapsOne)
    (hideContainers : Bool) :
    (c.withHiding true).outline hideContainers =
      ((c.withHiding false).without (!·.resolved)).outline hideContainers := by
  rw [← outline_without h]
  refine outline_eq_of_info ?_ (children_without_hidden c) hideContainers
  rw [info_without_withHiding, info_without_withHiding]
  rfl

end Component

/-! ### Building with hidden components -/

namespace Growth

def withHiding (hide : Bool) (g : Growth) : Growth :=
  { g with component := g.component.withHiding hide }

theorem withHiding_ofChildren (hide : Bool) {i : Component.Info} (gs : List Growth)
    (h : i.withHiding hide = i) :
    (ofChildren i gs).withHiding hide = ofChildren i (gs.map (withHiding hide)) := by
  have hcomponent : (ofChildren i gs).component.withHiding hide =
      (ofChildren i (gs.map (withHiding hide))).component := by
    rw [component_ofChildren, component_ofChildren, Component.withHiding, Component.mapInfo_node, h,
      List.map_map, List.map_map]
    rfl
  have hparsed : (ofChildren i gs).parsed = (ofChildren i (gs.map (withHiding hide))).parsed := by
    rw [ofChildren, ofChildren, List.foldl_map]
    rfl
  have hfaults : (ofChildren i gs).faults = (ofChildren i (gs.map (withHiding hide))).faults := by
    rw [ofChildren, ofChildren, List.flatMap_map]
    rfl
  rw [withHiding, hcomponent, hparsed, hfaults]

/-- Warnings do not tell which components are hidden. -/
theorem warnings_withHiding (hide : Bool) (g : Growth) :
    (g.withHiding hide).warnings = g.warnings := by
  have hinfo : (g.withHiding hide).component.info = g.component.info.withHiding hide :=
    Component.info_mapInfo _ _
  rw [warnings, warnings, hinfo]
  rfl

end Growth

namespace Project

variable {p : Project} {c : Config}

/-- A build that hides components without a file differs from one that does not in these marks. -/
theorem Grows.withHiding {levels : Nat} {seen : List String} {s : Site} {g : Growth}
    (h : p.Grows c levels seen s g) (hide : Bool) :
    p.Grows (c.withHiding hide) levels seen s (g.withHiding hide) := by
  induction h with
  | unresolved hlocated => exact .unresolved hlocated
  | recursive hlocated hseen => exact .recursive hlocated hseen
  | limit hlocated hseen hlimit => exact .limit hlocated hseen hlimit
  | unparsable hlocated hseen hparsed => exact .unparsable hlocated hseen hparsed
  | expanded uses hlocated hseen hparsed hfst huses ih =>
    have hsnd : (uses.map Prod.snd).map (Growth.withHiding hide) =
        (uses.map fun u => (u.1, u.2.withHiding hide)).map Prod.snd := by
      rw [List.map_map, List.map_map]
      rfl
    rw [Growth.withHiding_ofChildren hide _ rfl, hsnd]
    refine .expanded _ hlocated hseen hparsed ?_ ?_
    · rw [List.map_map]
      exact hfst
    · exact List.forall_mem_map.mpr ih

theorem Grows.wrapsOne {levels : Nat} {seen : List String} {s : Site} {g : Growth}
    (h : p.Grows c levels seen s g) : g.component.WrapsOne := by
  induction h with
  | unresolved | recursive | limit | unparsable =>
    exact Component.wrapsOne_iff.mpr ⟨nofun, nofun⟩
  | @expanded levels seen s l m uses _ _ _ hfst _ ih =>
    refine Component.wrapsOne_iff.mpr ⟨?_, ?_⟩
    · intro hunwrapped
      obtain ⟨u, rfl⟩ := Module.eq_singleton_of_wraps hfst hunwrapped
      exact ⟨u.2.component, rfl⟩
    · rw [Growth.component_ofChildren, Component.children_node, List.map_map]
      exact List.forall_mem_map.mpr ih

/-- Whether components without a file are hidden or shown, a build gives one tree but for the marks,
with the same counts, faults and warnings; and hiding them shows what is left when they are taken
out of the tree. -/
theorem render_withHiding {path : String} {g : Growth} (h : (p.build c path).result = .ok g) :
    ∃ shown hidden : Growth,
      (p.build (c.withHiding false) path).result = .ok shown ∧
      (p.build (c.withHiding true) path).result = .ok hidden ∧
      (∀ hideContainers, hidden.component.render hideContainers =
        (shown.component.without (!·.resolved)).render hideContainers) ∧
      hidden.parsed = shown.parsed ∧ hidden.faults = shown.faults ∧
      hidden.warnings = shown.warnings ∧
      hidden.component.unhidden = shown.component.unhidden := by
  have hgrows := grows_of_build h
  have hshown := hgrows.withHiding false
  have hhidden := hgrows.withHiding true
  refine ⟨g.withHiding false, g.withHiding true, grow_of_grows hshown, grow_of_grows hhidden, ?_,
    rfl, rfl, ?_, ?_⟩
  · intro hideContainers
    exact congrArg Outline.text (Component.outline_withHiding hhidden.wrapsOne hideContainers)
  · rw [Growth.warnings_withHiding, Growth.warnings_withHiding]
  · exact (Component.unhidden_withHiding true g.component).trans
      (Component.unhidden_withHiding false g.component).symm

/-- What the module of a project grows into if it wraps what has no file, and that is hidden. -/
def lonelyGrowth : Growth where
  component :=
    .node { name := "A", file := "/p/A.js", resolved := true, unwrapped := true } [
      .leaf { name := "A", file := "/p/B", depth := 1, source := "./B", shownSource := "B",
              hidden := true }]
  parsed := 1

/-- A container stays what it is whether the component that it wraps is hidden or taken out. -/
theorem render_withHiding_lonely :
    ((wrapper "./B").build { base := "/p", hideThirdParty := true } "A.js").result =
        .ok lonelyGrowth ∧
      ∃ shown hidden : Growth,
        ((wrapper "./B").build { base := "/p", hideThirdParty := false } "A.js").result =
            .ok shown ∧
          ((wrapper "./B").build { base := "/p", hideThirdParty := true } "A.js").result =
            .ok hidden ∧
          (∀ hideContainers, hidden.component.render hideContainers =
            (shown.component.without (!·.resolved)).render hideContainers) ∧
          hidden.parsed = shown.parsed ∧ hidden.faults = shown.faults ∧
          hidden.warnings = shown.warnings ∧
          hidden.component.unhidden = shown.component.unhidden := by
  have hbuild : ((wrapper "./B").build { base := "/p", hideThirdParty := true } "A.js").result =
      .ok lonelyGrowth := by decide +kernel
  exact ⟨hbuild, render_withHiding hbuild⟩

end Project

end JsxOutline
