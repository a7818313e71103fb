import JsxOutline.Proofs.Growth

/-!
# States of components

What the fields of a component say about its place in a tree.  Main statement: they agree with the
place of every component of a tree that was built.
-/

namespace JsxOutline

namespace Component

/-- The marks of a component agree with each other and with the files above it. -/
structure Marked (c : Config) (files : List String) (n : Component) : Prop where
  hidden_iff : n.info.hidden = true ↔ n.info.resolved = false ∧ c.hideThirdParty = true
  recursive_iff : n.info.recursive = true ↔ n.info.resolved = true ∧ n.info.file ∈ files
  error : n.info.error ≠ none →
    n.info.resolved = true ∧ n.info.recursive = false ∧ c.looksInto n.info.depth = true
  leaf : n.info.resolved = false ∨ n.info.recursive = true ∨ n.info.error ≠ none ∨
      c.looksInto n.info.depth = false →
    n.children = [] ∧ n.info.unwrapped = false
  unwrapped : n.info.unwrapped = true → ∃ d, n.children = [d]

/-- The fields of a component agree with its place below some components, the nearest first. -/
structure Placed (c : Config) (above : List Component) (n : Component) : Prop where
  root : above = [] →
    n.info.depth = 0 ∧ n.info.source = none ∧ n.info.shownSource = none
  below : ∀ parent ∈ above.head?,
    n.info.depth = parent.info.depth + 1 ∧ n.info.source ≠ none ∧ n.info.shownSource ≠ none
  marked : n.Marked c (above.map (·.info.file))

end Component

namespace Module

theorem childBindings_of_wraps {m : Module} (h : m.childBindings.2 = true) :
    ∃ b, m.childBindings.1 = [b] := by
  unfold childBindings at h ⊢
  dsimp only at h ⊢
  split
  · next hreact => simp [hreact] at h
  · next hreact =>
    cases hwrapped : m.wrappedImport? m.imports with
    | none => simp [hreact, hwrapped] at h
    | some b => exact ⟨b, rfl⟩

theorem eq_singleton_of_wraps {m : Module} {α : Type} {uses : List (Binding × α)}
    (hfst : uses.map Prod.fst = m.childBindings.1) (h : m.childBindings.2 = true) :
    ∃ u, uses = [u] := by
  obtain ⟨b, hb⟩ := childBindings_of_wraps h
  rw [hb] at hfst
  obtain ⟨u, hu, -⟩ := List.map_eq_singleton_iff.mp hfst
  exact ⟨u, hu⟩

end Module

namespace Project

variable {p : Project} {c : Config}

/-- What a site grows into is marked as the files above it and the levels that are left say. -/
theorem Grows.marked {levels : Nat} {seen : List String} {s : Site} {g : Growth}
    (h : p.Grows c levels seen s g)
    (inside : levels ≠ 0 → c.looksInto s.depth = true)
    (outside : levels = 0 → c.scanDepth.isSome = true → c.looksInto s.depth = false) :
    g.component.Marked c seen := by
  cases h with
  | unresolved _ =>
    refine ⟨?_, ?_, ?_, ?_, ?_⟩ <;> simp [Site.info]
  | recursive _ hseen =>
    refine ⟨?_, ?_, ?_, ?_, ?_⟩ <;> simp [Site.info, hseen]
  | limit _ hseen hlimit =>
    refine ⟨?_, ?_, ?_, ?_, ?_⟩ <;> simp [Site.info, hseen]
  | unparsable _ hseen _ =>
    have hinside := inside (Nat.succ_ne_zero _)
    refine ⟨?_, ?_, ?_, ?_, ?_⟩ <;> simp [Site.info, hseen, hinside]
  | @expanded _ _ _ l m uses _ hseen _ hfst _ =>
    have hinside := inside (Nat.succ_ne_zero _)
    refine ⟨?_, ?_, ?_, ?_, ?_⟩
    · simp [Site.info]
    · simp [Site.info, hseen]
    · simp [Site.info]
    · simp [Site.info, hinside]
    · intro hunwrapped
      obtain ⟨u, rfl⟩ := Module.eq_singleton_of_wraps hfst hunwrapped
      exact ⟨u.2.component, rfl⟩

/-- Each component of a tree that was built agrees with its place. -/
theorem placed_of_build {path : String} {g : Growth} (h : (p.build c path).result = .ok g)
    {above : List Component} {n : Component} (hn : g.component.Occurs above n) :
    n.Placed c above := by
  have hroot := grows_of_build h
  obtain ⟨rest, t, gn, hgrows, rfl, hlevels, hsite⟩ := hroot.of_occurs hn
  obtain ⟨-, hdepth, hsource, hshown⟩ := hgrows.info_eq
  have hlength : t.depth = above.length := by
    rw [← hdepth, hroot.depth_of_occurs hn]
    exact Int.zero_add _
  refine ⟨?_, ?_, ?_⟩
  · rintro rfl
    subst hsite
    exact ⟨hdepth, hsource, hshown⟩
  · intro parent hparent
    obtain ⟨higher, rfl⟩ := List.head?_eq_some_iff.mp hparent
    obtain ⟨-, _, _, b, -, -, -, rfl⟩ := hsite
    rw [hdepth, hsource, hshown]
    exact ⟨rfl, Option.some_ne_none _, Option.some_ne_none _⟩
  · rw [← List.append_nil (above.map _)]
    refine hgrows.marked ?_ ?_
    · intro hne
      obtain ⟨levels, rfl⟩ := Nat.exists_eq_succ_of_ne_zero hne
      rw [hlength]
      exact looksInto_of_levels_left hlevels
    · rintro rfl hlimit
      rw [hlength]
      exact looksInto_of_no_levels_left hlevels hlimit

theorem placed_of_build_aliased :
    ((wrapper "@/A").build aliased "A.js").result = .ok aliasedGrowth ∧
      ∀ above n, aliasedGrowth.component.Occurs above n → n.Placed aliased above :=
  ⟨build_aliased, fun _ _ hn => placed_of_build build_aliased hn⟩

end Project

end JsxOutline
