import JsxOutline.Proofs.Growth

/-!
# Builds from relative specifiers

A table of aliases is looked at for specifiers that are not relative, and for no others.  Main
statement: a tree whose components are all imported by relative specifiers is built in the same way
with every other table, an empty one among them.
-/

namespace JsxOutline

def Config.withAliases (c : Config) (t : AliasTable) : Config := { c with aliases := t }

/-! ### Sites of relative specifiers -/

/-- The specifier of a site, if it has one, is relative. -/
def Site.IsRelative (s : Site) : Prop :=
  ∀ specifier ∈ s.source, Specifier.isRelative specifier = true

theorem Site.ofRoot_isRelative (file : String) : (Site.ofRoot file).IsRelative := by
  intro specifier h
  cases h

namespace Config

theorem candidates_withAliases (c : Config) (t t' : AliasTable) {s : Site} (hs : s.IsRelative) :
    (c.withAliases t).candidates s.guess s.source s.parent =
      (c.withAliases t').candidates s.guess s.source s.parent := by
  cases hsource : s.source with
  | none => rfl
  | some specifier =>
    have hrelative := hs specifier hsource
    simp only [candidates, hrelative, Bool.or_true, if_true]
    rfl

theorem guess_withAliases (c : Config) (t t' : AliasTable) {specifier : String}
    (h : Specifier.isRelative specifier = true) (parent : String) :
    (c.withAliases t).guess specifier parent = (c.withAliases t').guess specifier parent := by
  simp only [guess, h, if_true]
  rfl

end Config

theorem Site.ofBinding_withAliases (c : Config) (t t' : AliasTable) {b : Binding}
    (h : Specifier.isRelative b.source = true) (depth : Int) (file : String) :
    ofBinding (c.withAliases t) depth file b = ofBinding (c.withAliases t') depth file b := by
  rw [ofBinding, ofBinding, c.guess_withAliases t t' h file]

/-! ### Trees of relative specifiers -/

namespace Component

/-- All components below the root are imported by relative specifiers. -/
def RelativeBelow (root : Component) : Prop :=
  ∀ n ∈ root.children.flatMap preorder, n.info.source.any Specifier.isRelative = true

instance : DecidablePred RelativeBelow := fun root =>
  inferInstanceAs (Decidable (∀ n ∈ root.children.flatMap preorder, _))

theorem RelativeBelow.child {root d : Component} (h : root.RelativeBelow) (hd : d ∈ root.children) :
    d.info.source.any Specifier.isRelative = true ∧ d.RelativeBelow := by
  have hlisted : ∀ n ∈ d.preorder, n ∈ root.children.flatMap preorder := by
    intro n hn
    exact List.mem_flatMap.mpr ⟨d, hd, hn⟩
  rw [preorder_eq d] at hlisted
  obtain ⟨hself, hbelow⟩ := List.forall_mem_cons.mp hlisted
  exact ⟨h d hself, fun n hn => h n (hbelow n hn)⟩

end Component

namespace Project

variable {p : Project} {c : Config}

theorem locateSite_withAliases (t t' : AliasTable) {s : Site} (hs : s.IsRelative) :
    p.locateSite (c.withAliases t) s = p.locateSite (c.withAliases t') s := by
  rw [locateSite, locateSite, c.candidates_withAliases t t' hs]

theorem Grows.isRelative_of_info {levels : Nat} {seen : List String} {depth : Int} {file : String}
    {b : Binding} {g : Growth} (h : p.Grows c levels seen (.ofBinding c depth file b) g)
    (hinfo : g.component.info.source.any Specifier.isRelative = true) :
    Specifier.isRelative b.source = true := by
  have hsource : g.component.info.source = some b.source := h.info_eq.2.2.1
  rw [hsource] at hinfo
  exact hinfo

/-- What grows from relative specifiers alone grows in the same way with any table. -/
theorem Grows.grow_withAliases {t : AliasTable} {levels : Nat} {seen : List String} {s : Site}
    {g : Growth} (h : p.Grows (c.withAliases t) levels seen s g) (t' : AliasTable)
    (hs : s.IsRelative) (hbelow : g.component.RelativeBelow) :
    p.grow (c.withAliases t') levels seen s = p.grow (c.withAliases t) levels seen s := by
  induction levels using Nat.strongRecOn generalizing seen s g with
  | ind levels ih =>
    rw [grow.eq_def, grow.eq_def, locateSite_withAliases t' t hs]
    refine Outcome.bind_congr_of_ok ?_
    intro found hlocated
    cases found with
    | none => rfl
    | some l =>
      simp only [List.contains_iff_mem]
      by_cases hseen : l.file ∈ seen
      · rw [if_pos hseen, if_pos hseen]
      · rw [if_neg hseen, if_neg hseen]
        cases levels with
        | zero => rfl
        | succ levels =>
          refine Outcome.bind_congr_of_ok ?_
          intro parsed hparsed
          cases parsed with
          | error fault => rfl
          | ok m =>
            have hmodule : (Module.parse p.parser l.source l.file).result = .ok m :=
              Except.ok.inj hparsed
            obtain ⟨uses, hfst, huses, rfl⟩ := h.of_parsed hlocated hseen hmodule
            -- each binding is that of a child in the tree, so its specifier is relative
            have hchildren : ∀ b ∈ m.childBindings.1,
                p.grow (c.withAliases t') levels (l.file :: seen)
                    (.ofBinding (c.withAliases t') (s.depth + 1) l.file b) =
                  p.grow (c.withAliases t) levels (l.file :: seen)
                    (.ofBinding (c.withAliases t) (s.depth + 1) l.file b) := by
              intro b hb
              rw [← hfst] at hb
              obtain ⟨u, hu, rfl⟩ := List.mem_map.mp hb
              have hgrows := huses u hu
              have hmem : u.2.component ∈ (Growth.ofChildren
                  { s.info l.file with resolved := true, unwrapped := m.childBindings.2 }
                  (uses.map Prod.snd)).component.children :=
                List.mem_map_of_mem (List.mem_map_of_mem hu)
              obtain ⟨hspecifier, hdeeper⟩ := hbelow.child hmem
              have hrelative := hgrows.isRelative_of_info hspecifier
              rw [Site.ofBinding_withAliases c t' t hrelative]
              refine ih levels (Nat.lt_succ_self _) hgrows ?_ hdeeper
              rintro _ ⟨⟩
              exact hrelative
            dsimp only
            rw [Outcome.mapM_congr hchildren]

/-- If all components below the root of a tree are imported by relative specifiers, building with
another table of aliases gives that tree again, with the same counts, faults and events. -/
theorem build_withAliases {t : AliasTable} {path : String} {g : Growth}
    (h : (p.build (c.withAliases t) path).result = .ok g) (hbelow : g.component.RelativeBelow)
    (t' : AliasTable) : p.build (c.withAliases t') path = p.build (c.withAliases t) path :=
  (grows_of_build h).grow_withAliases t' (Site.ofRoot_isRelative _) hbelow

/-- What the module of a project grows into if it wraps its own file by a relative specifier. -/
def selfGrowth : Growth where
  component :=
    .node { name := "A", file := "/p/A.js", resolved := true, unwrapped := true } [
      .leaf { name := "A", file := "/p/A.js", depth := 1, source := "./A", shownSource := "A",
              resolved := true, recursive := true }]
  parsed := 1

/-- A table with an alias for the first part of the specifier changes nothing, nor does no table. -/
theorem build_withAliases_dot :
    ((wrapper "./A").build (Config.withAliases { base := "/p" } []) "A.js").result =
        .ok selfGrowth ∧
      (wrapper "./A").build (Config.withAliases { base := "/p" } [(".", some "/q")]) "A.js" =
        (wrapper "./A").build (Config.withAliases { base := "/p" } []) "A.js" := by
  have hbuild : ((wrapper "./A").build (Config.withAliases { base := "/p" } []) "A.js").result =
      .ok selfGrowth := by decide +kernel
  exact ⟨hbuild, build_withAliases hbuild (by decide +kernel) _⟩

end Project

end JsxOutline
