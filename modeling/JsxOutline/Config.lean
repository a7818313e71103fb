import JsxOutline.Alias
import JsxOutline.Path

/-!
# Configurations

What a tree of components is built with, and what follows from it alone: where a component may be
found and how its directory is shown.
-/

namespace JsxOutline

structure Config where
  /-- Components at this depth or deeper are not looked into. -/
  scanDepth : Option Int := none
  /-- Whether components without a file are hidden. -/
  hideThirdParty : Bool := false
  /-- A directory that is searched in place of that of the importing file. -/
  moduleDirectory : Option String := none
  aliases : AliasTable := []
  /-- The directory that aliases and shown paths start from. -/
  base : String := "."
deriving Repr

/-! ### Names of files -/

/-- What may follow a path in the name of a module's file, in the order of preference. -/
def moduleEndings : List String := ["", ".js", ".jsx", "/index.js", "/index.jsx"]

/-- The names of files that a path may stand for. -/
def expansions (path : String) : List String := moduleEndings.map (path ++ ·)

theorem expansions_eq (path : String) :
    expansions path = path :: moduleEndings.tail.map (path ++ ·) := by
  simp [expansions, moduleEndings]

namespace Config

def aliasedPath (c : Config) (source : String) : String := Path.join c.base (c.aliases.resolve source)

/-- A path below the directory of a parent, moved into the module directory. -/
def movedPath? (c : Config) (path : String) (parent : Option String) : Option String := do
  let moduleDirectory ← c.moduleDirectory
  let start := (Path.directory (← parent)).toList
  if start.isPrefixOf path.toList then
    some (moduleDirectory ++ .ofList (path.toList.drop start.length))
  else none

/-- The names of files in which a component may be found, in the order in which they are tried: by
its alias, by the path that is guessed for it, and by that path in the module directory. -/
def candidates (c : Config) (guess : String) (source parent : Option String) : List String :=
  let aliased := match source with
    | some s => if c.aliases.isEmpty || Specifier.isRelative s then [] else expansions (c.aliasedPath s)
    | none => []
  let moved := (c.movedPath? guess parent).toList.flatMap expansions
  aliased ++ expansions guess ++ moved

/-- The path that is guessed for a specifier in a file, with the text that is shown for it. -/
def guess (c : Config) (source parent : String) : String × String :=
  let dir := Path.directory parent
  if Specifier.isRelative source then
    let path := Path.normalize (Path.join dir source)
    (path, Path.relativeTo c.base path)
  else if c.aliases.isEmpty then (Path.join dir source, source)
  else
    let path := Path.normalize (c.aliasedPath source)
    (path, Path.relativeTo c.base path)

def looksInto (c : Config) (depth : Int) : Bool := c.scanDepth.all (depth < ·)

/-- How many levels of components are looked into, if there is a limit. -/
def levels? (c : Config) : Option Nat := c.scanDepth.map Int.toNat

theorem looksInto_iff_of_levels? {c : Config} {levels : Nat} (h : c.levels? = some levels)
    (depth : Nat) : c.looksInto depth = true ↔ depth < levels := by
  obtain ⟨limit, hlimit, rfl⟩ := Option.map_eq_some_iff.mp h
  simp only [looksInto, hlimit, Option.all_some, decide_eq_true_eq]
  omega

theorem looksInto_of_levels?_eq_none {c : Config} (h : c.levels? = none) (depth : Int) :
    c.looksInto depth = true := by
  rw [looksInto, Option.map_eq_none_iff.mp h, Option.all_none]

end Config

end JsxOutline
