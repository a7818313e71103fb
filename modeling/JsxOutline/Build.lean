import JsxOutline.Component
import JsxOutline.Locating
import JsxOutline.Module.Usage
import JsxOutline.Module.Wrapping

/-!
# Building trees of components

A component is located, its module is parsed, and the components that it uses or wraps become its
children.  A component that has no file, that stands below itself, or that lies at the scan depth is
not looked into; a module that cannot be used ends only its own branch.
-/

namespace JsxOutline

/-! ### Sites -/

structure Site where
  name : String
  /-- The path that is guessed for the component. -/
  guess : String
  depth : Int := 0
  source : Option String := none
  shownSource : Option String := none
  /-- The file in which the component is used. -/
  parent : Option String := none

/-- How the names of components' files end. -/
def componentEndings : List String := [".jsx", ".js"]

/-- The name of the component in a file: the name of the file without its ending. -/
def componentName (file : String) : String :=
  let base := Path.base file
  match componentEndings.find? fun e => e.toList.isSuffixOf base.toList with
  | some e => .ofList (base.toList.take (base.length - e.length))
  | none => base

namespace Site

def ofRoot (file : String) : Site := { name := componentName file, guess := file }

def ofBinding (c : Config) (depth : Int) (file : String) (b : Binding) : Site :=
  let (guess, shown) := c.guess b.source file
  { name := b.name, guess, depth, source := b.source, shownSource := shown, parent := file }

def info (s : Site) (file : String) : Component.Info :=
  { name := s.name, file, depth := s.depth, source := s.source, shownSource := s.shownSource }

/-- What is told of a component that has no file. -/
def wanted (s : Site) : String :=
  match s.source with
  | none | some "" => s.guess
  | some source => source

end Site

/-! ### Growth -/

/-- A component with what was met while it grew. -/
structure Growth where
  component : Component
  /-- How many modules were parsed. -/
  parsed : Nat := 0
  /-- The modules that could not be parsed. -/
  faults : List SyntaxFault := []
deriving DecidableEq, Repr

inductive BuildFault where
  | undecodable
  /-- No depth was set, and the tree does not end. -/
  | endless
deriving DecidableEq, Repr

def BuildFault.message : BuildFault → String
  | undecodable => "a file does not hold text of the encoding that its byte order mark says"
  | endless => "the tree of components does not end"

/-- How many levels a tree without a scan depth may have. -/
def maxLevels : Nat := 1000

namespace Module

/-- The imports that are the children of a module's component, and whether the module wraps them. -/
def childBindings (m : Module) : List Binding × Bool :=
  let imports := m.imports
  if Binding.hasReact imports then (m.usedImports imports, false)
  else match m.wrappedImport? imports with
    | some b => ([b], true)
    | none => ([], false)

theorem mem_imports_of_mem_childBindings {m : Module} {b : Binding}
    (h : b ∈ m.childBindings.1) : b ∈ m.imports := by
  unfold childBindings at h
  dsimp only at h
  split at h
  · exact mem_of_mem_usedImports h
  · split at h
    · next hwrapped =>
      rw [List.mem_singleton.mp h]
      exact mem_of_wrappedImport? hwrapped
    · cases h

end Module

namespace Growth

def ofInfo (i : Component.Info) : Growth := { component := .leaf i }

/-- A component whose module has been parsed, with the growth of its children. -/
def ofChildren (i : Component.Info) (gs : List Growth) : Growth where
  component := .node i (gs.map (·.component))
  parsed := gs.foldl (fun n g => n + g.parsed) 1
  faults := gs.flatMap (·.faults)

/-- A component whose module cannot be parsed. -/
def ofFault (i : Component.Info) (fault : SyntaxFault) : Growth where
  component := .leaf { i with error := some fault.message }
  faults := [fault]

@[simp] theorem component_ofInfo (i : Component.Info) : (ofInfo i).component = .leaf i := rfl
@[simp] theorem component_ofChildren (i : Component.Info) (gs : List Growth) :
    (ofChildren i gs).component = .node i (gs.map (·.component)) := rfl
@[simp] theorem component_ofFault (i : Component.Info) (fault : SyntaxFault) :
    (ofFault i fault).component = .leaf { i with error := some fault.message } := rfl

end Growth

namespace Project

def locateSite (p : Project) (c : Config) (s : Site) : Outcome BuildFault (Option Located) :=
  (p.locate s.name (c.candidates s.guess s.source s.parent)).mapError fun _ => .undecodable

/-- Grows the component of a site through so many levels; `above` holds the files of the components
above it. -/
def grow (p : Project) (c : Config) (levels : Nat) (above : List String) (s : Site) :
    Outcome BuildFault Growth := do
  match ← p.locateSite c s with
  | none =>
    Outcome.tell (.unresolved s.name s.wanted)
    return .ofInfo { s.info s.guess with hidden := c.hideThirdParty }
  | some located =>
    let file := located.file
    let info := { s.info file with resolved := true }
    if above.contains file then
      Outcome.tell (.recursion file)
      return .ofInfo { info with recursive := true }
    else match levels with
      | 0 => if c.scanDepth.isSome then return .ofInfo info else Outcome.fail .endless
      | levels + 1 =>
        match ← (Module.parse p.parser located.source file).attempt with
        | .error fault =>
          Outcome.tell (.unparsable fault)
          return .ofFault info fault
        | .ok m =>
          let (bindings, unwrapped) := m.childBindings
          let gs ← bindings.mapM fun b =>
            p.grow c levels (file :: above) (.ofBinding c (s.depth + 1) file b)
          return .ofChildren { info with unwrapped } gs

/-! ### Reports -/

def rootFile (p : Project) (c : Config) (path : String) : String :=
  Path.absolute p.files.currentPath (Path.join c.base path)

def build (p : Project) (c : Config) (path : String) : Outcome BuildFault Growth :=
  p.grow c (c.levels?.getD maxLevels) [] (.ofRoot (p.rootFile c path))

end Project

namespace Growth

/-- What is wrong with a tree as a whole. -/
def warnings (g : Growth) : List String :=
  (if g.component.info.resolved then [] else [s!"Root file not found: {g.component.info.file}"])
    ++ if g.faults.isEmpty then []
      else [s!"{g.faults.length} file(s) couldn't be parsed; their subtrees are incomplete"]

end Growth

end JsxOutline
