import JsxOutline.Build
import JsxOutline.Command.Help
import JsxOutline.Component.Json
import JsxOutline.Outline

/-!
# Runs of the command

A run reads the arguments, builds the tree below the root file, and prints it or stores it.  It tells
on the error stream what went wrong, and by its code whether components were found.
-/

namespace JsxOutline.Command

/-- What a run leaves behind. -/
structure Exit where
  code : Nat
  output : List String := []
  /-- The lines of the error stream. -/
  errors : List String := []
  files : FileSystem

/-- What is told when the root has no components. -/
def emptyMessage : String := "Could not find any components. Did you process the right file?"

def config (files : FileSystem) (o : Options) (aliases : Table String) : Config where
  scanDepth := o.scanDepth
  hideThirdParty := o.hideThirdParty
  moduleDirectory := o.moduleDirectory.map (Path.resolve files.currentPath)
  aliases := AliasTable.ofPaths aliases
  base := files.currentPath

/-- The tree that some options ask for. -/
def grow (p : Project) (o : Options) (root : String) : Outcome BuildFault Growth := do
  let aliases ← (AliasTable.load p.parser p.files o.aliasing).mapError fun _ => .undecodable
  p.build (config p.files o aliases) root

def logLines (o : Options) (log : List Event) : List String :=
  (log.filter (Event.isShown o.verbose)).map Event.line

/-- Prints or stores a tree that has components; `errors` holds the lines told so far. -/
def present (files : FileSystem) (o : Options) (c : Component) (errors : List String) : Exit :=
  if o.json then
    let (files, stored) := Component.store files c files.currentPath
    let errors := errors ++ logLines o stored.log
    match stored.result with
    | .ok path => { code := 0, output := ["Component tree written: " ++ path], errors, files }
    | .error fault =>
      { code := 1, errors := errors ++ ["Error: Could not write JSON output: " ++ fault.message], files }
  else { code := 0, output := [c.render o.hideContainers], errors, files }

def execute (p : Project) (o : Options) : Except BuildFault Exit :=
  let files := p.files
  let root := Path.below files.currentPath o.root
  if files.isFile root then
    let grown := grow p o root
    match grown.result with
    | .error fault => .error fault
    | .ok g =>
      let errors := logLines o grown.log ++ g.faults.map fun f => "Error: " ++ f.message
      if g.component.isLeaf then .ok { code := 1, errors := errors ++ [emptyMessage], files }
      else .ok (present files o g.component errors)
  else .ok { code := 1, errors := ["Error: Root component does not exist: " ++ root], files }

def run (p : Project) (args : List String) : Except BuildFault Exit :=
  match parseArguments args with
  | .ok o => execute p o
  | .error .help => .ok { code := 0, output := helpLines, files := p.files }
  | .error .version =>
    .ok { code := 0, output := [s!"{programName} {programVersion}"], files := p.files }
  | .error (.fault f) =>
    .ok { code := 2, errors := [usage, s!"{programName}: error: {f.message}"], files := p.files }

def stream (lines : List String) : String := String.join (lines.map (· ++ "\n"))

end JsxOutline.Command
