/-!
# Switches

The switches of the command line: how each is spelled, whether it takes a value, and what it is for.
Main statement: no two switches share a spelling.
-/

namespace JsxOutline.Command

inductive Switch where
  | help
  | version
  | aliasing
  | hideContainers
  | scanDepth
  | json
  | moduleDirectory
  | hideThirdParty
  | verbose
deriving DecidableEq, Repr

namespace Switch

def all : List Switch :=
  [help, version, aliasing, hideContainers, scanDepth, json, moduleDirectory, hideThirdParty, verbose]

def names : Switch → List String
  | help => ["-h", "--help"]
  | version => ["--version"]
  | aliasing => ["--aliasing", "-a"]
  | hideContainers => ["--hide-containers", "-c"]
  | scanDepth => ["--scan-depth", "-d"]
  | json => ["--json", "-j"]
  | moduleDirectory => ["--module-dir", "-m"]
  | hideThirdParty => ["--hide-third-party", "-t"]
  | verbose => ["--verbose", "-v"]

/-- What stands for the value of a switch, if it takes one. -/
def valueName? : Switch → Option String
  | aliasing => some "CONFIG"
  | scanDepth => some "DEPTH"
  | moduleDirectory => some "DIR"
  | _ => none

def takesValue (s : Switch) : Bool := s.valueName?.isSome

def purpose : Switch → String
  | help => "show this help message and exit"
  | version => "show program's version number and exit"
  | aliasing => "Path to a Webpack config (or JSON file) for module alias definitions"
  | hideContainers => "Hide redux container components"
  | scanDepth => "Limit the depth of the component hierarchy that is displayed"
  | json => "Output graph to data.json instead of printing it on screen"
  | moduleDirectory => "Path to additional modules not included in node_modules e.g. src"
  | hideThirdParty => "Hide third party components"
  | verbose => "Enable verbose logging"

def spellings : List (String × Switch) := all.flatMap fun s => s.names.map (·, s)

def ofName? (name : String) : Option Switch := spellings.lookup name

/-- A switch as it is named in messages. -/
def title (s : Switch) : String := "/".intercalate s.names

theorem nodup_spellings : (spellings.map Prod.fst).Nodup := by decide

end Switch

end JsxOutline.Command
