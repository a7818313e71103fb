import JsxOutline.Command.Switch
import JsxOutline.Path
import JsxOutline.Text.Numeral
import JsxOutline.Text.Quoted

/-!
# Arguments

Arguments are first told apart: switches with their values, plain words, and the two dashes after
which all words are plain.  Then they are read from left to right.  A long switch may be shortened as
long as no other begins alike, and short ones may share a dash.
-/

namespace JsxOutline.Command

open JsxOutline.Text

/-! ### Faults -/

/-- Why arguments cannot be used. -/
inductive UsageFault where
  | ambiguous (word : String) (candidates : List String)
  | unexpectedValue (s : Switch) (value : String)
  | missingValue (s : Switch)
  | invalidDepth (value : String)
  | missingRoot
  | unrecognized (words : List String)
deriving DecidableEq, Repr

def UsageFault.message : UsageFault → String
  | ambiguous word candidates =>
    s!"ambiguous option: {word} could match " ++ ", ".intercalate candidates
  | unexpectedValue s value =>
    s!"argument {s.title}: ignored explicit argument " ++ Quoted.ofString value
  | missingValue s => s!"argument {s.title}: expected one argument"
  | invalidDepth value =>
    s!"argument {Switch.scanDepth.title}: invalid depth: " ++ Quoted.ofString value
  | missingRoot => "the following arguments are required: root_component"
  | unrecognized words => "unrecognized arguments: " ++ " ".intercalate words

/-! ### Telling arguments apart -/

/-- What is written with a switch in one word. -/
inductive Attached where
  | nothing
  /-- A value after an equals sign. -/
  | value (text : String)
  /-- Letters after a single dash and the letter of the switch. -/
  | letters (cs : List Char)
deriving DecidableEq, Repr

inductive Word where
  | plain (text : String)
  /-- The two dashes after which all words are plain. -/
  | dashes
  | switch (s : Switch) (attached : Attached)
  /-- What looks like a switch and is none. -/
  | unknown (text : String)
deriving DecidableEq, Repr

/-- Whether a word is a negative number, whole or with a point. -/
def isNegativeNumber (word : String) : Bool :=
  match word.toList with
  | '-' :: rest =>
    let rest := if rest.getLast? = some '\n' then rest.dropLast else rest
    let isDigit (c : Char) : Bool := (Numeral.digit? c).isSome
    match rest.dropWhile isDigit with
    | [] => !rest.isEmpty
    | '.' :: part => !part.isEmpty && part.all isDigit
    | _ => false
  | _ => false

def splitValue (word : String) : String × Option String :=
  let s := word.toList
  match s.dropWhile (· != '=') with
  | _ :: value => (.ofList (s.takeWhile (· != '=')), some (.ofList value))
  | [] => (word, none)

/-- The switch that a shortened or joined word stands for. -/
def abbreviation? (word : String) : Except UsageFault (Option Word) :=
  match word.toList with
  | '-' :: '-' :: _ =>
    let (name, value) := splitValue word
    match Switch.spellings.filter fun e => name.toList.isPrefixOf e.1.toList with
    | [] => .ok none
    | [(_, s)] => .ok (some (.switch s ((value.map .value).getD .nothing)))
    | several => .error (.ambiguous word (several.map Prod.fst))
  | '-' :: c :: cs =>
    .ok ((Switch.ofName? (.ofList ['-', c])).map fun s => .switch s (.letters cs))
  | _ => .ok none

/-- The role of an argument before the two dashes. -/
def Word.ofString (word : String) : Except UsageFault Word := do
  let s := word.toList
  if s.head? != some '-' then return .plain word
  if let some sw := Switch.ofName? word then return .switch sw .nothing
  if s.length = 1 then return .plain word
  if let (name, some value) := splitValue word then
    if let some sw := Switch.ofName? name then return .switch sw (.value value)
  if let some found := ← abbreviation? word then return found
  if isNegativeNumber word || s.contains ' ' then return .plain word
  return .unknown word

def classify : List String → Except UsageFault (List Word)
  | [] => .ok []
  | word :: rest =>
    if word = "--" then .ok (.dashes :: rest.map .plain)
    else do return (← Word.ofString word) :: (← classify rest)

/-! ### Reading arguments -/

structure Options where
  root : String := "."
  aliasing : Option String := none
  hideContainers : Bool := false
  scanDepth : Option Int := none
  json : Bool := false
  moduleDirectory : Option String := none
  hideThirdParty : Bool := false
  verbose : Bool := false
deriving DecidableEq, Repr

/-- What arguments may lead to other than a run. -/
inductive Ending where
  | help
  | version
  | fault (f : UsageFault)
deriving DecidableEq, Repr

structure Draft where
  options : Options := {}
  hasRoot : Bool := false
  /-- Whether the last word was the root. -/
  afterRoot : Bool := false
  /-- The words that stand for nothing. -/
  extras : List String := []
  /-- A switch whose value comes next, after the switches that share its dash. -/
  waiting : Option (List (Switch × String) × Switch) := none

/-- Notes a word as the root, or as one too many. -/
def Draft.addPlain (d : Draft) (word : String) : Draft :=
  if d.hasRoot then { d with extras := d.extras ++ [word], afterRoot := false }
  else
    { d with options := { d.options with root := Path.tidy word }, hasRoot := true, afterRoot := true }

/-- Notes a word that stands for nothing. -/
def Draft.addExtra (d : Draft) (word : String) : Draft :=
  { d with extras := d.extras ++ [word], afterRoot := false }

/-- Follows a switch; the value is empty for one that takes none. -/
def Draft.follow (d : Draft) (s : Switch) (value : String) : Except Ending Draft :=
  let o := d.options
  match s with
  | .help => .error .help
  | .version => .error .version
  | .aliasing => .ok { d with options := { o with aliasing := some value } }
  | .hideContainers => .ok { d with options := { o with hideContainers := true } }
  | .scanDepth =>
    match Numeral.read? value with
    | some depth => .ok { d with options := { o with scanDepth := some (max depth 1) } }
    | none => .error (.fault (.invalidDepth value))
  | .json => .ok { d with options := { o with json := true } }
  | .moduleDirectory => .ok { d with options := { o with moduleDirectory := some (Path.tidy value) } }
  | .hideThirdParty => .ok { d with options := { o with hideThirdParty := true } }
  | .verbose => .ok { d with options := { o with verbose := true } }

/-- What the switches of a word come to. -/
structure Bundle where
  /-- Switches with their values. -/
  done : List (Switch × String) := []
  /-- A last switch whose value is still to come. -/
  last : Option Switch := none
  /-- Letters at the end that are no switches. -/
  extra : Option String := none

def Bundle.cons (s : Switch) (b : Bundle) : Bundle := { b with done := (s, "") :: b.done }

def Bundle.single (s : Switch) : Bundle :=
  if s.takesValue then { last := some s } else { done := [(s, "")] }

/-- A switch with a value after an equals sign. -/
def Bundle.withValue (s : Switch) (value : String) : Except UsageFault Bundle :=
  if s.takesValue then .ok { done := [(s, value)] } else .error (.unexpectedValue s value)

/-- A switch with letters after it: its value, or further switches. -/
def Bundle.withLetters (s : Switch) : List Char → Except UsageFault Bundle
  | [] => .ok (.single s)
  | c :: cs =>
    if s.takesValue then .ok { done := [(s, .ofList (c :: cs))] }
    else if c = '-' then .error (.unexpectedValue s (.ofList (c :: cs)))
    else match Switch.ofName? (.ofList ['-', c]), cs with
      | none, _ => .ok { done := [(s, "")], extra := some (.ofList ('-' :: c :: cs)) }
      | some next, '=' :: value => (withValue next (.ofList value)).map (cons s)
      | some next, _ => (withLetters next cs).map (cons s)

/-- The switches of a word. -/
def Bundle.ofWord (s : Switch) : Attached → Except UsageFault Bundle
  | .nothing => .ok (.single s)
  | .value text => Bundle.withValue s text
  | .letters cs => Bundle.withLetters s cs

/-- Follows the switches of a bundle whose values are known. -/
def Draft.followAll (d : Draft) (switches : List (Switch × String)) : Except Ending Draft :=
  switches.foldlM (fun d (s, value) => d.follow s value) d

def Draft.step (d : Draft) (w : Word) : Except Ending Draft :=
  match d.waiting, w with
  | some (done, s), .plain text => { d with waiting := none }.followAll (done ++ [(s, text)])
  | some (_, s), _ => .error (.fault (.missingValue s))
  | none, .plain text => .ok (d.addPlain text)
  | none, .dashes => .ok (if d.hasRoot && !d.afterRoot then d.addExtra "--" else d)
  | none, .unknown text => .ok (d.addExtra text)
  | none, .switch s attached => do
    let b ← (Bundle.ofWord s attached).mapError .fault
    let d := { d with afterRoot := false, extras := d.extras ++ b.extra.toList }
    match b.last with
    | some last => return { d with waiting := some (b.done, last) }
    | none => d.followAll b.done

def parseArguments (args : List String) : Except Ending Options := do
  let words ← (classify args).mapError .fault
  let d ← words.foldlM Draft.step {}
  if let some (_, s) := d.waiting then throw (.fault (.missingValue s))
  if !d.hasRoot then throw (.fault .missingRoot)
  if !d.extras.isEmpty then throw (.fault (.unrecognized d.extras))
  return d.options

end JsxOutline.Command
