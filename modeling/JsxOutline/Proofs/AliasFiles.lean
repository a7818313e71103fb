import JsxOutline.Proofs.Directories
import JsxOutline.Proofs.NestedPaths
import JsxOutline.Proofs.StaticAliases
import JsxOutline.Proofs.Telling
import JsxOutline.Proofs.TextFiles

/-!
# Files of aliases

What can become of the file of a configuration, and what is told of it.  Main statement: a table is
loaded just as it is read; if it cannot be read because of a fault in the configuration, the table
is empty and one warning names the fault; and only a file whose bytes are not what their mark says
ends the work.
-/

namespace JsxOutline

/-! ### Tidy paths -/

namespace Path

theorem kept_ofNames {slashes : String} {names : List String}
    (hslashes : slashes = "" ∨ slashes = "/" ∨ slashes = "//")
    (h : ∀ name ∈ names, name ≠ "" ∧ name ≠ "." ∧ '/' ∉ name.toList) :
    kept (ofNames slashes names) = names := by
  have hnames : kept ("/".intercalate names) = names := by
    cases names with
    | nil => rfl
    | cons name rest =>
      rw [kept, split_intercalate (List.cons_ne_nil _ _) fun n hn => (h n hn).2.2,
        List.filter_eq_self]
      intro n hn
      simp [(h n hn).1, (h n hn).2.1]
  have hslash : ∀ path, kept ("/" ++ path) = kept path := by
    intro path
    rw [kept, split_slash]
    rfl
  rcases hslashes with rfl | rfl | rfl
  · rw [ofNames, String.empty_append]
    split
    · next hempty =>
      rw [hempty] at hnames
      exact hnames
    · exact hnames
  · rw [ofNames_of_ne_empty (by decide), hslash, hnames]
  · have htwo : "//" ++ "/".intercalate names = "/" ++ ("/" ++ "/".intercalate names) := by
      rw [← String.append_assoc]
      rfl
    rw [ofNames_of_ne_empty (by decide), htwo, hslash, hslash, hnames]

/-- A path that is tidy stays as it is. -/
theorem tidy_tidy (path : String) : tidy (tidy path) = tidy path := by
  have hroot : root path = "" ∨ root path = "/" ∨ root path = "//" := by
    cases h : isAbsolute path with
    | false => exact .inl (root_of_relative h)
    | true => exact .inr (root_of_isAbsolute h)
  have hkept : ∀ name ∈ kept path, name ≠ "" ∧ name ≠ "." ∧ '/' ∉ name.toList := by
    intro name hname
    obtain ⟨hmem, hname⟩ := List.mem_filter.mp hname
    simp only [Bool.and_eq_true, bne_iff_ne] at hname
    exact ⟨hname.1, hname.2, no_slash_of_mem_split hmem⟩
  have htidy : tidy path = ofNames (root path) (kept path) := rfl
  have hsame : kept (tidy path) = kept path := by rw [htidy, kept_ofNames hroot hkept]
  have hrootSame : root (tidy path) = root path := by
    rw [htidy, root_ofNames hroot fun name hname => ⟨(hkept name hname).1, (hkept name hname).2.2⟩]
  calc tidy (tidy path) = ofNames (root (tidy path)) (kept (tidy path)) := rfl
    _ = tidy path := by rw [hsame, hrootSame, htidy]

end Path

namespace AliasTable

variable {parser : Parser} {files : FileSystem} {path : String}

/-! ### Reading -/

def Contains (files : FileSystem) (path source : String) : Prop :=
  files.readText (Path.tidy path) = .ok source

/-- A configuration is a module, by the ending of its name. -/
def IsModuleFile (path : String) : Prop := Path.extension (Path.tidy path) ∈ moduleExtensions

instance (path : String) : Decidable (IsModuleFile path) := inferInstanceAs (Decidable (_ ∈ _))

/-- What can come of reading a configuration. -/
inductive Reads (parser : Parser) (files : FileSystem) (path : String) :
    Outcome SourceFault (Table String) → Prop
  | unreadable {fault : FileFault} : files.read (Path.tidy path) = .error fault →
      Reads parser files path ⟨.error (.refused (.unreadable (Path.tidy path) fault)), []⟩
  | undecodable {bytes : List UInt8} : files.read (Path.tidy path) = .ok bytes →
      Text.Garbled bytes → Reads parser files path ⟨.error .undecodable, []⟩
  | unparsable {source : String} {fault : SyntaxFault} : Contains files path source →
      IsModuleFile path → (Module.parse parser source (Path.tidy path)).result = .error fault →
      Reads parser files path ⟨.error (.refused (.unparsable fault)), []⟩
  | module {source : String} {m : Module} : Contains files path source → IsModuleFile path →
      (Module.parse parser source (Path.tidy path)).result = .ok m →
      Reads parser files path ⟨.ok (ofModule (Path.parent (Path.tidy path)) m),
        (Module.parse parser source (Path.tidy path)).log⟩
  | malformed {source : String} {fault : Json.Fault} : Contains files path source →
      ¬ IsModuleFile path → Json.read source = .error fault →
      Reads parser files path ⟨.error (.refused (.malformed (Path.tidy path) fault)), []⟩
  | refused {source : String} {config : Json.Value} {fault : AliasFault} :
      Contains files path source → ¬ IsModuleFile path → Json.read source = .ok config →
      ofJson config = .error fault → Reads parser files path ⟨.error (.refused fault), []⟩
  | json {source : String} {config : Json.Value} {table : Table String} :
      Contains files path source → ¬ IsModuleFile path → Json.read source = .ok config →
      ofJson config = .ok table → Reads parser files path ⟨.ok table, []⟩

theorem log_of_parse_error {source file : String} {fault : SyntaxFault}
    (h : (Module.parse parser source file).result = .error fault) :
    (Module.parse parser source file).log = [] := by
  cases hsound : (parser source).hasError with
  | false =>
    rw [Module.parse_of_sound file hsound] at h
    cases h
  | true =>
    cases husable : (Module.usable (parser source)).isEmpty with
    | false =>
      rw [Module.parse_of_usable file hsound husable] at h
      cases h
    | true => rw [Module.parse_of_unusable file hsound husable]

theorem read_of_error {fault : TextFault} (h : files.readText (Path.tidy path) = .error fault) :
    read parser files path = match fault with
      | .file fault => Outcome.fail (.refused (.unreadable (Path.tidy path) fault))
      | .undecodable => Outcome.fail .undecodable := by
  unfold read
  simp only [h]
  cases fault <;> rfl

theorem read_of_module {source : String} (h : Contains files path source)
    (hmodule : IsModuleFile path) : read parser files path =
      (Module.parse parser source (Path.tidy path)).mapError (.refused ∘ .unparsable) >>= fun m =>
        pure (ofModule (Path.parent (Path.tidy path)) m) := by
  have hcontains : moduleExtensions.contains (Path.extension (Path.tidy path)) = true :=
    List.elem_iff.mpr hmodule
  unfold read
  rw [Contains] at h
  simp only [h]
  rw [if_pos hcontains]

theorem read_of_json {source : String} (h : Contains files path source)
    (hmodule : ¬ IsModuleFile path) : read parser files path = match Json.read source with
      | .error fault => Outcome.fail (.refused (.malformed (Path.tidy path) fault))
      | .ok config => Outcome.ofExcept ((ofJson config).mapError .refused) := by
  have hcontains : ¬ moduleExtensions.contains (Path.extension (Path.tidy path)) = true :=
    mt List.elem_iff.mp hmodule
  unfold read
  rw [Contains] at h
  simp only [h]
  refine (if_neg hcontains).trans ?_
  cases Json.read source <;> rfl

theorem readText_tidy (files : FileSystem) (path : String) :
    files.readText (Path.tidy path) = files.readText path := by
  rw [FileSystem.readText, FileSystem.readText, Path.tidy_tidy]

theorem reads_of_error {fault : TextFault} (h : files.readText (Path.tidy path) = .error fault) :
    Reads parser files path (read parser files path) := by
  rw [read_of_error h]
  rw [readText_tidy] at h
  cases hread : files.read (Path.tidy path) with
  | error cause =>
    rw [FileSystem.readText, hread] at h
    cases h
    exact .unreadable hread
  | ok bytes =>
    obtain ⟨rfl, hgarbled⟩ := (FileSystem.readText_eq_error_iff hread).mp h
    exact .undecodable hread hgarbled

theorem reads_of_module {source : String} (h : Contains files path source)
    (hmodule : IsModuleFile path) : Reads parser files path (read parser files path) := by
  rw [read_of_module h hmodule]
  cases hparsed : (Module.parse parser source (Path.tidy path)).result with
  | ok m =>
    rw [Outcome.bind_of_ok (Outcome.mapError_result_eq_ok_iff.mpr hparsed), Outcome.pure_log,
      List.append_nil]
    exact .module h hmodule hparsed
  | error fault =>
    have hfault := Outcome.mapError_result_eq_error_iff
      (f := (.refused ∘ .unparsable : SyntaxFault → SourceFault)) |>.mpr ⟨fault, hparsed, rfl⟩
    rw [Outcome.bind_of_error hfault, Outcome.mapError, log_of_parse_error hparsed]
    exact .unparsable h hmodule hparsed

theorem reads_of_json {source : String} (h : Contains files path source)
    (hmodule : ¬ IsModuleFile path) : Reads parser files path (read parser files path) := by
  rw [read_of_json h hmodule]
  cases hjson : Json.read source with
  | error fault => exact .malformed h hmodule hjson
  | ok config =>
    dsimp only
    cases htable : ofJson config with
    | error fault => exact .refused h hmodule hjson htable
    | ok table => exact .json h hmodule hjson htable

theorem reads_read (parser : Parser) (files : FileSystem) (path : String) :
    Reads parser files path (read parser files path) := by
  cases htext : files.readText (Path.tidy path) with
  | error fault => exact reads_of_error htext
  | ok source =>
    by_cases hmodule : IsModuleFile path
    · exact reads_of_module htext hmodule
    · exact reads_of_json htext hmodule

theorem read_eq_undecodable_iff :
    (read parser files path).result = .error .undecodable ↔
      ∃ bytes, files.read (Path.tidy path) = .ok bytes ∧ Text.Garbled bytes := by
  constructor
  · intro h
    generalize hx : read parser files path = x at h
    cases hx ▸ reads_read parser files path with
    | undecodable hread hgarbled => exact ⟨_, hread, hgarbled⟩
    | _ => cases h
  · rintro ⟨bytes, hread, hgarbled⟩
    have htext : files.readText (Path.tidy path) = .error .undecodable := by
      rw [readText_tidy]
      exact (FileSystem.readText_eq_error_iff hread).mpr ⟨rfl, hgarbled⟩
    rw [read_of_error htext]
    rfl

theorem log_of_refused {cause : AliasFault}
    (h : (read parser files path).result = .error (.refused cause)) :
    (read parser files path).log = [] := by
  generalize hx : read parser files path = x at h
  cases hx ▸ reads_read parser files path with
  | module => cases h
  | _ => rfl

/-! ### What is told -/

/-- What is told of a fault that makes the aliases be ignored. -/
def ignoring (message : String) : String := "Ignoring alias config: " ++ message

theorem ignoring_inj {a b : String} (h : ignoring a = ignoring b) : a = b :=
  String.append_right_inj _ |>.mp h

theorem head?_ignoring (message : String) : (ignoring message).toList.head? = some 'I' := by
  change ("Ignoring alias config: " ++ message).toList.head? = some 'I'
  simp only [String.toList_append]
  rfl

theorem ne_ignoring_of_parse {source file words : String}
    (h : words ∈ (Module.parse parser source file).warnings) (message : String) :
    words ≠ ignoring message := by
  cases hsound : (parser source).hasError with
  | false =>
    rw [Module.parse_of_sound file hsound] at h
    cases h
  | true =>
    cases husable : (Module.usable (parser source)).isEmpty with
    | false =>
      rw [Module.parse_of_usable file hsound husable] at h
      -- only the first event is a warning, and its words begin with another letter
      have hwords := List.mem_singleton.mp h
      rintro rfl
      have hletter := head?_ignoring message
      rw [hwords, Event.head?_partlyParsed] at hletter
      cases hletter
    | true =>
      rw [Module.parse_of_unusable file hsound husable] at h
      cases h

theorem ne_ignoring_of_read {words : String} (h : words ∈ (read parser files path).warnings)
    (message : String) : words ≠ ignoring message := by
  generalize hx : read parser files path = x at h
  cases hx ▸ reads_read parser files path with
  | module => exact ne_ignoring_of_parse h message
  | _ => cases h

/-! ### Loading -/

theorem load_eq (hpath : path ≠ "") :
    load parser files (some path) = match (read parser files path).result with
      | .ok table =>
        ⟨.ok table, (read parser files path).log ++ [.aliasesLoaded table.length path]⟩
      | .error (.refused cause) =>
        ⟨.ok [], (read parser files path).log ++ [.aliasesIgnored cause]⟩
      | .error .undecodable => ⟨.error {}, (read parser files path).log⟩ := by
  unfold load
  split
  · contradiction
  · next heq => exact absurd (Option.some.inj heq) hpath
  · next other _ heq =>
    cases Option.some.inj heq
    rw [Outcome.bind_of_ok (Outcome.attempt_result _), Outcome.attempt_log]
    cases (read parser files path).result with
    | ok table => rfl
    | error fault =>
      cases fault with
      | refused cause => rfl
      | undecodable => simp [Outcome.fail]

theorem load_of_table {table : Table String} (hpath : path ≠ "")
    (h : (read parser files path).result = .ok table) :
    (load parser files (some path)).result = .ok table ∧
      (load parser files (some path)).warnings = (read parser files path).warnings := by
  rw [load_eq hpath, h]
  refine ⟨rfl, ?_⟩
  rw [Outcome.warnings, Outcome.warnings, List.filter_append, List.map_append]
  exact List.append_nil _

theorem load_of_refused {cause : AliasFault} (hpath : path ≠ "")
    (h : (read parser files path).result = .error (.refused cause)) :
    (load parser files (some path)).result = .ok [] ∧
      (load parser files (some path)).warnings = [ignoring cause.message] := by
  rw [load_eq hpath, h, log_of_refused h]
  exact ⟨rfl, rfl⟩

theorem load_of_undecodable (hpath : path ≠ "")
    (h : (read parser files path).result = .error .undecodable) :
    (load parser files (some path)).result = .error {} ∧
      (load parser files (some path)).warnings = (read parser files path).warnings := by
  rw [load_eq hpath, h]
  refine ⟨rfl, ?_⟩
  rw [Outcome.warnings, Outcome.warnings]

theorem read_cases (parser : Parser) (files : FileSystem) (path : String) :
    (∃ table, (read parser files path).result = .ok table) ∨
      (∃ cause, (read parser files path).result = .error (.refused cause)) ∨
      (read parser files path).result = .error .undecodable := by
  cases (read parser files path).result with
  | ok table => exact .inl ⟨table, rfl⟩
  | error fault =>
    cases fault with
    | refused cause => exact .inr (.inl ⟨cause, rfl⟩)
    | undecodable => exact .inr (.inr rfl)

theorem load_eq_ok_iff {table : Table String} (hpath : path ≠ "") :
    (load parser files (some path)).result = .ok table ↔
      (read parser files path).result = .ok table ∨
        (∃ cause, (read parser files path).result = .error (.refused cause)) ∧ table = [] := by
  obtain ⟨found, hread⟩ | ⟨cause, hread⟩ | hread := read_cases parser files path
  · rw [(load_of_table hpath hread).1, hread]
    simp
  · rw [(load_of_refused hpath hread).1, hread]
    simp [eq_comm]
  · rw [(load_of_undecodable hpath hread).1, hread]
    simp

theorem load_eq_error_iff {fault : Undecodable} (hpath : path ≠ "") :
    (load parser files (some path)).result = .error fault ↔
      (read parser files path).result = .error .undecodable := by
  obtain ⟨found, hread⟩ | ⟨cause, hread⟩ | hread := read_cases parser files path
  · rw [(load_of_table hpath hread).1, hread]
    simp
  · rw [(load_of_refused hpath hread).1, hread]
    simp
  · rw [(load_of_undecodable hpath hread).1, hread]
    simp

theorem ignoring_mem_warnings_iff {message : String} (hpath : path ≠ "") :
    ignoring message ∈ (load parser files (some path)).warnings ↔
      ∃ cause, (read parser files path).result = .error (.refused cause) ∧
        cause.message = message := by
  have hquiet : ignoring message ∉ (read parser files path).warnings :=
    fun h => ne_ignoring_of_read h message rfl
  obtain ⟨found, hread⟩ | ⟨cause, hread⟩ | hread := read_cases parser files path
  · rw [(load_of_table hpath hread).2, hread]
    simp [hquiet]
  · rw [(load_of_refused hpath hread).2, hread, List.mem_singleton]
    constructor
    · exact fun h => ⟨cause, rfl, (ignoring_inj h).symm⟩
    · rintro ⟨other, hother, rfl⟩
      cases hother
      rfl
  · rw [(load_of_undecodable hpath hread).2, hread]
    simp [hquiet]

/-! ### What is in a table -/

/-- A file gives a key a text, as a member of `resolve.alias` or as an entry of the first object of
aliases in a module. -/
inductive Holds (parser : Parser) (files : FileSystem) (path key value : String) : Prop
  | json {source : String} {config : Json.Value} {entries : List (String × Json.Value)} :
      Contains files path source → ¬ IsModuleFile path → Json.read source = .ok config →
      (config.member? "resolve").bind (·.member? "alias") = some (.object entries) →
      (key, .string value) ∈ entries → Holds parser files path key value
  | module {source : String} {m : Module} {object entry t : Tree} :
      Contains files path source → IsModuleFile path →
      (Module.parse parser source (Path.tidy path)).result = .ok m → IsAliasObject m object →
      entry ∈ object.namedOf "pair" → Tree.value (entry.field? "key") = key →
      entry.field? "value" = some t → Denotes (Path.parent (Path.tidy path)) t value →
      Holds parser files path key value

theorem string?_eq_some_iff {v : Json.Value} {s : String} : v.string? = some s ↔ v = .string s := by
  cases v <;> simp [Json.Value.string?]

theorem exists_of_mem_ofJson {config : Json.Value} {table : Table String} {key value : String}
    (h : ofJson config = .ok table) (hmem : (key, value) ∈ table) :
    ∃ entries, (config.member? "resolve").bind (·.member? "alias") = some (.object entries) ∧
      (key, .string value) ∈ entries := by
  unfold ofJson at h
  split at h
  · cases h
    cases hmem
  · cases h
    cases hmem
  · next entries hentries =>
    cases h
    obtain ⟨⟨k, v⟩, hentry, hvalue⟩ := List.mem_filterMap.mp hmem
    obtain ⟨s, hs, hpair⟩ := Option.map_eq_some_iff.mp hvalue
    cases hpair
    exact ⟨entries, hentries, string?_eq_some_iff.mp hs ▸ hentry⟩
  · cases h

theorem exists_of_mem_ofModule {dir key value : String} {m : Module}
    (h : (key, value) ∈ ofModule dir m) :
    ∃ object, IsAliasObject m object ∧ ∃ entry ∈ object.namedOf "pair",
      namedPath? dir entry = some (key, value) := by
  unfold ofModule at h
  split at h
  · next object hobject =>
    exact ⟨object, findSome?_aliasObject?.mp hobject,
      List.mem_filterMap.mp (Table.mem_of_mem_ofEntries h)⟩
  · cases h

theorem holds_of_mem {table : Table String} {key value : String}
    (h : (read parser files path).result = .ok table) (hmem : (key, value) ∈ table) :
    Holds parser files path key value := by
  generalize hx : read parser files path = x at h
  cases hx ▸ reads_read parser files path with
  | module hsource hmodule hparsed =>
    cases h
    obtain ⟨object, hobject, entry, hentry, hvalue⟩ := exists_of_mem_ofModule hmem
    obtain ⟨hkey, t, ht, hdenotes⟩ := namedPath?_eq_some_iff.mp hvalue
    exact .module hsource hmodule hparsed hobject hentry hkey ht hdenotes
  | json hsource hmodule hconfig htable =>
    cases h
    obtain ⟨entries, hentries, hentry⟩ := exists_of_mem_ofJson htable hmem
    exact .json hsource hmodule hconfig hentries hentry
  | _ => cases h

/-! ### Safety -/

/-- Loading a file of aliases is safe. -/
structure LoadsSafely (parser : Parser) (files : FileSystem) (path : String) : Prop where
  /-- A table that is read is loaded, and it is not said that aliases are ignored. -/
  table : ∀ table, (read parser files path).result = .ok table ↔
    (load parser files (some path)).result = .ok table ∧
      ∀ message, ignoring message ∉ (load parser files (some path)).warnings
  /-- With a fault in the file there are no aliases, and the only warning is that fault. -/
  refusal : ∀ message,
    (∃ cause, (read parser files path).result = .error (.refused cause) ∧ cause.message = message) ↔
      (load parser files (some path)).result = .ok [] ∧
        (load parser files (some path)).warnings = [ignoring message]
  /-- Loading fails exactly if the file can be read and has a mark before what is not UTF-16. -/
  failure : ∀ fault, (load parser files (some path)).result = .error fault ↔
    ∃ bytes, files.read (Path.tidy path) = .ok bytes ∧
      ∃ (order : Text.Utf16.ByteOrder) (rest : List UInt8), bytes = order.mark ++ rest ∧
        ∀ t : String, rest ≠ Text.Utf16.encode order t.toList
  /-- The values in a table are texts of the file. -/
  values : ∀ table, (load parser files (some path)).result = .ok table →
    ∀ key value, (key, value) ∈ table → Holds parser files path key value

/-- Loading a file of aliases gives the table that is read, or no aliases and one warning exactly if
there is a fault in the file, or fails exactly if there is a byte order mark before other bytes than
it promises; and what it gives are texts of the file. -/
theorem load_safely (hpath : path ≠ "") : LoadsSafely parser files path := by
  constructor
  case table =>
    intro table
    simp only [load_eq_ok_iff hpath, ignoring_mem_warnings_iff hpath]
    constructor
    · intro h
      refine ⟨.inl h, ?_⟩
      rintro message ⟨cause, hcause, -⟩
      rw [h] at hcause
      cases hcause
    · rintro ⟨h | ⟨⟨cause, hcause⟩, -⟩, hquiet⟩
      · exact h
      · exact absurd ⟨cause, hcause, rfl⟩ (hquiet cause.message)
  case refusal =>
    intro message
    constructor
    · rintro ⟨cause, hcause, rfl⟩
      exact load_of_refused hpath hcause
    · rintro ⟨-, hwarnings⟩
      exact (ignoring_mem_warnings_iff hpath).mp (hwarnings ▸ List.mem_cons_self)
  case failure =>
    intro fault
    simp only [load_eq_error_iff hpath, read_eq_undecodable_iff, Text.garbled_iff]
  case values =>
    intro table h key value hmem
    rcases (load_eq_ok_iff hpath).mp h with hread | ⟨-, rfl⟩
    · exact holds_of_mem hread hmem
    · cases hmem

/-- A table in which one value is no text, a table that is not closed, and half a unit after a byte
order mark. -/
def scattered : FileSystem where
  root := .directory [("p", .directory
    [("whole.json", .file (Text.toBytes
        "\x7b\"resolve\": \x7b\"alias\": \x7b\"@\": \"src\", \"lib\": null\x7d\x7d\x7d")),
      ("open.json", .file (Text.toBytes "\x7b")),
      ("half.json", .file [0xFF, 0xFE, 0x7B])])]
  current := ["p"]

/-- The first of these is loaded without what is no text, the second is ignored with a warning, and
the third fails. -/
theorem load_safely_scattered :
    (load (fun _ => configTree "join" "src") scattered (some "whole.json")).result =
        .ok [("@", "src")] ∧
      Holds (fun _ => configTree "join" "src") scattered "whole.json" "@" "src" ∧
      (load (fun _ => configTree "join" "src") scattered (some "open.json")).result = .ok [] ∧
      (load (fun _ => configTree "join" "src") scattered (some "open.json")).warnings =
        [ignoring ("Invalid JSON in open.json: " ++
          "Expecting property name enclosed in double quotes: line 1 column 2 (char 1)")] ∧
      (load (fun _ => configTree "join" "src") scattered (some "half.json")).result = .error {} := by
  have hwhole : LoadsSafely (fun _ => configTree "join" "src") scattered "whole.json" :=
    load_safely (by decide)
  have hopen : LoadsSafely (fun _ => configTree "join" "src") scattered "open.json" :=
    load_safely (by decide)
  have hhalf : LoadsSafely (fun _ => configTree "join" "src") scattered "half.json" :=
    load_safely (by decide)
  have htable := ((hwhole.table [("@", "src")]).mp (by decide +kernel)).1
  have hrefusal := (hopen.refusal ("Invalid JSON in open.json: " ++
      "Expecting property name enclosed in double quotes: line 1 column 2 (char 1)")).mp
    ⟨.malformed "open.json" ⟨.propertyName, 1, 2, 1⟩, by decide +kernel, by decide +kernel⟩
  have hgarbled : Text.Garbled [0xFF, 0xFE, 0x7B] := ⟨.little, [0x7B], rfl, by decide +kernel⟩
  refine ⟨htable, hwhole.values _ htable "@" "src" (by decide), hrefusal.1, hrefusal.2, ?_⟩
  exact (hhalf.failure {}).mpr ⟨_, by decide +kernel, Text.garbled_iff.mp hgarbled⟩

end AliasTable

end JsxOutline
