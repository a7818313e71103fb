import JsxOutline.Proofs.Finiteness
import JsxOutline.Proofs.ModuleDirectory

/-!
# What backs a component

Where every file decodes, locating cannot fail.  Main statement: a list of candidates is as good as
the first one that can be read, and that one backs the component itself unless it is an index file
that stands for another file.
-/

namespace JsxOutline.Project

variable {p : Project}

def Readable (p : Project) (file : String) : Prop := ∃ text, p.Holds file text

/-! ### Reading -/

section Decodes

variable (h : p.files.Decodes)
include h

theorem readSource_eq_none_iff {file : String} :
    (p.readSource file).result = .ok none ↔ ¬ p.Readable file := by
  cases hread : (p.readSource file).result with
  | error fault => exact absurd (readSource_eq_error_iff.mp hread) (not_garbled_of_decodes h file)
  | ok found =>
    cases found with
    | some text => simpa using ⟨text, readSource_eq_some_iff.mp hread⟩
    | none =>
      refine iff_of_true rfl ?_
      rintro ⟨text, htext⟩
      rw [readSource_eq_some_iff.mpr htext] at hread
      cases hread

theorem firstReadable_of_passed {before : List String} (hbefore : ∀ f ∈ before, ¬ p.Readable f)
    (files : List String) :
    (p.firstReadable (before ++ files)).result = (p.firstReadable files).result := by
  induction before with
  | nil => rfl
  | cons first before ih =>
    obtain ⟨hfirst, hbefore⟩ := List.forall_mem_cons.mp hbefore
    have hnone := (readSource_eq_none_iff h).mpr hfirst
    rw [List.cons_append, firstReadable, Outcome.bind_of_ok hnone]
    exact ih hbefore

omit h in
theorem firstReadable_of_holds {file text : String} (hfile : p.Holds file text)
    (after : List String) :
    (p.firstReadable (file :: after)).result = .ok (some (file, text)) := by
  rw [firstReadable, Outcome.bind_of_ok (readSource_eq_some_iff.mpr hfile)]
  rfl

/-- A search either passes over all files, or ends at the first one that can be read. -/
theorem firstReadable_cases (files : List String) :
    (∀ f ∈ files, ¬ p.Readable f) ∧ (p.firstReadable files).result = .ok none ∨
      ∃ before file after text, files = before ++ file :: after ∧
        (∀ f ∈ before, ¬ p.Readable f) ∧ p.Holds file text ∧
        (p.firstReadable files).result = .ok (some (file, text)) := by
  induction files with
  | nil => exact .inl ⟨by simp, rfl⟩
  | cons first rest ih =>
    by_cases hfirst : p.Readable first
    · obtain ⟨text, htext⟩ := hfirst
      exact .inr ⟨[], first, rest, text, rfl, by simp, htext, firstReadable_of_holds htext rest⟩
    · have hpassed : ∀ f ∈ [first], ¬ p.Readable f := List.forall_mem_singleton.mpr hfirst
      have hskip := firstReadable_of_passed h hpassed rest
      rcases ih with ⟨hrest, hnone⟩ | ⟨before, file, after, text, rfl, hbefore, hfile, hfound⟩
      · exact .inl ⟨List.forall_mem_cons.mpr ⟨hfirst, hrest⟩, hskip.trans hnone⟩
      · exact .inr ⟨first :: before, file, after, text, rfl,
          List.forall_mem_cons.mpr ⟨hfirst, hbefore⟩, hfile, hskip.trans hfound⟩

end Decodes

/-! ### Index files -/

/-- What an index file binds a name to: by its statements, or by the lines of its text if no statement
can be used. -/
def reexported? (p : Project) (name index text : String) : Option Binding :=
  match (Module.parse p.parser text index).result with
  | .ok m => m.reexport? name
  | .error _ => Binding.last? (ExportLine.bindings text) name

theorem indexBinding?_result (p : Project) (name index text : String) :
    (p.indexBinding? name index text).result = .ok (p.reexported? name index text) := by
  unfold indexBinding? reexported?
  rw [Outcome.bind_of_ok (Outcome.attempt_result _)]
  cases (Module.parse p.parser text index).result <;> rfl

/-- An index file with a text stands for another file: it binds the name of a component to a
specifier, and of the two files that this leads to the other one is the first that can be read. -/
inductive StandsFor (p : Project) (name index text : String) : String → Prop
  | jsx {b : Binding} : isIndex index = true → p.reexported? name index text = some b →
      p.Readable (reexportTarget index b.source ++ ".jsx") →
      StandsFor p name index text (reexportTarget index b.source ++ ".jsx")
  | js {b : Binding} : isIndex index = true → p.reexported? name index text = some b →
      ¬ p.Readable (reexportTarget index b.source ++ ".jsx") →
      p.Readable (reexportTarget index b.source ++ ".js") →
      StandsFor p name index text (reexportTarget index b.source ++ ".js")

/-- The first candidate that can be read resolves a name to itself, or to the file that it stands
for. -/
inductive Resolves (p : Project) (name first text : String) : Located → Prop
  | itself : (∀ file, ¬ p.StandsFor name first text file) →
      Resolves p name first text ⟨first, text, none⟩
  | other {file source : String} : p.StandsFor name first text file → p.Holds file source →
      Resolves p name first text ⟨file, source, some first⟩

theorem exists_resolves (p : Project) (name first text : String) :
    ∃ l, p.Resolves name first text l := by
  by_cases hother : ∃ file, p.StandsFor name first text file
  · obtain ⟨file, hfile⟩ := hother
    have hreadable : p.Readable file := by cases hfile <;> assumption
    obtain ⟨source, hsource⟩ := hreadable
    exact ⟨_, .other hfile hsource⟩
  · exact ⟨_, .itself (not_exists.mp hother)⟩

/-! ### Locating -/

section Decodes

variable (h : p.files.Decodes)
include h

theorem followIndex_of_standsFor {name index text file source : String}
    (hfile : p.StandsFor name index text file) (hsource : p.Holds file source) :
    (p.followIndex name index text).result = .ok (some ⟨file, source, some index⟩) := by
  have hbinding := indexBinding?_result p name index text
  cases hfile with
  | @jsx b _ hb _ =>
    rw [hb] at hbinding
    have hfirst := firstReadable_of_holds hsource [reexportTarget index b.source ++ ".js"]
    rw [followIndex, Outcome.bind_of_ok hbinding]
    exact Outcome.bind_result_eq_ok_iff.mpr ⟨_, hfirst, rfl⟩
  | @js b _ hb hpassed _ =>
    rw [hb] at hbinding
    have hskip := firstReadable_of_passed h (List.forall_mem_singleton.mpr hpassed)
      [reexportTarget index b.source ++ ".js"]
    have hfirst := hskip.trans (firstReadable_of_holds hsource [])
    rw [followIndex, Outcome.bind_of_ok hbinding]
    exact Outcome.bind_result_eq_ok_iff.mpr ⟨_, hfirst, rfl⟩

theorem followIndex_of_no_target {name index text : String} (hindex : isIndex index = true)
    (hnone : ∀ file, ¬ p.StandsFor name index text file) :
    (p.followIndex name index text).result = .ok none := by
  have hbinding := indexBinding?_result p name index text
  rw [followIndex, Outcome.bind_of_ok hbinding]
  cases hb : p.reexported? name index text with
  | none => rfl
  | some b =>
    have hjsx : ¬ p.Readable (reexportTarget index b.source ++ ".jsx") :=
      fun hreadable => hnone _ (.jsx hindex hb hreadable)
    have hjs : ¬ p.Readable (reexportTarget index b.source ++ ".js") :=
      fun hreadable => hnone _ (.js hindex hb hjsx hreadable)
    have hpassed : ∀ f ∈ targetEndings.map (reexportTarget index b.source ++ ·), ¬ p.Readable f :=
      List.forall_mem_cons.mpr ⟨hjsx, List.forall_mem_singleton.mpr hjs⟩
    have hskip := firstReadable_of_passed h hpassed []
    rw [List.append_nil] at hskip
    exact Outcome.bind_result_eq_ok_iff.mpr ⟨_, hskip, rfl⟩

theorem locate_of_resolves {name file text : String} {files : List String} {l : Located}
    (hfirst : (p.firstReadable files).result = .ok (some (file, text)))
    (hl : p.Resolves name file text l) : (p.locate name files).result = .ok (some l) := by
  rw [locate, Outcome.bind_of_ok hfirst]
  by_cases hindex : isIndex file = true
  · simp only [hindex, if_true]
    refine Outcome.bind_result_eq_ok_iff.mpr ?_
    cases hl with
    | itself hnone => exact ⟨none, followIndex_of_no_target h hindex hnone, rfl⟩
    | other hfile hsource => exact ⟨some _, followIndex_of_standsFor h hfile hsource, rfl⟩
  · simp only [hindex, Bool.false_eq_true, if_false]
    cases hl with
    | itself => rfl
    | other hfile => cases hfile <;> contradiction

theorem locate_cases (name : String) (files : List String) :
    (∀ f ∈ files, ¬ p.Readable f) ∧ (p.locate name files).result = .ok none ∨
      ∃ before file after text l, files = before ++ file :: after ∧
        (∀ f ∈ before, ¬ p.Readable f) ∧ p.Holds file text ∧ p.Resolves name file text l ∧
        (p.locate name files).result = .ok (some l) := by
  rcases firstReadable_cases h files with
    ⟨hpassed, hnone⟩ | ⟨before, file, after, text, hfiles, hbefore, hfile, hfound⟩
  · refine .inl ⟨hpassed, ?_⟩
    rw [locate, Outcome.bind_of_ok hnone]
    rfl
  · obtain ⟨l, hl⟩ := exists_resolves p name file text
    have hlocated := locate_of_resolves h hfound hl
    exact .inr ⟨before, file, after, text, l, hfiles, hbefore, hfile, hl, hlocated⟩

omit h in
theorem locate_congr {files files' : List String}
    (hsame : (p.firstReadable files).result = (p.firstReadable files').result) (name : String) :
    (p.locate name files).result = (p.locate name files').result := by
  unfold locate
  cases hfound : (p.firstReadable files').result with
  | error fault =>
    rw [hfound] at hsame
    rw [Outcome.bind_of_error hsame, Outcome.bind_of_error hfound]
  | ok found =>
    rw [hfound] at hsame
    rw [Outcome.bind_of_ok hsame, Outcome.bind_of_ok hfound]

/-- What is located in a list of candidates is what is located in its first part, if there is
something, and else what is located in the rest.  Something is located exactly if a candidate can be
read, the first such candidate decides what, and its text is that of its file. -/
theorem locate_of_decodes (name : String) (files : List String) :
    (∀ more, ∃ found next, (p.locate name files).result = .ok found ∧
        (p.locate name more).result = .ok next ∧
        (p.locate name (files ++ more)).result = .ok (found.or next)) ∧
      ((∃ l, (p.locate name files).result = .ok (some l)) ↔ ∃ file ∈ files, p.Readable file) ∧
      (∀ before file after text, files = before ++ file :: after →
        (∀ f ∈ before, ¬ p.Readable f) → p.Holds file text →
        ∀ l, (p.locate name files).result = .ok (some l) ↔ p.Resolves name file text l) ∧
      ∀ l, (p.locate name files).result = .ok (some l) → p.Holds l.file l.source := by
  refine ⟨?_, ?_, ?_, fun l => locate_holds⟩
  · intro more
    have hmore : ∃ next, (p.locate name more).result = .ok next := by
      rcases locate_cases h name more with ⟨-, hnone⟩ | ⟨_, _, _, _, l, -, -, -, -, hl⟩
      · exact ⟨none, hnone⟩
      · exact ⟨some l, hl⟩
    obtain ⟨next, hnext⟩ := hmore
    rcases locate_cases h name files with ⟨hpassed, hnone⟩ | ⟨_, _, _, _, l, -, -, -, -, hl⟩
    · refine ⟨none, next, hnone, hnext, ?_⟩
      rw [Option.none_or, ← hnext]
      exact locate_congr (firstReadable_of_passed h hpassed more) name
    · exact ⟨some l, next, hl, hnext, locate_append hl more⟩
  · rcases locate_cases h name files with
      ⟨hpassed, hnone⟩ | ⟨before, file, after, text, l, rfl, -, hfile, -, hl⟩
    · refine iff_of_false ?_ ?_
      · rintro ⟨l, hl⟩
        rw [hnone] at hl
        cases hl
      · rintro ⟨file, hmem, hreadable⟩
        exact hpassed file hmem hreadable
    · have hmem : file ∈ before ++ file :: after := List.mem_append_right _ List.mem_cons_self
      exact iff_of_true ⟨l, hl⟩ ⟨file, hmem, text, hfile⟩
  · rintro before file after text rfl hbefore hfile l
    have hfirst := (firstReadable_of_passed h hbefore (file :: after)).trans
      (firstReadable_of_holds hfile after)
    constructor
    · intro hl
      obtain ⟨l', hl'⟩ := exists_resolves p name file text
      have hlocated := locate_of_resolves h hfirst hl'
      rw [hl] at hlocated
      cases hlocated
      exact hl'
    · exact locate_of_resolves h hfirst

end Decodes

/-- A project with a directory in which an index file stands for the module beside it. -/
def barrel : Project :=
  { wrapper "./A" with
    files := {
      root := .directory [("p", .directory
        [("A.js", .file (Text.toBytes (wrapperText "./A"))),
          ("index.js", .file (Text.toBytes (wrapperText "./A")))])]
      current := ["p"] } }

theorem locate_of_decodes_barrel :
    barrel.files.Decodes ∧ (barrel.locate "A" ["/p", "/p/index.js"]).result =
      .ok (some ⟨"/p/A.js", wrapperText "./A", some "/p/index.js"⟩) := by
  have htext : Text.ofBytes? (Text.toBytes (wrapperText "./A")) ≠ none := by decide +kernel
  have hdecodes : barrel.files.Decodes := by
    refine FileSystem.decodes_of_files ?_
    simpa using htext
  have hpassed : ∀ f ∈ ["/p"], ¬ barrel.Readable f := by
    refine List.forall_mem_singleton.mpr ?_
    rintro ⟨text, hfile, -⟩
    exact absurd hfile (by decide +kernel)
  have hindex : barrel.Holds "/p/index.js" (wrapperText "./A") :=
    ⟨by decide +kernel, by decide +kernel⟩
  have hbinding : barrel.reexported? "A" "/p/index.js" (wrapperText "./A") = some ⟨"A", "./A"⟩ := by
    decide +kernel
  have htarget : reexportTarget "/p/index.js" "./A" = "/p/A" := by decide +kernel
  have hjsx : ¬ barrel.Readable (reexportTarget "/p/index.js" "./A" ++ ".jsx") := by
    rintro ⟨text, hfile, -⟩
    exact absurd hfile (by decide +kernel)
  have hjs : barrel.Holds (reexportTarget "/p/index.js" "./A" ++ ".js") (wrapperText "./A") :=
    ⟨by decide +kernel, by decide +kernel⟩
  have hstands := @StandsFor.js barrel "A" "/p/index.js" (wrapperText "./A") ⟨"A", "./A"⟩
    (by decide +kernel) hbinding hjsx ⟨_, hjs⟩
  have hlocated := (locate_of_decodes hdecodes "A" ["/p", "/p/index.js"]).2.2.1
    ["/p"] "/p/index.js" [] (wrapperText "./A") rfl hpassed hindex
  rw [htarget] at hstands hjs
  exact ⟨hdecodes, (hlocated _).mpr (.other hstands hjs)⟩

end JsxOutline.Project
