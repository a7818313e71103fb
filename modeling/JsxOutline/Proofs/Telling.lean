import JsxOutline.Proofs.Growth
import Mathlib.Data.List.Basic

/-!
# What is told while a tree grows

Locating tells of many things, but never of a component whose module cannot be parsed; only growing
does.  Main statement: the warnings of such modules are the faults of the growth, in their order.
-/

namespace JsxOutline

/-! ### Properties of all that is told -/

namespace Outcome

variable {ε ε' α β : Type} {q : Event → Prop}

/-- All that is told along the way has a property. -/
def Tells (x : Outcome ε α) (q : Event → Prop) : Prop := ∀ e ∈ x.log, q e

theorem tells_pure (a : α) : (pure a : Outcome ε α).Tells q := by
  intro e he
  cases he

theorem tells_fail (fault : ε) : (fail fault : Outcome ε α).Tells q := by
  intro e he
  cases he

theorem tells_tell {e : Event} (h : q e) : (tell e : Outcome ε Unit).Tells q := by
  intro e' he'
  rw [List.mem_singleton.mp he']
  exact h

theorem Tells.bind {x : Outcome ε α} {f : α → Outcome ε β} (hx : x.Tells q)
    (hf : ∀ a, (f a).Tells q) : (x >>= f).Tells q := by
  intro e he
  cases hresult : x.result with
  | ok a =>
    rw [bind_of_ok hresult] at he
    rcases List.mem_append.mp he with he | he
    · exact hx e he
    · exact hf a e he
  | error fault =>
    rw [bind_of_error hresult] at he
    exact hx e he

theorem Tells.attempt {x : Outcome ε α} (hx : x.Tells q) :
    (x.attempt : Outcome ε' (Except ε α)).Tells q := hx

theorem Tells.mapError {x : Outcome ε α} (hx : x.Tells q) (f : ε → ε') :
    (x.mapError f).Tells q := hx

theorem log_mapM_of_ok {f : α → Outcome ε β} {qs : List (α × β)}
    (h : ∀ q ∈ qs, (f q.1).result = .ok q.2) :
    ((qs.map Prod.fst).mapM f).log = qs.flatMap fun q => (f q.1).log := by
  induction qs with
  | nil => rfl
  | cons q qs ih =>
    obtain ⟨hq, hqs⟩ := List.forall_mem_cons.mp h
    have hrest : ((qs.map Prod.fst).mapM f).result = .ok (qs.map Prod.snd) :=
      mapM_result_eq_ok_iff.mpr ⟨qs, rfl, rfl, hqs⟩
    rw [List.map_cons, List.mapM_cons, bind_of_ok hq, bind_of_ok hrest, List.flatMap_cons, ih hqs,
      pure_log, List.append_nil]

end Outcome

/-! ### Modules that cannot be parsed -/

namespace Event

/-- What the warning of a module that cannot be parsed begins with. -/
def failureWords : String := "Could not parse "

/-- Whether an event is the warning of a module that cannot be parsed. -/
def isFailure (e : Event) : Bool :=
  e.level == .warning && failureWords.toList.isPrefixOf e.message.toList

theorem isFailure_of_message {e : Event} {rest : String} (hlevel : e.level = .warning)
    (hmessage : e.message = failureWords ++ rest) : e.isFailure = true := by
  have hprefix : failureWords.toList.isPrefixOf e.message.toList = true := by
    rw [hmessage, String.toList_append]
    exact List.isPrefixOf_iff_prefix.mpr (List.prefix_append _ _)
  rw [isFailure, hlevel, hprefix]
  rfl

theorem isFailure_of_head {e : Event} {c : Char} (hhead : e.message.toList.head? = some c)
    (hc : c ≠ 'C') : e.isFailure = false := by
  have hprefix : failureWords.toList.isPrefixOf e.message.toList = false := by
    rw [← Bool.not_eq_true, List.isPrefixOf_iff_prefix]
    rintro ⟨rest, hrest⟩
    rw [← hrest] at hhead
    exact hc (Option.some.inj hhead).symm
  rw [isFailure, hprefix, Bool.and_false]

theorem isFailure_unparsable (fault : SyntaxFault) : (unparsable fault).isFailure = true := by
  have hmessage : (unparsable fault).message =
      failureWords ++ (fault.file ++ ": " ++ fault.summary) := by
    rw [← String.append_assoc, ← String.append_assoc]
    rfl
  exact isFailure_of_message rfl hmessage

theorem head?_partlyParsed (fault : SyntaxFault) :
    (partlyParsed fault).message.toList.head? = some 'P' := by
  change ("Partially parsed " ++ fault.file ++ ": " ++ fault.summary).toList.head? = some 'P'
  simp only [String.toList_append, List.append_assoc]
  rfl

theorem isFailure_partlyParsed (fault : SyntaxFault) : (partlyParsed fault).isFailure = false :=
  isFailure_of_head (head?_partlyParsed fault) (by decide)

theorem isFailure_indexUnparsable (fault : SyntaxFault) :
    (indexUnparsable fault).isFailure = false := by
  have hhead : (indexUnparsable fault).message.toList.head? = some 'R' := by
    change ("Reading re-exports of " ++ fault.file ++ " from text: " ++
      fault.summary).toList.head? = some 'R'
    simp only [String.toList_append, List.append_assoc]
    rfl
  exact isFailure_of_head hhead (by decide)

theorem isFailure_aliasesIgnored (fault : AliasFault) :
    (aliasesIgnored fault).isFailure = false := by
  have hhead : (aliasesIgnored fault).message.toList.head? = some 'I' := by
    change ("Ignoring alias config: " ++ fault.message).toList.head? = some 'I'
    simp only [String.toList_append]
    rfl
  exact isFailure_of_head hhead (by decide)

/-- Of all events only those of components whose modules cannot be parsed are such warnings. -/
theorem isFailure_iff {e : Event} : e.isFailure = true ↔ ∃ fault, e = .unparsable fault := by
  constructor
  · intro h
    cases e with
    | unparsable fault => exact ⟨fault, rfl⟩
    | partlyParsed fault =>
      rw [isFailure_partlyParsed] at h
      cases h
    | indexUnparsable fault =>
      rw [isFailure_indexUnparsable] at h
      cases h
    | aliasesIgnored fault =>
      rw [isFailure_aliasesIgnored] at h
      cases h
    | _ => cases h
  · rintro ⟨fault, rfl⟩
    exact isFailure_unparsable fault

end Event

/-- Work on whose way no module of a component fails to be parsed. -/
abbrev Outcome.Quiet {ε α : Type} (x : Outcome ε α) : Prop := x.Tells fun e => e.isFailure = false

theorem Outcome.quiet_of_debug {ε α : Type} {e : Event} (h : e.level = .debug) (a : α) :
    (tell e >>= fun _ => pure a : Outcome ε α).Quiet := by
  have hquiet : e.isFailure = false := by
    rw [Event.isFailure, h]
    rfl
  exact (tells_tell hquiet).bind fun _ => tells_pure a

theorem Outcome.Quiet.filter_log_bind {ε α β : Type} {x : Outcome ε α} {a : α} (h : x.Quiet)
    (ha : x.result = .ok a) (f : α → Outcome ε β) :
    (x >>= f).log.filter Event.isFailure = (f a).log.filter Event.isFailure := by
  have hnone : x.log.filter Event.isFailure = [] := by
    refine List.filter_eq_nil_iff.mpr ?_
    intro e he
    rw [h e he]
    exact Bool.false_ne_true
  rw [bind_of_ok ha, List.filter_append, hnone, List.nil_append]

theorem Module.parse_quiet (parser : Parser) (source file : String) :
    (parse parser source file).Quiet := by
  have hparsed : (Event.parsed file).isFailure = false := rfl
  cases h : (parser source).hasError with
  | false =>
    rw [parse_of_sound file h]
    exact List.forall_mem_singleton.mpr hparsed
  | true =>
    cases hu : (usable (parser source)).isEmpty with
    | false =>
      rw [parse_of_usable file h hu]
      exact List.forall_mem_cons.mpr
        ⟨Event.isFailure_partlyParsed _, List.forall_mem_singleton.mpr hparsed⟩
    | true =>
      rw [parse_of_unusable file h hu]
      exact List.forall_mem_nil _

theorem Module.attempt_parse_quiet (ε : Type) (parser : Parser) (source file : String) :
    ((parse parser source file).attempt : Outcome ε (Except SyntaxFault Module)).Quiet :=
  (parse_quiet parser source file).attempt

/-! ### What locating tells -/

namespace Project

variable {p : Project} {c : Config}

theorem readSource_quiet (file : String) : (p.readSource file).Quiet := by
  unfold readSource
  split
  · split
    · exact Outcome.tells_pure _
    · exact Outcome.quiet_of_debug rfl none
    · exact Outcome.tells_fail _
  · exact Outcome.tells_pure _

theorem firstReadable_quiet (files : List String) : (p.firstReadable files).Quiet := by
  induction files with
  | nil => exact Outcome.tells_pure _
  | cons file rest ih =>
    refine (readSource_quiet file).bind ?_
    intro source
    cases source with
    | none => exact ih
    | some source => exact Outcome.tells_pure _

theorem indexBinding?_quiet (name index source : String) :
    (p.indexBinding? name index source).Quiet := by
  refine (Module.parse_quiet p.parser source index).attempt.bind ?_
  intro parsed
  cases parsed with
  | ok m => exact Outcome.tells_pure _
  | error fault =>
    exact (Outcome.tells_tell (Event.isFailure_indexUnparsable fault)).bind
      fun _ => Outcome.tells_pure _

theorem followIndex_quiet (name index source : String) :
    (p.followIndex name index source).Quiet := by
  refine (indexBinding?_quiet name index source).bind ?_
  intro binding
  cases binding with
  | none => exact Outcome.tells_pure _
  | some binding =>
    refine (firstReadable_quiet _).bind ?_
    intro found
    cases found with
    | none => exact Outcome.quiet_of_debug rfl none
    | some found =>
      apply Outcome.quiet_of_debug
      rfl

theorem locate_quiet (name : String) (candidates : List String) :
    (p.locate name candidates).Quiet := by
  refine (firstReadable_quiet candidates).bind ?_
  intro found
  cases found with
  | none => exact Outcome.tells_pure _
  | some found =>
    obtain ⟨file, source⟩ := found
    by_cases hindex : isIndex file = true
    · simp only [hindex, if_true]
      refine (followIndex_quiet name file source).bind ?_
      intro followed
      cases followed with
      | none =>
        apply Outcome.quiet_of_debug
        rfl
      | some located => exact Outcome.tells_pure _
    · simp only [hindex]
      apply Outcome.quiet_of_debug
      rfl

theorem locateSite_quiet (s : Site) : (p.locateSite c s).Quiet :=
  (locate_quiet s.name _).mapError _

/-! ### What growing tells -/

/-- The warnings of modules that cannot be parsed are the faults, in their order. -/
theorem Grows.log_failures {levels : Nat} {seen : List String} {s : Site} {g : Growth}
    (h : p.Grows c levels seen s g) :
    (p.grow c levels seen s).log.filter Event.isFailure = g.faults.map .unparsable := by
  induction h with
  | unresolved hlocated =>
    rw [grow.eq_def, (locateSite_quiet _).filter_log_bind hlocated]
    rfl
  | recursive hlocated hseen =>
    rw [grow.eq_def, (locateSite_quiet _).filter_log_bind hlocated]
    simp only [List.contains_iff_mem, hseen, if_true]
    rfl
  | limit hlocated hseen hlimit =>
    rw [grow.eq_def, (locateSite_quiet _).filter_log_bind hlocated]
    simp only [List.contains_iff_mem, hseen, if_false, hlimit, if_true]
    rfl
  | @unparsable _ _ _ l fault hlocated hseen hparsed =>
    have hquiet := Module.attempt_parse_quiet BuildFault p.parser l.source l.file
    rw [grow.eq_def, (locateSite_quiet _).filter_log_bind hlocated]
    simp only [List.contains_iff_mem, hseen, if_false]
    rw [hquiet.filter_log_bind (Outcome.attempt_result _)]
    simp only [hparsed]
    exact List.filter_cons_of_pos (Event.isFailure_unparsable fault)
  | @expanded levels seen s l m uses hlocated hseen hparsed hfst huses ih =>
    have hquiet := Module.attempt_parse_quiet BuildFault p.parser l.source l.file
    have hgrow : ∀ u ∈ uses, (p.grow c levels (l.file :: seen)
        (.ofBinding c (s.depth + 1) l.file u.1)).result = .ok u.2 := by
      intro u hu
      exact grow_of_grows (huses u hu)
    have hresult : ((uses.map Prod.fst).mapM fun b => p.grow c levels (l.file :: seen)
        (.ofBinding c (s.depth + 1) l.file b)).result = .ok (uses.map Prod.snd) :=
      Outcome.mapM_result_eq_ok_iff.mpr ⟨uses, rfl, rfl, hgrow⟩
    rw [grow.eq_def, (locateSite_quiet _).filter_log_bind hlocated]
    simp only [List.contains_iff_mem, hseen, if_false]
    rw [hquiet.filter_log_bind (Outcome.attempt_result _)]
    simp only [hparsed]
    rw [← hfst, Outcome.bind_of_ok hresult, Outcome.log_mapM_of_ok hgrow, Outcome.pure_log,
      List.append_nil, List.filter_flatMap]
    change _ = ((uses.map Prod.snd).flatMap (·.faults)).map Event.unparsable
    rw [List.flatMap_map, List.map_flatMap]
    exact List.flatMap_congr ih

end Project

end JsxOutline
