import JsxOutline.Fault

/-!
# Log

What is worth telling while work goes on, and work that tells it: an outcome is a result or a fault,
with the events that led there in their order.  Main statements: outcomes are a lawful monad, and
the events of two steps come one after the other.
-/

namespace JsxOutline

/-! ### Events -/

inductive Level where
  | debug
  | info
  | warning
deriving DecidableEq, Repr

def Level.name : Level → String
  | debug => "DEBUG"
  | info => "INFO"
  | warning => "WARNING"

inductive Event where
  /-- A module has been parsed. -/
  | parsed (file : String)
  /-- A module has errors beside what can be used of it. -/
  | partlyParsed (fault : SyntaxFault)
  /-- A component's module has nothing that can be used. -/
  | unparsable (fault : SyntaxFault)
  /-- An index file has nothing that can be used but its text. -/
  | indexUnparsable (fault : SyntaxFault)
  /-- A file is there but cannot be read. -/
  | unreadable (path : String) (fault : FileFault)
  /-- A component has been found in a file. -/
  | located (name file : String)
  /-- A component has been found through an index file. -/
  | locatedThrough (name index file : String)
  /-- An index file names a file that is not there. -/
  | missingTarget (name index target : String)
  /-- A component has been found nowhere. -/
  | unresolved (name source : String)
  /-- A component contains itself. -/
  | recursion (file : String)
  /-- A table of aliases has been read. -/
  | aliasesLoaded (count : Nat) (path : String)
  /-- A table of aliases cannot be used. -/
  | aliasesIgnored (fault : AliasFault)
  /-- The tree has been written to a file. -/
  | treeWritten (path : String)
deriving DecidableEq, Repr

namespace Event

def level : Event → Level
  | partlyParsed _ | unparsable _ | indexUnparsable _ | aliasesIgnored _ => .warning
  | treeWritten _ => .info
  | _ => .debug

def message : Event → String
  | parsed file => s!"Parsed {file}"
  | partlyParsed fault => s!"Partially parsed {fault.file}: {fault.summary}"
  | unparsable fault => fault.message
  | indexUnparsable fault => s!"Reading re-exports of {fault.file} from text: {fault.summary}"
  | unreadable path fault => s!"Could not read {path}: {fault.message}"
  | located name file => s!"Located {name} at {file}"
  | locatedThrough name index file => s!"Located {name} via {index} at {file}"
  | missingTarget name index target =>
    s!"{index} re-exports {name} from {target}, which was not found"
  | unresolved name source => s!"Unresolved {name} ({source})"
  | recursion file => s!"Not expanding {file} again below itself"
  | aliasesLoaded count path => s!"Loaded {count} alias(es) from {path}"
  | aliasesIgnored fault => s!"Ignoring alias config: {fault.message}"
  | treeWritten path => s!"Component tree written to {path}"

def line (e : Event) : String := s!"{e.level.name}: {e.message}"

/-- Whether the event is shown: warnings always, the others only on demand. -/
def isShown (verbose : Bool) (e : Event) : Bool := verbose || e.level == .warning

end Event

/-! ### Outcomes -/

/-- A result or a fault, with the events that led there. -/
structure Outcome (ε α : Type) where
  result : Except ε α
  log : List Event := []

namespace Outcome

variable {ε ε' α β : Type}

def tell (e : Event) : Outcome ε Unit := ⟨.ok (), [e]⟩

def fail (fault : ε) : Outcome ε α := ⟨.error fault, []⟩

/-- Goes on with the result of some work. -/
def andThen (x : Outcome ε α) (f : α → Outcome ε β) : Outcome ε β :=
  match x.result with
  | .ok a => ⟨(f a).result, x.log ++ (f a).log⟩
  | .error fault => ⟨.error fault, x.log⟩

instance : Monad (Outcome ε) where
  pure a := ⟨.ok a, []⟩
  bind := andThen

def ofExcept (r : Except ε α) : Outcome ε α := ⟨r, []⟩

/-- Work whose faults are told in other terms. -/
def mapError (f : ε → ε') (x : Outcome ε α) : Outcome ε' α := ⟨x.result.mapError f, x.log⟩

def attempt (x : Outcome ε α) : Outcome ε' (Except ε α) := ⟨.ok x.result, x.log⟩

def warnings (x : Outcome ε α) : List String :=
  (x.log.filter (·.level == .warning)).map Event.message

@[simp] theorem pure_result (a : α) : (pure a : Outcome ε α).result = .ok a := rfl
@[simp] theorem pure_log (a : α) : (pure a : Outcome ε α).log = [] := rfl
@[simp] theorem fail_result (fault : ε) : (fail fault : Outcome ε α).result = .error fault := rfl
@[simp] theorem tell_bind_result (e : Event) (f : Unit → Outcome ε α) :
    (tell e >>= f).result = (f ()).result := rfl
@[simp] theorem attempt_result (x : Outcome ε α) :
    (x.attempt : Outcome ε' (Except ε α)).result = .ok x.result := rfl
@[simp] theorem attempt_log (x : Outcome ε α) :
    (x.attempt : Outcome ε' (Except ε α)).log = x.log := rfl

theorem bind_of_ok {x : Outcome ε α} {a : α} (h : x.result = .ok a) (f : α → Outcome ε β) :
    x >>= f = ⟨(f a).result, x.log ++ (f a).log⟩ := by
  simp only [bind, andThen, h]

theorem bind_of_error {x : Outcome ε α} {fault : ε} (h : x.result = .error fault)
    (f : α → Outcome ε β) : x >>= f = ⟨.error fault, x.log⟩ := by
  simp only [bind, andThen, h]

theorem bind_result_eq_ok_iff {x : Outcome ε α} {f : α → Outcome ε β} {b : β} :
    (x >>= f).result = .ok b ↔ ∃ a, x.result = .ok a ∧ (f a).result = .ok b := by
  cases hx : x.result with
  | ok a => simp [bind_of_ok hx]
  | error fault => simp [bind_of_error hx]

theorem bind_result_eq_error_iff {x : Outcome ε α} {f : α → Outcome ε β} {fault : ε} :
    (x >>= f).result = .error fault ↔
      x.result = .error fault ∨ ∃ a, x.result = .ok a ∧ (f a).result = .error fault := by
  cases hx : x.result with
  | ok a => simp [bind_of_ok hx]
  | error fault => simp [bind_of_error hx]

/-- Steps that go on in one way after each result make one outcome. -/
theorem bind_congr_of_ok {x : Outcome ε α} {f g : α → Outcome ε β}
    (h : ∀ a, x.result = .ok a → f a = g a) : x >>= f = x >>= g := by
  cases hx : x.result with
  | ok a => rw [bind_of_ok hx, bind_of_ok hx, h a hx]
  | error fault => rw [bind_of_error hx, bind_of_error hx]

theorem mapError_result_eq_ok_iff {x : Outcome ε α} {f : ε → ε'} {a : α} :
    (x.mapError f).result = .ok a ↔ x.result = .ok a := by
  rw [mapError]
  cases x.result with
  | ok b => exact ⟨fun h => congrArg _ (Except.ok.inj h), fun h => congrArg _ (Except.ok.inj h)⟩
  | error fault => exact ⟨(by cases ·), (by cases ·)⟩

theorem mapError_result_eq_error_iff {x : Outcome ε α} {f : ε → ε'} {fault' : ε'} :
    (x.mapError f).result = .error fault' ↔ ∃ fault, x.result = .error fault ∧ f fault = fault' := by
  rw [mapError]
  cases x.result with
  | ok a =>
    refine ⟨(by cases ·), ?_⟩
    rintro ⟨fault, h, -⟩
    cases h
  | error fault =>
    refine ⟨fun h => ⟨fault, rfl, Except.error.inj h⟩, ?_⟩
    rintro ⟨fault, h, rfl⟩
    cases h
    rfl

instance : LawfulMonad (Outcome ε) :=
  LawfulMonad.mk' _
    (fun x => by
      obtain ⟨r, l⟩ := x
      cases r <;> simp [Functor.map, andThen])
    (fun a f => by simp [bind, pure, andThen])
    (fun x f g => by
      obtain ⟨r, l⟩ := x
      cases r with
      | error e => rfl
      | ok a =>
        simp only [bind, andThen]
        cases (f a).result <;> simp)

/-- Work on the members of a list succeeds when the work on each member does. -/
theorem mapM_result_eq_ok_iff {f : α → Outcome ε β} {as : List α} {bs : List β} :
    (as.mapM f).result = .ok bs ↔
      ∃ qs : List (α × β), qs.map Prod.fst = as ∧ qs.map Prod.snd = bs ∧
        ∀ q ∈ qs, (f q.1).result = .ok q.2 := by
  induction as generalizing bs with
  | nil =>
    rw [List.mapM_nil, pure_result, Except.ok.injEq]
    constructor
    · rintro rfl
      exact ⟨[], rfl, rfl, by simp⟩
    · rintro ⟨qs, hfst, rfl, -⟩
      rw [List.map_eq_nil_iff.mp hfst, List.map_nil]
  | cons a as ih =>
    simp only [List.mapM_cons, bind_result_eq_ok_iff, pure_result, Except.ok.injEq]
    constructor
    · rintro ⟨b, hb, rest, hrest, rfl⟩
      obtain ⟨qs, rfl, rfl, hqs⟩ := ih.mp hrest
      exact ⟨(a, b) :: qs, rfl, rfl, List.forall_mem_cons.mpr ⟨hb, hqs⟩⟩
    · rintro ⟨qs, hfst, rfl, hqs⟩
      cases qs with
      | nil => simp at hfst
      | cons q qs =>
        simp only [List.map_cons, List.cons.injEq] at hfst
        obtain ⟨rfl, rfl⟩ := hfst
        obtain ⟨hq, hqs⟩ := List.forall_mem_cons.mp hqs
        exact ⟨q.2, hq, qs.map Prod.snd, ih.mpr ⟨qs, rfl, rfl, hqs⟩, rfl⟩

theorem mapM_congr {f g : α → Outcome ε β} {as : List α} (h : ∀ a ∈ as, f a = g a) :
    as.mapM f = as.mapM g := by
  induction as with
  | nil => rfl
  | cons a as ih =>
    obtain ⟨ha, has⟩ := List.forall_mem_cons.mp h
    rw [List.mapM_cons, List.mapM_cons, ha, ih has]

/-- Work on the members of a list fails with the fault of one of them. -/
theorem exists_error_of_mapM {f : α → Outcome ε β} {as : List α} {fault : ε}
    (h : (as.mapM f).result = .error fault) : ∃ a ∈ as, (f a).result = .error fault := by
  induction as with
  | nil => simp at h
  | cons a as ih =>
    simp only [List.mapM_cons, bind_result_eq_error_iff, pure_result, reduceCtorEq, and_false,
      exists_false, or_false] at h
    rcases h with h | ⟨b, -, h⟩
    · exact ⟨a, List.mem_cons_self, h⟩
    · obtain ⟨a', hmem, h⟩ := ih h
      exact ⟨a', List.mem_cons_of_mem _ hmem, h⟩

end Outcome

end JsxOutline
