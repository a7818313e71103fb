import JsxOutline.Module.ExportLine
import Mathlib.Data.List.TakeWhile

/-!
# Reading lines that export what they import

A line is put together from its parts, and a text begins with one such line at most, so that it is
read as its parts say whatever follows it.  Main statement: from lines one after the other their
bindings are read, and from any text those of the lines that begin where a line of the text begins
and not inside a line that was read before.
-/

namespace JsxOutline.ExportLine

open JsxOutline.Text

/-! ### Runs of characters -/

section Runs

variable {p : Char → Bool} {run rest : List Char}

theorem takeWhile_append_eq (hrun : ∀ c ∈ run, p c = true) (hrest : ∀ c ∈ rest.head?, p c = false) :
    (run ++ rest).takeWhile p = run := by
  rw [List.takeWhile_append_of_pos hrun]
  cases rest with
  | nil => rw [List.takeWhile_nil, List.append_nil]
  | cons c cs => rw [List.takeWhile_cons_of_neg (by simp [hrest c rfl]), List.append_nil]

theorem dropWhile_append_eq (hrun : ∀ c ∈ run, p c = true) (hrest : ∀ c ∈ rest.head?, p c = false) :
    (run ++ rest).dropWhile p = rest := by
  rw [List.dropWhile_append_of_pos hrun]
  cases rest with
  | nil => rfl
  | cons c cs => exact List.dropWhile_cons_of_neg (by simp [hrest c rfl])

theorem head?_dropWhile (p : Char → Bool) (s : List Char) :
    ∀ c ∈ (s.dropWhile p).head?, p c = false := by
  intro c hc
  have hhead := List.head?_dropWhile_not p s
  rw [Option.mem_def.mp hc] at hhead
  simpa using hhead

/-- A text is cut in one way into a run of some characters and a rest that goes on with another. -/
theorem run_append_inj {run' rest' : List Char} (hrun : ∀ c ∈ run, p c = true)
    (hrest : ∀ c ∈ rest.head?, p c = false) (hrun' : ∀ c ∈ run', p c = true)
    (hrest' : ∀ c ∈ rest'.head?, p c = false) (h : run ++ rest = run' ++ rest') :
    run = run' ∧ rest = rest' := by
  constructor
  · rw [← takeWhile_append_eq hrun hrest, h, takeWhile_append_eq hrun' hrest']
  · rw [← dropWhile_append_eq hrun hrest, h, dropWhile_append_eq hrun' hrest']

end Runs

/-! ### Parts -/

/-- What stands between the words of a line: blanks and tabs, one at least. -/
def IsGap (s : List Char) : Prop := s ≠ [] ∧ ∀ c ∈ s, isGap c = true

/-- A letter of ASCII, an underscore or a dollar sign, and then word characters and dollar signs. -/
def IsName (s : List Char) : Prop :=
  ∃ c cs, s = c :: cs ∧ isNameStart c = true ∧ ∀ d ∈ cs, isNamePart d = true

/-- What stands between the quotes of a line: one character at least, and none of them a quote. -/
def IsSource (s : List Char) : Prop := s ≠ [] ∧ ∀ c ∈ s, isQuote c = false

theorem isGap_iff {c : Char} : isGap c = true ↔ c = ' ' ∨ c = '\t' := by
  rw [isGap, Bool.or_eq_true, beq_iff_eq, beq_iff_eq]

theorem isQuote_iff {c : Char} : isQuote c = true ↔ c = '\'' ∨ c = '"' := by
  rw [isQuote, Bool.or_eq_true, beq_iff_eq, beq_iff_eq]

theorem isNamePart_of_isGap {c : Char} (h : isGap c = true) : isNamePart c = false := by
  rcases isGap_iff.mp h with rfl | rfl <;> decide +kernel

theorem isGap_of_isNameStart {c : Char} (h : isNameStart c = true) : isGap c = false := by
  cases hc : isGap c with
  | false => rfl
  | true => rcases isGap_iff.mp hc with rfl | rfl <;> simp [isNameStart] at h

theorem isNamePart_of_isNameStart {c : Char} (h : isNameStart c = true) : isNamePart c = true := by
  simp only [isNameStart, Bool.or_eq_true, beq_iff_eq] at h
  rcases h with (h | rfl) | rfl
  · have hword : isWord c = true := by
      rcases Bool.or_eq_true_iff.mp h with hupper | hlower
      · exact isWord_of_ascii (.inl (of_decide_eq_true hupper))
      · obtain ⟨hfirst, hlast⟩ := Bool.and_eq_true_iff.mp hlower
        exact isWord_of_ascii (.inr (.inl ⟨of_decide_eq_true hfirst, of_decide_eq_true hlast⟩))
    rw [isNamePart, hword, Bool.true_or]
  · rfl
  · exact Bool.or_true _

theorem isGap_of_isQuote {c : Char} (h : isQuote c = true) : isGap c = false := by
  rcases isQuote_iff.mp h with rfl | rfl <;> rfl

theorem IsGap.head?_append {gap : List Char} (h : IsGap gap) (rest : List Char) :
    ∀ c ∈ (gap ++ rest).head?, isNamePart c = false := by
  obtain ⟨c, cs, rfl⟩ := List.exists_cons_of_ne_nil h.1
  rintro _ ⟨⟩
  exact isNamePart_of_isGap (h.2 c List.mem_cons_self)

theorem IsName.head?_append {name : List Char} (h : IsName name) (rest : List Char) :
    ∀ c ∈ (name ++ rest).head?, isGap c = false := by
  obtain ⟨c, cs, rfl, hc, -⟩ := h
  rintro _ ⟨⟩
  exact isGap_of_isNameStart hc

theorem IsName.all_isNamePart {name : List Char} (h : IsName name) :
    ∀ c ∈ name, isNamePart c = true := by
  obtain ⟨c, cs, rfl, hc, hcs⟩ := h
  exact List.forall_mem_cons.mpr ⟨isNamePart_of_isNameStart hc, hcs⟩

theorem head?_export (rest : List Char) :
    ∀ c ∈ ("export".toList ++ rest).head?, isGap c = false := by
  rintro _ ⟨⟩
  rfl

theorem head?_from (rest : List Char) : ∀ c ∈ ("from".toList ++ rest).head?, isGap c = false := by
  rintro _ ⟨⟩
  rfl

theorem head?_quote {q : Char} (h : isQuote q = true) (rest : List Char) :
    ∀ c ∈ (q :: rest).head?, isGap c = false := by
  rintro _ ⟨⟩
  exact isGap_of_isQuote h

theorem IsSource.all_not_isQuote {source : List Char} (h : IsSource source) :
    ∀ c ∈ source, (!isQuote c) = true := by
  intro c hc
  rw [h.2 c hc, Bool.not_false]

theorem head?_closing {q : Char} (h : isQuote q = true) (rest : List Char) :
    ∀ c ∈ (q :: rest).head?, (!isQuote c) = false := by
  rintro _ ⟨⟩
  rw [h, Bool.not_true]

section Parts

variable {s rest name source : List Char}

theorem word?_eq_some_iff {w : String} : word? w s = some rest ↔ s = w.toList ++ rest := by
  simp only [word?, Option.ite_none_right_eq_some, Option.some.injEq, List.isPrefixOf_iff_prefix]
  constructor
  · rintro ⟨⟨t, rfl⟩, rfl⟩
    rw [List.drop_left]
  · rintro rfl
    exact ⟨List.prefix_append _ _, List.drop_left⟩

theorem gap?_eq_some_iff :
    gap? s = some rest ↔ ∃ gap, IsGap gap ∧ s = gap ++ rest ∧ ∀ c ∈ rest.head?, isGap c = false := by
  constructor
  · intro h
    cases s with
    | nil => simp [gap?] at h
    | cons c cs =>
      simp only [gap?, Option.ite_none_right_eq_some, Option.some.injEq] at h
      obtain ⟨hc, rfl⟩ := h
      refine ⟨c :: cs.takeWhile isGap, ⟨List.cons_ne_nil _ _, ?_⟩, ?_, head?_dropWhile _ _⟩
      · exact List.forall_mem_cons.mpr ⟨hc, fun _ => List.mem_takeWhile_imp⟩
      · rw [List.cons_append, List.takeWhile_append_dropWhile]
  · rintro ⟨gap, ⟨hne, hall⟩, rfl, hrest⟩
    obtain ⟨c, cs, rfl⟩ := List.exists_cons_of_ne_nil hne
    obtain ⟨hc, hcs⟩ := List.forall_mem_cons.mp hall
    rw [List.cons_append, gap?, if_pos hc, dropWhile_append_eq hcs hrest]

theorem name?_eq_some_iff :
    name? s = some (name, rest) ↔
      IsName name ∧ s = name ++ rest ∧ ∀ c ∈ rest.head?, isNamePart c = false := by
  constructor
  · intro h
    cases s with
    | nil => simp [name?] at h
    | cons c cs =>
      simp only [name?, Option.ite_none_right_eq_some, Option.some.injEq, Prod.mk.injEq] at h
      obtain ⟨hc, rfl, rfl⟩ := h
      refine ⟨⟨c, _, rfl, hc, fun _ => List.mem_takeWhile_imp⟩, ?_, head?_dropWhile _ _⟩
      rw [List.cons_append, List.takeWhile_append_dropWhile]
  · rintro ⟨⟨c, cs, rfl, hc, hcs⟩, rfl, hrest⟩
    rw [List.cons_append, name?, if_pos hc, takeWhile_append_eq hcs hrest,
      dropWhile_append_eq hcs hrest]

theorem quoted?_eq_some_iff :
    quoted? s = some (source, rest) ↔
      IsSource source ∧ ∃ opening closing, isQuote opening = true ∧ isQuote closing = true ∧
        s = opening :: (source ++ closing :: rest) := by
  constructor
  · intro h
    cases s with
    | nil => simp [quoted?] at h
    | cons q cs =>
      simp only [quoted?, Option.ite_none_right_eq_some] at h
      obtain ⟨hq, h⟩ := h
      split at h
      · next c cs' q' after ht hd =>
        simp only [Option.some.injEq, Prod.mk.injEq] at h
        obtain ⟨rfl, rfl⟩ := h
        have hhead := head?_dropWhile (!isQuote ·) cs
        rw [hd] at hhead
        refine ⟨⟨List.cons_ne_nil _ _, ?_⟩, q, q', hq, ?_, ?_⟩
        · intro d hm
          rw [← ht] at hm
          simpa using List.mem_takeWhile_imp hm
        · simpa using hhead q' rfl
        · rw [← ht, ← hd, List.takeWhile_append_dropWhile]
      · simp at h
  · rintro ⟨hsource, opening, closing, ho, hc, rfl⟩
    have hrun := hsource.all_not_isQuote
    have hrest := head?_closing hc rest
    obtain ⟨c, cs, rfl⟩ := List.exists_cons_of_ne_nil hsource.1
    rw [quoted?, if_pos ho, takeWhile_append_eq hrun hrest, dropWhile_append_eq hrun hrest]

end Parts

/-! ### Lines -/

/-- The parts of a line up to the quote that ends its source, in the order in which they stand; the
words `export` and `from` stand before `beforeName` and `beforeSource`. -/
@[ext]
structure Form where
  indent : List Char
  beforeName : List Char
  name : List Char
  afterName : List Char
  beforeSource : List Char
  opening : Char
  source : List Char
  closing : Char
  indent_blank : ∀ c ∈ indent, isGap c = true
  beforeName_gap : IsGap beforeName
  name_isName : IsName name
  afterName_gap : IsGap afterName
  beforeSource_gap : IsGap beforeSource
  opening_quote : isQuote opening = true
  source_isSource : IsSource source
  closing_quote : isQuote closing = true

namespace Form

/-- The text of a line, with what follows it. -/
def textThen (l : Form) (rest : List Char) : List Char :=
  l.indent ++ ("export".toList ++ (l.beforeName ++ (l.name ++ (l.afterName ++ ("from".toList ++
    (l.beforeSource ++ l.opening :: (l.source ++ l.closing :: rest)))))))

def text (l : Form) : List Char := l.textThen []

/-- The name of a line with its source. -/
def binding (l : Form) : Binding := ⟨.ofList l.name, .ofList l.source⟩

theorem getLast?_text (l : Form) : l.text.getLast? = some l.closing := by
  simp only [text, textThen, List.getLast?_append, List.getLast?_cons, List.getLast?_nil,
    Option.getD_none, Option.getD_some, Option.some_or]

theorem text_ne_nil (l : Form) : l.text ≠ [] := by
  rw [← List.getLast?_isSome, l.getLast?_text, Option.isSome_some]

theorem text_append (l : Form) (rest : List Char) : l.text ++ rest = l.textThen rest := by
  simp only [text, textThen, List.append_assoc, List.cons_append, List.nil_append]

end Form

/-- A text begins with one line at most. -/
theorem Form.textThen_inj {l l' : Form} {rest rest' : List Char}
    (h : l.textThen rest = l'.textThen rest') : l = l' ∧ rest = rest' := by
  rw [textThen, textThen] at h
  obtain ⟨hindent, h⟩ := run_append_inj l.indent_blank (head?_export _) l'.indent_blank
    (head?_export _) h
  obtain ⟨hbeforeName, h⟩ := run_append_inj l.beforeName_gap.2 (l.name_isName.head?_append _)
    l'.beforeName_gap.2 (l'.name_isName.head?_append _) (List.append_cancel_left h)
  obtain ⟨hname, h⟩ := run_append_inj l.name_isName.all_isNamePart (l.afterName_gap.head?_append _)
    l'.name_isName.all_isNamePart (l'.afterName_gap.head?_append _) h
  obtain ⟨hafterName, h⟩ := run_append_inj l.afterName_gap.2 (head?_from _) l'.afterName_gap.2
    (head?_from _) h
  obtain ⟨hbeforeSource, h⟩ := run_append_inj l.beforeSource_gap.2 (head?_quote l.opening_quote _)
    l'.beforeSource_gap.2 (head?_quote l'.opening_quote _) (List.append_cancel_left h)
  obtain ⟨hopening, h⟩ := List.cons.inj h
  obtain ⟨hsource, h⟩ := run_append_inj l.source_isSource.all_not_isQuote
    (head?_closing l.closing_quote _) l'.source_isSource.all_not_isQuote
    (head?_closing l'.closing_quote _) h
  obtain ⟨hclosing, h⟩ := List.cons.inj h
  exact ⟨Form.ext hindent hbeforeName hname hafterName hbeforeSource hopening hsource hclosing, h⟩

/-- A line is read as its parts say. -/
theorem line?_eq_some_iff {s rest : List Char} {b : Binding} :
    line? s = some (b, rest) ↔ ∃ l : Form, s = l.text ++ rest ∧ l.binding = b := by
  simp only [line?, Option.bind_eq_bind, Option.bind_eq_some_iff, Option.pure_def, Option.some.injEq,
    Prod.mk.injEq, Prod.exists, word?_eq_some_iff, gap?_eq_some_iff, name?_eq_some_iff,
    quoted?_eq_some_iff]
  constructor
  · rintro ⟨_, hindent, _, ⟨g₁, hg₁, rfl, -⟩, name, _, ⟨hname, rfl, -⟩, _, ⟨g₂, hg₂, rfl, -⟩, _, rfl,
      _, ⟨g₃, hg₃, rfl, -⟩, source, _, ⟨hsource, opening, closing, ho, hc, rfl⟩, rfl, rfl⟩
    refine ⟨⟨s.takeWhile isGap, g₁, name, g₂, g₃, opening, source, closing,
      fun _ => List.mem_takeWhile_imp, hg₁, hname, hg₂, hg₃, ho, hsource, hc⟩, ?_, rfl⟩
    rw [Form.text_append, Form.textThen, ← hindent, List.takeWhile_append_dropWhile]
  · rintro ⟨l, rfl, rfl⟩
    rw [Form.text_append]
    exact ⟨_, dropWhile_append_eq l.indent_blank (head?_export _),
      _, ⟨_, l.beforeName_gap, rfl, l.name_isName.head?_append _⟩,
      l.name, _, ⟨l.name_isName, rfl, l.afterName_gap.head?_append _⟩,
      _, ⟨_, l.afterName_gap, rfl, head?_from _⟩, _, rfl,
      _, ⟨_, l.beforeSource_gap, rfl, head?_quote l.opening_quote _⟩,
      l.source, rest, ⟨l.source_isSource, _, _, l.opening_quote, l.closing_quote, rfl⟩, rfl, rfl⟩

/-! ### Reading on -/

theorem scan_line (l : Form) (rest : List Char) :
    scan true (l.text ++ rest) = l.binding :: scan false rest := by
  have hline : line? (l.text ++ rest) = some (l.binding, rest) := line?_eq_some_iff.mpr ⟨l, rfl, rfl⟩
  rw [scan]
  split
  · next h =>
    rw [if_pos rfl, hline] at h
    cases h
    rfl
  · next h =>
    rw [if_pos rfl, hline] at h
    cases h

theorem scan_skip {start : Bool} {c : Char} {rest : List Char}
    (hnone : start = true → line? (c :: rest) = none) :
    scan start (c :: rest) = scan (c == '\n') rest := by
  rw [scan]
  split
  · next h =>
    rw [Option.ite_none_right_eq_some] at h
    rw [hnone h.1] at h
    cases h.2
  · rfl

theorem scan_false_cons (c : Char) (rest : List Char) :
    scan false (c :: rest) = scan (c == '\n') rest :=
  scan_skip nofun

theorem scan_nil (start : Bool) : scan start [] = [] := by
  rw [scan]
  split
  · next h =>
    rw [Option.ite_none_right_eq_some] at h
    cases h.2
  · rfl

/-! ### Lines one after the other -/

/-- A line with what stands after its source up to the next line feed. -/
structure Line extends Form where
  trailer : List Char
  trailer_line : '\n' ∉ trailer

def Line.whole (l : Line) : List Char := l.text ++ l.trailer

theorem scan_trailer {trailer : List Char} (h : '\n' ∉ trailer) (rest : List Char) :
    scan false (trailer ++ rest) = scan false rest := by
  induction trailer with
  | nil => rfl
  | cons c cs ih =>
    rw [List.mem_cons, not_or] at h
    obtain ⟨hc, hcs⟩ := h
    rw [List.cons_append, scan_false_cons, beq_eq_false_iff_ne.mpr (Ne.symm hc), ih hcs]

theorem scan_whole (l : Line) (rest : List Char) :
    scan true (l.whole ++ rest) = l.binding :: scan false rest := by
  rw [Line.whole, List.append_assoc, scan_line, scan_trailer l.trailer_line]

theorem scan_lines (lines : List Line) :
    scan true (['\n'].intercalate (lines.map Line.whole)) = lines.map (·.binding) := by
  induction lines with
  | nil => exact scan_nil true
  | cons l ls ih =>
    cases ls with
    | nil =>
      rw [List.map_singleton, List.intercalate_singleton, ← List.append_nil l.whole, scan_whole,
        scan_nil, List.map_singleton]
    | cons l' ls =>
      rw [List.map_cons, List.map_cons, List.intercalate_cons_cons, List.append_assoc, scan_whole,
        List.singleton_append, scan_false_cons, beq_self_eq_true, ← List.map_cons, ih]
      rfl

/-! ### Lines of a text -/

/-- Whether a line begins after a part of a text. -/
def LineStart (before : List Char) : Prop := before = [] ∨ before.getLast? = some '\n'

/-- A place of a text at which a line begins that has all its parts. -/
structure Occurrence (text : List Char) where
  before : List Char
  form : Form
  after : List Char
  text_eq : text = before ++ (form.text ++ after)
  lineStart : LineStart before

namespace Occurrence

variable {text : List Char}

def start (o : Occurrence text) : Nat := o.before.length

def stop (o : Occurrence text) : Nat := o.start + o.form.text.length

/-- Whether a line begins inside of another line. -/
def BeginsInside (o o' : Occurrence text) : Prop := o'.start < o.start ∧ o.start < o'.stop

theorem start_lt (o : Occurrence text) : o.start < text.length := by
  have hpos : 0 < o.form.text.length := List.length_pos_iff.mpr o.form.text_ne_nil
  have hlen := congrArg List.length o.text_eq
  rw [List.length_append, List.length_append] at hlen
  rw [start]
  omega

/-- One line begins at a place at most. -/
theorem ext_start {o o' : Occurrence text} (h : o.start = o'.start) : o = o' := by
  obtain ⟨before, form, after, htext, hstart⟩ := o
  obtain ⟨before', form', after', htext', hstart'⟩ := o'
  obtain ⟨rfl, hrest⟩ := List.append_inj (htext.symm.trans htext') h
  rw [Form.text_append, Form.text_append] at hrest
  obtain ⟨rfl, rfl⟩ := Form.textThen_inj hrest
  rfl

/-- The line that begins at a place is read there. -/
theorem line?_eq {before rest : List Char} (o : Occurrence text) (htext : text = before ++ rest)
    (h : o.start = before.length) :
    LineStart before ∧ line? rest = some (o.form.binding, o.after) := by
  obtain ⟨rfl, rfl⟩ := List.append_inj (o.text_eq.symm.trans htext) h
  exact ⟨o.lineStart, line?_eq_some_iff.mpr ⟨o.form, rfl, rfl⟩⟩

end Occurrence

/-- The lines that are read from a place of a text on. -/
structure ReadFrom {text : List Char} (n : Nat) (found : List (Occurrence text)) : Prop where
  after : ∀ o ∈ found, n ≤ o.start
  apart : found.Pairwise fun o o' => o.stop ≤ o'.start
  all : ∀ o : Occurrence text, n ≤ o.start → o ∈ found ∨ ∃ o' ∈ found, o.BeginsInside o'

namespace ReadFrom

variable {text : List Char} {n : Nat} {found : List (Occurrence text)}

theorem nil (h : text.length ≤ n) : ReadFrom n ([] : List (Occurrence text)) where
  after := nofun
  apart := List.Pairwise.nil
  all o ho := by
    have hstart := o.start_lt
    omega

/-- No line begins at this place. -/
theorem skip (hfound : ReadFrom (n + 1) found) (hn : ∀ o : Occurrence text, o.start ≠ n) :
    ReadFrom n found where
  after o ho := Nat.le_of_succ_le (hfound.after o ho)
  apart := hfound.apart
  all o ho := hfound.all o (Nat.lt_of_le_of_ne ho (hn o).symm)

/-- A line begins at this place, and reading goes on after it. -/
theorem cons {o : Occurrence text} (hfound : ReadFrom o.stop found) :
    ReadFrom o.start (o :: found) where
  after := by
    refine List.forall_mem_cons.mpr ⟨Nat.le_refl _, fun o' ho' => ?_⟩
    have hstop : o.start ≤ o.stop := Nat.le_add_right _ _
    exact Nat.le_trans hstop (hfound.after o' ho')
  apart := List.pairwise_cons.mpr ⟨hfound.after, hfound.apart⟩
  all o' ho' := by
    rcases Nat.lt_or_ge o'.start o.stop with hinside | hafter
    · rcases Nat.eq_or_lt_of_le ho' with heq | hlt
      · rw [Occurrence.ext_start heq]
        exact .inl List.mem_cons_self
      · exact .inr ⟨o, List.mem_cons_self, hlt, hinside⟩
    · rcases hfound.all o' hafter with hmem | ⟨o'', hmem, hinside⟩
      · exact .inl (List.mem_cons_of_mem _ hmem)
      · exact .inr ⟨o'', List.mem_cons_of_mem _ hmem, hinside⟩

end ReadFrom

/-- A line begins after a part of a text that goes on with a line feed, and after no other. -/
theorem lineStart_concat {before : List Char} {c : Char} :
    LineStart (before ++ [c]) ↔ (c == '\n') = true := by
  rw [LineStart, List.getLast?_concat, Option.some.injEq, beq_iff_eq]
  exact or_iff_right (List.append_ne_nil_of_right_ne_nil _ (List.cons_ne_nil _ _))

theorem not_lineStart_text (before : List Char) (l : Form) : ¬LineStart (before ++ l.text) := by
  have hne : l.closing ≠ '\n' := by
    rcases isQuote_iff.mp l.closing_quote with h | h <;> rw [h] <;> decide
  rw [LineStart, List.getLast?_append, l.getLast?_text, Option.some_or, Option.some.injEq, not_or]
  exact ⟨List.append_ne_nil_of_right_ne_nil _ l.text_ne_nil, hne⟩

/-- From a place of a text on those lines are read that do not begin inside of another one. -/
theorem exists_readFrom {text : List Char} (start : Bool) (before rest : List Char)
    (htext : text = before ++ rest) (hstart : start = true ↔ LineStart before) :
    ∃ found : List (Occurrence text),
      scan start rest = found.map (·.form.binding) ∧ ReadFrom before.length found := by
  -- `start` tells at every step of the reading whether a line of the text begins after `before`.
  fun_induction scan start rest generalizing before with
  | case1 start s b rest h hlt ih =>
    -- A line is read; it ends with a quote, so that none begins right after it.
    rw [Option.dite_none_right_eq_some] at h
    obtain ⟨hs, hline⟩ := h
    obtain ⟨l, rfl, rfl⟩ := line?_eq_some_iff.mp hline
    let o : Occurrence text := ⟨before, l, rest, htext, hstart.mp hs⟩
    obtain ⟨found, hscan, hfound⟩ := ih (before ++ l.text) (by rw [htext, List.append_assoc])
      (by simpa using not_lineStart_text before l)
    rw [List.length_append] at hfound
    refine ⟨o :: found, ?_, ReadFrom.cons (o := o) hfound⟩
    rw [hscan, List.map_cons]
  | case2 start c rest h ih =>
    obtain ⟨found, hscan, hfound⟩ := ih (before ++ [c]) (by rw [htext, List.append_cons])
      lineStart_concat.symm
    rw [List.length_append, List.length_singleton] at hfound
    refine ⟨found, hscan, hfound.skip ?_⟩
    -- A line that began here would have been read.
    intro o ho
    obtain ⟨hline, hread⟩ := o.line?_eq htext ho
    rw [if_pos (hstart.mpr hline), hread] at h
    cases h
  | case3 start h =>
    have hlength : text.length = before.length := by rw [htext, List.append_nil]
    exact ⟨[], rfl, ReadFrom.nil (Nat.le_of_eq hlength)⟩

/-- From lines one after the other their bindings are read, and from any text those of the lines
that do not begin inside of a line that is read. -/
theorem bindings_exact :
    (∀ lines : List Line,
      bindings ("\n".intercalate (lines.map fun l => .ofList l.whole)) =
        (lines.map (·.binding)).filter (·.name != "default")) ∧
    ∀ text : String, ∃ found : List (Occurrence text.toList),
      bindings text = (found.map (·.form.binding)).filter (·.name != "default") ∧
      (found.Pairwise fun o o' => o.stop ≤ o'.start) ∧
      ∀ o, o ∈ found ∨ ∃ o' ∈ found, o.BeginsInside o' := by
  constructor
  · intro lines
    have hlists : (lines.map fun l => String.ofList l.whole).map String.toList =
        lines.map Line.whole := by
      rw [List.map_map]
      exact List.map_congr_left fun l _ => String.toList_ofList
    rw [bindings, String.toList_intercalate, hlists]
    exact congrArg _ (scan_lines lines)
  · intro text
    obtain ⟨found, hscan, hfound⟩ := exists_readFrom true [] text.toList (List.nil_append _).symm
      (by simp [LineStart])
    exact ⟨found, by rw [bindings, hscan], hfound.apart, fun o => hfound.all o (Nat.zero_le _)⟩

end JsxOutline.ExportLine
