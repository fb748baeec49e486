import Mathlib.Data.List.Induction
import TypeAncestry.Proofs.Pattern.Manual

/-!
# A library of letters

A small library of regular expressions: letters, the two anchors, groups and alternatives, and no
other characters.  A text is read from left to right with a stack of the groups that are open.  What
is read is compiled at once into a function that finds, from a position in a name, the ends of the
matches that begin there.

The argument that it does what its manual says goes by what a part of an expression does to the
stack, wherever it stands: if the part is an expression by itself, it is put behind what has been
read of the innermost group (`Letters.run_part`), and if it is not, more groups are open behind it
than before, or the text is not read to its end (`Letters.below_of_run_part`).

* `Letters.library` : the library.
* `Letters.follows` : it does what its manual says.
-/

namespace TypeAncestry

namespace Letters

open Regex

/-- The ends of the matches in a name that begin at a position. -/
abbrev Ends := List Char → Nat → List Nat

/-- What has been read of a group. -/
structure Frame where
  /-- The alternatives that are complete. -/
  complete : Ends
  /-- The one that is being read. -/
  current : Ends

namespace Frame

/-- Nothing has been read. -/
def empty : Frame := ⟨fun _ _ => [], fun _ i => [i]⟩

/-- An expression stands behind what has been read. -/
def push (f : Frame) (e : Ends) : Frame :=
  ⟨f.complete, fun name i => (f.current name i).flatMap (e name)⟩

/-- The matches of all alternatives. -/
def ends (f : Frame) : Ends := fun name i => f.complete name i ++ f.current name i

/-- Another alternative begins. -/
def next (f : Frame) : Frame := ⟨f.ends, empty.current⟩

theorem ends_push_empty (e : Ends) : (empty.push e).ends = e := by
  funext name i
  simp [ends, push, empty]

end Frame

/-- What has been read of the parenthesis and the two signs that open a group. -/
inductive Mode where
  /-- Nothing. -/
  | plain
  /-- The parenthesis. -/
  | opened
  /-- The question mark as well. -/
  | asked
  deriving DecidableEq

/-- What has been read of a text. -/
structure State where
  /-- What has been read of the signs that open a group. -/
  mode : Mode
  /-- The innermost group. -/
  top : Frame
  /-- The groups around it, from the innermost to the text itself. -/
  below : List Frame

/-- Nothing has been read. -/
def State.initial : State := ⟨.plain, .empty, []⟩

/-- The text stands inside of other groups. -/
def State.above (s : State) (frames : List Frame) : State := { s with below := s.below ++ frames }

/-- An expression stands behind what has been read of the innermost group. -/
def State.push (s : State) (e : Ends) : State := { s with top := s.top.push e }

/-- The matches of an expression of one character. -/
def single? (c : Char) : Option Ends :=
  if c = '^' then some fun _ i => if i = 0 then [0] else []
  else if c = '$' then some fun name i => if i = name.length then [i] else []
  else if c.isAlpha then some fun name i => if name[i]? = some c then [i + 1] else []
  else none

/-- Read a character outside of the signs that open a group. -/
def State.read? (s : State) (c : Char) : Option State :=
  if c = '(' then some { s with mode := .opened }
  else if c = ')' then
    match s.below with
    | [] => none
    | f :: frames => some ⟨.plain, f.push s.top.ends, frames⟩
  else if c = '|' then some { s with top := s.top.next }
  else (single? c).map s.push

/-- Read a character. -/
def State.step? (s : State) (c : Char) : Option State :=
  match s.mode with
  | .plain => s.read? c
  | .opened => if c = '?' then some { s with mode := .asked } else none
  | .asked => if c = ':' then some ⟨.plain, .empty, s.top :: s.below⟩ else none

/-- Read a text. -/
def run (s : State) (cs : List Char) : Option State := cs.foldlM State.step? s

/-- The expression that has been read, if no group is open. -/
def State.result? (s : State) : Option Ends :=
  match s.mode, s.below with
  | .plain, [] => some s.top.ends
  | _, _ => none

/-- The expression in a text. -/
def compile? (p : String) : Option Ends := (run .initial p.toList).bind State.result?

/-- The library of letters. -/
def library : Regex where
  Compiled := Ends
  compile? := compile?
  isMatch e name := (List.range (name.length + 1)).any fun i => !(e name.toList i).isEmpty

/-- Its manual. -/
def manual : Manual where
  Valid p := (compile? p).isSome
  Fits _ := True
  groupNames _ := []
  Spans p name i j := ∃ e, compile? p = some e ∧ j ∈ e name.toList i

instance : DecidablePred manual.Valid :=
  fun p => inferInstanceAs (Decidable ((compile? p).isSome = true))

variable {s s' : State} {p : String} {e : Ends} {part : Part} {parts : List Part} {c : Char}

/-! ### Reading texts -/

@[simp] theorem run_nil (s : State) : run s [] = some s := rfl

theorem run_append (s : State) (cs ds : List Char) :
    run s (cs ++ ds) = (run s cs).bind fun s => run s ds := List.foldlM_append

@[simp] theorem run_singleton (s : State) (c : Char) : run s [c] = s.step? c := by
  simp [run]

theorem compile?_eq_some_iff :
    compile? p = some e ↔ ∃ f, run .initial p.toList = some ⟨.plain, f, []⟩ ∧ f.ends = e := by
  rw [compile?, Option.bind_eq_some_iff]
  constructor
  · rintro ⟨⟨mode, f, below⟩, hrun, hresult⟩
    cases mode <;> cases below <;> simp_all [State.result?]
  · rintro ⟨f, hrun, rfl⟩
    exact ⟨_, hrun, rfl⟩

/-- Groups that are open around a text matter only to a parenthesis that the text does not open. -/
theorem step?_above (frames : List Frame)
    (h : ¬(c = ')' ∧ s.mode = .plain ∧ s.below = [])) :
    (s.above frames).step? c = (s.step? c).map (·.above frames) := by
  obtain ⟨mode, f, below⟩ := s
  cases mode with
  | plain =>
    simp only [State.step?, State.above, State.read?]
    split
    · rfl
    split
    · cases below with
      | nil => exact absurd ⟨‹_›, rfl, rfl⟩ h
      | cons g below => rfl
    split
    · rfl
    cases single? c <;> rfl
  | opened =>
    simp only [State.step?, State.above]
    split <;> rfl
  | asked =>
    simp only [State.step?, State.above]
    split <;> rfl

theorem valid_iff : manual.Valid p ↔ ∃ f, run .initial p.toList = some ⟨.plain, f, []⟩ := by
  refine Option.isSome_iff_exists.trans ⟨?_, ?_⟩
  · rintro ⟨e, he⟩
    obtain ⟨f, hrun, -⟩ := compile?_eq_some_iff.1 he
    exact ⟨f, hrun⟩
  · rintro ⟨f, hrun⟩
    exact ⟨f.ends, compile?_eq_some_iff.2 ⟨f, hrun, rfl⟩⟩

/-- A parenthesis that the text does not open is an error. -/
theorem not_valid_append_parenthesis {f : Frame}
    (hrun : run .initial p.toList = some ⟨.plain, f, []⟩) (q : String) :
    ¬manual.Valid (p ++ ")" ++ q) := by
  intro h
  obtain ⟨g, hg⟩ := valid_iff.1 h
  have hstep : run ⟨.plain, f, []⟩ ")".toList = none := rfl
  rw [String.toList_append, String.toList_append, run_append, run_append, hrun, Option.bind_some,
    hstep] at hg
  cases hg

theorem overcloses_append (q : String) (h : manual.Overcloses p) :
    manual.Overcloses (p ++ q) := by
  obtain ⟨before, behind, rfl, hvalid, hnot⟩ := h
  exact ⟨before, behind ++ q, by rw [String.append_assoc], hvalid, hnot⟩

theorem run_above (frames : List Frame) (h : ¬manual.Overcloses p) :
    run (State.initial.above frames) p.toList = (run .initial p.toList).map (·.above frames) := by
  obtain ⟨cs, rfl⟩ : ∃ cs, p = .ofList cs := ⟨p.toList, String.ofList_toList.symm⟩
  rw [String.toList_ofList]
  induction cs using List.reverseRecOn with
  | nil => rfl
  | append_singleton cs c ih =>
    rw [String.ofList_append] at h
    rw [run_append, run_append, ih fun hcs => h (overcloses_append _ hcs)]
    rcases hrun : run .initial cs with _ | ⟨mode, f, below⟩
    · rfl
    rw [Option.map_some, Option.bind_some, Option.bind_some, run_singleton, run_singleton]
    refine step?_above frames ?_
    rintro ⟨rfl, hmode, hbelow⟩
    obtain rfl : mode = .plain := hmode
    obtain rfl : below = [] := hbelow
    rw [← String.toList_ofList (l := cs)] at hrun
    have hnot := not_valid_append_parenthesis hrun ""
    rw [String.append_empty] at hnot
    exact h ⟨.ofList cs, "", (String.append_empty ..).symm, valid_iff.2 ⟨f, hrun⟩, hnot⟩

/-! ### Parts of expressions -/

theorem step?_of_single? (hs : s.mode = .plain) (h : single? c = some e) :
    s.step? c = some (s.push e) := by
  have hopen : c ≠ '(' := by
    rintro rfl
    cases h
  have hclose : c ≠ ')' := by
    rintro rfl
    cases h
  have hbar : c ≠ '|' := by
    rintro rfl
    cases h
  rw [State.step?, hs]
  simp only [State.read?, if_neg hopen, if_neg hclose, if_neg hbar, h, Option.map_some]

theorem single?_letter (h : c.isAlpha = true) :
    single? c = some fun name i => if name[i]? = some c then [i + 1] else [] := by
  have hcaret : c ≠ '^' := by
    rintro rfl
    cases h
  have hdollar : c ≠ '$' := by
    rintro rfl
    cases h
  rw [single?, if_neg hcaret, if_neg hdollar, if_pos h]

theorem compile?_of_single? (h : single? c = some e) : compile? (.singleton c) = some e := by
  have hrun : run .initial (String.singleton c).toList = some (State.initial.push e) := by
    rw [String.toList_singleton, run_singleton, step?_of_single? rfl h]
  exact compile?_eq_some_iff.2 ⟨_, hrun, Frame.ends_push_empty e⟩

/-- The expression in a group is closed behind it. -/
theorem run_group (hs : s.mode = .plain) (h : manual.Closed p) :
    run s ("(?:" ++ p ++ ")").toList =
      (run .initial p.toList).bind fun t => (t.above (s.top :: s.below)).step? ')' := by
  obtain ⟨mode, f, below⟩ := s
  obtain rfl : mode = .plain := hs
  have hhead : run ⟨.plain, f, below⟩ "(?:".toList = some (State.initial.above (f :: below)) := rfl
  rw [String.toList_append, String.toList_append, run_append, run_append, hhead, Option.bind_some,
    run_above _ h.balanced, Option.bind_map]
  exact Option.bind_congr fun t _ => run_singleton _ _

theorem compile?_group (h : manual.Closed p) : compile? ("(?:" ++ p ++ ")") = compile? p := by
  rw [compile?, run_group rfl h, compile?]
  rcases run .initial p.toList with _ | ⟨mode, f, below⟩
  · rfl
  cases mode with
  | plain =>
    cases below with
    | nil => exact congrArg some (Frame.ends_push_empty f.ends)
    | cons g below => cases below <;> rfl
  | opened => rfl
  | asked => rfl

/-- The parts of one character. -/
theorem single?_of_proper (h : manual.Proper part) :
    (∃ p, part = .group p) ∨ ∃ c e, part.text = .singleton c ∧ single? c = some e := by
  cases part with
  | start => exact .inr ⟨'^', _, rfl, rfl⟩
  | finish => exact .inr ⟨'$', _, rfl, rfl⟩
  | letter c => exact .inr ⟨c, _, rfl, single?_letter h⟩
  | group p => exact .inl ⟨p, rfl⟩

/-- An expression is put behind what has been read of the innermost group. -/
theorem run_part (hs : s.mode = .plain) (h : manual.Proper part)
    (he : compile? part.text = some e) : run s part.text.toList = some (s.push e) := by
  rcases single?_of_proper h with ⟨p, rfl⟩ | ⟨c, e', htext, hc⟩
  · obtain ⟨f, hrun, rfl⟩ := compile?_eq_some_iff.1 ((compile?_group h).symm.trans he)
    obtain ⟨mode, g, below⟩ := s
    obtain rfl : mode = .plain := hs
    rw [Part.text, run_group rfl h, hrun]
    rfl
  · rw [htext] at he ⊢
    obtain rfl := Option.some.inj ((compile?_of_single? hc).symm.trans he)
    rw [String.toList_singleton, run_singleton, step?_of_single? hs hc]

/-- Behind a group around what is no expression, a group is left open. -/
theorem below_of_run_part (hs : s.mode = .plain) (h : manual.Proper part)
    (hnone : compile? part.text = none) (hrun : run s part.text.toList = some s') :
    s'.mode = .plain ∧ s.below.length < s'.below.length := by
  rcases single?_of_proper h with ⟨p, rfl⟩ | ⟨c, e', htext, hc⟩
  · rw [Part.text, compile?_group h, compile?] at hnone
    rw [Part.text, run_group hs h] at hrun
    rcases hp : run .initial p.toList with _ | ⟨mode, f, below⟩
    · rw [hp] at hrun
      cases hrun
    rw [hp, Option.bind_some] at hnone hrun
    cases mode with
    | plain =>
      cases below with
      | nil => cases hnone
      | cons g below =>
        obtain rfl := Option.some.inj hrun
        have hlength : (below ++ s.top :: s.below).length = _ := List.length_append
        rw [List.length_cons] at hlength
        exact ⟨rfl, Nat.lt_of_lt_of_eq (by omega) hlength.symm⟩
    | opened => cases hrun
    | asked => cases hrun
  · rw [htext, compile?_of_single? hc] at hnone
    cases hnone

/-! ### Parts one behind the other -/

/-- Expressions are read one behind the other, and match so. -/
theorem run_textOf (hs : s.mode = .plain) (h : ∀ part ∈ parts, manual.Proper part)
    (hvalid : ∀ part ∈ parts, manual.Valid part.text) :
    ∃ f, run s (textOf parts).toList = some { s with top := f } ∧ f.complete = s.top.complete ∧
      ∀ name i j, j ∈ f.current name.toList i ↔
        ∃ k ∈ s.top.current name.toList i, manual.SpansAll parts name k j := by
  induction parts generalizing s with
  | nil => exact ⟨s.top, rfl, rfl, fun name i j => by simp [Manual.SpansAll]⟩
  | cons part parts ih =>
    obtain ⟨e, he⟩ := Option.isSome_iff_exists.1 (hvalid part List.mem_cons_self)
    have hpart := run_part hs (h part List.mem_cons_self) he
    obtain ⟨f, hrun, hcomplete, hcurrent⟩ := ih (s := s.push e) hs
      (fun part hp => h part (List.mem_cons_of_mem _ hp))
      (fun part hp => hvalid part (List.mem_cons_of_mem _ hp))
    refine ⟨f, ?_, hcomplete, fun name i j => ?_⟩
    · rw [textOf, String.toList_append, run_append, hpart, Option.bind_some, hrun]
      rfl
    · have hspans : ∀ k l, manual.Spans part.text name k l ↔ l ∈ e name.toList k := by
        intro k l
        change (∃ e', _ ∧ _) ↔ _
        simp [he]
      rw [hcurrent]
      simp only [Manual.SpansAll, hspans, State.push, Frame.push, List.mem_flatMap]
      grind

/-- Behind parts that are not all expressions, a group is left open. -/
theorem below_of_run_textOf (hs : s.mode = .plain) (h : ∀ part ∈ parts, manual.Proper part)
    (hrun : run s (textOf parts).toList = some s') : s'.mode = .plain ∧
      s.below.length ≤ s'.below.length ∧
      (s'.below.length = s.below.length → ∀ part ∈ parts, manual.Valid part.text) := by
  induction parts generalizing s with
  | nil =>
    obtain rfl := Option.some.inj hrun
    exact ⟨hs, Nat.le_refl _, fun _ part hp => nomatch hp⟩
  | cons part parts ih =>
    rw [textOf, String.toList_append, run_append, Option.bind_eq_some_iff] at hrun
    obtain ⟨t, hpart, hrun⟩ := hrun
    have hproper := h part List.mem_cons_self
    have hrest : ∀ part ∈ parts, manual.Proper part := fun part hp =>
      h part (List.mem_cons_of_mem _ hp)
    rcases he : compile? part.text with _ | e
    · obtain ⟨ht, hlength⟩ := below_of_run_part hs hproper he hpart
      obtain ⟨hs', hle, -⟩ := ih ht hrest hrun
      exact ⟨hs', by omega, fun heq => by omega⟩
    · obtain rfl := Option.some.inj ((run_part hs hproper he).symm.trans hpart)
      obtain ⟨hs', hle, hvalid⟩ := ih (s := s.push e) hs hrest hrun
      refine ⟨hs', hle, fun heq => List.forall_mem_cons.2 ⟨?_, hvalid heq⟩⟩
      exact Option.isSome_iff_exists.2 ⟨e, he⟩

/-- What parts that are expressions are compiled to. -/
theorem run_initial_textOf (h : ∀ part ∈ parts, manual.Proper part)
    (hvalid : manual.Valid (textOf parts)) :
    ∃ f, run .initial (textOf parts).toList = some ⟨.plain, f, []⟩ ∧
      ∀ name i j, j ∈ f.ends name.toList i ↔ manual.SpansAll parts name i j := by
  obtain ⟨g, hg⟩ := valid_iff.1 hvalid
  obtain ⟨f, hrun, hcomplete, hcurrent⟩ := run_textOf (s := .initial) rfl h
    ((below_of_run_textOf rfl h hg).2.2 rfl)
  refine ⟨f, hrun, fun name i j => ?_⟩
  rw [Frame.ends, hcomplete, List.mem_append, hcurrent]
  simp [State.initial, Frame.empty]

/-- The second of two alternatives is read behind the first. -/
theorem run_alternatives {left right : List Part} (hleft : ∀ part ∈ left, manual.Proper part)
    (hright : ∀ part ∈ right, manual.Proper part) (hl : manual.Valid (textOf left))
    (hr : manual.Valid (textOf right)) :
    ∃ f, run .initial (textOf left ++ "|" ++ textOf right).toList = some ⟨.plain, f, []⟩ ∧
      ∀ name i j, j ∈ f.ends name.toList i ↔
        manual.SpansAll left name i j ∨ manual.SpansAll right name i j := by
  obtain ⟨f, hf, hends⟩ := run_initial_textOf hleft hl
  obtain ⟨t, ht⟩ := valid_iff.1 hr
  obtain ⟨g, hg, hcomplete, hcurrent⟩ := run_textOf (s := ⟨.plain, f.next, []⟩) rfl hright
    ((below_of_run_textOf rfl hright ht).2.2 rfl)
  have hbar : run ⟨.plain, f, []⟩ "|".toList = some ⟨.plain, f.next, []⟩ := rfl
  refine ⟨g, ?_, fun name i j => ?_⟩
  · rw [String.toList_append, String.toList_append, run_append, run_append, hf, Option.bind_some,
      hbar, Option.bind_some, hg]
  · rw [Frame.ends, hcomplete, List.mem_append, hcurrent, ← hends]
    simp [Frame.next, Frame.empty]

/-! ### The manual -/

theorem spans_iff {f : Frame} (hrun : run .initial p.toList = some ⟨.plain, f, []⟩) (name : String)
    (i j : Nat) : manual.Spans p name i j ↔ j ∈ f.ends name.toList i := by
  change (∃ e, _ ∧ _) ↔ _
  simp [compile?_eq_some_iff.2 ⟨f, hrun, rfl⟩]

theorem spans_singleton_iff (h : single? c = some e) (name : String) (i j : Nat) :
    manual.Spans (.singleton c) name i j ↔ j ∈ e name.toList i := by
  change (∃ e, _ ∧ _) ↔ _
  simp [compile?_of_single? h]

theorem valid_singleton (h : single? c = some e) : manual.Valid (.singleton c) :=
  Option.isSome_iff_exists.2 ⟨e, compile?_of_single? h⟩

/-- **The library does what its manual says.** -/
theorem follows : library.Follows manual where
  isSome_compile? p := (and_iff_left trivial).symm
  isMatch_iff {p e} h name := by
    have hspans : ∀ i j, manual.Spans p name i j ↔ j ∈ e name.toList i := by
      intro i j
      obtain ⟨f, hrun, rfl⟩ := compile?_eq_some_iff.1 h
      exact spans_iff hrun name i j
    change List.any _ _ = true ↔ _
    simp only [List.any_eq_true, List.mem_range, Nat.lt_succ_iff, hspans, Bool.not_eq_true',
      List.isEmpty_eq_false_iff_exists_mem]
  valid_start := valid_singleton (c := '^') rfl
  spans_start name i j := by
    refine (spans_singleton_iff (c := '^') rfl name i j).trans ?_
    split <;> simp_all
  valid_finish := valid_singleton (c := '$') rfl
  spans_finish name i j := by
    refine (spans_singleton_iff (c := '$') rfl name i j).trans ?_
    rw [String.length_toList]
    split <;> simp_all
  valid_letter h := valid_singleton (single?_letter h)
  groupNames_letter _ := rfl
  spans_letter h name i j := by
    refine (spans_singleton_iff (single?_letter h) name i j).trans ?_
    split <;> simp_all
  valid_group h := by
    change (compile? _).isSome ↔ (compile? _).isSome
    rw [compile?_group h]
  spans_group h _ name i j := by
    change (∃ e, compile? _ = some e ∧ _) ↔ ∃ e, compile? _ = some e ∧ _
    rw [compile?_group h]
  valid_sequence {parts} h := by
    have hnames : parts.flatMap manual.namesIn = [] := by
      refine List.flatMap_eq_nil_iff.2 fun part _ => ?_
      cases part <;> rfl
    rw [hnames]
    refine ⟨fun hvalid => ⟨?_, List.nodup_nil⟩, fun ⟨hvalid, _⟩ => ?_⟩
    · obtain ⟨f, hrun⟩ := valid_iff.1 hvalid
      exact (below_of_run_textOf rfl h hrun).2.2 rfl
    · obtain ⟨f, hrun, -⟩ := run_textOf (s := .initial) rfl h hvalid
      exact valid_iff.2 ⟨f, hrun⟩
  spans_sequence h hvalid name i j := by
    obtain ⟨f, hrun, hends⟩ := run_initial_textOf h hvalid
    rw [spans_iff hrun, hends]
  valid_alternatives hleft hright hl hr _ := by
    obtain ⟨f, hrun, -⟩ := run_alternatives hleft hright hl hr
    exact valid_iff.2 ⟨f, hrun⟩
  spans_alternatives {left right} hleft hright hl hr _ name i j := by
    obtain ⟨f, hrun, hends⟩ := run_alternatives hleft hright hl hr
    obtain ⟨g, hg, hg'⟩ := run_initial_textOf hleft hl
    obtain ⟨t, ht, ht'⟩ := run_initial_textOf hright hr
    rw [spans_iff hrun, hends, spans_iff hg, hg', spans_iff ht, ht']
  not_valid_unopened h hvalid behind := by
    obtain ⟨f, hrun, -⟩ := run_initial_textOf h hvalid
    exact not_valid_append_parenthesis hrun behind

end Letters

end TypeAncestry
