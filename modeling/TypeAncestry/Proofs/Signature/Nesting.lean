import TypeAncestry.Proofs.Signature.Agreement
import TypeAncestry.Proofs.Signature.Splitting

/-!
# How deeply signatures nest

A signature stands inside another one as an argument or as the bound of a wildcard, and each that is
still open has a frame on the stack of the reader.  The counter of levels follows the arguments: it
is at the number of open brackets, and a bracket that would be one too many is refused.  It does not
follow the bounds, of which as many may be open as the text has.

* `Reading.openBrackets`, `Reading.openBounds` : the two kinds of open signatures on a stack.
* `Reading.Counted`, `Reading.Counted.run` : the counter agrees with the brackets at every moment.
* `Reading.Counted.unwind`, `Reading.ofText_restores` : at the end no bracket is open.
* `Reading.Counted.step_tooDeep_iff`, `Reading.outcome_eq_error_iff` : when a lexeme is refused for
  its depth, and what a refused lexeme means for the text.
* `Reading.active_of_mem_calls` : how many calls of the descent are active when one is made.
* `Reading.nesting_counts_brackets` : what the limit on nesting bounds.
* `Reading.reads_bounds`, `Reading.bounds_nest_beyond_limit` : it does not bound the bounds.
-/

namespace TypeAncestry

namespace Signature

/-- The frame is that of a name whose arguments are being read, so its bracket is open. -/
def Frame.isArguments : Frame → Bool
  | .bound _ => false
  | .arguments _ _ => true

namespace Reading

open State

variable {s s' : State} {l : Lexeme} {stack : List Frame}

/-- The number of brackets that are open. -/
def openBrackets (stack : List Frame) : Nat := stack.countP (·.isArguments)

/-- The number of bounds that are being read. -/
def openBounds (stack : List Frame) : Nat := stack.countP fun f => !f.isArguments

@[simp] theorem openBrackets_arguments (n : Word) (ts : List Term) (stack : List Frame) :
    openBrackets (.arguments n ts :: stack) = openBrackets stack + 1 := by
  simp [openBrackets, Frame.isArguments]

theorem nested_eq (s : State) : s.nested = 1 + openBrackets s.stack + openBounds s.stack := by
  have hlength := s.stack.length_eq_countP_add_countP (·.isArguments)
  simp only [State.nested, openBrackets, openBounds]
  rw [hlength]
  simp only [Bool.not_eq_true, Bool.decide_eq_false]
  omega

/-! ### The counter agrees with the brackets -/

/-- The counter of `s` is at the number of brackets that are open in `stack`, which are no more than
may be open, and it was not misused. -/
structure Counted (s : State) (stack : List Frame) : Prop where
  depth : s.levels.depth = openBrackets stack
  limit : s.levels.maxDepth = Limits.signature.maxDepth
  bounded : openBrackets stack ≤ 128
  misuse : s.misuse = none

/-- The closing bracket was counted when it was opened, so the counter can be left. -/
theorem Counted.closeLevel {n : Word} {ts : List Term} (h : Counted s (.arguments n ts :: stack)) :
    Counted s.closeLevel stack := by
  obtain ⟨hdepth, hlimit, hbounded, hmisuse⟩ := h
  rw [openBrackets_arguments] at hdepth hbounded
  have hleave : s.levels.leave = .ok { s.levels with depth := openBrackets stack } := by
    rw [Levels.leave, if_neg (by omega), hdepth, Nat.add_sub_cancel]
  unfold State.closeLevel
  simp only [hleave]
  exact ⟨rfl, hlimit, by omega, hmisuse⟩

/-- **The brackets that are open at a fault can be closed,** the innermost first. -/
theorem Counted.unwind (front : List Frame) {rest : List Frame} :
    ∀ {s : State}, Counted s (front ++ rest) → Counted (s.unwind front) rest := by
  induction front with
  | nil => exact id
  | cons f front ih =>
    intro s h
    cases f with
    | bound b => exact ih ⟨h.depth, h.limit, h.bounded, h.misuse⟩
    | arguments n ts => exact ih h.closeLevel

theorem counted_initial : Counted .initial State.initial.stack := ⟨rfl, rfl, Nat.zero_le _, rfl⟩

/-- A lexeme behind a complete term closes bounds, of which the counter knows nothing, and at most
one bracket. -/
theorem counted_of_resume (stack : List Frame) :
    ∀ t : Term, Counted s stack → s.resume t l stack = .ok s' → Counted s' s'.stack := by
  induction stack with
  | nil => intro t _ h; cases h
  | cons f stack ih =>
    intro t hs h
    have ⟨hdepth, hlimit, hbounded, hmisuse⟩ := hs
    cases f with
    | bound b => exact ih (.bounded b t) ⟨hdepth, hlimit, hbounded, hmisuse⟩ h
    | arguments n ts =>
      unfold resume at h
      split at h
      · -- behind a comma the bracket stays open
        obtain rfl := Except.ok.inj h
        rw [openBrackets_arguments] at hdepth hbounded
        refine ⟨?_, hlimit, ?_, hmisuse⟩
        · rw [hdepth, openBrackets_arguments]
        · rwa [openBrackets_arguments]
      · obtain rfl := Except.ok.inj h
        rw [closeLevel_stack]
        exact Counted.closeLevel ⟨hdepth, hlimit, hbounded, hmisuse⟩
      · cases h

/-- **The counter agrees with the brackets after every step.** -/
theorem Counted.step (h : Counted s s.stack) (hs : s.step l = .ok s') : Counted s' s'.stack := by
  have ⟨hdepth, hlimit, hbounded, hmisuse⟩ := h
  unfold State.step at hs
  split at hs
  · -- a word does not change the stack, and all else is a fault
    unfold begin at hs
    split at hs
    · obtain rfl := Except.ok.inj hs
      exact ⟨hdepth, hlimit, hbounded, hmisuse⟩
    · cases hs
    · cases hs
    · cases hs
  · unfold afterWildcard at hs
    split at hs
    · split at hs
      · obtain rfl := Except.ok.inj hs
        exact ⟨hdepth, hlimit, hbounded, hmisuse⟩
      · exact counted_of_resume s.stack .wildcard h hs
    · exact counted_of_resume s.stack .wildcard h hs
  · next n _ =>
    unfold afterName at hs
    split at hs
    · split at hs
      · next levels henter =>
        obtain rfl := Except.ok.inj hs
        obtain ⟨hroom, rfl⟩ := Levels.enter?_eq_some_iff.1 henter
        have hmax : s.levels.maxDepth.toNat = 128 := by rw [hlimit]; rfl
        refine ⟨?_, hlimit, ?_, hmisuse⟩
        · simp only [openBrackets_arguments, hdepth]
        · rw [openBrackets_arguments]
          omega
      · cases hs
    · exact counted_of_resume s.stack (.named n []) h hs
  · next t _ => exact counted_of_resume s.stack t h hs

/-- The counter agrees with the brackets at every moment of reading. -/
theorem Counted.run (ls : List Lexeme) :
    ∀ {s : State} {fault : Option SignatureError}, Counted s s.stack → s.run ls = (s', fault) →
      Counted s' s'.stack := by
  induction ls with
  | nil =>
    intro s fault h hs
    obtain rfl := (Prod.mk.inj hs).1
    exact h
  | cons l ls ih =>
    intro s fault h hs
    unfold State.run at hs
    split at hs
    · next s₁ hl => exact ih (h.step hl) hs
    · obtain rfl := (Prod.mk.inj hs).1
      exact h

theorem Reaches.counted {text : String} (h : Reaches text s) : Counted s s.stack := by
  obtain ⟨ls, -, hrun⟩ := h
  exact counted_initial.run ls hrun

/-- When a text has been read, no bracket is open in the counter, whatever came out. -/
theorem ofText_restores (text : String) :
    (ofText text).levels = Levels.new Limits.signature.maxDepth ∧ (ofText text).misuse = none := by
  rcases hrun : State.initial.run (Lexeme.ofText text) with ⟨s, fault⟩
  obtain ⟨hdepth, hlimit, -, hmisuse⟩ :=
    Counted.unwind s.stack (by rw [List.append_nil]; exact counted_initial.run _ hrun)
  have hlevels : (s.unwind s.stack).levels = Levels.new Limits.signature.maxDepth :=
    congr (congrArg Levels.mk hdepth) hlimit
  unfold ofText
  rw [hrun]
  refine ⟨hlevels, ?_⟩
  simp only [hlevels, hmisuse]
  rfl

theorem resume_ne_tooDeep {p : Nat} (stack : List Frame) :
    ∀ t : Term, s.resume t l stack ≠ .error (.tooDeep p) := by
  induction stack with
  | nil => intro t h; cases h
  | cons f stack ih =>
    intro t h
    cases f with
    | bound b => exact ih (.bounded b t) h
    | arguments n ts =>
      unfold resume at h
      split at h <;> cases h

/-- **A text is refused for its depth at an opening bracket** behind a name, when as many brackets
are open as may be, and nowhere else. -/
theorem Counted.step_tooDeep_iff (h : Counted s s.stack) {p : Nat} :
    s.step l = .error (.tooDeep p) ↔
      openBrackets s.stack = 128 ∧ (∃ n, s.focus = .name n) ∧ l.token = .opening ∧
        p = l.offset := by
  obtain ⟨hdepth, hlimit, hbounded, -⟩ := h
  have hmax : s.levels.maxDepth.toNat = 128 := by rw [hlimit]; rfl
  constructor
  · intro hs
    unfold State.step at hs
    split at hs
    · unfold begin at hs
      split at hs <;> cases hs
    · unfold afterWildcard at hs
      split at hs
      · split at hs
        · cases hs
        · exact absurd hs (resume_ne_tooDeep s.stack _)
      · exact absurd hs (resume_ne_tooDeep s.stack _)
    · next n hn =>
      unfold afterName at hs
      split at hs
      · next hl =>
        split at hs
        · cases hs
        · next hfull =>
          have hle := Levels.enter?_eq_none_iff.1 hfull
          cases hs
          exact ⟨by omega, ⟨n, hn⟩, hl, rfl⟩
      · exact absurd hs (resume_ne_tooDeep s.stack _)
    · exact absurd hs (resume_ne_tooDeep s.stack _)
  · rintro ⟨hfull, ⟨n, hn⟩, hl, rfl⟩
    have henter : s.levels.enter? = none := Levels.enter?_eq_none_iff.2 (by omega)
    simp only [State.step, hn, afterName, hl, henter]

/-! ### The fault of a text -/

/-- A run ends with a fault at the first lexeme that is refused. -/
theorem run_eq_error_iff {e : SignatureError} (ls : List Lexeme) :
    ∀ s : State, (∃ s', s.run ls = (s', some e)) ↔
      ∃ ms l s', ms ++ [l] <+: ls ∧ s.run ms = (s', none) ∧ s'.step l = .error e := by
  induction ls with
  | nil =>
    intro s
    constructor
    · rintro ⟨s', h⟩
      cases (Prod.mk.inj h).2
    · rintro ⟨ms, l, s', hms, -⟩
      simp at hms
  | cons m ls ih =>
    intro s
    rcases hstep : s.step m with e' | s₁
    · -- the first lexeme is refused, so nothing is read before it
      have hrun : s.run (m :: ls) = (s, some e') := by rw [State.run, hstep]
      constructor
      · rintro ⟨s', h⟩
        obtain ⟨rfl, he⟩ := Prod.mk.inj (hrun.symm.trans h)
        obtain rfl := Option.some.inj he
        exact ⟨[], m, s, ⟨ls, rfl⟩, rfl, hstep⟩
      · rintro ⟨_ | ⟨m', ms⟩, l, s', hms, hs', hl⟩
        · obtain ⟨rfl, -⟩ := List.cons_prefix_cons.1 hms
          obtain rfl : s = s' := (Prod.mk.inj hs').1
          obtain rfl := Except.error.inj (hstep.symm.trans hl)
          exact ⟨s, hrun⟩
        · obtain ⟨rfl, -⟩ := List.cons_prefix_cons.1 hms
          rw [State.run, hstep] at hs'
          cases (Prod.mk.inj hs').2
    · rw [run_cons hstep, ih s₁]
      constructor
      · rintro ⟨ms, l, s', hms, hs', hl⟩
        exact ⟨m :: ms, l, s', List.cons_prefix_cons.2 ⟨rfl, hms⟩,
          (run_cons hstep).trans hs', hl⟩
      · rintro ⟨_ | ⟨m', ms⟩, l, s', hms, hs', hl⟩
        · obtain ⟨rfl, -⟩ := List.cons_prefix_cons.1 hms
          obtain rfl : s = s' := (Prod.mk.inj hs').1
          cases hstep.symm.trans hl
        · obtain ⟨rfl, hrest⟩ := List.cons_prefix_cons.1 hms
          exact ⟨ms, l, s', hrest, (run_cons hstep).symm.trans hs', hl⟩

/-- A text is refused for a lexeme if the lexeme is refused where the reading of those before it has
come to, or for its end. -/
theorem outcome_eq_error_iff {text : String} {e : SignatureError}
    (he : e ≠ .unexpectedEnd text.utf8ByteSize) :
    (ofText text).outcome = .error e ↔
      ∃ ls l s, ls ++ [l] <+: Lexeme.ofText text ∧ State.initial.run ls = (s, none) ∧
        s.step l = .error e := by
  rw [← run_eq_error_iff]
  constructor
  · intro h
    rcases hrun : State.initial.run (Lexeme.ofText text) with ⟨s, _ | e'⟩
    · rw [outcome_of_run hrun] at h
      split at h
      · cases h
      · exact absurd (Except.error.inj h).symm he
    · rw [outcome_of_fault hrun] at h
      obtain rfl := Except.error.inj h
      exact ⟨s, rfl⟩
  · rintro ⟨s, hrun⟩
    exact outcome_of_fault hrun

/-- A call of the descent is made where a signature begins.  The calls that are active then are the
one for the outermost signature, one for each open bracket, which the counter counts, and one for
each bound that is being read. -/
theorem active_of_mem_calls {text : String} {c : Descent.Call}
    (h : c ∈ (Descent.ofText text).calls) :
    ∃ s, Reaches text s ∧ c.active = s.nested ∧
      c.active = 1 + c.levels.depth + openBounds s.stack ∧ c.levels.depth ≤ 128 := by
  rw [(Descent.ofText_eq text).2.2.2] at h
  obtain ⟨s, hs, rfl⟩ := List.mem_map.1 h
  have hreaches := reaches_of_mem_beginnings hs
  have hcounted := hreaches.counted
  refine ⟨s, hreaches, rfl, ?_, ?_⟩
  · rw [Descent.Call.of, nested_eq, hcounted.depth]
  · rw [Descent.Call.of, hcounted.depth]
    exact hcounted.bounded

/-- **The limit on nesting counts brackets.**  At every moment of reading a text, the signatures
that are read one inside the other are the arguments behind open brackets, the bounds of wildcards,
and the outermost one; of the brackets, which the counter counts, at most 128 are open.  A text is
refused as too deep exactly if it has one bracket more behind a name, and the fault lies there.
Reading by descent makes one call for each moment at which a signature begins, and as many of these
calls are active as signatures are read then one inside the other. -/
theorem nesting_counts_brackets (text : String) :
    (∀ s, Reaches text s →
      s.nested = 1 + openBrackets s.stack + openBounds s.stack ∧
        openBrackets s.stack = s.levels.depth ∧ openBrackets s.stack ≤ 128) ∧
    (∀ p, TypeTree.ofSignature text = .error (.tooDeep p) ↔
      ∃ ls l s n, ls ++ [l] <+: Lexeme.ofText text ∧ State.initial.run ls = (s, none) ∧
        openBrackets s.stack = 128 ∧ s.focus = .name n ∧ l.token = .opening ∧ p = l.offset) ∧
    (Descent.ofText text).calls = (beginnings text).map Descent.Call.of ∧
    ∀ c ∈ (Descent.ofText text).calls, ∃ s, Reaches text s ∧ c.active = s.nested ∧
      c.active = 1 + c.levels.depth + openBounds s.stack ∧ c.levels.depth ≤ 128 := by
  refine ⟨?_, fun p => ?_, (Descent.ofText_eq text).2.2.2, fun c hc => active_of_mem_calls hc⟩
  · rintro s hs
    have hcounted := hs.counted
    exact ⟨nested_eq s, hcounted.depth.symm, hcounted.bounded⟩
  · have hmap : TypeTree.ofSignature text = .error (.tooDeep p) ↔
        (ofText text).outcome = .error (.tooDeep p) := by
      rw [TypeTree.ofSignature]
      rcases (ofText text).outcome with e | t <;> simp [Except.map]
    rw [hmap, outcome_eq_error_iff (by simp)]
    constructor
    · rintro ⟨ls, l, s, hls, hrun, hl⟩
      obtain ⟨hfull, ⟨n, hn⟩, hopen, hp⟩ := (counted_initial.run ls hrun).step_tooDeep_iff.1 hl
      exact ⟨ls, l, s, n, hls, hrun, hfull, hn, hopen, hp⟩
    · rintro ⟨ls, l, s, n, hls, hrun, hfull, hn, hopen, hp⟩
      have hcounted := counted_initial.run ls hrun
      exact ⟨ls, l, s, hls, hrun, hcounted.step_tooDeep_iff.2 ⟨hfull, ⟨n, hn⟩, hopen, hp⟩⟩

/-! ### Bounds are not counted -/

/-- A wildcard inside `n` bounds. -/
def boundedText : Nat → String
  | 0 => "?"
  | n + 1 => "? extends " ++ boundedText n

/-- The term of `boundedText`. -/
def boundedTerm : Nat → Term
  | 0 => .wildcard
  | n + 1 => .bounded .upper (boundedTerm n)

theorem splits_boundedText (n : Nat) :
    Splits (boundedText n).toList (boundedTerm n).spelling := by
  have hblank : Text.isBlank ' ' = true := by decide
  have hwildcard : ∀ c ∈ Word.wildcard.chars, isWordChar c = true :=
    List.all_eq_true.1 (by decide)
  have hupper : ∀ c ∈ Bound.upper.word.chars, isWordChar c = true :=
    List.all_eq_true.1 (by decide)
  -- both words end where a blank follows
  have hend : ∀ cs : List Char, ∀ c ∈ (' ' :: cs).head?, isWordChar c = false := fun cs => by
    simpa using isWordChar_of_isBlank hblank
  induction n with
  | zero => exact .word hwildcard (fun c hc => nomatch hc) .nil
  | succ n ih =>
    have htext : (boundedText (n + 1)).toList = Word.wildcard.chars ++
        (' ' :: (Bound.upper.word.chars ++ (' ' :: (boundedText n).toList))) := by
      rw [boundedText, String.toList_append]
      rfl
    rw [htext]
    exact .word hwildcard (hend _) (.blank hblank (.word hupper (hend _) (.blank hblank ih)))

theorem boundedTerm_wellNamed (n : Nat) : (boundedTerm n).WellNamed := by
  induction n with
  | zero => trivial
  | succ n ih => exact ih

theorem nesting_boundedTerm (n : Nat) : (boundedTerm n).nesting = 0 := by
  induction n with
  | zero => rfl
  | succ n ih => exact ih

theorem ofSignature_boundedText (n : Nat) : TypeTree.ofSignature (boundedText n) = .ok .top := by
  have htokens := splits_iff_tokens.1 (splits_boundedText n)
  have hread : (ofText (boundedText n)).outcome = .ok (boundedTerm n) :=
    outcome_eq_ok_iff.2
      ⟨boundedTerm_wellNamed n, htokens.symm, by rw [nesting_boundedTerm]; exact Nat.zero_le _⟩
  rw [TypeTree.ofSignature, hread]
  cases n <;> rfl

/-- Where a signature has to begin, the lexemes of `n` bounds put as many frames on the stack, and
one has to begin again. -/
theorem run_bounds (n : Nat) :
    ∀ (s : State) (ls : List Lexeme), s.focus = .start →
      ls.map (·.token) = (boundedTerm n).spelling →
      ∃ front back s', ls = front ++ back ∧ s.run front = (s', none) ∧ s'.focus = .start ∧
        s'.stack = List.replicate n (.bound .upper) ++ s.stack := by
  induction n with
  | zero => exact fun s ls hs _ => ⟨[], ls, s, rfl, rfl, hs, rfl⟩
  | succ n ih =>
    intro s ls hs hls
    obtain ⟨l, ls, rfl, hl, hls⟩ := List.map_eq_cons_iff.1 hls
    obtain ⟨m, ls, rfl, hm, hls⟩ := List.map_eq_cons_iff.1 hls
    -- the wildcard and the word for its bound open one frame, behind which the rest is read
    have hstep : State.step { s with focus := .wildcard } m =
        .ok { s with stack := .bound .upper :: s.stack, focus := .start } := by
      simp [State.step, afterWildcard, hm, Bound.ofWord?_word]
    obtain ⟨front, back, s', rfl, hrun, hfocus, hstack⟩ :=
      ih { s with stack := .bound .upper :: s.stack, focus := .start } ls rfl hls
    refine ⟨l :: m :: front, back, s', rfl, ?_, hfocus, ?_⟩
    · rw [run_cons (step_word hs hl)]
      exact (run_cons hstep).trans hrun
    · rw [hstack, List.replicate_succ', List.append_assoc]
      rfl

/-- **Bounds nest without limit**: a text with `n` bounds is read to its end, and on the way a
signature begins inside all of them. -/
theorem reads_bounds (n : Nat) :
    TypeTree.ofSignature (boundedText n) = .ok .top ∧
      ∃ s ∈ beginnings (boundedText n), openBrackets s.stack = 0 ∧ s.nested = n + 1 := by
  refine ⟨ofSignature_boundedText n, ?_⟩
  have htokens := splits_iff_tokens.1 (splits_boundedText n)
  obtain ⟨front, back, s, htext, hrun, hfocus, hstack⟩ := run_bounds n .initial _ rfl htokens
  refine ⟨s, mem_beginnings_iff.2 ⟨front, back, htext, hrun, ?_⟩, ?_, ?_⟩
  · refine begins_of_start hfocus ?_
    unfold lacksArgument
    rw [hstack]
    cases n <;> rfl
  · rw [hstack]
    simp [openBrackets, Frame.isArguments, State.initial]
  · rw [State.nested, hstack]
    simp [State.initial]

/-- A text with 129 bounds inside one another is read to its end, though on the way 130 signatures
are read one inside the other, and no bracket is open; reading by descent has 130 calls active then,
and its counter is at no level. -/
theorem bounds_nest_beyond_limit :
    TypeTree.ofSignature (boundedText 129) = .ok .top ∧
      (¬ ∀ s, Reaches (boundedText 129) s →
        s.nested ≤ Limits.signature.maxDepth.toNat + 1) ∧
      ∃ c ∈ (Descent.ofText (boundedText 129)).calls,
        Limits.signature.maxDepth.toNat + 1 < c.active ∧ c.levels.depth = 0 := by
  obtain ⟨hread, s, hs, hbrackets, hnested⟩ := reads_bounds 129
  have hlimit : Limits.signature.maxDepth.toNat + 1 < s.nested := by
    rw [hnested]
    decide
  have hreaches := reaches_of_mem_beginnings hs
  refine ⟨hread, fun h => ?_, .of s, ?_, hlimit, ?_⟩
  · have hle := h s hreaches
    omega
  · rw [(Descent.ofText_eq _).2.2.2]
    exact List.mem_map_of_mem hs
  · exact hreaches.counted.depth.trans hbrackets

end Reading

end Signature

end TypeAncestry
