import TypeAncestry.Signature.Reading
import TypeAncestry.Proofs.Signature.Grammar

/-!
# The states of reading a signature

What a state keeps is enough to write down all tokens that were read.  Conversely the spelling of a
term, read where a signature has to begin, leads to a state that goes on as if the term had been
read at once; unless its brackets nest too deeply, which is noticed at the first that may not open.

* `Reading.Consumed` : a state and the tokens that were read on the way to it.
* `Reading.Consumed.run` : the tokens of a run are kept.
* `Reading.Completes` : a state at the end of a term that began in another.
* `Reading.readable_of_wellNamed` : reading the spelling of a term.
* `Reading.outcome_eq_ok_iff`, `Reading.outcome_of_tooDeep` : which texts are read.
* `Reading.Reaches`, `Reading.State.nested` : the moments of reading a text, and how many signatures
  are being read then, one inside the other.
* `Reading.beginnings` : the moments at which a signature begins.
-/

namespace TypeAncestry

namespace Signature

namespace Term

theorem spellingRest_concat (ts : List Term) (t : Term) :
    spellingRest (ts ++ [t]) =
      .comma :: (ts.flatMap fun u => u.spelling ++ [.comma]) ++ t.spelling := by
  induction ts with
  | nil => simp [spellingRest]
  | cons u us ih =>
    rw [List.cons_append, spellingRest, ih, List.flatMap_cons]
    simp

/-- The spelling of a name with its arguments, those before the last each with its comma. -/
theorem spelling_named_concat (n : Word) (ts : List Term) (t : Term) :
    (named n (ts ++ [t])).spelling =
      .word n :: .opening :: (ts.flatMap fun u => u.spelling ++ [.comma]) ++ t.spelling ++
        [.closing] := by
  cases ts with
  | nil => simp [spelling, spellingRest]
  | cons u us =>
    rw [List.cons_append, spelling, spellingRest_concat, List.flatMap_cons]
    simp

end Term

theorem Bound.ofWord?_word (b : Bound) : Bound.ofWord? b.word = some b := by
  cases b <;> decide

theorem Bound.eq_of_ofWord? {w : Word} {b : Bound} (h : Bound.ofWord? w = some b) : w = b.word := by
  unfold Bound.ofWord? at h
  split at h
  · next hw => obtain rfl := Option.some.inj h; exact hw
  · split at h
    · next hw => obtain rfl := Option.some.inj h; exact hw
    · simp at h

/-- The tokens of a signature that is still open, up to the part that is being read. -/
def Frame.tokens : Frame → List Token
  | bound b => [.word .wildcard, .word b.word]
  | arguments n done => .word n :: .opening :: done.reverse.flatMap fun t => t.spelling ++ [.comma]

/-- The tokens of a stack, the outermost signature first. -/
def stackTokens : List Frame → List Token
  | [] => []
  | f :: stack => stackTokens stack ++ f.tokens

/-- The tokens of the part that is being read. -/
def Focus.tokens : Focus → List Token
  | start => []
  | wildcard => [.word .wildcard]
  | name n => [.word n]
  | complete t => t.spelling

/-- No name in a frame is `?`. -/
def Frame.WellNamed : Frame → Prop
  | bound _ => True
  | arguments n done => n ≠ .wildcard ∧ ∀ t ∈ done, t.WellNamed

/-- No name in the part that is being read is `?`. -/
def Focus.WellNamed : Focus → Prop
  | start | wildcard => True
  | name n => n ≠ .wildcard
  | complete t => t.WellNamed

namespace Reading

open State

variable {s s' : State} {t u : Term} {l : Lexeme} {ts : List Token}

/-- The state keeps the tokens, and no name in it is `?`. -/
structure Consumed (ts : List Token) (s : State) : Prop where
  /-- The tokens that were read can be written down from the state. -/
  tokens : stackTokens s.stack ++ s.focus.tokens = ts
  /-- No name on the stack is `?`. -/
  stack : ∀ f ∈ s.stack, f.WellNamed
  /-- No name in the focus is `?`. -/
  focus : s.focus.WellNamed

/-! ### What has been read -/

theorem consumed_initial : Consumed [] .initial := ⟨rfl, by simp [State.initial], trivial⟩

@[simp] theorem closeLevel_stack (s : State) : s.closeLevel.stack = s.stack := by
  unfold closeLevel
  split <;> rfl

@[simp] theorem closeLevel_focus (s : State) : s.closeLevel.focus = s.focus := by
  unfold closeLevel
  split <;> rfl

/-- A lexeme behind a complete term, which is the innermost part of a stack. -/
theorem consumed_of_resume (stack : List Frame) :
    ∀ t : Term, t.WellNamed → (∀ f ∈ stack, f.WellNamed) → s.resume t l stack = .ok s' →
      Consumed (stackTokens stack ++ t.spelling ++ [l.token]) s' := by
  induction stack with
  | nil => intro t _ _ h; simp [resume] at h
  | cons f stack ih =>
    intro t ht hf h
    obtain ⟨hf, hstack⟩ := List.forall_mem_cons.1 hf
    cases f with
    | bound b =>
      -- the bound is complete with its term, and is itself the innermost part of what is left
      have := ih (.bounded b t) ht hstack h
      simpa [stackTokens, Frame.tokens, Term.spelling] using this
    | arguments n done =>
      obtain ⟨hn, hdone⟩ := hf
      have hts : ∀ u ∈ t :: done, u.WellNamed := List.forall_mem_cons.2 ⟨ht, hdone⟩
      unfold resume at h
      split at h
      · next hl =>
        obtain rfl := Except.ok.inj h
        refine ⟨?_, List.forall_mem_cons.2 ⟨⟨hn, hts⟩, hstack⟩, trivial⟩
        simp [stackTokens, Frame.tokens, Focus.tokens, hl]
      · next hl =>
        obtain rfl := Except.ok.inj h
        have hall : Term.WellNamedAll (t :: done).reverse :=
          (Term.wellNamedAll_iff _).2 fun u hu => hts u (List.mem_reverse.1 hu)
        refine ⟨?_, ?_, ?_⟩
        · simp [stackTokens, Frame.tokens, Focus.tokens, Term.spelling_named_concat, hl]
        · rwa [closeLevel_stack]
        · rw [closeLevel_focus]
          exact ⟨hn, hall⟩
      · simp at h

/-- A lexeme where a signature has to begin. -/
theorem consumed_of_begin (hstack : ∀ f ∈ s.stack, f.WellNamed) (h : s.begin l = .ok s') :
    Consumed (stackTokens s.stack ++ [l.token]) s' := by
  unfold begin at h
  split at h
  · next w hl =>
    obtain rfl := Except.ok.inj h
    by_cases hw : w = .wildcard
    · refine ⟨?_, hstack, by simp [hw, Focus.WellNamed]⟩
      simp [hl, hw, Focus.tokens]
    · refine ⟨?_, hstack, by simp [hw, Focus.WellNamed]⟩
      simp [hl, hw, Focus.tokens]
  · simp at h
  · simp at h
  · simp at h

/-- A lexeme behind a wildcard. -/
theorem consumed_of_afterWildcard (hstack : ∀ f ∈ s.stack, f.WellNamed)
    (h : s.afterWildcard l = .ok s') :
    Consumed (stackTokens s.stack ++ [.word .wildcard] ++ [l.token]) s' := by
  have hresume : s.resume .wildcard l s.stack = .ok s' →
      Consumed (stackTokens s.stack ++ [.word .wildcard] ++ [l.token]) s' :=
    consumed_of_resume s.stack .wildcard trivial hstack
  unfold afterWildcard at h
  split at h
  · next w hl =>
    split at h
    · next b hb =>
      obtain rfl := Except.ok.inj h
      refine ⟨?_, List.forall_mem_cons.2 ⟨trivial, hstack⟩, trivial⟩
      simp [stackTokens, Frame.tokens, Focus.tokens, hl, Bound.eq_of_ofWord? hb]
    · exact hresume h
  · exact hresume h

/-- A lexeme behind a name. -/
theorem consumed_of_afterName {n : Word} (hn : n ≠ .wildcard)
    (hstack : ∀ f ∈ s.stack, f.WellNamed) (h : s.afterName n l = .ok s') :
    Consumed (stackTokens s.stack ++ [.word n] ++ [l.token]) s' := by
  unfold afterName at h
  split at h
  · next hl =>
    split at h
    · obtain rfl := Except.ok.inj h
      refine ⟨?_, List.forall_mem_cons.2 ⟨⟨hn, by simp⟩, hstack⟩, trivial⟩
      simp [stackTokens, Frame.tokens, Focus.tokens, hl]
    · simp at h
  · exact consumed_of_resume s.stack (.named n []) ⟨hn, trivial⟩ hstack h

/-- **What a state keeps, it keeps when one lexeme is read,** with the token of the lexeme. -/
theorem Consumed.step (h : Consumed ts s) (hs : s.step l = .ok s') :
    Consumed (ts ++ [l.token]) s' := by
  obtain ⟨rfl, hstack, hfocus⟩ := h
  unfold State.step at hs
  split at hs
  · next hf =>
    rw [hf, Focus.tokens, List.append_nil]
    exact consumed_of_begin hstack hs
  · next hf =>
    rw [hf]
    exact consumed_of_afterWildcard hstack hs
  · next n hf =>
    rw [hf] at hfocus ⊢
    exact consumed_of_afterName hfocus hstack hs
  · next t hf =>
    rw [hf] at hfocus ⊢
    exact consumed_of_resume s.stack t hfocus hstack hs

/-- What a state keeps, it keeps when lexemes are read, with their tokens. -/
theorem Consumed.run (ls : List Lexeme) :
    ∀ {ts : List Token} {s : State}, Consumed ts s → s.run ls = (s', none) →
      Consumed (ts ++ ls.map (·.token)) s' := by
  induction ls with
  | nil =>
    intro ts s h hs
    obtain rfl := (Prod.mk.inj hs).1
    simpa using h
  | cons l ls ih =>
    intro ts s h hs
    unfold State.run at hs
    split at hs
    · next s₁ hl => simpa using ih (h.step hl) hs
    · simp at hs

theorem of_finish (stack : List Frame) :
    ∀ t : Term, t.WellNamed → finish t stack = some u →
      u.WellNamed ∧ u.spelling = stackTokens stack ++ t.spelling := by
  induction stack with
  | nil =>
    intro t ht h
    obtain rfl := Option.some.inj h
    exact ⟨ht, rfl⟩
  | cons f stack ih =>
    intro t ht h
    cases f with
    | bound b =>
      obtain ⟨hu, hs⟩ := ih (.bounded b t) ht h
      exact ⟨hu, by simpa [stackTokens, Frame.tokens, Term.spelling] using hs⟩
    | arguments n done => simp [finish] at h

/-- The signature that has been read is spelled by the tokens that have been read. -/
theorem Consumed.of_result? (h : Consumed ts s) (hu : s.result? = some u) :
    u.WellNamed ∧ u.spelling = ts := by
  obtain ⟨rfl, -, hfocus⟩ := h
  unfold result? at hu
  split at hu
  · simp at hu
  · next hf => rw [hf]; exact of_finish s.stack .wildcard trivial hu
  · next n hf =>
    rw [hf] at hfocus ⊢
    exact of_finish s.stack (.named n []) ⟨hfocus, trivial⟩ hu
  · next t hf =>
    rw [hf] at hfocus ⊢
    exact of_finish s.stack t hfocus hu

/-! ### Reading a spelling -/

theorem run_append_of_ok {ls : List Lexeme} :
    ∀ {s : State}, s.run ls = (s', none) → ∀ ms, s.run (ls ++ ms) = s'.run ms := by
  induction ls with
  | nil =>
    intro s h ms
    obtain rfl := (Prod.mk.inj h).1
    rfl
  | cons l ls ih =>
    intro s h ms
    rw [List.cons_append, State.run]
    unfold State.run at h
    split at h
    · exact ih h ms
    · simp at h

theorem run_append_of_error {ls : List Lexeme} {e : SignatureError} :
    ∀ {s : State}, s.run ls = (s', some e) → ∀ ms, s.run (ls ++ ms) = (s', some e) := by
  induction ls with
  | nil => intro s h; simp [State.run] at h
  | cons l ls ih =>
    intro s h ms
    rw [List.cons_append, State.run]
    unfold State.run at h
    split at h
    · exact ih h ms
    · exact h

/-- Behind a complete term only the counter of the state and the stack in question matter. -/
theorem resume_congr (hl : s.levels = s'.levels) (hm : s.misuse = s'.misuse)
    (stack : List Frame) : ∀ t, s.resume t l stack = s'.resume t l stack := by
  induction stack with
  | nil => intro t; rfl
  | cons f stack ih =>
    intro t
    cases f with
    | bound b => exact ih (.bounded b t)
    | arguments n done => unfold resume closeLevel; rw [hl, hm]

/-- The state `s'` is at the end of the term `t`, which began in the state `s`. -/
structure Completes (s : State) (t : Term) (s' : State) : Prop where
  /-- A comma or a closing bracket is read as behind the complete term. -/
  step : ∀ l : Lexeme, l.token = .comma ∨ l.token = .closing → s'.step l = s.resume t l s.stack
  /-- The text may end if it may end behind the complete term. -/
  result : s'.result? = finish t s.stack

/-- A signature has to begin, and no more brackets are open than may be. -/
structure Begins (s : State) : Prop where
  /-- Nothing of the signature has been read. -/
  focus : s.focus = .start
  /-- The counter keeps its limit. -/
  levels : s.levels.depth ≤ s.levels.maxDepth.toNat

/-- The lexemes are those of the term `t`: read from `s`, they come to its end, unless its brackets
nest too deeply. -/
structure Reads (s : State) (ls : List Lexeme) (t : Term) : Prop where
  /-- The brackets fit in the counter. -/
  fits : s.levels.depth + t.nesting ≤ s.levels.maxDepth.toNat →
    ∃ s', s.run ls = (s', none) ∧ Completes s t s'
  /-- The brackets do not fit in the counter. -/
  tooDeep : s.levels.maxDepth.toNat < s.levels.depth + t.nesting →
    ∃ s' p, s.run ls = (s', some (.tooDeep p))

/-- Wherever a signature has to begin, the spelling of the term is read. -/
def Readable (t : Term) : Prop :=
  ∀ s ls, Begins s → ls.map (·.token) = t.spelling → Reads s ls t

theorem completes_wildcard (s : State) : Completes s .wildcard { s with focus := .wildcard } := by
  refine ⟨fun l hl => ?_, rfl⟩
  have : State.step { s with focus := .wildcard } l =
      State.resume { s with focus := .wildcard } .wildcard l s.stack := by
    rcases hl with hl | hl <;> simp [State.step, afterWildcard, hl]
  rw [this]
  refine resume_congr ?_ ?_ s.stack _ <;> rfl

theorem completes_name (s : State) (n : Word) :
    Completes s (.named n []) { s with focus := .name n } := by
  refine ⟨fun l hl => ?_, rfl⟩
  have : State.step { s with focus := .name n } l =
      State.resume { s with focus := .name n } (.named n []) l s.stack := by
    rcases hl with hl | hl <;> simp [State.step, afterName, hl]
  rw [this]
  refine resume_congr ?_ ?_ s.stack _ <;> rfl

theorem completes_complete (s : State) (t : Term) :
    Completes s t { s with focus := .complete t } := by
  refine ⟨fun l _ => ?_, rfl⟩
  refine resume_congr ?_ ?_ s.stack _ <;> rfl

theorem Completes.bounded {b : Bound}
    (h : Completes { s with stack := .bound b :: s.stack, focus := .start } t s') :
    Completes s (.bounded b t) s' := by
  refine ⟨fun l hl => ?_, h.result⟩
  rw [h.step l hl]
  refine resume_congr ?_ ?_ s.stack (.bounded b t) <;> rfl

/-- A word is read where a signature has to begin. -/
theorem step_word {w : Word} (hs : s.focus = .start) (hl : l.token = .word w) :
    s.step l = .ok { s with focus := if w = .wildcard then .wildcard else .name w } := by
  simp [State.step, hs, begin, hl]

theorem run_cons {ls : List Lexeme} (h : s.step l = .ok s') : s.run (l :: ls) = s'.run ls := by
  simp [State.run, h]

theorem readable_wildcard : Readable .wildcard := by
  intro s ls hs hls
  have hlevels := hs.levels
  obtain ⟨l, rfl, hl⟩ := List.map_eq_singleton_iff.1 hls
  refine ⟨fun _ => ⟨_, run_cons (step_word hs.focus hl), completes_wildcard s⟩, fun h => ?_⟩
  rw [Term.nesting] at h
  omega

theorem readable_bounded {b : Bound} (ht : Readable t) : Readable (.bounded b t) := by
  intro s ls hs hls
  obtain ⟨l, ls, rfl, hl, hls⟩ := List.map_eq_cons_iff.1 hls
  obtain ⟨m, ls, rfl, hm, hls⟩ := List.map_eq_cons_iff.1 hls
  have hstep : State.step { s with focus := .wildcard } m =
      .ok { s with stack := .bound b :: s.stack, focus := .start } := by
    simp [State.step, afterWildcard, hm, Bound.ofWord?_word]
  have hrun : s.run (l :: m :: ls) =
      State.run { s with stack := .bound b :: s.stack, focus := .start } ls := by
    rw [run_cons (step_word hs.focus hl)]
    exact run_cons hstep
  have hlimit := ht { s with stack := .bound b :: s.stack, focus := .start } ls ⟨rfl, hs.levels⟩ hls
  refine ⟨fun hfit => ?_, fun hdeep => ?_⟩
  · obtain ⟨s₁, hs₁, hend⟩ := hlimit.fits hfit
    exact ⟨s₁, hrun.trans hs₁, hend.bounded⟩
  · obtain ⟨s₁, p, hs₁⟩ := hlimit.tooDeep hdeep
    exact ⟨s₁, p, hrun.trans hs₁⟩

theorem readable_name {n : Word} (hn : n ≠ .wildcard) : Readable (.named n []) := by
  intro s ls hs hls
  have hlevels := hs.levels
  obtain ⟨l, rfl, hl⟩ := List.map_eq_singleton_iff.1 hls
  have hstep := step_word hs.focus hl
  rw [if_neg hn] at hstep
  refine ⟨fun _ => ⟨_, run_cons hstep, completes_name s n⟩, fun h => ?_⟩
  rw [Term.nesting] at h
  omega

/-- Arguments are read up to the closing bracket. -/
theorem reads_arguments {n : Word} {stack : List Frame} (ts : List Term) :
    ∀ (t : Term) (done : List Term) (s : State) (ls : List Lexeme),
      (∀ u ∈ t :: ts, Readable u) → Begins s → s.stack = .arguments n done :: stack →
      ls.map (·.token) = t.spelling ++ Term.spellingRest ts ++ [.closing] →
      (s.levels.depth + Term.nestingAll (t :: ts) ≤ s.levels.maxDepth.toNat →
        s.run ls = (closeLevel
          { s with stack := stack, focus := .complete (.named n (done.reverse ++ t :: ts)) },
          none)) ∧
      (s.levels.maxDepth.toNat < s.levels.depth + Term.nestingAll (t :: ts) →
        ∃ s' p, s.run ls = (s', some (.tooDeep p))) := by
  induction ts with
  | nil =>
    intro t done s ls hread hs hstack hls
    rw [Term.spellingRest, List.append_nil] at hls
    obtain ⟨as, bs, rfl, has, hbs⟩ := List.map_eq_append_iff.1 hls
    obtain ⟨l, rfl, hl⟩ := List.map_eq_singleton_iff.1 hbs
    have ht := hread t List.mem_cons_self s as hs has
    have hnest : Term.nestingAll [t] = t.nesting := by simp [Term.nestingAll]
    rw [hnest]
    refine ⟨fun hfit => ?_, fun hdeep => ?_⟩
    · obtain ⟨s₁, hrun, hend⟩ := ht.fits hfit
      have hstep := hend.step l (.inr hl)
      rw [hstack] at hstep
      simp only [resume, hl, List.reverse_cons] at hstep
      rw [run_append_of_ok hrun, run_cons hstep]
      rfl
    · obtain ⟨s₁, p, hrun⟩ := ht.tooDeep hdeep
      exact ⟨s₁, p, run_append_of_error hrun _⟩
  | cons u us ih =>
    intro t done s ls hread hs hstack hls
    obtain ⟨ht, hus⟩ := List.forall_mem_cons.1 hread
    rw [Term.spellingRest, List.append_assoc] at hls
    obtain ⟨as, bs, rfl, has, hbs⟩ := List.map_eq_append_iff.1 hls
    obtain ⟨l, cs, rfl, hl, hcs⟩ := List.map_eq_cons_iff.1 hbs
    have ht := ht s as hs has
    have hnest : Term.nestingAll (t :: u :: us) = max t.nesting (Term.nestingAll (u :: us)) := rfl
    rw [hnest]
    by_cases hfit : s.levels.depth + t.nesting ≤ s.levels.maxDepth.toNat
    · obtain ⟨s₁, hrun, hend⟩ := ht.fits hfit
      have hstep := hend.step l (.inl hl)
      rw [hstack] at hstep
      simp only [resume, hl] at hstep
      -- behind the comma the other arguments begin, with the first one among those that are done
      obtain ⟨hrest, hdeep⟩ := ih u (t :: done)
        { s with stack := .arguments n (t :: done) :: stack, focus := .start } cs hus
        ⟨rfl, hs.levels⟩ rfl hcs
      rw [run_append_of_ok hrun, run_cons hstep]
      refine ⟨fun h => ?_, fun h => hdeep (by simp only; omega)⟩
      rw [hrest (by simp only; omega)]
      simp
    · obtain ⟨s₁, p, hrun⟩ := ht.tooDeep (by omega)
      exact ⟨fun h => by omega, fun _ => ⟨s₁, p, run_append_of_error hrun _⟩⟩

theorem readable_applied {n : Word} {ts : List Term} (hn : n ≠ .wildcard)
    (hall : ∀ u ∈ t :: ts, Readable u) : Readable (.named n (t :: ts)) := by
  intro s ls hs hls
  rw [Term.spelling] at hls
  obtain ⟨l, ls, rfl, hl, hls⟩ := List.map_eq_cons_iff.1 hls
  obtain ⟨m, ls, rfl, hm, hls⟩ := List.map_eq_cons_iff.1 hls
  have hfirst := step_word hs.focus hl
  rw [if_neg hn] at hfirst
  have hnest : (Term.named n (t :: ts)).nesting = 1 + Term.nestingAll (t :: ts) := rfl
  rcases henter : s.levels.enter? with _ | levels
  · -- the counter is at its limit, and the first bracket may not open
    have hstep : State.step { s with focus := .name n } m = .error (.tooDeep m.offset) := by
      simp [State.step, afterName, hm, henter]
    have hfull := Levels.enter?_eq_none_iff.1 henter
    refine ⟨fun h => by omega, fun _ =>
      ⟨{ s with focus := .name n }, m.offset, (run_cons hfirst).trans ?_⟩⟩
    rw [State.run, hstep]
  · obtain ⟨hlt, rfl⟩ := Levels.enter?_eq_some_iff.1 henter
    have hstep : State.step { s with focus := .name n } m = .ok
        ⟨.arguments n [] :: s.stack, .start, { s.levels with depth := s.levels.depth + 1 },
          s.misuse⟩ := by
      simp [State.step, afterName, hm, henter]
    have hrun : s.run (l :: m :: ls) = _ := (run_cons hfirst).trans (run_cons hstep)
    obtain ⟨hrest, hdeep⟩ := reads_arguments ts t []
      ⟨.arguments n [] :: s.stack, .start, { s.levels with depth := s.levels.depth + 1 },
        s.misuse⟩ ls hall ⟨rfl, hlt⟩ rfl hls
    refine ⟨fun hfit => ⟨_, ?_, completes_complete s _⟩, fun h => ?_⟩
    · rw [hrun, hrest (by simp only; omega), closeLevel, Levels.leave_of_enter? henter]
      rfl
    · obtain ⟨s₁, p, hs₁⟩ := hdeep (by simp only; omega)
      exact ⟨s₁, p, hrun.trans hs₁⟩

/-- **The spelling of a term is read to the end of the term,** unless its brackets nest too
deeply. -/
theorem readable_of_wellNamed (t : Term) : t.WellNamed → Readable t := by
  induction t using Term.induct with
  | wildcard =>
    intro _
    exact readable_wildcard
  | bounded b t ih =>
    intro h
    exact readable_bounded (ih h)
  | named n ts ih =>
    rintro ⟨hn, hts⟩
    have hall : ∀ u ∈ ts, Readable u := fun u hu =>
      ih u hu ((Term.wellNamedAll_iff _).1 hts u hu)
    cases ts with
    | nil => exact readable_name hn
    | cons t ts => exact readable_applied hn hall

/-! ### Reading a text -/

theorem outcome_of_run {text : String} (h : State.initial.run (Lexeme.ofText text) = (s, none)) :
    (ofText text).outcome =
      match s.result? with
      | some t => .ok t
      | none => .error (.unexpectedEnd text.utf8ByteSize) := by
  simp only [ofText, h]
  split
  · next heq => simp at heq
  · next heq => simp only [heq]
  · next heq => simp only [heq]

theorem outcome_of_fault {text : String} {e : SignatureError}
    (h : State.initial.run (Lexeme.ofText text) = (s, some e)) :
    (ofText text).outcome = .error e := by
  simp only [ofText, h]

theorem begins_initial : Begins .initial := ⟨rfl, Nat.zero_le _⟩

/-- A text whose tokens spell a term with too many open brackets is refused for that. -/
theorem outcome_of_tooDeep {text : String} (ht : t.WellNamed) (hs : t.spelling = tokens text)
    (hdeep : 128 < t.nesting) : ∃ p, (ofText text).outcome = .error (.tooDeep p) := by
  have hread := readable_of_wellNamed t ht .initial (Lexeme.ofText text) begins_initial hs.symm
  have hlimit : State.initial.levels.maxDepth.toNat < State.initial.levels.depth + t.nesting := by
    simpa [State.initial, Levels.new, Limits.signature] using hdeep
  obtain ⟨s, p, hrun⟩ := hread.tooDeep hlimit
  exact ⟨p, outcome_of_fault hrun⟩

theorem outcome_of_spelling {text : String} (ht : t.WellNamed) (hs : t.spelling = tokens text)
    (hfit : t.nesting ≤ 128) : (ofText text).outcome = .ok t := by
  have hread := readable_of_wellNamed t ht .initial (Lexeme.ofText text) begins_initial hs.symm
  have hlimit : State.initial.levels.depth + t.nesting ≤ State.initial.levels.maxDepth.toNat := by
    simpa [State.initial, Levels.new, Limits.signature] using hfit
  obtain ⟨s, hrun, hend⟩ := hread.fits hlimit
  rw [outcome_of_run hrun, hend.result]
  rfl

/-- **A text is read as the term that its tokens spell,** if at most 128 brackets are open. -/
theorem outcome_eq_ok_iff {text : String} :
    (ofText text).outcome = .ok t ↔
      t.WellNamed ∧ t.spelling = tokens text ∧ t.nesting ≤ 128 := by
  constructor
  · intro h
    rcases hrun : State.initial.run (Lexeme.ofText text) with ⟨s, _ | e⟩
    · rw [outcome_of_run hrun] at h
      split at h
      · next u hu =>
        obtain rfl := Except.ok.inj h
        obtain ⟨hwell, hspell⟩ := (consumed_initial.run _ hrun).of_result? hu
        rcases Nat.lt_or_ge 128 u.nesting with hdeep | hfit
        · obtain ⟨p, hp⟩ := outcome_of_tooDeep hwell hspell hdeep
          rw [outcome_of_run hrun, hu] at hp
          cases hp
        · exact ⟨hwell, hspell, hfit⟩
      · cases h
    · rw [outcome_of_fault hrun] at h
      cases h
  · rintro ⟨hwell, hspell, hfit⟩
    exact outcome_of_spelling hwell hspell hfit

/-! ### Moments of reading -/

/-- The number of signatures that are being read, one inside the other: those on the stack, and the
one in focus. -/
def State.nested (s : State) : Nat := s.stack.length + 1

/-- The state is one of those that reading the text goes through. -/
def Reaches (text : String) (s : State) : Prop :=
  ∃ ls, ls <+: Lexeme.ofText text ∧ State.initial.run ls = (s, none)

/-- An argument has to begin, but a comma or a closing bracket stands in its place. -/
def State.lacksArgument (s : State) (ls : List Lexeme) : Bool :=
  match s.stack, ls with
  | .arguments _ _ :: _, l :: _ => l.token == .comma || l.token == .closing
  | _, _ => false

/-- A signature begins with the lexemes, or at the end of the text if there are none. -/
def State.begins (s : State) (ls : List Lexeme) : Bool :=
  match s.focus with
  | .start => !s.lacksArgument ls
  | _ => false

/-- The states in which a signature begins, among those that reading the lexemes goes through. -/
def State.beginnings (s : State) (ls : List Lexeme) : List State :=
  (if s.begins ls then [s] else []) ++
    match ls with
    | [] => []
    | l :: ls =>
      match s.step l with
      | .ok s' => beginnings s' ls
      | .error _ => []

/-- The states in which a signature begins, while a text is read. -/
def beginnings (text : String) : List State := State.initial.beginnings (Lexeme.ofText text)

theorem begins_of_start (hs : s.focus = .start) {ls : List Lexeme}
    (h : s.lacksArgument ls = false) : s.begins ls = true := by
  rw [begins, hs, h]
  rfl

theorem beginnings_nil (s : State) : s.beginnings [] = if s.begins [] then [s] else [] := by
  rw [State.beginnings, List.append_nil]

theorem beginnings_of_step {ls : List Lexeme} (h : s.step l = .ok s') :
    s.beginnings (l :: ls) = (if s.begins (l :: ls) then [s] else []) ++ s'.beginnings ls := by
  rw [State.beginnings, h]

theorem beginnings_of_fault {ls : List Lexeme} {e : SignatureError} (h : s.step l = .error e) :
    s.beginnings (l :: ls) = if s.begins (l :: ls) then [s] else [] := by
  rw [State.beginnings, h, List.append_nil]

theorem State.mem_beginnings_iff (ls : List Lexeme) :
    ∀ s : State, s' ∈ s.beginnings ls ↔
      ∃ front back, ls = front ++ back ∧ s.run front = (s', none) ∧ s'.begins back = true := by
  have hfirst : ∀ (s : State) (ls : List Lexeme),
      (s' ∈ if s.begins ls then [s] else []) ↔ s = s' ∧ s'.begins ls = true := by
    intro s ls
    by_cases h : s.begins ls = true
    · rw [if_pos h, List.mem_singleton]
      constructor
      · rintro rfl
        exact ⟨rfl, h⟩
      · exact fun h => h.1.symm
    · rw [if_neg h]
      constructor
      · intro hmem
        cases hmem
      · rintro ⟨rfl, h'⟩
        exact absurd h' h
  induction ls with
  | nil =>
    intro s
    rw [beginnings_nil, hfirst]
    constructor
    · rintro ⟨rfl, h⟩
      exact ⟨[], [], rfl, rfl, h⟩
    · rintro ⟨front, back, hnil, hrun, h⟩
      obtain ⟨rfl, rfl⟩ := List.append_eq_nil_iff.1 hnil.symm
      exact ⟨(Prod.mk.inj hrun).1, h⟩
  | cons l ls ih =>
    intro s
    rcases hstep : s.step l with e | s₁
    · -- the lexeme is refused, so nothing is read behind it
      rw [beginnings_of_fault hstep, hfirst]
      constructor
      · rintro ⟨rfl, h⟩
        exact ⟨[], l :: ls, rfl, rfl, h⟩
      · rintro ⟨_ | ⟨m, front⟩, back, heq, hrun, hbegins⟩
        · obtain rfl : l :: ls = back := heq
          exact ⟨(Prod.mk.inj hrun).1, hbegins⟩
        · obtain ⟨rfl, rfl⟩ := List.cons.inj heq
          rw [State.run, hstep] at hrun
          cases (Prod.mk.inj hrun).2
    · rw [beginnings_of_step hstep, List.mem_append, hfirst, ih s₁]
      constructor
      · rintro (⟨rfl, h⟩ | ⟨front, back, rfl, hrun, hbegins⟩)
        · exact ⟨[], l :: ls, rfl, rfl, h⟩
        · exact ⟨l :: front, back, rfl, (run_cons hstep).trans hrun, hbegins⟩
      · rintro ⟨_ | ⟨m, front⟩, back, heq, hrun, hbegins⟩
        · obtain rfl : l :: ls = back := heq
          exact .inl ⟨(Prod.mk.inj hrun).1, hbegins⟩
        · obtain ⟨rfl, rfl⟩ := List.cons.inj heq
          exact .inr ⟨front, back, rfl, (run_cons hstep).symm.trans hrun, hbegins⟩

/-- The states in which a signature begins are those that reading goes through and in which one
begins with the lexemes that are left. -/
theorem mem_beginnings_iff {text : String} :
    s ∈ beginnings text ↔
      ∃ front back, Lexeme.ofText text = front ++ back ∧ State.initial.run front = (s, none) ∧
        s.begins back = true :=
  State.mem_beginnings_iff _ _

theorem reaches_of_mem_beginnings {text : String} (h : s ∈ beginnings text) : Reaches text s := by
  obtain ⟨front, back, htext, hrun, -⟩ := mem_beginnings_iff.1 h
  exact ⟨front, ⟨back, htext.symm⟩, hrun⟩

end Reading

end Signature

end TypeAncestry
