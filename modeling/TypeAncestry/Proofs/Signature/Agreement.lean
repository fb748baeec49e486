import TypeAncestry.Proofs.Signature.Descent

/-!
# Descent and lexemes side by side

A text read by descent comes to what reading its lexemes comes to.  Where a function of the descent
stands between two characters, the lexemes from there on, read in the state that fits what the
function has done, come to the same in the end.  The account of the descent is at the counter of the
state; behind a fault each function that is left closes the bracket it had opened, and this is what
unwinding the stack of the state does.

* `Descent.conclude` : what reading lexemes from a state comes to.
* `Descent.Agrees` : a function of the descent agrees with reading lexemes.
* `Descent.Agrees.bind`, `Descent.Agrees.called`, `Descent.Agrees.bracketed` : it does if its parts
  do.
* `Descent.TypeAgrees`, `Descent.ArgumentsAgree`, `Descent.agree` : the functions of the descent do.
* `Descent.ofText_eq` : both read every text alike, with the same counter and the same calls.
-/

namespace TypeAncestry

namespace Signature

namespace Descent

open Reading State

/-! ### What reading lexemes comes to -/

/-- The call that is made when a signature begins in the state. -/
def Call.of (s : State) : Call := ⟨s.nested, s.levels⟩

/-- What reading comes to that ends in the state `s` with the brackets of a stack to be closed. -/
def settle (outcome : Except SignatureError Term) (s : State) (stack : List Frame) : Reading :=
  let s := s.unwind stack
  { outcome := outcome, levels := s.levels, misuse := s.misuse.or s.levels.abandon }

/-- What reading comes to, and the calls that a descent makes for it. -/
structure Conclusion where
  /-- What reading comes to. -/
  reading : Reading
  /-- The calls. -/
  calls : List Call

/-- What reading the lexemes of the rest of a text from the state `s` comes to, when some calls have
been made before; the whole text has `size` bytes. -/
def conclude (size : Nat) (s : State) (calls : List Call) (ls : List Lexeme) : Conclusion :=
  let (s', fault) := s.run ls
  let outcome :=
    match fault, s'.result? with
    | some e, _ => .error e
    | none, some t => .ok t
    | none, none => .error (.unexpectedEnd size)
  { reading := settle outcome s' s'.stack, calls := calls ++ (s.beginnings ls).map .of }

/-- What reading comes to that is stopped by a fault. -/
def stopped (e : SignatureError) (s : State) (stack : List Frame) (calls : List Call) :
    Conclusion :=
  ⟨settle (.error e) s stack, calls⟩

section Conclusions

variable {size : Nat} {s s' : State} {l : Lexeme} {ls : List Lexeme} {t : Term} {calls : List Call}
  {e : SignatureError}

/-- A lexeme is read that does not begin a signature. -/
theorem conclude_of_step (hs : s.begins (l :: ls) = false) (h : s.step l = .ok s') :
    conclude size s calls (l :: ls) = conclude size s' calls ls := by
  rw [conclude, run_cons h, beginnings_of_step h, hs]
  rfl

/-- A lexeme is read that begins a signature. -/
theorem conclude_of_begin (hs : s.begins (l :: ls) = true) (h : s.step l = .ok s') :
    conclude size s calls (l :: ls) = conclude size s' (calls ++ [.of s]) ls := by
  rw [conclude, run_cons h, beginnings_of_step h, if_pos hs, List.map_append, ← List.append_assoc]
  rfl

/-- A lexeme is refused where no signature begins. -/
theorem conclude_of_fault (hs : s.begins (l :: ls) = false) (h : s.step l = .error e) :
    conclude size s calls (l :: ls) = stopped e s s.stack calls := by
  rw [conclude, State.run, h, beginnings_of_fault h, hs]
  exact congrArg (Conclusion.mk _) (List.append_nil calls)

/-- A lexeme is refused as the first one of a signature. -/
theorem conclude_of_refused (hs : s.begins (l :: ls) = true) (h : s.step l = .error e) :
    conclude size s calls (l :: ls) = stopped e s s.stack (calls ++ [.of s]) := by
  rw [conclude, State.run, h, beginnings_of_fault h, if_pos hs]
  rfl

/-- The text ends where no signature begins. -/
theorem conclude_of_end (hs : s.begins [] = false) (h : s.result? = none) :
    conclude size s calls [] = stopped (.unexpectedEnd size) s s.stack calls := by
  simp only [conclude, State.run, h, beginnings_nil, hs]
  exact congrArg (Conclusion.mk _) (List.append_nil calls)

/-- The text ends where a signature begins. -/
theorem conclude_of_missing (hs : s.begins [] = true) (h : s.result? = none) :
    conclude size s calls [] = stopped (.unexpectedEnd size) s s.stack (calls ++ [.of s]) := by
  simp only [conclude, State.run, h, beginnings_nil, if_pos hs]
  rfl

theorem closeLevel_congr (hl : s.levels = s'.levels) (hm : s.misuse = s'.misuse) :
    s.closeLevel.levels = s'.closeLevel.levels ∧ s.closeLevel.misuse = s'.closeLevel.misuse := by
  unfold closeLevel
  rw [hl, hm]
  rcases s'.levels.leave with m | l
  · exact ⟨rfl, rfl⟩
  · exact ⟨rfl, rfl⟩

/-- Unwinding a stack only takes the counter of a state. -/
theorem settle_congr (outcome : Except SignatureError Term) (stack : List Frame) :
    ∀ {s s' : State}, s.levels = s'.levels → s.misuse = s'.misuse →
      settle outcome s stack = settle outcome s' stack := by
  induction stack with
  | nil =>
    intro s s' hl hm
    simp only [settle, unwind, hl, hm]
  | cons f stack ih =>
    intro s s' hl hm
    cases f with
    | bound b => exact ih hl hm
    | arguments n done =>
      obtain ⟨hl, hm⟩ := closeLevel_congr hl hm
      exact ih hl hm

/-- Two states in which no signature begins come to the same if they may end alike, read the next
lexeme alike and have to close the same brackets. -/
theorem conclude_congr (hs : s.begins ls = false) (hs' : s'.begins ls = false)
    (hresult : s.result? = s'.result?)
    (hsettle : ∀ outcome, settle outcome s s.stack = settle outcome s' s'.stack)
    (hstep : ∀ l ∈ ls.head?, s.step l = s'.step l) :
    conclude size s calls ls = conclude size s' calls ls := by
  cases ls with
  | nil =>
    simp only [conclude, State.run, hresult, hsettle, beginnings_nil, hs, hs']
    rfl
  | cons l ls =>
    have hl := hstep l rfl
    rcases hread : s'.step l with e | s₁
    · rw [conclude_of_fault hs (hl.trans hread), conclude_of_fault hs' hread, stopped, stopped,
        hsettle]
    · rw [conclude_of_step hs (hl.trans hread), conclude_of_step hs' hread]

/-- A wildcard behind which no bound is announced is complete. -/
theorem conclude_wildcard
    (h : ∀ l ∈ ls.head?, ∀ w, l.token = .word w → Bound.ofWord? w = none) :
    conclude size { s with focus := .wildcard } calls ls =
      conclude size { s with focus := .complete .wildcard } calls ls := by
  refine conclude_congr rfl rfl rfl (fun outcome => ?_) fun l hl => ?_
  · exact settle_congr outcome s.stack rfl rfl
  · have hresume : State.step { s with focus := .wildcard } l =
        State.resume { s with focus := .wildcard } .wildcard l s.stack := by
      simp only [State.step, afterWildcard]
      split
      · next w hw => rw [h l hl w hw]
      · rfl
    rw [hresume]
    refine resume_congr ?_ ?_ s.stack _ <;> rfl

/-- A name behind which no bracket opens is complete. -/
theorem conclude_name {n : Word} (h : ∀ l ∈ ls.head?, l.token ≠ .opening) :
    conclude size { s with focus := .name n } calls ls =
      conclude size { s with focus := .complete (.named n []) } calls ls := by
  refine conclude_congr rfl rfl rfl (fun outcome => ?_) fun l hl => ?_
  · exact settle_congr outcome s.stack rfl rfl
  · have hresume : State.step { s with focus := .name n } l =
        State.resume { s with focus := .name n } (.named n []) l s.stack := by
      simp only [State.step, afterName]
      split
      · next hopen => exact absurd hopen (h l hl)
      · rfl
    rw [hresume]
    refine resume_congr ?_ ?_ s.stack _ <;> rfl

/-- A bound is complete with its term. -/
theorem conclude_bounded {b : Bound} :
    conclude size { s with stack := .bound b :: s.stack, focus := .complete t } calls ls =
      conclude size { s with focus := .complete (.bounded b t) } calls ls := by
  refine conclude_congr rfl rfl rfl (fun outcome => ?_) fun l _ => ?_
  · exact settle_congr outcome s.stack rfl rfl
  · refine resume_congr ?_ ?_ s.stack (.bounded b t) <;> rfl

end Conclusions

/-- Reading a text comes to what reading its lexemes from the beginning comes to. -/
theorem conclude_initial (text : String) :
    conclude text.utf8ByteSize .initial [] (Lexeme.ofText text) =
      ⟨Reading.ofText text, (Reading.beginnings text).map .of⟩ := rfl

/-! ### What it is to agree -/

section Agreement

variable {α β : Type} {text cs : List Char} {p m fuel active : Nat} {s : State} {whole : Conclusion}
  {stack : List Frame} {account : Account}

/-- The account is at the counter of the state. -/
structure Account.Counts (account : Account) (s : State) : Prop where
  levels : account.levels = s.levels
  misuse : account.misuse = s.misuse

/-- Leaving a level of the account closes a bracket in the counter of the state. -/
theorem Account.Counts.leave (h : account.Counts s) : account.leave.Counts s.closeLevel := by
  obtain ⟨hl, hm⟩ := h
  unfold Account.leave State.closeLevel
  rw [hl, hm]
  rcases s.levels.leave with m | l
  · exact ⟨rfl, rfl⟩
  · exact ⟨rfl, rfl⟩

@[simp] theorem Account.leave_active (a : Account) : a.leave.active = a.active := by
  unfold Account.leave
  split <;> rfl

@[simp] theorem Account.leave_calls (a : Account) : a.leave.calls = a.calls := by
  unfold Account.leave
  split <;> rfl

/-- What a function of the descent comes to agrees with a reading of lexemes that comes to `whole`.
It stops for the same fault, and the counter is where unwinding the stack, which was there when the
function was called, takes it to the same end.  Or it goes on at a position from which on fewer than
`m` characters are left, and reading the lexemes from there, in a state that fits, comes to the
same. -/
def Agrees (text : List Char) (whole : Conclusion) (m : Nat) (stack : List Frame)
    (fits : α → Account → State → Prop) : Except Stop (α × Nat) × Account → Prop
  | (.ok (a, p), account) => ∃ s cs, fits a account s ∧ At text p cs ∧ cs.length < m ∧
      whole = conclude (byteSize text) s account.calls (Lexeme.scan p cs)
  | (.error (.fault e), account) => ∃ s, account.Counts s ∧
      whole = stopped e s stack account.calls
  | (.error (.slice _), _) => False
  | (.error .exhausted, _) => False

/-- To agree with a reading, agree with its first part, and then with the rest of it. -/
theorem Agrees.bind {fits : α → Account → State → Prop} {fits' : β → Account → State → Prop}
    {x : Reader (α × Nat)} {f : α × Nat → Reader (β × Nat)}
    (h : Agrees text whole m stack fits (x account))
    (hf : ∀ a p account s cs, fits a account s → At text p cs → cs.length < m →
      Agrees text (conclude (byteSize text) s account.calls (Lexeme.scan p cs)) m stack fits'
        (f (a, p) account)) :
    Agrees text whole m stack fits' ((x >>= f) account) := by
  rcases hx : x account with ⟨(e | q | _) | ⟨a, q⟩, account'⟩
  · rw [hx] at h
    rw [bind_of_error hx]
    exact h
  · rw [hx] at h
    exact h.elim
  · rw [hx] at h
    exact h.elim
  · rw [hx] at h
    obtain ⟨s, cs, hfits, hat, hlength, rfl⟩ := h
    rw [bind_of_ok hx]
    exact hf a q account' s cs hfits hat hlength

theorem Agrees.mono {fits : α → Account → State → Prop} {m' : Nat}
    {r : Except Stop (α × Nat) × Account} (h : Agrees text whole m stack fits r) (hm : m ≤ m') :
    Agrees text whole m' stack fits r := by
  rcases r with ⟨(e | q | _) | ⟨a, q⟩, account⟩
  · exact h
  · exact h
  · exact h
  · obtain ⟨s, cs, hfits, hat, hlength, heq⟩ := h
    exact ⟨s, cs, hfits, hat, Nat.lt_of_lt_of_le hlength hm, heq⟩

/-- Only the brackets on the stack matter. -/
theorem Agrees.of_unwind {fits : α → Account → State → Prop} {stack' : List Frame}
    {r : Except Stop (α × Nat) × Account} (h : Agrees text whole m stack fits r)
    (hstack : ∀ s : State, s.unwind stack = s.unwind stack') :
    Agrees text whole m stack' fits r := by
  rcases r with ⟨(e | q | _) | ⟨a, q⟩, account⟩
  · obtain ⟨s, hcounts, rfl⟩ := h
    exact ⟨s, hcounts, by rw [stopped, settle, hstack]; rfl⟩
  · exact h
  · exact h
  · exact h

/-- The state is `s` with a complete term in focus, which stands for the tree. -/
structure Completed (s : State) (active : Nat) (tree : TypeTree) (account : Account) (s' : State) :
    Prop where
  focus : ∃ t : Term, t.denote = tree ∧ s' = { s with focus := .complete t }
  counts : account.Counts s
  active : account.active = active

/-- The state is `s` behind the arguments of `n`, of which those in `done` had been read before and
the others stand for the trees.  The bracket is closed in the state, but not yet in the account. -/
structure Applied (s : State) (n : Word) (done : List Term) (stack : List Frame)
    (trees : List TypeTree) (account : Account) (s' : State) : Prop where
  focus : ∃ ts : List Term, Term.denoteAll ts = trees ∧ s' = closeLevel
    { s with stack := stack, focus := .complete (.named n (done.reverse ++ ts)) }
  counts : account.Counts s
  active : account.active = s.stack.length

/-- With so much fuel, `readType` agrees with reading lexemes where a signature has to begin; if it
is an argument, it is not missing. -/
def TypeAgrees (text : List Char) (fuel : Nat) : Prop :=
  ∀ (s : State) (account : Account) (p : Nat) (cs : List Char), s.focus = .start →
    account.Counts s → account.active = s.stack.length → At text p cs →
    2 * cs.length + 1 ≤ fuel → s.lacksArgument (Lexeme.scan p cs) = false →
    Agrees text (conclude (byteSize text) s account.calls (Lexeme.scan p cs)) cs.length s.stack
      (Completed s s.stack.length) (readType text fuel p account)

/-- With so much fuel, `readArguments` agrees with reading lexemes where an argument has to
begin. -/
def ArgumentsAgree (text : List Char) (fuel : Nat) : Prop :=
  ∀ (s : State) (account : Account) (p : Nat) (cs : List Char) (n : Word) (done : List Term)
    (stack : List Frame), s.focus = .start → s.stack = .arguments n done :: stack →
    account.Counts s → account.active = s.stack.length → At text p cs →
    2 * cs.length + 2 ≤ fuel →
    Agrees text (conclude (byteSize text) s account.calls (Lexeme.scan p cs)) cs.length s.stack
      (Applied s n done stack) (readArguments text fuel p account)

/-! ### The functions agree -/

/-- A call that reads a signature ends as its body does. -/
theorem Agrees.called {body : Reader (TypeTree × Nat)}
    (h : Agrees text whole m stack (Completed s (active + 1)) (body account.call)) :
    Agrees text whole m stack (Completed s active) (called body account) := by
  rcases hbody : body account.call with ⟨r, a⟩
  have hcalled : Descent.called body account = (r, a.finish) := by rw [Descent.called, hbody]
  rw [hbody] at h
  rw [hcalled]
  rcases r with (e | q | _) | ⟨tree, q⟩
  · obtain ⟨s', hcounts, hwhole⟩ := h
    exact ⟨s', ⟨hcounts.levels, hcounts.misuse⟩, hwhole⟩
  · exact h
  · exact h
  · obtain ⟨s', cs, ⟨hfocus, hcounts, hactive⟩, hat, hlength, hwhole⟩ := h
    refine ⟨s', cs, ⟨hfocus, ⟨hcounts.levels, hcounts.misuse⟩, ?_⟩, hat, hlength, hwhole⟩
    rw [Account.finish, hactive, Nat.add_sub_cancel]

/-- **The level of a list is left on every way out.**  Behind the list the counter is back where it
was; behind a fault, leaving the level closes the bracket on top of the stack. -/
theorem Agrees.bracketed {list : Reader (List TypeTree × Nat)} {inner : Levels} {n : Word}
    (henter : s.levels.enter? = some inner) (hcounts : account.Counts s)
    (h : Agrees text whole m (.arguments n [] :: s.stack)
      (Applied ⟨.arguments n [] :: s.stack, .start, inner, s.misuse⟩ n [] s.stack)
      (list { account with levels := inner })) :
    Agrees text whole m s.stack (fun trees => Completed s (s.stack.length + 1) (denoted n trees))
      (bracketed p list account) := by
  rcases hlist : list { account with levels := inner } with ⟨r, a⟩
  have hbracketed : Descent.bracketed p list account = (r, a.leave) := by
    rw [← hcounts.levels] at henter
    simp only [Descent.bracketed, henter, hlist]
  rw [hlist] at h
  rw [hbracketed]
  rcases r with (e | q | _) | ⟨trees, q⟩
  · obtain ⟨s', hcounts', rfl⟩ := h
    exact ⟨s'.closeLevel, hcounts'.leave, by rw [Account.leave_calls]; rfl⟩
  · exact h
  · exact h
  · obtain ⟨s', cs, ⟨⟨ts, rfl, rfl⟩, hcounts', hactive⟩, hat, hlength, rfl⟩ := h
    -- closing the bracket takes the counter back to where it was
    have hclose : ∀ (stack : List Frame) (focus : Focus),
        State.closeLevel ⟨stack, focus, inner, s.misuse⟩ = ⟨stack, focus, s.levels, s.misuse⟩ := by
      intro stack focus
      rw [closeLevel, Levels.leave_of_enter? henter]
    have hleave := hcounts'.leave
    rw [hclose] at hleave
    refine ⟨_, cs, ⟨⟨.named n ts, Term.denote_named n ts, rfl⟩, ⟨hleave.levels, hleave.misuse⟩, ?_⟩,
      hat, hlength, ?_⟩
    · rw [Account.leave_active, hactive]
      rfl
    · rw [Account.leave_calls, hclose]
      rfl

/-- Where a signature has to begin, all but a word is refused; a comma or a closing bracket is
refused as such, if it does not stand in for an argument. -/
theorem begin_of_mark {l : Lexeme} {ls : List Lexeme} (hs : s.focus = .start)
    (hl : ∀ w, l.token ≠ .word w) (hargument : s.lacksArgument (l :: ls) = false) :
    s.step l = .error (.unexpectedChar l.token.first l.offset) := by
  have hmark : ∀ n done stack, s.stack = .arguments n done :: stack →
      l.token ≠ .comma ∧ l.token ≠ .closing := by
    intro n done stack hstack
    simpa [lacksArgument, hstack] using hargument
  simp only [State.step, hs, State.begin]
  split
  · next w hw => exact absurd hw (hl w)
  · next hw hstack => exact absurd hw (hmark _ _ _ hstack).1
  · next hw hstack => exact absurd hw (hmark _ _ _ hstack).2
  · rfl

/-- Behind white space, no word: the text ends, or a mark stands where a signature has to begin. -/
theorem agrees_of_no_word {fits : α → Account → State → Prop} {calls : List Call}
    (hs : s.focus = .start) (hcounts : account.Counts s) (hcalls : account.calls = calls ++ [.of s])
    (hat : At text p cs) (hblank : ∀ c ∈ cs.head?, Text.isBlank c = false)
    (hno : ∀ c ∈ cs.head?, isWordChar c = false)
    (hargument : s.lacksArgument (Lexeme.scan p cs) = false) :
    Agrees text (conclude (byteSize text) s calls (Lexeme.scan p cs)) m s.stack fits
      (match cs.head? with
      | some found => (.error (.fault (.unexpectedChar found p)), account)
      | none => (.error (.fault (.unexpectedEnd p)), account)) := by
  have hbegins := begins_of_start hs hargument
  cases cs with
  | nil =>
    obtain ⟨pre, rfl, rfl⟩ := hat
    rw [List.append_nil]
    refine ⟨s, hcounts, ?_⟩
    rw [hcalls]
    exact conclude_of_missing hbegins (by rw [State.result?, hs])
  | cons c ds =>
    rcases hm : Token.ofMark? c with _ | t
    · have hword := hno c rfl
      rw [isWordChar_iff.2 ⟨hblank c rfl, hm⟩] at hword
      cases hword
    · rw [Lexeme.scan_mark ds p hm] at hargument hbegins ⊢
      have hstep := begin_of_mark hs (eq_of_ofMark? hm).2 hargument
      rw [first_of_ofMark? hm] at hstep
      refine ⟨s, hcounts, ?_⟩
      rw [hcalls]
      exact conclude_of_refused hbegins hstep

/-- Behind a wildcard: a bound, if one is announced. -/
theorem agrees_wildcard (hT : TypeAgrees text fuel) (hcounts : account.Counts s)
    (hactive : account.active = s.stack.length + 1) (hat : At text p cs)
    (hfuel : 2 * cs.length + 1 ≤ fuel) (hm : cs.length < m) :
    Agrees text
      (conclude (byteSize text) { s with focus := .wildcard } account.calls (Lexeme.scan p cs)) m
      s.stack (Completed s (s.stack.length + 1))
      (readBound text (readType text fuel) p account) := by
  obtain ⟨p₁, cs₁, hskip, hat₁, hlen₁, hscan₁, hblank₁⟩ := skipBlanks_of_at hat
  rw [readBound, bind_of_ok (hskip account), hscan₁]
  -- without a bound the wildcard is complete, and the word, if there is one, is read again
  have hplain : (∀ l ∈ (Lexeme.scan p₁ cs₁).head?, ∀ w, l.token = .word w →
      Bound.ofWord? w = none) → Agrees text
      (conclude (byteSize text) { s with focus := .wildcard } account.calls (Lexeme.scan p₁ cs₁)) m
      s.stack (Completed s (s.stack.length + 1)) (.ok (.top, p₁), account) := fun h =>
    ⟨_, cs₁, ⟨⟨.wildcard, rfl, rfl⟩, hcounts, hactive⟩, hat₁, by omega, conclude_wildcard h⟩
  rcases token_of_at hat₁ with ⟨htoken, hno⟩ | ⟨w, p₂, cs₂, htoken, hat₂, hlen₂, hscan₂⟩
  · rw [bind_of_ok (htoken account)]
    refine hplain fun l hl w hw => ?_
    obtain ⟨hhead, hword⟩ := head_scan hblank₁ hl
    have hfirst := hword w hw
    rw [hno _ hhead] at hfirst
    cases hfirst
  · rw [bind_of_ok (htoken account)]
    simp only [Option.bind_some]
    rcases hbound : Bound.ofWord? w with _ | b
    · refine hplain fun l hl v hv => ?_
      rw [hscan₂] at hl
      obtain rfl := Option.some.inj hl
      obtain rfl := Token.word.inj hv
      exact hbound
    · have hstep : State.step { s with focus := .wildcard } ⟨.word w, p₁⟩ =
          .ok { s with stack := .bound b :: s.stack, focus := .start } := by
        simp only [State.step, afterWildcard, hbound]
      rw [hscan₂, conclude_of_step rfl hstep]
      have hread := hT { s with stack := .bound b :: s.stack, focus := .start } account p₂ cs₂ rfl
        ⟨hcounts.levels, hcounts.misuse⟩ hactive hat₂ (by omega) rfl
      refine Agrees.bind ((hread.of_unwind fun _ => rfl).mono (by omega)) ?_
      rintro tree p₃ account₃ _ cs₃ ⟨⟨t, rfl, rfl⟩, hcounts₃, hactive₃⟩ hat₃ hlen₃
      exact ⟨_, cs₃, ⟨⟨.bounded b t, rfl, rfl⟩, ⟨hcounts₃.levels, hcounts₃.misuse⟩, hactive₃⟩, hat₃,
        hlen₃, conclude_bounded⟩

/-- Behind a name: arguments, if a bracket opens. -/
theorem agrees_name {n : Word} (hA : ArgumentsAgree text fuel) (hcounts : account.Counts s)
    (hactive : account.active = s.stack.length + 1) (hat : At text p cs)
    (hfuel : 2 * cs.length ≤ fuel) (hm : cs.length < m) :
    Agrees text
      (conclude (byteSize text) { s with focus := .name n } account.calls (Lexeme.scan p cs)) m
      s.stack (Completed s (s.stack.length + 1))
      (readApplied text (readArguments text fuel) n p account) := by
  obtain ⟨p₁, cs₁, hskip, hat₁, hlen₁, hscan₁, hblank₁⟩ := skipBlanks_of_at hat
  rw [readApplied, bind_of_ok (hskip account), hscan₁, bind_of_ok (peek_of_at hat₁)]
  by_cases hopen : cs₁.head? = some '<'
  · rw [if_pos hopen]
    obtain ⟨ds, rfl⟩ := List.head?_eq_some_iff.1 hopen
    rw [Lexeme.scan_mark ds p₁ (t := .opening) rfl]
    rcases henter : s.levels.enter? with _ | inner
    · have hstep : State.step { s with focus := .name n } ⟨.opening, p₁⟩ =
          .error (.tooDeep p₁) := by
        simp only [State.step, afterName, henter]
      have hrefused : bracketed p₁ (do
          let p ← eat text '<' p₁
          readArguments text fuel p) account = (.error (.fault (.tooDeep p₁)), account) := by
        rw [← hcounts.levels] at henter
        simp only [bracketed, henter]
      rw [bind_of_error hrefused]
      exact ⟨{ s with focus := .name n }, ⟨hcounts.levels, hcounts.misuse⟩,
        conclude_of_fault rfl hstep⟩
    · have hstep : State.step { s with focus := .name n } ⟨.opening, p₁⟩ = .ok
          ⟨.arguments n [] :: s.stack, .start, inner, s.misuse⟩ := by
        simp only [State.step, afterName, henter]
      rw [conclude_of_step rfl hstep]
      rw [List.length_cons] at hlen₁
      refine Agrees.bind (Agrees.bracketed (n := n) henter hcounts ?_) ?_
      · obtain ⟨heat, hat₂⟩ := eat_of_at (a := { account with levels := inner }) hat₁
        rw [bind_of_ok heat]
        have hread := hA ⟨.arguments n [] :: s.stack, .start, inner, s.misuse⟩
          { account with levels := inner } _ ds n [] s.stack rfl rfl ⟨rfl, hcounts.misuse⟩ hactive
          hat₂ (by omega)
        exact hread.mono (by omega)
      · exact fun trees p₃ account₃ s₃ cs₃ hfits hat₃ hlen₃ =>
          ⟨s₃, cs₃, hfits, hat₃, hlen₃, rfl⟩
  · rw [if_neg hopen]
    refine ⟨_, cs₁, ⟨⟨.named n [], Term.denote_named n [], rfl⟩, hcounts, hactive⟩, hat₁, by omega,
      conclude_name fun l hl hl' => hopen ?_⟩
    rw [(head_scan hblank₁ hl).1, hl']
    rfl

theorem typeAgrees_succ (hT : TypeAgrees text fuel) (hA : ArgumentsAgree text fuel) :
    TypeAgrees text (fuel + 1) := by
  intro s account p cs hs hcounts hactive hat hfuel hargument
  obtain ⟨p₁, cs₁, hskip, hat₁, hlen₁, hscan₁, hblank₁⟩ := skipBlanks_of_at hat
  rw [hscan₁] at hargument ⊢
  rw [readType]
  refine Agrees.called ?_
  rw [bind_of_ok (hskip account.call)]
  -- the call that is noted is the one of the state in which the signature begins
  have hcall : account.call.calls = account.calls ++ [.of s] := by
    rw [Account.call, hactive, hcounts.levels]
    rfl
  have hcounts' : account.call.Counts s := ⟨hcounts.levels, hcounts.misuse⟩
  have hactive' : account.call.active = s.stack.length + 1 := by rw [Account.call, hactive]
  rcases token_of_at hat₁ with ⟨htoken, hno⟩ | ⟨n, p₂, cs₂, htoken, hat₂, hlen₂, hscan₂⟩
  · rw [bind_of_ok (htoken account.call)]
    simp only
    rw [bind_of_ok (peek_of_at hat₁)]
    cases cs₁ with
    | nil => exact agrees_of_no_word hs hcounts' hcall hat₁ hblank₁ hno hargument
    | cons c ds => exact agrees_of_no_word hs hcounts' hcall hat₁ hblank₁ hno hargument
  · rw [bind_of_ok (htoken account.call)]
    simp only
    rw [hscan₂] at hargument ⊢
    rw [conclude_of_begin (begins_of_start hs hargument) (step_word hs rfl), ← hcall]
    by_cases hn : n = .wildcard
    · rw [if_pos hn, if_pos hn]
      exact agrees_wildcard hT hcounts' hactive' hat₂ (by omega) (by omega)
    · rw [if_neg hn, if_neg hn]
      exact agrees_name hA hcounts' hactive' hat₂ (by omega) (by omega)

/-- Behind an argument: another one, or the closing bracket. -/
theorem agrees_argument {n : Word} {t : Term} {done : List Term}
    (hA : ArgumentsAgree text fuel) (hstack : s.stack = .arguments n done :: stack)
    (hcounts : account.Counts s) (hactive : account.active = s.stack.length)
    (hat : At text p cs) (hfuel : 2 * cs.length ≤ fuel) (hm : cs.length < m) :
    Agrees text
      (conclude (byteSize text) { s with focus := .complete t } account.calls (Lexeme.scan p cs)) m
      s.stack (Applied s n done stack)
      (readMore text (readArguments text fuel) t.denote p account) := by
  obtain ⟨p₁, cs₁, hskip, hat₁, hlen₁, hscan₁, hblank₁⟩ := skipBlanks_of_at hat
  rw [readMore, bind_of_ok (hskip account), hscan₁, bind_of_ok (peek_of_at hat₁)]
  have hcounts' : account.Counts { s with focus := .complete t } :=
    ⟨hcounts.levels, hcounts.misuse⟩
  cases cs₁ with
  | nil =>
    obtain ⟨pre, rfl, rfl⟩ := hat₁
    rw [List.append_nil]
    refine ⟨_, hcounts', conclude_of_end rfl ?_⟩
    simp only [State.result?, hstack, State.finish]
  | cons c ds =>
    rw [List.length_cons] at hlen₁
    simp only [List.head?_cons]
    by_cases hcomma : c = ','
    · obtain rfl := hcomma
      obtain ⟨heat, hat₂⟩ := eat_of_at (a := account) hat₁
      have hstep : State.step { s with focus := .complete t } ⟨.comma, p₁⟩ = .ok
          { s with stack := .arguments n (t :: done) :: stack, focus := .start } := by
        simp only [State.step, hstack, State.resume]
      rw [if_pos rfl, Lexeme.scan_mark ds p₁ (t := .comma) rfl, conclude_of_step rfl hstep,
        bind_of_ok heat]
      have hread := hA { s with stack := .arguments n (t :: done) :: stack, focus := .start }
        account _ ds n (t :: done) stack rfl rfl ⟨hcounts.levels, hcounts.misuse⟩
        (by rw [hactive, hstack]; rfl) hat₂ (by omega)
      refine Agrees.bind ((hread.of_unwind fun s => by rw [hstack]; rfl).mono (by omega)) ?_
      rintro trees p₃ account₃ _ cs₃ ⟨⟨ts, rfl, rfl⟩, hcounts₃, hactive₃⟩ hat₃ hlen₃
      refine ⟨_, cs₃, ⟨⟨t :: ts, rfl, rfl⟩, ⟨hcounts₃.levels, hcounts₃.misuse⟩, ?_⟩, hat₃, hlen₃,
        ?_⟩
      · rw [hactive₃, hstack]
        rfl
      · rw [List.reverse_cons, List.append_assoc, List.singleton_append]
    · rw [if_neg hcomma]
      by_cases hclosing : c = '>'
      · obtain rfl := hclosing
        obtain ⟨heat, hat₂⟩ := eat_of_at (a := account) hat₁
        have hstep : State.step { s with focus := .complete t } ⟨.closing, p₁⟩ = .ok (closeLevel
            { s with stack := stack, focus := .complete (.named n (t :: done).reverse) }) := by
          simp only [State.step, hstack, State.resume]
        rw [if_pos rfl, Lexeme.scan_mark ds p₁ (t := .closing) rfl, conclude_of_step rfl hstep,
          bind_of_ok heat]
        refine ⟨_, ds, ⟨⟨[t], rfl, rfl⟩, hcounts, hactive⟩, hat₂, by omega, ?_⟩
        rw [List.reverse_cons]
      · rw [if_neg hclosing]
        obtain ⟨token, ls, hscan, rfl, -⟩ := scan_visible (hblank₁ c rfl) ds p₁
        rw [hscan]
        refine ⟨_, hcounts', conclude_of_fault rfl ?_⟩
        simp only [State.step, hstack, State.resume]
        split
        · exact absurd rfl hcomma
        · exact absurd rfl hclosing
        · rfl

theorem argumentsAgree_succ (hT : TypeAgrees text fuel) (hA : ArgumentsAgree text fuel) :
    ArgumentsAgree text (fuel + 1) := by
  intro s account p cs n done stack hs hstack hcounts hactive hat hfuel
  obtain ⟨p₁, cs₁, hskip, hat₁, hlen₁, hscan₁, hblank₁⟩ := skipBlanks_of_at hat
  rw [readArguments, hscan₁, bind_of_ok (hskip account), bind_of_ok (peek_of_at hat₁)]
  by_cases hmissing : cs₁.head? = some ',' ∨ cs₁.head? = some '>'
  · rw [if_pos hmissing]
    refine ⟨s, hcounts, ?_⟩
    rcases hmissing with hmark | hmark <;> obtain ⟨ds, rfl⟩ := List.head?_eq_some_iff.1 hmark
    · rw [Lexeme.scan_mark ds p₁ (t := .comma) rfl]
      refine conclude_of_fault ?_ ?_
      · simp only [begins, hs, lacksArgument, hstack]
        rfl
      · simp only [State.step, hs, State.begin, hstack]
    · rw [Lexeme.scan_mark ds p₁ (t := .closing) rfl]
      refine conclude_of_fault ?_ ?_
      · simp only [begins, hs, lacksArgument, hstack]
        rfl
      · simp only [State.step, hs, State.begin, hstack]
  · rw [if_neg hmissing]
    have hargument : s.lacksArgument (Lexeme.scan p₁ cs₁) = false := by
      rcases hls : Lexeme.scan p₁ cs₁ with _ | ⟨l, ls⟩
      · simp only [lacksArgument, hstack]
      · -- the argument is not missing, so neither of the two marks is the next lexeme
        have hhead := (head_scan hblank₁ (by rw [hls]; rfl : l ∈ (Lexeme.scan p₁ cs₁).head?)).1
        have hcomma : l.token ≠ .comma := fun h => hmissing (.inl (by rw [hhead, h]; rfl))
        have hclosing : l.token ≠ .closing := fun h => hmissing (.inr (by rw [hhead, h]; rfl))
        simp [lacksArgument, hstack, hcomma, hclosing]
    refine Agrees.bind ((hT s account p₁ cs₁ hs hcounts hactive hat₁ (by omega) hargument).mono
      hlen₁) ?_
    rintro tree p₂ account₂ _ cs₂ ⟨⟨t, rfl, rfl⟩, hcounts₂, hactive₂⟩ hat₂ hlen₂
    exact agrees_argument hA hstack hcounts₂ hactive₂ hat₂ (by omega) hlen₂

/-- **Descent agrees with reading lexemes,** call by call. -/
theorem agree (text : List Char) (fuel : Nat) :
    TypeAgrees text fuel ∧ ArgumentsAgree text fuel := by
  induction fuel with
  | zero =>
    refine ⟨fun s account p cs _ _ _ _ hfuel => ?_, fun s account p cs _ _ _ _ _ _ _ _ hfuel => ?_⟩
    · omega
    · omega
  | succ fuel ih => exact ⟨typeAgrees_succ ih.1 ih.2, argumentsAgree_succ ih.1 ih.2⟩

/-! ### Whole texts -/

/-- The tree of a reading, or its fault. -/
def treeOf : Except SignatureError Term → Except Stop TypeTree
  | .ok t => .ok t.denote
  | .error e => .error (.fault e)

/-- A whole text is read as its lexemes are: in the end the account is at the counter of a state
from which there is nothing to be closed any more. -/
theorem readText_agrees (text : List Char) :
    ∃ r account s,
      readText text .new = (treeOf r, account) ∧ account.Counts s ∧
        conclude (byteSize text) .initial [] (Lexeme.scan 0 text) =
          ⟨settle r s [], account.calls⟩ := by
  have hat : At text 0 text := ⟨[], rfl, rfl⟩
  have hread := (agree text (2 * text.length + 1)).1 .initial .new 0 text rfl ⟨rfl, rfl⟩ rfl hat
    (Nat.le_refl _) rfl
  rcases hresult : readType text (2 * text.length + 1) 0 .new with
    ⟨(e | q | _) | ⟨tree, q⟩, account⟩
  · rw [hresult] at hread
    obtain ⟨s, hcounts, hwhole⟩ := hread
    refine ⟨.error e, account, s, ?_, hcounts, hwhole⟩
    rw [readText, bind_of_error hresult]
    rfl
  · rw [hresult] at hread
    exact hread.elim
  · rw [hresult] at hread
    exact hread.elim
  · rw [hresult] at hread
    obtain ⟨_, cs, ⟨⟨t, rfl, rfl⟩, hcounts, -⟩, hat, -, hwhole⟩ := hread
    obtain ⟨p₁, cs₁, hskip, hat₁, -, hscan₁, hblank₁⟩ := skipBlanks_of_at hat
    have hcounts' : account.Counts { State.initial with focus := .complete t } :=
      ⟨hcounts.levels, hcounts.misuse⟩
    have hbind : readText text .new =
        (if p₁ < byteSize text then throw (.fault (.trailingInput p₁)) else return t.denote :
          Reader TypeTree) account := by
      rw [readText, bind_of_ok hresult]
      exact bind_of_ok (hskip account)
    rw [hscan₁] at hwhole
    rw [hbind]
    cases cs₁ with
    | nil =>
      obtain ⟨pre, rfl, rfl⟩ := hat₁
      rw [List.append_nil] at hwhole ⊢
      rw [if_neg (Nat.lt_irrefl _)]
      refine ⟨.ok t, account, _, rfl, hcounts', hwhole.trans ?_⟩
      exact congrArg (Conclusion.mk _) (List.append_nil account.calls)
    | cons c ds =>
      have hlt : p₁ < byteSize text := by
        obtain ⟨pre, rfl, rfl⟩ := hat₁
        have := c.utf8Size_pos
        rw [byteSize_append, byteSize_cons]
        omega
      obtain ⟨token, ls, hscan, -, -⟩ := scan_visible (hblank₁ c rfl) ds p₁
      rw [hscan] at hwhole
      rw [if_pos hlt]
      exact ⟨.error (.trailingInput p₁), account, _, rfl, hcounts',
        hwhole.trans (conclude_of_fault rfl rfl)⟩

/-- **Reading by descent comes to what reading lexemes comes to**: to the same tree or to the same
fault, at the same place, with the counter of levels at the same depth and with the same misuse of
it.  No slice is ever taken inside a character or beyond the end of the text.  The calls that are
made to read a signature are one for each state in which a signature begins, in the same order; and
the calls that are active are as many as the signatures that are read one inside the other. -/
theorem ofText_eq (text : String) :
    (ofText text).outcome =
        (match TypeTree.ofSignature text with
        | .ok tree => .ok tree
        | .error e => .error (.fault e)) ∧
      (ofText text).levels = (Reading.ofText text).levels ∧
      (ofText text).misuse = (Reading.ofText text).misuse ∧
      (ofText text).calls = (beginnings text).map .of := by
  obtain ⟨r, account, s, hread, ⟨hlevels, hmisuse⟩, hwhole⟩ := readText_agrees text.toList
  have hinitial := conclude_initial text
  rw [← byteSize_toList, Lexeme.ofText] at hinitial
  obtain ⟨hreading, hcalls⟩ := Conclusion.mk.inj (hinitial.symm.trans hwhole)
  have hdescent : ofText text =
      ⟨treeOf r, account.levels, account.misuse.or account.levels.abandon, account.calls⟩ := by
    rw [ofText, hread]
  rw [hdescent, TypeTree.ofSignature, hreading, hlevels, hmisuse]
  refine ⟨?_, rfl, rfl, hcalls.symm⟩
  rcases r with e | t
  · rfl
  · rfl

end Agreement

end Descent

end Signature

end TypeAncestry
