import Mathlib.Data.List.Dedup
import Mathlib.Data.List.DropRight
import TypeAncestry.Proofs.Cache.Transparency
import TypeAncestry.Proofs.Registry.Changes

/-!
# A cache for a registry that changes

A cache does not notice that the registry behind it changes.  What it remembers of a name is what
the name led to when it was asked for the first time after the answers were last forgotten.  So an
answer can only be out of date if a type with this name has been registered since then.

All of this is an invariant of sessions, in which changes, questions and the forgetting of answers
come in any order.  It is kept by one more step, and what the step has to do with the questions that
were the first for their names is said once, in `Session.firstAsked_concat`.  The two counters are
words of 64 bits, so they count up to multiples of `2 ^ 64`.

* `Session` : a registry and a cache for a reference to it.
* `Session.Step`, `Session.after` : what is done in a session, and what becomes of it.
* `Session.FirstAsked` : a question was the first for its name since the answers were forgotten.
* `Session.Accounts` : what a cache remembers and counts, told by the steps that there were.
* `Session.answers_after` : so it is after any steps.
-/

namespace TypeAncestry

/-- A registry and a cache for a reference to it. -/
structure Session where
  registry : Registry
  cache : NameCache Handle

namespace Session

/-- A step of a session. -/
inductive Step where
  /-- Change the registry. -/
  | change (c : Registry.Change)
  /-- Ask the cache for a name. -/
  | ask (name : String)
  /-- Make the cache forget all answers. -/
  | clear

/-- A session with a cache that has not been asked. -/
def start (r : Registry) : Session := ⟨r, .new⟩

/-- The answer of the cache to a question, and the session after it. -/
def ask (s : Session) (name : String) : Option Handle × Session :=
  let (answer, cache, _) := s.cache.ask s.registry.oracle.borrowed.resolve name
  (answer, { s with cache })

/-- The session after a step. -/
def apply (s : Session) : Step → Session
  | .change c => { s with registry := s.registry.apply c }
  | .ask name => (s.ask name).2
  | .clear => { s with cache := s.cache.clear }

/-- The session after steps, the first of the list first. -/
def after (s : Session) (steps : List Step) : Session := steps.foldl apply s

/-! ### Questions and steps -/

namespace Step

/-- The name that a step asks for. -/
def question? : Step → Option String
  | ask name => some name
  | _ => none

/-- The step makes the cache forget all answers. -/
def isClear : Step → Bool
  | clear => true
  | _ => false

theorem isClear_iff {x : Step} : x.isClear = true ↔ x = .clear := by
  cases x <;> simp [isClear]

end Step

/-- The names that are asked for, in order. -/
def questions (steps : List Step) : List String := steps.filterMap (·.question?)

/-- The steps since the answers were last forgotten. -/
def recent (steps : List Step) : List Step := steps.rtakeWhile (!·.isClear)

/-- The step behind `steps` asks for a name for the first time since the answers were last
forgotten. -/
def asksFirst (steps : List Step) : Step → Bool
  | .ask name => name ∉ questions (recent steps)
  | _ => false

/-- How many steps ask for a name for the first time since the answers were last forgotten. -/
def firstQuestions (steps : List Step) : Nat :=
  (List.range steps.length).countP fun i => steps[i]?.any (asksFirst (steps.take i))

/-- Among the steps, the question for `n` between `before` and `since` was the first for this name
after the answers had been forgotten the last time. -/
structure FirstAsked (n : String) (steps before since : List Step) : Prop where
  split : steps = before ++ .ask n :: since
  kept : .clear ∉ since
  first : n ∉ questions (recent before)

variable {s : Session} {r : Registry} {n : String} {x : Step} {steps before since : List Step}

theorem after_append (s : Session) (steps more : List Step) :
    s.after (steps ++ more) = (s.after steps).after more :=
  List.foldl_append

theorem after_concat (s : Session) (steps : List Step) (x : Step) :
    s.after (steps ++ [x]) = (s.after steps).apply x :=
  s.after_append steps [x]

theorem questions_concat (steps : List Step) (x : Step) :
    questions (steps ++ [x]) = questions steps ++ x.question?.toList := by
  cases x <;> simp [questions, Step.question?]

theorem mem_questions_concat :
    n ∈ questions (steps ++ [x]) ↔ n ∈ questions steps ∨ x = .ask n := by
  rw [questions_concat, List.mem_append]
  cases x <;> simp [Step.question?, eq_comm]

theorem length_questions_ask (steps : List Step) (n : String) :
    (questions (steps ++ [.ask n])).length = (questions steps).length + 1 := by
  simp [questions_concat, Step.question?]

theorem recent_concat (steps : List Step) (x : Step) :
    recent (steps ++ [x]) = if x.isClear then [] else recent steps ++ [x] := by
  simp only [recent, List.rtakeWhile_concat]
  cases x <;> rfl

theorem firstQuestions_concat (steps : List Step) (x : Step) :
    firstQuestions (steps ++ [x]) = firstQuestions steps + (asksFirst steps x).toNat := by
  have hsame : (List.range steps.length).countP
        (fun i => (steps ++ [x])[i]?.any (asksFirst ((steps ++ [x]).take i))) =
      firstQuestions steps := by
    refine List.countP_congr fun i hi => ?_
    have hi := List.mem_range.1 hi
    rw [List.getElem?_append_left hi, List.take_append_of_le_length (Nat.le_of_lt hi)]
  rw [firstQuestions, List.length_append, List.length_singleton, List.range_succ,
    List.countP_append, hsame, List.countP_singleton, List.getElem?_concat_length,
    List.take_left]
  rcases hx : asksFirst steps x <;> simp [hx]

theorem firstQuestions_le (steps : List Step) :
    firstQuestions steps ≤ (questions steps).length := by
  induction steps using List.reverseRecOn with
  | nil => exact Nat.le_refl 0
  | append_singleton steps x ih =>
    rw [firstQuestions_concat, questions_concat, List.length_append]
    refine Nat.add_le_add ih ?_
    cases x with
    | ask n => exact Bool.toNat_le _
    | change | clear => exact Nat.le_refl 0

/-- **What one more step does to the first questions.**  It may be one; and those that there were
still are, unless it makes the cache forget the answers. -/
theorem firstAsked_concat : FirstAsked n (steps ++ [x]) before since ↔
    (x = .ask n ∧ before = steps ∧ since = [] ∧ n ∉ questions (recent steps)) ∨
      x ≠ .clear ∧ ∃ since', since = since' ++ [x] ∧ FirstAsked n steps before since' := by
  constructor
  · rintro ⟨hsplit, hkept, hfirst⟩
    rcases List.eq_nil_or_concat' since with rfl | ⟨since', y, rfl⟩
    · obtain ⟨rfl, hx⟩ := List.append_inj' hsplit rfl
      exact .inl ⟨List.singleton_inj.1 hx, rfl, rfl, hfirst⟩
    · rw [← List.cons_append, ← List.append_assoc] at hsplit
      obtain ⟨rfl, hx⟩ := List.append_inj' hsplit rfl
      obtain rfl := List.singleton_inj.1 hx
      rw [List.mem_append, List.mem_singleton, not_or] at hkept
      exact .inr ⟨Ne.symm hkept.2, since', rfl, rfl, hkept.1, hfirst⟩
  · rintro (⟨rfl, rfl, rfl, hfirst⟩ | ⟨hx, since', rfl, rfl, hkept, hfirst⟩)
    · exact ⟨rfl, List.not_mem_nil, hfirst⟩
    · refine ⟨by simp, ?_, hfirst⟩
      rw [List.mem_append, List.mem_singleton, not_or]
      exact ⟨hkept, Ne.symm hx⟩

/-- For a name that a step does not ask for first, the step changes nothing. -/
theorem exists_firstAsked_concat {P : List Step → Prop} (hx : x ≠ .clear)
    (hn : x = .ask n → n ∈ questions (recent steps)) :
    (∃ before since, FirstAsked n (steps ++ [x]) before since ∧ P before) ↔
      ∃ before since, FirstAsked n steps before since ∧ P before := by
  constructor
  · rintro ⟨before, since, hfirst, hp⟩
    obtain ⟨hask, -, -, hnew⟩ | ⟨-, since', -, hold⟩ := firstAsked_concat.1 hfirst
    · exact absurd (hn hask) hnew
    · exact ⟨before, since', hold, hp⟩
  · rintro ⟨before, since, hold, hp⟩
    exact ⟨before, _, firstAsked_concat.2 (.inr ⟨hx, since, rfl, hold⟩), hp⟩

/-- Once the answers are forgotten, nothing has been asked for. -/
theorem not_firstAsked_clear : ¬FirstAsked n (steps ++ [.clear]) before since := by
  intro hfirst
  obtain ⟨⟨⟩, -⟩ | ⟨hx, -⟩ := firstAsked_concat.1 hfirst
  exact hx rfl

/-- A name that has been asked for has been asked for a first time. -/
theorem mem_questions_recent :
    n ∈ questions (recent steps) ↔ ∃ before since, FirstAsked n steps before since := by
  induction steps using List.reverseRecOn with
  | nil =>
    refine ⟨fun hn => (nomatch hn), fun ⟨before, since, hsplit, _, _⟩ => ?_⟩
    simp at hsplit
  | append_singleton steps x ih =>
    rw [recent_concat]
    by_cases hx : x = .clear
    · subst hx
      exact ⟨fun hn => (nomatch hn), fun ⟨before, since, hfirst⟩ =>
        absurd hfirst not_firstAsked_clear⟩
    · rw [if_neg (mt Step.isClear_iff.1 hx), mem_questions_concat]
      constructor
      · intro hn
        by_cases hold : n ∈ questions (recent steps)
        · obtain ⟨before, since, hold⟩ := ih.1 hold
          exact ⟨before, since ++ [x], firstAsked_concat.2 (.inr ⟨hx, since, rfl, hold⟩)⟩
        · exact ⟨steps, [], firstAsked_concat.2 (.inl ⟨hn.resolve_left hold, rfl, rfl, hold⟩)⟩
      · rintro ⟨before, since, hfirst⟩
        obtain ⟨hask, -⟩ | ⟨-, since', -, hold⟩ := firstAsked_concat.1 hfirst
        · exact .inr hask
        · exact .inl (ih.2 ⟨before, since', hold⟩)

/-! ### What the steps do -/

/-- A name leads elsewhere only if a type with this name has been registered. -/
theorem lookup_after_eq (hsince : ∀ d, .change (.register d) ∈ since → d.name ≠ n) (s : Session) :
    (s.after since).registry.lookup n = s.registry.lookup n := by
  induction since generalizing s with
  | nil => rfl
  | cons x since ih =>
    refine (ih (fun d hd => hsince d (List.mem_cons_of_mem _ hd)) (s.apply x)).trans ?_
    cases x with
    | ask m => rfl
    | clear => rfl
    | change c =>
      obtain ⟨d, rfl⟩ | hc := c.cases
      · have hne : d.name ≠ n := hsince d List.mem_cons_self
        exact (s.registry.lookup_register d n).trans (if_neg (Ne.symm hne))
      · exact Registry.lookup_apply hc s.registry n

/-- What a cache remembers and counts, told by the steps that have been taken since `start r`. -/
structure Accounts (r : Registry) (steps : List Step) (c : NameCache Handle) : Prop where
  /-- An answer is what the name led to when it was first asked for. -/
  answers : ∀ n a, c.answers.get? n = some a ↔
    ∃ before since, FirstAsked n steps before since ∧
      a = ((start r).after before).registry.lookup n
  /-- No answer is kept twice. -/
  distinct : c.answers.keys.Nodup
  /-- Every question has been counted. -/
  asked : c.hitCount + c.missCount = .ofNat (questions steps).length
  /-- The first ones are those that were missed. -/
  missed : c.missCount = .ofNat (firstQuestions steps)

namespace Accounts

variable {c : NameCache Handle}

theorem mem_keys_iff (hc : Accounts r steps c) :
    n ∈ c.answers.keys ↔ n ∈ questions (recent steps) := by
  simp only [OrderedMap.mem_keys_iff, hc.answers, mem_questions_recent]
  constructor
  · rintro ⟨a, before, since, hfirst, -⟩
    exact ⟨before, since, hfirst⟩
  · rintro ⟨before, since, hfirst⟩
    exact ⟨_, before, since, hfirst, rfl⟩

/-- As many answers are remembered as names have been asked for. -/
theorem size_eq (hc : Accounts r steps c) : c.size = (questions (recent steps)).dedup.length := by
  have hsame : c.answers.keys.Perm (questions (recent steps)).dedup := by
    refine (List.perm_ext_iff_of_nodup hc.distinct (List.nodup_dedup _)).2 fun n => ?_
    rw [hc.mem_keys_iff, List.mem_dedup]
  exact c.answers.size_eq_length_keys.trans hsame.length_eq

/-- The counters show the numbers of questions as long as these are words of 64 bits. -/
theorem counts (hc : Accounts r steps c) (hroom : (questions steps).length < UInt64.size) :
    c.hits + c.misses = (questions steps).length ∧ c.misses = firstQuestions steps := by
  have hle := firstQuestions_le steps
  have hmisses : c.misses = firstQuestions steps := by
    rw [NameCache.misses, hc.missed, UInt64.toNat_ofNat_of_lt' (Nat.lt_of_le_of_lt hle hroom)]
  have hsum : (c.hits + c.misses) % UInt64.size = (questions steps).length := by
    have hasked := congrArg UInt64.toNat hc.asked
    rwa [UInt64.toNat_add, UInt64.toNat_ofNat_of_lt' hroom] at hasked
  -- the sum has not come round, as there are no more first questions than questions
  have hhits : c.hits < UInt64.size := c.hitCount.toNat_lt_size
  simp only [UInt64.size] at hsum hhits hroom
  exact ⟨by omega, hmisses⟩

theorem not_remembered (hc : Accounts r steps c) (hn : n ∉ questions (recent steps)) :
    c.answers.get? n = none := by
  rw [← hc.mem_keys_iff, OrderedMap.mem_keys_iff, not_exists] at hn
  exact Option.eq_none_iff_forall_ne_some.2 hn

theorem change (hc : Accounts r steps c) (d : Registry.Change) :
    Accounts r (steps ++ [.change d]) c where
  answers n a := by
    rw [hc.answers]
    exact (exists_firstAsked_concat (x := .change d) nofun nofun).symm
  distinct := hc.distinct
  asked := by
    rw [hc.asked, questions_concat]
    simp [Step.question?]
  missed := by rw [hc.missed, firstQuestions_concat]; rfl

theorem clear (hc : Accounts r steps c) : Accounts r (steps ++ [.clear]) c.clear where
  answers n a := ⟨fun hn => (nomatch hn), fun ⟨before, since, hfirst, _⟩ =>
    absurd hfirst not_firstAsked_clear⟩
  distinct := .nil
  asked := by
    refine hc.asked.trans ?_
    rw [questions_concat]
    simp [Step.question?]
  missed := hc.missed.trans (by rw [firstQuestions_concat]; rfl)

/-- A question whose answer is remembered is not the first. -/
theorem ask_again {a : Option Handle} (hc : Accounts r steps c) (ha : c.answers.get? n = some a) :
    Accounts r (steps ++ [.ask n]) { c with hitCount := c.hitCount + 1 } := by
  have hasked : n ∈ questions (recent steps) :=
    hc.mem_keys_iff.1 (OrderedMap.mem_keys_iff.2 ⟨a, ha⟩)
  refine ⟨fun m b => ?_, hc.distinct, ?_, ?_⟩
  · rw [hc.answers]
    exact (exists_firstAsked_concat (x := .ask n) nofun fun hm => Step.ask.inj hm ▸ hasked).symm
  · rw [length_questions_ask, UInt64.ofNat_add, ← hc.asked]
    -- the one is added to the first of the two counters
    change c.hitCount + 1 + c.missCount = _
    rw [UInt64.add_assoc, UInt64.add_comm 1, ← UInt64.add_assoc]
    rfl
  · rw [hc.missed, firstQuestions_concat]
    simp [asksFirst, hasked]

/-- A question whose answer is not remembered is the first. -/
theorem ask_first (hc : Accounts r steps c) (hn : c.answers.get? n = none) :
    Accounts r (steps ++ [.ask n])
      { c with
        answers := c.answers.insert n (((start r).after steps).registry.lookup n)
        missCount := c.missCount + 1 } := by
  have hnew : n ∉ questions (recent steps) := by
    rw [← hc.mem_keys_iff, OrderedMap.mem_keys_iff, hn]
    rintro ⟨a, ⟨⟩⟩
  refine ⟨fun m b => ?_, OrderedMap.nodup_keys_insert hc.distinct _ _, ?_, ?_⟩
  · by_cases hm : m = n
    · subst hm
      rw [OrderedMap.get?_insert_self]
      constructor
      · intro hb
        exact ⟨steps, [], firstAsked_concat.2 (.inl ⟨rfl, rfl, rfl, hnew⟩),
          (Option.some.inj hb).symm⟩
      · rintro ⟨before, since, hfirst, rfl⟩
        obtain ⟨-, rfl, -⟩ | ⟨-, since', -, hold⟩ := firstAsked_concat.1 hfirst
        · rfl
        · exact absurd (mem_questions_recent.2 ⟨before, since', hold⟩) hnew
    · rw [OrderedMap.get?_insert_of_ne _ hm, hc.answers]
      exact (exists_firstAsked_concat (x := .ask n) nofun fun hask =>
        absurd (Step.ask.inj hask).symm hm).symm
  · rw [length_questions_ask, UInt64.ofNat_add, ← hc.asked]
    exact (UInt64.add_assoc _ _ _).symm
  · rw [hc.missed, firstQuestions_concat, UInt64.ofNat_add]
    simp [asksFirst, hnew]

end Accounts

theorem accounts_new (r : Registry) : Accounts r [] .new where
  answers _ _ := ⟨fun hn => (nomatch hn), fun ⟨before, since, hfirst, _⟩ =>
    absurd (mem_questions_recent.2 ⟨before, since, hfirst⟩) List.not_mem_nil⟩
  distinct := .nil
  asked := rfl
  missed := rfl

/-- **One more step keeps the accounts.** -/
theorem Accounts.apply (hc : Accounts r steps ((start r).after steps).cache) (x : Step) :
    Accounts r (steps ++ [x]) (((start r).after steps).apply x).cache := by
  cases x with
  | change d => exact hc.change d
  | clear => exact hc.clear
  | ask n =>
    change Accounts r _ (((start r).after steps).cache.ask _ n).2.1
    rcases hn : ((start r).after steps).cache.answers.get? n with _ | a
    · rw [NameCache.ask_of_not_remembered hn]
      exact hc.ask_first hn
    · rw [NameCache.ask_of_remembered hn]
      exact hc.ask_again hn

theorem accounts_after (r : Registry) (steps : List Step) :
    Accounts r steps ((start r).after steps).cache := by
  induction steps using List.reverseRecOn with
  | nil => exact accounts_new r
  | append_singleton steps x ih =>
    rw [after_concat]
    exact ih.apply x

/-- **What a cache answers and counts while the registry changes.**  Let changes of a registry,
questions to a new cache for it and the forgetting of answers come in any order.  The cache answers
to a name that has been asked for since the answers were last forgotten what the name led to when it
was first asked for; if the name leads elsewhere now, a type with this name has been registered in
the meantime.  To other names it answers what they lead to.  All questions are counted; those that
were the first for their name since the answers were forgotten are the ones that were missed; both
are counted in words of 64 bits, which show the numbers themselves up to `2 ^ 64` questions.  And
as many answers are remembered as names have been asked for since then. -/
theorem answers_after (r : Registry) (steps : List Step) :
    let s := (start r).after steps
    (∀ n a, s.cache.answers.get? n = some a ↔
      ∃ before since, FirstAsked n steps before since ∧
        a = ((start r).after before).registry.lookup n) ∧
      (∀ n before since, FirstAsked n steps before since →
        (s.ask n).1 = ((start r).after before).registry.lookup n ∧
          ((s.ask n).1 ≠ s.registry.lookup n →
            ∃ d, .change (.register d) ∈ since ∧ d.name = n)) ∧
      (∀ n ∈ questions (recent steps), ∃ before since, FirstAsked n steps before since) ∧
      (∀ n ∉ questions (recent steps), (s.ask n).1 = s.registry.lookup n) ∧
      s.cache.hitCount + s.cache.missCount = .ofNat (questions steps).length ∧
      s.cache.missCount = .ofNat (firstQuestions steps) ∧
      ((questions steps).length < UInt64.size →
        s.cache.hits + s.cache.misses = (questions steps).length ∧
          s.cache.misses = firstQuestions steps) ∧
      s.cache.size = (questions (recent steps)).dedup.length := by
  intro s
  have hs : Accounts r steps s.cache := accounts_after r steps
  have hask : ∀ n, (s.ask n).1 = (s.cache.answers.get? n).getD (s.registry.lookup n) :=
    fun n => s.cache.ask_fst _ n
  refine ⟨hs.answers, fun n before since hfirst => ?_, fun n => mem_questions_recent.1,
    fun n hn => ?_, hs.asked, hs.missed, hs.counts, hs.size_eq⟩
  · have hanswer : (s.ask n).1 = ((start r).after before).registry.lookup n := by
      rw [hask, (hs.answers n _).2 ⟨before, since, hfirst, rfl⟩]
      rfl
    refine ⟨hanswer, fun hne => ?_⟩
    by_contra hnone
    refine hne (hanswer.trans ?_)
    have hsplit : s = (((start r).after before).apply (.ask n)).after since := by
      simp only [s, hfirst.split, after_append]
      rfl
    rw [hsplit, lookup_after_eq fun d hd hname => hnone ⟨d, hd, hname⟩]
    rfl
  · rw [hask, hs.not_remembered hn]
    rfl

/-- Items are asked for, registered and asked for again, all since the answers were forgotten. -/
def outdating : List Step :=
  [.ask "a.None", .clear, .ask "a.Item", .change (.register (.class_ "a.Item")), .ask "a.Item",
    .ask "a.List"]

/-- The cache goes on answering that there are no items, until it is made to forget it. -/
theorem answers_after_outdating :
    let s := (start .empty).after outdating
    let since := outdating.drop 3
    FirstAsked "a.Item" outdating [.ask "a.None", .clear] since ∧
      (s.ask "a.Item").1 = none ∧ s.registry.lookup "a.Item" = some ⟨1⟩ ∧
      (∃ d, .change (.register d) ∈ since ∧ d.name = "a.Item") ∧
      s.cache.hits = 1 ∧ s.cache.misses = 3 ∧ firstQuestions outdating = 3 ∧ s.cache.size = 2 ∧
      ((s.apply .clear).ask "a.Item").1 = some ⟨1⟩ := by
  intro s since
  have hfirst : FirstAsked "a.Item" outdating [.ask "a.None", .clear] since :=
    ⟨rfl, by simp [since, outdating], by decide +kernel⟩
  obtain ⟨-, hanswers, -, -, -, -, hcounts, hsize⟩ := answers_after .empty outdating
  obtain ⟨hanswer, hregistered⟩ := hanswers _ _ _ hfirst
  have hlookup : s.registry.lookup "a.Item" = some ⟨1⟩ := by decide +kernel
  have hnone : (s.ask "a.Item").1 = none := hanswer
  have hthree : firstQuestions outdating = 3 := by decide +kernel
  have hquestions : (questions outdating).length = 4 := by decide +kernel
  obtain ⟨htotal, hmissed⟩ := hcounts (by rw [hquestions]; decide)
  have hmisses : s.cache.misses = 3 := hmissed.trans hthree
  have hhits : s.cache.hits = 1 := by
    rw [hmisses, hquestions] at htotal
    exact Nat.add_right_cancel htotal
  refine ⟨hfirst, hnone, hlookup, hregistered ?_, hhits, hmisses, hthree, ?_, by decide +kernel⟩
  · rw [hnone, hlookup]
    exact nofun
  · exact hsize.trans (by decide +kernel)

end Session

end TypeAncestry
