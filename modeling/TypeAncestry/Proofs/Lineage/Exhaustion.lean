import TypeAncestry.Proofs.Lineage.Cycles

/-!
# When the budget is exceeded

Every attempt to expand a type is counted, and the count never falls.  So once the budget is
exceeded it stays exceeded: attempts are begun in the order of the tree, and those that are begun
later are refused as well.  What is built then had been begun before.

* `Guard.Spent` : the next try exceeds the budget.
* `Course.answer?` : what the guard says to the attempt at a position.
* `Course.attempts_in_order` : attempts are begun in the order of the tree.
* `Oracle.Takes.not_entered_after` : no expansion is begun when the budget is exceeded.
-/

namespace TypeAncestry

/-! ### The budget of a guard -/

namespace Guard

variable {K : Type} [DecidableEq K] {g : Guard K} {k : K}

omit [DecidableEq K] in
/-- The next try exceeds the budget. -/
def Spent (g : Guard K) : Prop := g.limits.maxSteps.toNat < min (g.steps + 1) stepsCap

theorem stepsExceeded_iff : (g.enter k).1 = .stepsExceeded ↔ g.Spent := by
  constructor
  · intro h
    have hlt := lt_steps_of_stepsExceeded h
    rwa [enter_steps] at hlt
  · intro h
    have hlt : g.limits.maxSteps.toNat < min (g.steps + 1) stepsCap := h
    simp only [enter, if_pos hlt]

end Guard

/-! ### Answers at positions -/

namespace Course

variable {H : Type} [DecidableEq H] {x : Course H} {p : Position} {e : Entry}

/-- What the guard says to the attempt at a position, if there is one. -/
def answer? (x : Course H) (p : Position) : Option Entry :=
  match x.at? p with
  | some (attempt a _) => some a.answer
  | _ => none

theorem answer?_eq_some_iff :
    x.answer? p = some e ↔ ∃ a ys, x.at? p = some (.attempt a ys) ∧ a.answer = e := by
  unfold answer?
  constructor
  · intro h
    split at h
    · next a ys ha => exact ⟨a, ys, ha, Option.some.inj h⟩
    · cases h
  · rintro ⟨a, ys, ha, rfl⟩
    rw [ha]

end Course

/-- Types are put below those that have been entered. -/
theorem Oracle.Runs.entered_above {H : Type} [DecidableEq H] {o : Oracle H} {f : Filters}
    {t : Target H} {g g' : Guard (Target H)} {x y : Course H} {p q : Position}
    (hr : o.Runs f t g x g') (hy : x.at? p = some y) (hq : q.Above p) :
    x.answer? q = some .entered := by
  obtain ⟨⟨r, rfl⟩, hne⟩ := hq
  rw [Course.at?_append, Option.bind_eq_some_iff] at hy
  obtain ⟨z, hz, hzy⟩ := hy
  -- something is done below what is done at `q`, so it has been entered
  obtain ⟨i, r, rfl⟩ := List.exists_cons_of_ne_nil fun hr : r = [] => hne (by simp [hr])
  obtain ⟨w, hw, -⟩ := Course.at?_cons_eq_some_iff.1 hzy
  obtain ⟨n, rfl⟩ | ⟨u, h, h', hu, -⟩ := hr.runs_at hz
  · simp [Course.children] at hw
  · cases hu with
    | refused => simp [Course.children] at hw
    | entered he => exact Course.answer?_eq_some_iff.2 ⟨_, _, hz, he⟩

/-! ### The order of attempts -/

namespace Course

variable {H : Type} {x : Course H} {p q : Position} {a b : Attempt H} {ys zs : List (Course H)}

/-- What is begun for a type comes before what is begun for the types after it. -/
theorem attemptsAll_append (xs ys : List (Course H)) :
    attemptsAll (xs ++ ys) = attemptsAll xs ++ attemptsAll ys := by
  induction xs with
  | nil => rfl
  | cons x xs ih => rw [List.cons_append, attemptsAll, attemptsAll, ih, List.append_assoc]

theorem attempts_sublist_attemptsAll {xs : List (Course H)} (hx : x ∈ xs) :
    List.Sublist x.attempts (attemptsAll xs) := by
  obtain ⟨xs₁, xs₂, rfl⟩ := List.append_of_mem hx
  rw [attemptsAll_append, attemptsAll]
  exact (List.sublist_append_left _ _).trans (List.sublist_append_right _ _)

/-- **Attempts are begun in the order of the tree.** -/
theorem attempts_in_order (hp : x.at? p = some (.attempt a ys))
    (hq : x.at? q = some (.attempt b zs)) (hpq : p.Before q) : List.Sublist [a, b] x.attempts := by
  induction hpq generalizing x with
  | @nil j q =>
    obtain rfl : x = .attempt a ys := by simpa [at?] using hp
    obtain ⟨z, hz, hb⟩ := at?_cons_eq_some_iff.1 hq
    have hb' : b ∈ attemptsAll ys :=
      mem_attemptsAll (List.mem_of_getElem? hz) (mem_attempts_of_at? hb)
    exact (List.singleton_sublist.2 hb').cons_cons a
  | @cons i p q _ ih =>
    obtain ⟨y, hy, ha⟩ := at?_cons_eq_some_iff.1 hp
    obtain ⟨z, hz, hb⟩ := at?_cons_eq_some_iff.1 hq
    obtain rfl : y = z := Option.some.inj (hy.symm.trans hz)
    cases x with
    | leaf n => simp [children] at hy
    | attempt c xs =>
      have hxs := attempts_sublist_attemptsAll (List.mem_of_getElem? hy)
      exact ((ih ha hb).trans hxs).cons c
  | @rel i p j q hij =>
    obtain ⟨y, hy, ha⟩ := at?_cons_eq_some_iff.1 hp
    obtain ⟨z, hz, hb⟩ := at?_cons_eq_some_iff.1 hq
    cases x with
    | leaf n => simp [children] at hy
    | attempt c xs =>
      simp only [children] at hy hz
      have hy' : y ∈ xs.take j :=
        List.mem_of_getElem? (i := i) (by rw [List.getElem?_take, if_pos hij, hy])
      have hz' : z ∈ xs.drop j :=
        List.mem_of_getElem? (i := 0) (by rw [List.getElem?_drop, Nat.add_zero, hz])
      have ha' := mem_attemptsAll hy' (mem_attempts_of_at? ha)
      have hb' := mem_attemptsAll hz' (mem_attempts_of_at? hb)
      have hab := (List.singleton_sublist.2 ha').append (List.singleton_sublist.2 hb')
      rw [← attemptsAll_append, List.take_append_drop] at hab
      exact hab.cons c

end Course

/-! ### What is begun when the budget is exceeded -/

namespace Oracle

variable {H : Type} [DecidableEq H] {o : Oracle H} {f : Filters}

/-- A guard that has spent its budget never gets it back. -/
theorem obeyed_spent (o : Oracle H) :
    o.Obeyed (fun _ => True) (fun g g' => g.Spent → g'.Spent) where
  refl _ h := h
  trans h h' := h' ∘ h
  enter g t _ h := by
    unfold Guard.Spent at h ⊢
    rw [g.limits_enter, g.enter_steps]
    omega
  leave hl h := by
    obtain ⟨-, rfl⟩ := Guard.of_leave hl
    exact h
  closed _ _ _ _ _ _ := trivial

mutual

/-- **What is begun after a type was refused for the budget is refused for the budget.** -/
theorem Runs.exceeded {t : Target H} {g g' : Guard (Target H)} {x : Course H} :
    o.Runs f t g x g' →
      x.attempts.Pairwise fun a b => a.answer = .stepsExceeded → b.answer = .stepsExceeded
  | .refused _ => List.pairwise_singleton _ _
  | .entered he hr _ => by
    refine List.pairwise_cons.2 ⟨fun _ _ h => ?_, hr.exceeded⟩
    rw [Attempt.answer, he] at h
    cases h

theorem RunsAll.exceeded {cs : List (Candidate H)} {g g' : Guard (Target H)}
    {xs : List (Course H)} : o.RunsAll f cs g xs g' →
      (Course.attemptsAll xs).Pairwise fun a b =>
        a.answer = .stepsExceeded → b.answer = .stepsExceeded
  | .nil => .nil
  | .excluded _ hr => hr.exceeded
  | .leaf _ _ hr => hr.exceeded
  | .target _ _ hu hr => by
    refine List.pairwise_append.2 ⟨hu.exceeded, hr.exceeded, fun a ha b hb h => ?_⟩
    -- the budget is spent from the first of the two attempts on
    have hfirst := (hu.spans (o.obeyed_spent) trivial).attempts a ha
    have hsecond := (hr.spans (o.obeyed_spent) fun _ _ _ _ => trivial).attempts b hb
    have hbetween := (hfirst.2 a.before (by simp [Attempt.guards])).2 (Guard.stepsExceeded_iff.1 h)
    exact Guard.stepsExceeded_iff.2
      ((hsecond.2 b.before (by simp [Attempt.guards])).1 hbetween)

end

/-- **No expansion is begun after a type was cut off for the budget.** -/
theorem Takes.not_entered_after {limits : Limits} {s : Subject H} {x : Course H}
    {g : Guard (Target H)} {p q : Position} (h : o.Takes f limits s x g) (hpq : p.Before q)
    (hp : x.answer? p = some .stepsExceeded) : x.answer? q ≠ some .entered := by
  intro hq
  obtain ⟨a, ys, ha, hcut⟩ := Course.answer?_eq_some_iff.1 hp
  obtain ⟨b, zs, hb, hentered⟩ := Course.answer?_eq_some_iff.1 hq
  obtain ⟨k, -, hr⟩ | ⟨n, rfl, -⟩ := h.cases
  · have hpair := hr.exceeded.sublist (Course.attempts_in_order ha hb hpq)
    have hcut' := (List.pairwise_pair.1 hpair) hcut
    rw [hentered] at hcut'
    cases hcut'
  · exact absurd ha (Course.at?_leaf n p a ys)

end Oracle

end TypeAncestry
