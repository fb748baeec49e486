import TypeAncestry.Proofs.Lineage.Keeping
import TypeAncestry.Proofs.Tree.Positions

/-!
# The course of a walk

A walk tries to expand types, one after the other and one inside the other.  Its course says which
types it tries to expand, and what the guard is before and after each try.  The rules for courses
ask nothing but the guard and the layers of types: they know no bound on how deep expansions nest,
so that a type from which a course can start is one at which the walk comes to an end.

* `Attempt`, `Course` : a try to expand a type, and all tries of a walk with what they leave behind.
* `Oracle.Runs` : the rules; `Oracle.Runs.unique` : they leave no choice.
* `Oracle.Runs.spans` : what every step of the guard does, it does along a whole course.
* `Oracle.Runs.exists_above` : a type that is open is being expanded further up.
-/

namespace TypeAncestry

/-! ### Attempts and courses -/

/-- A try to expand a type. -/
structure Attempt (H : Type) where
  /-- The type. -/
  target : Target H
  /-- The guard when the type is to be entered. -/
  before : Guard (Target H)
  /-- The guard when the expansion is complete, or has been refused. -/
  after : Guard (Target H)

namespace Attempt

variable {H : Type} [DecidableEq H]

/-- What the guard says. -/
def answer (a : Attempt H) : Entry := (a.before.enter a.target).1

/-- The guard when it has answered. -/
def answered (a : Attempt H) : Guard (Target H) := (a.before.enter a.target).2

/-- What the guard is in the course of the attempt. -/
def guards (a : Attempt H) : List (Guard (Target H)) := [a.before, a.answered, a.after]

end Attempt

/-- What a walk does for a type. -/
inductive Course (H : Type) where
  /-- The type stands in the tree as a leaf, and nothing is tried. -/
  | leaf (name : String)
  /-- It is tried to expand the type; `below` is what is done below it, nothing if it is refused. -/
  | attempt (a : Attempt H) (below : List (Course H))

namespace Course

variable {H : Type}

mutual

/-- The attempts, each before those below it. -/
def attempts : Course H → List (Attempt H)
  | leaf _ => []
  | attempt a xs => a :: attemptsAll xs

/-- The attempts in a list of courses. -/
def attemptsAll : List (Course H) → List (Attempt H)
  | [] => []
  | x :: xs => x.attempts ++ attemptsAll xs

end

section

variable (o : Oracle H)

mutual

/-- The tree of the types. -/
def tree : Course H → TypeTree
  | leaf n => .leaf n
  | attempt a xs => .node (o.canonicalName a.target.handle) (treeAll xs)

/-- The trees of a list of courses. -/
def treeAll : List (Course H) → List TypeTree
  | [] => []
  | x :: xs => x.tree :: treeAll xs

end

end

/-- The children right below the root. -/
def children : Course H → List (Course H)
  | leaf _ => []
  | attempt _ xs => xs

/-- What is done at a position of the tree; `none` if the position leads out of it. -/
def at? : Course H → Position → Option (Course H)
  | x, [] => some x
  | x, i :: p => x.children[i]?.bind fun y => y.at? p

section Decidable

variable [DecidableEq H]

variable (o : Oracle H)

mutual

/-- What is told of the attempts, in the order in which they come to an end. -/
def events : Course H → List LineageEvent
  | leaf _ => []
  | attempt a xs =>
    let name := o.canonicalName a.target.handle
    match a.answer with
    | .entered => eventsAll xs ++ [.built name xs.length]
    | denied => [.cutOff name denied a.answered.depth]

/-- What is told of the attempts in a list of courses. -/
def eventsAll : List (Course H) → List LineageEvent
  | [] => []
  | x :: xs => x.events ++ eventsAll xs

end

end Decidable

variable {o : Oracle H} {x : Course H} {p : Position} {i : Nat}

theorem attemptsAll_leaf (n : String) (xs : List (Course H)) :
    attemptsAll (leaf n :: xs) = attemptsAll xs := rfl

theorem treeAll_eq_map (xs : List (Course H)) : treeAll o xs = xs.map (tree o) := by
  induction xs with
  | nil => rfl
  | cons x xs ih => rw [treeAll, ih, List.map_cons]

theorem children_tree (x : Course H) : (x.tree o).children = x.children.map (tree o) := by
  cases x with
  | leaf n => rfl
  | attempt a xs => exact treeAll_eq_map xs

theorem at?_cons_eq_some_iff {y : Course H} :
    x.at? (i :: p) = some y ↔ ∃ z, x.children[i]? = some z ∧ z.at? p = some y := by
  rw [at?, Option.bind_eq_some_iff]

/-- A position is followed part by part. -/
theorem at?_append (x : Course H) (p q : Position) :
    x.at? (p ++ q) = (x.at? p).bind fun y => y.at? q := by
  induction p generalizing x with
  | nil => simp [at?]
  | cons i p ih =>
    rw [List.cons_append, at?, at?, Option.bind_assoc]
    simp only [ih]

/-- Nothing is tried for a leaf. -/
theorem at?_leaf (n : String) (p : Position) (a : Attempt H) (ys : List (Course H)) :
    (leaf n).at? p ≠ some (attempt a ys) := by
  cases p <;> simp [at?, children]

/-- What stands at a position of the tree is the tree of what is done there. -/
theorem at?_tree (x : Course H) (p : Position) : (x.tree o).at? p = (x.at? p).map (tree o) := by
  induction p generalizing x with
  | nil => simp [at?]
  | cons i p ih =>
    rw [TypeTree.at?_cons, children_tree, List.getElem?_map, at?]
    rcases x.children[i]? with _ | y
    · rfl
    · exact ih y

end Course

/-! ### What happens to the guard -/

namespace Guard

variable {K : Type}

/-- From `g` to `g'` nothing has been entered that was not left again. -/
structure Restored (g g' : Guard K) : Prop where
  limits : g'.limits = g.limits
  active : g'.active = g.active
  depth : g'.depth = g.depth

namespace Restored

variable {g g' g'' : Guard K} {k : K}

theorem refl (g : Guard K) : Restored g g := ⟨rfl, rfl, rfl⟩

theorem trans (h : Restored g g') (h' : Restored g' g'') : Restored g g'' :=
  ⟨h'.limits.trans h.limits, h'.active.trans h.active, h'.depth.trans h.depth⟩

theorem advance (g : Guard K) (n : Nat) (cut : Bool) : Restored g (g.advance n cut) :=
  ⟨rfl, rfl, rfl⟩

/-- Leaving the key that was entered last takes the guard back to where it was before. -/
theorem leave [DecidableEq K] (h : Restored (g.opened k) g') (hleave : g'.leave k = .ok g'') :
    Restored g g'' := by
  rw [leave_head h.active] at hleave
  obtain rfl := Except.ok.inj hleave
  have hdepth : g'.depth = g.depth + 1 := h.depth
  exact ⟨h.limits, rfl, by simp only [hdepth, Nat.add_sub_cancel]⟩

end Restored

variable [DecidableEq K] {g : Guard K} {k : K}

/-- When a key is entered, no limit is reached and the key is not open. -/
theorem of_entered (h : (g.enter k).1 = .entered) :
    min (g.steps + 1) stepsCap ≤ g.limits.maxSteps.toNat ∧ g.depth < g.limits.maxDepth.toNat ∧
      k ∉ g.active ∧ (g.enter k).2 = g.opened k := by
  have hsteps : min (g.steps + 1) stepsCap ≤ g.limits.maxSteps.toNat := by
    by_contra hlt
    rw [enter, if_pos (Nat.lt_of_not_le hlt)] at h
    cases h
  obtain ⟨-, he⟩ | ⟨-, he⟩ | ⟨-, -, he⟩ | ⟨hdepth, hk, he⟩ := g.enter_cases k
  case inr.inr.inr => exact ⟨hsteps, hdepth, hk, by rw [he]⟩
  all_goals rw [he] at h; cases h

/-- A key that is refused is counted, and that is all. -/
theorem of_refused (h : (g.enter k).1 ≠ .entered) : ∃ cut, (g.enter k).2 = g.advance 1 cut := by
  obtain ⟨-, he⟩ | ⟨-, he⟩ | ⟨-, -, he⟩ | ⟨-, -, he⟩ := g.enter_cases k
  case inr.inr.inr => rw [he] at h; exact absurd rfl h
  all_goals exact ⟨_, by rw [he]⟩

theorem limits_enter (g : Guard K) (k : K) : (g.enter k).2.limits = g.limits := by
  obtain ⟨-, he⟩ | ⟨-, he⟩ | ⟨-, -, he⟩ | ⟨-, -, he⟩ := g.enter_cases k <;> rw [he] <;> rfl

/-- Only an open key can be left. -/
theorem of_leave {g' : Guard K} (h : g.leave k = .ok g') :
    k ∈ g.active ∧ g' = { g with active := g.active.erase k, depth := g.depth - 1 } := by
  unfold leave at h
  split at h
  · next hk => exact ⟨hk, (Except.ok.inj h).symm⟩
  · cases h

end Guard

/-! ### The rules -/

namespace Oracle

variable {H : Type} [DecidableEq H] (o : Oracle H) (f : Filters)

mutual

/-- `o.Runs f t g x g'` : a walk whose guard is `g` and that is to expand `t` takes the course `x`,
and its guard becomes `g'`. -/
inductive Runs : Target H → Guard (Target H) → Course H → Guard (Target H) → Prop where
  /-- The guard refuses. -/
  | refused {t : Target H} {g : Guard (Target H)} :
      (g.enter t).1 ≠ .entered → Runs t g (.attempt ⟨t, g, (g.enter t).2⟩ []) (g.enter t).2
  /-- The type is entered, what comes below it is dealt with, and the type is left. -/
  | entered {t : Target H} {g g' g'' : Guard (Target H)} {xs : List (Course H)} :
      (g.enter t).1 = .entered → RunsAll (o.layer t).candidates (g.enter t).2 xs g' →
      g'.leave t = .ok g'' → Runs t g (.attempt ⟨t, g, g''⟩ xs) g''

/-- The candidates in a list are dealt with in turn. -/
inductive RunsAll :
    List (Candidate H) → Guard (Target H) → List (Course H) → Guard (Target H) → Prop where
  | nil {g : Guard (Target H)} : RunsAll [] g [] g
  /-- What the filter keeps out is left out. -/
  | excluded {c : Candidate H} {cs : List (Candidate H)} {g g' : Guard (Target H)}
      {xs : List (Course H)} :
      f.excludes c.role.filterKind c.name = true → RunsAll cs g xs g' → RunsAll (c :: cs) g xs g'
  /-- A candidate without a target is a leaf. -/
  | leaf {c : Candidate H} {cs : List (Candidate H)} {g g' : Guard (Target H)}
      {xs : List (Course H)} :
      f.excludes c.role.filterKind c.name = false → c.target = none → RunsAll cs g xs g' →
      RunsAll (c :: cs) g (.leaf c.name :: xs) g'
  /-- The target of a candidate is to be expanded. -/
  | target {c : Candidate H} {cs : List (Candidate H)} {t : Target H}
      {g g' g'' : Guard (Target H)} {x : Course H} {xs : List (Course H)} :
      f.excludes c.role.filterKind c.name = false → c.target = some t → Runs t g x g' →
      RunsAll cs g' xs g'' → RunsAll (c :: cs) g (x :: xs) g''

end

variable {o f}

mutual

/-- **The rules leave no choice.** -/
theorem Runs.unique {t : Target H} {g g₁ g₂ : Guard (Target H)} {x₁ x₂ : Course H} :
    o.Runs f t g x₁ g₁ → o.Runs f t g x₂ g₂ → x₁ = x₂ ∧ g₁ = g₂
  | .refused he, h => by
    -- the answer of the guard decides which rule applies
    cases h with
    | refused => exact ⟨rfl, rfl⟩
    | entered he' => exact absurd he' he
  | .entered he hr hl, h => by
    cases h with
    | refused he' => exact absurd he he'
    | entered _ hr' hl' =>
      obtain ⟨rfl, rfl⟩ := hr.unique hr'
      obtain rfl := Except.ok.inj (hl.symm.trans hl')
      exact ⟨rfl, rfl⟩

theorem RunsAll.unique {cs : List (Candidate H)} {g g₁ g₂ : Guard (Target H)}
    {xs₁ xs₂ : List (Course H)} :
    o.RunsAll f cs g xs₁ g₁ → o.RunsAll f cs g xs₂ g₂ → xs₁ = xs₂ ∧ g₁ = g₂
  | .nil, h => by
    cases h
    exact ⟨rfl, rfl⟩
  | .excluded hx hr, h => by
    -- the filter decides whether the candidate is left out, its target whether it is a leaf
    cases h with
    | excluded _ hr' => exact hr.unique hr'
    | leaf hx' | target hx' => rw [hx] at hx'; cases hx'
  | .leaf hx ht hr, h => by
    cases h with
    | excluded hx' => rw [hx] at hx'; cases hx'
    | leaf _ _ hr' =>
      obtain ⟨rfl, rfl⟩ := hr.unique hr'
      exact ⟨rfl, rfl⟩
    | target _ ht' => rw [ht] at ht'; cases ht'
  | .target hx ht hu hr, h => by
    cases h with
    | excluded hx' => rw [hx] at hx'; cases hx'
    | leaf _ ht' => rw [ht] at ht'; cases ht'
    | target _ ht' hu' hr' =>
      obtain rfl := Option.some.inj (ht.symm.trans ht')
      obtain ⟨rfl, rfl⟩ := hu.unique hu'
      obtain ⟨rfl, rfl⟩ := hr.unique hr'
      exact ⟨rfl, rfl⟩

end

mutual

/-- Whatever its course, a walk leaves every type that it has entered. -/
theorem Runs.restored {t : Target H} {g g' : Guard (Target H)} {x : Course H} :
    o.Runs f t g x g' → g.Restored g'
  | .refused he => by
    obtain ⟨cut, hg⟩ := Guard.of_refused he
    exact hg ▸ .advance g 1 cut
  | .entered he hr hl => by
    -- all that comes below `t` is left before `t` is, so `t` is the key that was entered last
    obtain ⟨-, -, -, hg⟩ := Guard.of_entered he
    exact .leave (hg ▸ hr.restored) hl

theorem RunsAll.restored {cs : List (Candidate H)} {g g' : Guard (Target H)}
    {xs : List (Course H)} : o.RunsAll f cs g xs g' → g.Restored g'
  | .nil => .refl _
  | .excluded _ hr => hr.restored
  | .leaf _ _ hr => hr.restored
  | .target _ _ hu hr => hu.restored.trans hr.restored

end

/-- A type stands under its own name, whether it is expanded or refused. -/
theorem Runs.tree_name {t : Target H} {g g' : Guard (Target H)} {x : Course H}
    (hr : o.Runs f t g x g') : (x.tree o).name = o.canonicalName t.handle := by
  cases hr <;> rfl

/-! ### What holds along a course -/

/-- The relation `R` between guards is obeyed by every step of a guard while types in `S` are
expanded, and nothing but types in `S` comes below a type in `S`. -/
structure Obeyed (o : Oracle H) (S : Target H → Prop)
    (R : Guard (Target H) → Guard (Target H) → Prop) : Prop where
  refl : ∀ g, R g g
  trans : ∀ {g g' g''}, R g g' → R g' g'' → R g g''
  enter : ∀ g t, S t → R g (g.enter t).2
  leave : ∀ {g g' t}, g.leave t = .ok g' → R g g'
  closed : ∀ t, S t → ∀ c ∈ (o.layer t).candidates, ∀ u, c.target = some u → S u

/-- The attempts `as` are all for types in `S`, and each guard in their course stands in the
relation `R` between `g` and `g'`. -/
structure Spans (S : Target H → Prop) (R : Guard (Target H) → Guard (Target H) → Prop)
    (g : Guard (Target H)) (as : List (Attempt H)) (g' : Guard (Target H)) : Prop where
  ends : R g g'
  attempts : ∀ a ∈ as, S a.target ∧ ∀ h ∈ a.guards, R g h ∧ R h g'

section Spans

variable {S : Target H → Prop} {R : Guard (Target H) → Guard (Target H) → Prop}
  {g g₁ g₂ g' : Guard (Target H)} {as bs : List (Attempt H)} {t : Target H}

theorem Spans.append (ho : o.Obeyed S R) (ha : Spans S R g as g₁) (hb : Spans S R g₁ bs g') :
    Spans S R g (as ++ bs) g' := by
  refine ⟨ho.trans ha.ends hb.ends, fun a hmem => ?_⟩
  rcases List.mem_append.1 hmem with hmem | hmem
  · obtain ⟨hS, hR⟩ := ha.attempts a hmem
    exact ⟨hS, fun h hh => ⟨(hR h hh).1, ho.trans (hR h hh).2 hb.ends⟩⟩
  · obtain ⟨hS, hR⟩ := hb.attempts a hmem
    exact ⟨hS, fun h hh => ⟨ho.trans ha.ends (hR h hh).1, (hR h hh).2⟩⟩

/-- An attempt spans what comes between the answer of the guard and its own end. -/
theorem Spans.attempt (ho : o.Obeyed S R) (ht : S t) (h : Spans S R (g.enter t).2 as g₂)
    (hend : R g₂ g') : Spans S R g (⟨t, g, g'⟩ :: as) g' := by
  have henter := ho.enter g t ht
  have hanswered : R (g.enter t).2 g' := ho.trans h.ends hend
  have hall : R g g' := ho.trans henter hanswered
  refine ⟨hall, fun a hmem => ?_⟩
  rcases List.mem_cons.1 hmem with rfl | hmem
  · refine ⟨ht, fun k hk => ?_⟩
    simp only [Attempt.guards, Attempt.answered, List.mem_cons, List.not_mem_nil, or_false] at hk
    obtain rfl | rfl | rfl := hk
    · exact ⟨ho.refl _, hall⟩
    · exact ⟨henter, hanswered⟩
    · exact ⟨hall, ho.refl _⟩
  · obtain ⟨hS, hR⟩ := h.attempts a hmem
    exact ⟨hS, fun k hk => ⟨ho.trans henter (hR k hk).1, ho.trans (hR k hk).2 hend⟩⟩

mutual

/-- **What every step of the guard does, it does along a whole course.** -/
theorem Runs.spans (ho : o.Obeyed S R) {t : Target H} {g g' : Guard (Target H)}
    {x : Course H} : S t → o.Runs f t g x g' → Spans S R g x.attempts g'
  | ht, .refused _ => .attempt ho ht ⟨ho.refl _, by simp [Course.attemptsAll]⟩ (ho.refl _)
  | ht, .entered _ hr hl => .attempt ho ht (hr.spans ho (ho.closed _ ht)) (ho.leave hl)

theorem RunsAll.spans (ho : o.Obeyed S R) {cs : List (Candidate H)} {g g' : Guard (Target H)}
    {xs : List (Course H)} :
    (∀ c ∈ cs, ∀ u, c.target = some u → S u) → o.RunsAll f cs g xs g' →
      Spans S R g (Course.attemptsAll xs) g'
  | _, .nil => ⟨ho.refl _, by simp [Course.attemptsAll]⟩
  | hcs, .excluded _ hr => hr.spans ho (List.forall_mem_cons.1 hcs).2
  | hcs, .leaf _ _ hr => by
    rw [Course.attemptsAll_leaf]
    exact hr.spans ho (List.forall_mem_cons.1 hcs).2
  | hcs, .target _ ht hu hr => by
    obtain ⟨hc, hcs⟩ := List.forall_mem_cons.1 hcs
    exact (hu.spans ho (hc _ ht)).append ho (hr.spans ho hcs)

end

end Spans

/-! ### What stands above an attempt -/

/-- Whatever is done for a list of candidates starts with the guard as it was at first, but for its
counts. -/
theorem RunsAll.exists_runs {cs : List (Candidate H)} {g g' : Guard (Target H)}
    {xs : List (Course H)} {y : Course H} : o.RunsAll f cs g xs g' → y ∈ xs →
      (∃ n, y = .leaf n) ∨ ∃ t h h', g.Restored h ∧ o.Runs f t h y h'
  | .nil, hy => nomatch hy
  | .excluded _ hr, hy => hr.exists_runs hy
  | .leaf _ _ hr, hy => by
    rcases List.mem_cons.1 hy with rfl | hy
    · exact .inl ⟨_, rfl⟩
    · exact hr.exists_runs hy
  | .target _ _ hu hr, hy => by
    rcases List.mem_cons.1 hy with rfl | hy
    · exact .inr ⟨_, _, _, .refl _, hu⟩
    · obtain hleaf | ⟨t, h, h', hrestored, hy⟩ := hr.exists_runs hy
      · exact .inl hleaf
      · exact .inr ⟨t, h, h', hu.restored.trans hrestored, hy⟩

/-- What is done at a position of a course is a course of its own, and as many more types are open
there as the position is long. -/
theorem Runs.runs_at {t : Target H} {g g' : Guard (Target H)} {x y : Course H} {p : Position}
    (hr : o.Runs f t g x g') (hy : x.at? p = some y) :
    (∃ n, y = .leaf n) ∨ ∃ u h h', o.Runs f u h y h' ∧ h.depth = g.depth + p.length := by
  induction p generalizing t g g' x with
  | nil =>
    obtain rfl : x = y := by simpa [Course.at?] using hy
    exact .inr ⟨t, g, g', hr, rfl⟩
  | cons i p ih =>
    obtain ⟨z, hz, hzy⟩ := Course.at?_cons_eq_some_iff.1 hy
    cases hr with
    | refused => simp [Course.children] at hz
    | entered he hr hl =>
      obtain ⟨-, -, -, hopened⟩ := Guard.of_entered he
      obtain ⟨n, rfl⟩ | ⟨u, h, h', hrestored, hu⟩ := hr.exists_runs (List.mem_of_getElem? hz)
      · cases p with
        | nil => exact .inl ⟨n, (Option.some.inj hzy).symm⟩
        | cons j p => simp [Course.at?, Course.children] at hzy
      · refine (ih hu hzy).imp_right fun ⟨v, k, k', hv, hdepth⟩ => ⟨v, k, k', hv, ?_⟩
        have hone : h.depth = g.depth + 1 := by rw [hrestored.depth, hopened]; rfl
        rw [hdepth, hone, List.length_cons]
        omega

/-- **A type that is open is being expanded further up,** unless it was open to begin with. -/
theorem Runs.exists_above {t k : Target H} {g g' : Guard (Target H)} {x : Course H} {p : Position}
    {a : Attempt H} {ys : List (Course H)} (hr : o.Runs f t g x g')
    (ha : x.at? p = some (.attempt a ys)) (hk : k ∈ a.before.active) (hg : k ∉ g.active) :
    ∃ q b zs, q.Above p ∧ x.at? q = some (.attempt b zs) ∧ b.answer = .entered ∧
      b.target = k := by
  induction p generalizing t g g' x with
  | nil =>
    -- the attempt is the outermost one, and finds the guard as it was to begin with
    obtain rfl : x = .attempt a ys := by simpa [Course.at?] using ha
    cases hr <;> exact absurd hk hg
  | cons i p ih =>
    obtain ⟨y, hy, hya⟩ := Course.at?_cons_eq_some_iff.1 ha
    cases hr with
    | refused => simp [Course.children] at hy
    | @entered _ _ g₂ _ xs he hr hl =>
      obtain ⟨-, -, -, hopened⟩ := Guard.of_entered he
      obtain ⟨n, rfl⟩ | ⟨u, h, h', hrestored, hu⟩ := hr.exists_runs (List.mem_of_getElem? hy)
      · exact absurd hya (Course.at?_leaf n p a ys)
      · -- below `t` nothing is open at the start but `t` and what was open before
        have hactive : h.active = t :: g.active := by rw [hrestored.active, hopened]; rfl
        by_cases hkt : k = t
        · exact ⟨[], _, xs, Position.nil_above_cons i p, rfl, he, hkt.symm⟩
        · have hkh : k ∉ h.active := by simp [hactive, hkt, hg]
          obtain ⟨q, b, zs, hq, hb, hrest⟩ := ih hu hya hkh
          exact ⟨i :: q, b, zs, hq.cons i, Course.at?_cons_eq_some_iff.2 ⟨y, hy, hb⟩, hrest⟩

end Oracle

end TypeAncestry
