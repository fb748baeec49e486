import Mathlib.Data.List.Perm.Subperm
import TypeAncestry.Proofs.Lineage.Following

/-!
# Cycles alone bound a walk

A guard does not enter a type that is open, so the types that are open are distinct.  If only
finitely many types can be reached, no more of them can be open at once, and a limit on depth beyond
that is never reached: all that cuts off the walk, within its budget of steps, is that types come
below themselves.

* `Guard.Tracks` : the keys that are open are distinct and from a given list.
* `Oracle.Closed` : a list of types with all that can be expanded below them.
* `Oracle.Runs.tracks` : along a course from such a list the guard keeps track of its keys.
* `Oracle.Runs.cut_by_cycle` : within the limits, what is refused is being expanded further up.
-/

namespace TypeAncestry

/-! ### The keys of a guard -/

namespace Guard

variable {K : Type}

/-- The open keys are distinct, from the list `keys` and as many as the guard counts; and no limit
has been reached yet if the limits leave room for all keys and the budget is not exceeded. -/
structure Tracks (keys : List K) (g : Guard K) : Prop where
  nodup : g.active.Nodup
  subset : g.active ⊆ keys
  depth : g.depth = g.active.length
  steps : g.steps ≤ stepsCap
  whole : keys.length < g.limits.maxDepth.toNat → g.steps ≤ g.limits.maxSteps.toNat →
    g.truncated = false

namespace Tracks

variable {keys : List K} {g g' : Guard K} {k : K}

theorem new (keys : List K) (limits : Limits) : (Guard.new limits).Tracks keys :=
  ⟨.nil, List.nil_subset keys, rfl, Nat.zero_le _, fun _ _ => rfl⟩

theorem length_le (h : g.Tracks keys) : g.active.length ≤ keys.length :=
  (List.subperm_of_subset h.nodup h.subset).length_le

variable [DecidableEq K]

/-- Where the limits leave room for all keys, the limit on depth is not reached. -/
theorem not_depthExceeded (h : g.Tracks keys) (hroom : keys.length < g.limits.maxDepth.toNat) :
    (g.enter k).1 ≠ .depthExceeded := by
  have hlength := h.length_le
  have hdepth := h.depth
  obtain ⟨-, he⟩ | ⟨hle, -⟩ | ⟨-, -, he⟩ | ⟨-, -, he⟩ := g.enter_cases k
  case inr.inl => omega
  all_goals rw [he]; exact nofun

theorem enter (h : g.Tracks keys) (hk : k ∈ keys) : (g.enter k).2.Tracks keys := by
  have hlength := h.length_le
  have hdepth := h.depth
  have hsteps : ∀ cut, (g.advance 1 cut).steps ≤ stepsCap := fun _ => Nat.min_le_right _ _
  -- a budget that is not exceeded now was not exceeded before
  have hwhole : keys.length < g.limits.maxDepth.toNat →
      (g.advance 1 false).steps ≤ g.limits.maxSteps.toNat → g.truncated = false := by
    intro hroom hbudget
    have hcount := h.steps
    rw [advance_steps] at hbudget
    exact h.whole hroom (by omega)
  obtain ⟨hlt, he⟩ | ⟨hle, he⟩ | ⟨-, -, he⟩ | ⟨-, hmem, he⟩ := g.enter_cases k
  · rw [he]
    exact ⟨h.nodup, h.subset, hdepth, hsteps true, fun _ hbudget =>
      absurd hlt (Nat.not_lt_of_le hbudget)⟩
  · rw [he]
    refine ⟨h.nodup, h.subset, hdepth, hsteps true, fun hroom _ => ?_⟩
    rw [advance_limits] at hroom
    omega
  · rw [he]
    exact ⟨h.nodup, h.subset, hdepth, hsteps false, fun hroom hbudget => by
      rw [advance, hwhole hroom hbudget]; rfl⟩
  · rw [he]
    refine ⟨List.nodup_cons.2 ⟨hmem, h.nodup⟩, List.cons_subset.2 ⟨hk, h.subset⟩, ?_, hsteps false,
      fun hroom hbudget => by rw [opened, advance, hwhole hroom hbudget]; rfl⟩
    simp only [opened, List.length_cons, hdepth]

theorem leave (h : g.Tracks keys) (hleave : g.leave k = .ok g') : g'.Tracks keys := by
  obtain ⟨hmem, rfl⟩ := of_leave hleave
  refine ⟨h.nodup.erase k, fun l hl => h.subset (List.erase_subset hl), ?_, h.steps, h.whole⟩
  rw [List.length_erase_of_mem hmem, ← h.depth]

end Tracks

/-- From `g` to `g'` the guard has kept track of its keys, and its count has not fallen. -/
def Advances (keys : List K) (g g' : Guard K) : Prop :=
  g.Tracks keys → g'.Tracks keys ∧ g.steps ≤ g'.steps ∧ g'.limits = g.limits

end Guard

namespace Guard

variable {K : Type} [DecidableEq K] {g : Guard K} {k : K}

theorem mem_active_of_cycle (h : (g.enter k).1 = .cycle) : k ∈ g.active := by
  obtain ⟨-, he⟩ | ⟨-, he⟩ | ⟨-, hk, -⟩ | ⟨-, -, he⟩ := g.enter_cases k
  case inr.inr.inl => exact hk
  all_goals rw [he] at h; cases h

theorem lt_steps_of_stepsExceeded (h : (g.enter k).1 = .stepsExceeded) :
    g.limits.maxSteps.toNat < (g.enter k).2.steps := by
  rw [enter_steps]
  obtain ⟨hlt, -⟩ | ⟨-, he⟩ | ⟨-, -, he⟩ | ⟨-, -, he⟩ := g.enter_cases k
  case inl => exact hlt
  all_goals rw [he] at h; cases h

end Guard

/-! ### Walks among finitely many types -/

namespace Course

variable {H : Type} {x : Course H} {p : Position} {a : Attempt H} {ys : List (Course H)}

theorem mem_attemptsAll {xs : List (Course H)} (hx : x ∈ xs) (ha : a ∈ x.attempts) :
    a ∈ attemptsAll xs := by
  induction xs with
  | nil => nomatch hx
  | cons y ys ih =>
    rw [attemptsAll, List.mem_append]
    rcases List.mem_cons.1 hx with rfl | hx
    · exact .inl ha
    · exact .inr (ih hx)

theorem mem_attempts_of_at? (h : x.at? p = some (.attempt a ys)) : a ∈ x.attempts := by
  induction p generalizing x with
  | nil =>
    obtain rfl : x = .attempt a ys := by simpa [at?] using h
    exact List.mem_cons_self
  | cons i p ih =>
    obtain ⟨y, hy, hya⟩ := at?_cons_eq_some_iff.1 h
    cases x with
    | leaf n => simp [children] at hy
    | attempt b zs =>
      have hzs := mem_attemptsAll (List.mem_of_getElem? hy) (ih hya)
      exact List.mem_cons_of_mem _ hzs

end Course

namespace Oracle

variable {H : Type} [DecidableEq H] {o : Oracle H} {f : Filters} {keys : List (Target H)}

omit [DecidableEq H] in
/-- All that can be expanded below a type in the list is in the list. -/
def Closed (o : Oracle H) (keys : List (Target H)) : Prop :=
  ∀ t ∈ keys, ∀ c ∈ (o.layer t).candidates, ∀ u, c.target = some u → u ∈ keys

theorem Closed.obeyed (h : o.Closed keys) : o.Obeyed (· ∈ keys) (Guard.Advances keys) where
  refl _ hg := ⟨hg, Nat.le_refl _, rfl⟩
  trans h h' hg := by
    obtain ⟨hg', hle, hlimits⟩ := h hg
    obtain ⟨hg'', hle', hlimits'⟩ := h' hg'
    exact ⟨hg'', hle.trans hle', hlimits'.trans hlimits⟩
  enter g t ht hg := by
    have hcount := hg.steps
    refine ⟨hg.enter ht, ?_, ?_⟩
    · rw [Guard.enter_steps]; omega
    · exact g.limits_enter t
  leave hleave hg := by
    have htracks := hg.leave hleave
    obtain ⟨-, rfl⟩ := Guard.of_leave hleave
    exact ⟨htracks, Nat.le_refl _, rfl⟩
  closed := h

variable {t : Target H} {limits : Limits} {x : Course H} {g : Guard (Target H)}

/-- **The guard keeps track of its keys** along a whole course. -/
theorem Runs.tracks (hclosed : o.Closed keys) (ht : t ∈ keys)
    (hr : o.Runs f t (Guard.new limits) x g) :
    (g.Tracks keys ∧ g.limits = limits) ∧ ∀ a ∈ x.attempts, ∀ h ∈ a.guards,
      h.Tracks keys ∧ h.limits = limits ∧ h.steps ≤ g.steps := by
  have hnew := Guard.Tracks.new keys limits
  obtain ⟨hends, hattempts⟩ := hr.spans hclosed.obeyed ht
  obtain ⟨hg, -, hlimits⟩ := hends hnew
  refine ⟨⟨hg, hlimits⟩, fun a ha h hh => ?_⟩
  obtain ⟨hbefore, hafter⟩ := (hattempts a ha).2 h hh
  obtain ⟨hh, -, hlimits⟩ := hbefore hnew
  exact ⟨hh, hlimits, (hafter hh).2.1⟩

/-- **Where the limits leave room for all keys, only cycles cut off a walk** within its budget: what
is refused is being expanded further up. -/
theorem Runs.cut_by_cycle (hclosed : o.Closed keys) (ht : t ∈ keys)
    (hr : o.Runs f t (Guard.new limits) x g) (hroom : keys.length < limits.maxDepth.toNat) :
    (∀ a ∈ x.attempts, a.answer ≠ .depthExceeded) ∧
      (g.steps ≤ limits.maxSteps.toNat → g.truncated = false ∧
        ∀ p a ys, x.at? p = some (.attempt a ys) → a.answer ≠ .entered →
          a.answer = .cycle ∧ ∃ q b zs, q.Above p ∧ x.at? q = some (.attempt b zs) ∧
            b.answer = .entered ∧ b.target = a.target) := by
  obtain ⟨⟨hg, hlimits⟩, hattempts⟩ := hr.tracks hclosed ht
  have hdepth : ∀ a ∈ x.attempts, a.answer ≠ .depthExceeded := by
    intro a ha
    obtain ⟨hbefore, hlimits, -⟩ := hattempts a ha a.before (by simp [Attempt.guards])
    exact hbefore.not_depthExceeded (hlimits ▸ hroom)
  refine ⟨hdepth, fun hbudget => ⟨?_, fun p a ys hat hrefused => ?_⟩⟩
  · subst hlimits
    exact hg.whole hroom hbudget
  · have ha := Course.mem_attempts_of_at? hat
    have hcycle : a.answer = .cycle := by
      rcases hanswer : a.answer with _ | _ | _ | _
      · exact absurd hanswer hrefused
      · rfl
      · exact absurd hanswer (hdepth a ha)
      · -- the count has gone beyond the budget, and does not fall from then on
        have hlt := Guard.lt_steps_of_stepsExceeded hanswer
        obtain ⟨-, hlimits, -⟩ := hattempts a ha a.before (by simp [Attempt.guards])
        obtain ⟨-, -, hle⟩ := hattempts a ha a.answered (by simp [Attempt.guards])
        rw [hlimits] at hlt
        exact absurd (hlt.trans_le (hle.trans hbudget)) (Nat.lt_irrefl _)
    have hopen := Guard.mem_active_of_cycle hcycle
    exact ⟨hcycle, hr.exists_above hat hopen List.not_mem_nil⟩

end Oracle

end TypeAncestry
