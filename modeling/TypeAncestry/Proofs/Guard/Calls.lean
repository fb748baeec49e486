import TypeAncestry.Guard

/-!
# Calls of a guard

Whoever uses a guard enters keys and leaves keys, one call after the other.  A key that is refused
must not be left, and no key may be left that is not active: the guard would not change, but report
a misuse.

* `Guard.Call`, `Guard.after` : calls, and what they make of a guard.
* `Guard.LeavesActive` : no key is left that is not active.
* `Guard.Performs` : calls without misuse lead from one guard to another.
-/

namespace TypeAncestry

namespace Guard

/-- A call of a guard. -/
inductive Call (K : Type) where
  /-- Ask to start the call of the recursion with key `k`. -/
  | enter (k : K)
  /-- Report that it is done. -/
  | leave (k : K)
  deriving DecidableEq, Repr

variable {K : Type} [DecidableEq K]

/-- The guard after a call.  A misuse does not change it. -/
def call (g : Guard K) : Call K → Guard K
  | .enter k => (g.enter k).2
  | .leave k =>
    match g.leave k with
    | .ok g' => g'
    | .error _ => g

/-- The guard after calls, the first of the list first. -/
def after (g : Guard K) (calls : List (Call K)) : Guard K := calls.foldl call g

/-- Whenever the calls leave a key, it is active. -/
def LeavesActive (g : Guard K) (calls : List (Call K)) : Prop :=
  ∀ earlier k later, calls = earlier ++ .leave k :: later → k ∈ (g.after earlier).active

/-- The calls lead from `g` to `g'` and do not misuse the guard. -/
structure Performs (g : Guard K) (calls : List (Call K)) (g' : Guard K) : Prop where
  ends : g.after calls = g'
  active : g.LeavesActive calls

variable {g g' g'' : Guard K} {calls more : List (Call K)} {k : K}

theorem after_append (g : Guard K) (calls more : List (Call K)) :
    g.after (calls ++ more) = (g.after calls).after more :=
  List.foldl_append

namespace Performs

theorem nil (g : Guard K) : g.Performs [] g :=
  ⟨rfl, fun _ _ _ h => by simp at h⟩

theorem enter (g : Guard K) (k : K) : g.Performs [.enter k] (g.enter k).2 := by
  refine ⟨rfl, fun earlier l later h => ?_⟩
  rcases earlier with _ | ⟨c, earlier⟩
  · cases (List.cons.inj h).1
  · simp at h

/-- A key can be left if the guard allows it. -/
theorem leave (h : g.leave k = .ok g') : g.Performs [.leave k] g' := by
  refine ⟨?_, fun earlier l later hl => ?_⟩
  · simp only [after, List.foldl_cons, List.foldl_nil, call, h]
  · rcases earlier with _ | ⟨c, earlier⟩
    · obtain rfl := Call.leave.inj (List.cons.inj hl).1
      unfold Guard.leave at h
      split at h
      · next hk => exact hk
      · cases h
    · simp at hl

/-- **Calls can be made one after the other.** -/
theorem append (h : g.Performs calls g') (h' : g'.Performs more g'') :
    g.Performs (calls ++ more) g'' := by
  refine ⟨by rw [after_append, h.ends, h'.ends], fun earlier k later hsplit => ?_⟩
  obtain ⟨between, rfl, hmore⟩ | ⟨between, hcalls, hmore⟩ := List.append_eq_append_iff.1 hsplit
  · rw [after_append, h.ends]
    exact h'.active between k later hmore
  · rcases between with _ | ⟨c, between⟩
    · -- the key is left by the first of the later calls
      have hfirst := h'.active [] k later hmore.symm
      rw [List.append_nil] at hcalls
      rw [← hcalls, h.ends]
      exact hfirst
    · obtain ⟨rfl, -⟩ := List.cons.inj hmore
      exact h.active earlier k between hcalls

end Performs

end Guard

end TypeAncestry
