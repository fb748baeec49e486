import Mathlib.Data.List.Induction
import TypeAncestry.Proofs.Guard.Calls
import TypeAncestry.Proofs.Lineage.Course

/-!
# What a guard knows of the calls made to it

A guard keeps the active keys, and apart from them their number, a count of tries and a mark that a
limit was reached.  The calls that have been made say what all of these have to be, whether keys are
left in the order in which they were entered or not, and also where keys are left that are not
active.  The two representations of what is active stay in step because a key is only added when it
is not there and only counted off when it is.

* `Guard.Open`, `Guard.tries`, `Guard.Limited` : what the calls say.
* `Guard.Recalls` : the guard agrees with the calls.
* `Guard.Recalls.enter`, `Guard.Recalls.leave` : it still does after one more call.
* `Guard.recalls_after` : it does after any calls.
* `Guard.after_calls` : how a guard answers, and what it reports, after any calls.
-/

namespace TypeAncestry

namespace Guard

variable {K : Type}

/-! ### Calls in the past -/

/-- The call asks to start something. -/
def Call.isEnter : Call K → Bool
  | enter _ => true
  | leave _ => false

/-- How many of the calls ask to start something. -/
def tries (calls : List (Call K)) : Nat := calls.countP (·.isEnter)

theorem tries_enter (calls : List (Call K)) (k : K) :
    tries (calls ++ [.enter k]) = tries calls + 1 := by
  simp [tries, Call.isEnter]

theorem tries_leave (calls : List (Call K)) (k : K) :
    tries (calls ++ [.leave k]) = tries calls := by
  simp [tries, Call.isEnter]

/-- A call among others and a last one is the last one, or is among the others. -/
theorem concat_eq_iff {calls earlier later : List (Call K)} {c d : Call K} :
    calls ++ [c] = earlier ++ d :: later ↔
      (later = [] ∧ calls = earlier ∧ c = d) ∨
        ∃ between, later = between ++ [c] ∧ calls = earlier ++ d :: between := by
  constructor
  · intro h
    rcases List.eq_nil_or_concat' later with rfl | ⟨between, b, rfl⟩
    · obtain ⟨rfl, hc⟩ := List.append_inj' h rfl
      exact .inl ⟨rfl, rfl, (List.cons.inj hc).1⟩
    · rw [← List.cons_append, ← List.append_assoc] at h
      obtain ⟨hcalls, hc⟩ := List.append_inj' h rfl
      exact .inr ⟨between, by rw [hc], hcalls⟩
  · rintro (⟨rfl, rfl, rfl⟩ | ⟨between, rfl, rfl⟩)
    · rfl
    · simp

variable [DecidableEq K]

/-- Among the calls of a new guard is one that has entered `k`, and no later call leaves `k`. -/
def Open (limits : Limits) (calls : List (Call K)) (k : K) : Prop :=
  ∃ earlier later, calls = earlier ++ .enter k :: later ∧
    (((new limits).after earlier).enter k).1 = .entered ∧ .leave k ∉ later

/-- Among the calls of a new guard is one that was refused because of a limit. -/
def Limited (limits : Limits) (calls : List (Call K)) : Prop :=
  ∃ earlier k later, calls = earlier ++ .enter k :: later ∧
    ((((new limits).after earlier).enter k).1 = .depthExceeded ∨
      (((new limits).after earlier).enter k).1 = .stepsExceeded)

variable {limits : Limits} {calls : List (Call K)} {g g' : Guard K} {k l : K}

theorem after_concat (g : Guard K) (calls : List (Call K)) (c : Call K) :
    g.after (calls ++ [c]) = (g.after calls).call c :=
  g.after_append calls [c]

theorem open_enter_iff : Open limits (calls ++ [.enter l]) k ↔
    Open limits calls k ∨ (k = l ∧ (((new limits).after calls).enter l).1 = .entered) := by
  constructor
  · rintro ⟨earlier, later, hsplit, hentered, hlater⟩
    obtain ⟨rfl, rfl, hc⟩ | ⟨between, rfl, rfl⟩ := concat_eq_iff.1 hsplit
    · obtain rfl := Call.enter.inj hc
      exact .inr ⟨rfl, hentered⟩
    · exact .inl ⟨earlier, between, rfl, hentered, fun hk => hlater (List.mem_append_left _ hk)⟩
  · rintro (⟨earlier, later, rfl, hentered, hlater⟩ | ⟨rfl, hentered⟩)
    · exact ⟨earlier, later ++ [.enter l], by simp, hentered, by simpa using hlater⟩
    · exact ⟨calls, [], rfl, hentered, List.not_mem_nil⟩

theorem open_leave_iff : Open limits (calls ++ [.leave l]) k ↔ Open limits calls k ∧ k ≠ l := by
  constructor
  · rintro ⟨earlier, later, hsplit, hentered, hlater⟩
    obtain ⟨-, -, hc⟩ | ⟨between, rfl, rfl⟩ := concat_eq_iff.1 hsplit
    · cases hc
    · rw [List.mem_append, List.mem_singleton, not_or] at hlater
      exact ⟨⟨earlier, between, rfl, hentered, hlater.1⟩, fun he => hlater.2 (by rw [he])⟩
  · rintro ⟨⟨earlier, later, rfl, hentered, hlater⟩, hne⟩
    exact ⟨earlier, later ++ [.leave l], by simp, hentered, by simp [hlater, hne]⟩

theorem limited_enter_iff : Limited limits (calls ++ [.enter l]) ↔
    Limited limits calls ∨ (((new limits).after calls).enter l).1 = .depthExceeded ∨
      (((new limits).after calls).enter l).1 = .stepsExceeded := by
  constructor
  · rintro ⟨earlier, k, later, hsplit, hrefused⟩
    obtain ⟨-, rfl, hc⟩ | ⟨between, -, rfl⟩ := concat_eq_iff.1 hsplit
    · obtain rfl := Call.enter.inj hc
      exact .inr hrefused
    · exact .inl ⟨earlier, k, between, rfl, hrefused⟩
  · rintro (⟨earlier, k, later, rfl, hrefused⟩ | hrefused)
    · exact ⟨earlier, k, later ++ [.enter l], by simp, hrefused⟩
    · exact ⟨calls, l, [], rfl, hrefused⟩

theorem limited_leave_iff : Limited limits (calls ++ [.leave l]) ↔ Limited limits calls := by
  constructor
  · rintro ⟨earlier, k, later, hsplit, hrefused⟩
    obtain ⟨-, -, hc⟩ | ⟨between, -, rfl⟩ := concat_eq_iff.1 hsplit
    · cases hc
    · exact ⟨earlier, k, between, rfl, hrefused⟩
  · rintro ⟨earlier, k, later, rfl, hrefused⟩
    exact ⟨earlier, k, later ++ [.leave l], by simp, hrefused⟩

/-! ### Guards that agree with the calls -/

/-- The guard `g` agrees with the calls that were made of a new guard. -/
structure Recalls (limits : Limits) (calls : List (Call K)) (g : Guard K) : Prop where
  /-- The limits do not change. -/
  limits_eq : g.limits = limits
  /-- The active keys are those that have been entered and not been left since. -/
  active : ∀ k, k ∈ g.active ↔ Open limits calls k
  /-- No key is active twice. -/
  nodup : g.active.Nodup
  /-- The active keys are counted. -/
  depth_eq : g.depth = g.active.length
  /-- The limit on depth is kept. -/
  depth_le : g.depth ≤ limits.maxDepth.toNat
  /-- Every try is counted, up to the greatest 32-bit number. -/
  steps_eq : g.steps = min (tries calls) stepsCap
  /-- It is reported that a limit was reached. -/
  truncated_iff : g.truncated = true ↔ Limited limits calls

theorem recalls_nil : Recalls (K := K) limits [] (new limits) where
  limits_eq := rfl
  active k := by simp [new, Open]
  nodup := .nil
  depth_eq := rfl
  depth_le := Nat.zero_le _
  steps_eq := rfl
  truncated_iff := by simp [new, Limited]

/-- How a guard answers whose count of active keys is within the limit. -/
theorem enter_answer (h : g.depth ≤ g.limits.maxDepth.toNat) (k : K) :
    (g.enter k).1 =
      if g.limits.maxSteps.toNat < min (g.steps + 1) stepsCap then .stepsExceeded
      else if g.depth = g.limits.maxDepth.toNat then .depthExceeded
      else if k ∈ g.active then .cycle
      else .entered := by
  have hfull : g.limits.maxDepth.toNat ≤ g.depth ↔ g.depth = g.limits.maxDepth.toNat := by omega
  simp only [enter, hfull]
  split_ifs <;> rfl

theorem call_leave_of_mem (hk : k ∈ g.active) :
    g.call (.leave k) = { g with active := g.active.erase k, depth := g.depth - 1 } := by
  simp only [call, Guard.leave, if_pos hk]

theorem call_leave_of_not_mem (hk : k ∉ g.active) : g.call (.leave k) = g := by
  simp only [call, Guard.leave, if_neg hk]

namespace Recalls

/-- **A guard that is asked still agrees with the calls,** whatever it answers. -/
theorem enter (h : Recalls limits calls g) (hg : (new limits).after calls = g) (l : K) :
    Recalls limits (calls ++ [.enter l]) (g.enter l).2 := by
  subst hg
  have hsteps : min (min (tries calls) stepsCap + 1) stepsCap =
      min (tries (calls ++ [.enter l])) stepsCap := by
    rw [tries_enter]
    omega
  -- a refused key is counted as a try, and is reported if a limit is why
  have hrefused : ∀ e cut, e ≠ .entered → (cut = true ↔ e = .depthExceeded ∨ e = .stepsExceeded) →
      ((new limits).after calls).enter l = (e, ((new limits).after calls).advance 1 cut) →
      Recalls limits (calls ++ [.enter l]) (((new limits).after calls).enter l).2 := by
    intro e cut he hcut henter
    refine ⟨?_, fun k => ?_, ?_, ?_, ?_, ?_, ?_⟩
    · rw [limits_enter, h.limits_eq]
    · simp only [open_enter_iff, henter, he, and_false, or_false]
      exact h.active k
    · rw [henter]
      exact h.nodup
    · rw [henter]
      exact h.depth_eq
    · rw [henter]
      exact h.depth_le
    · rw [enter_steps, h.steps_eq, hsteps]
    · rw [limited_enter_iff, ← h.truncated_iff, henter, ← hcut]
      simp [advance]
  obtain ⟨-, he⟩ | ⟨-, he⟩ | ⟨-, -, he⟩ | ⟨hlt, hmem, he⟩ :=
    ((new limits).after calls).enter_cases l
  · exact hrefused _ _ (by decide) (by decide) he
  · exact hrefused _ _ (by decide) (by decide) he
  · exact hrefused _ _ (by decide) (by decide) he
  · rw [h.limits_eq] at hlt
    refine ⟨?_, fun k => ?_, ?_, ?_, ?_, ?_, ?_⟩
    · rw [limits_enter, h.limits_eq]
    · simp only [open_enter_iff, he, and_true, ← h.active k, opened, List.mem_cons]
      exact or_comm
    · rw [he]
      exact List.nodup_cons.2 ⟨hmem, h.nodup⟩
    · rw [he]
      exact congrArg (· + 1) h.depth_eq
    · rw [he]
      exact hlt
    · rw [enter_steps, h.steps_eq, hsteps]
    · rw [limited_enter_iff, ← h.truncated_iff, he]
      simp [opened, advance]

/-- **A guard that is left still agrees with the calls,** also if the key is not active. -/
theorem leave (h : Recalls limits calls g) (l : K) :
    Recalls limits (calls ++ [.leave l]) (g.call (.leave l)) := by
  have hopen : ∀ k, Open limits (calls ++ [.leave l]) k ↔ k ∈ g.active ∧ k ≠ l := fun k => by
    rw [open_leave_iff, h.active]
  by_cases hl : l ∈ g.active
  · have hpos := List.length_pos_of_mem hl
    have hdepth := h.depth_eq
    have hle := h.depth_le
    rw [call_leave_of_mem hl]
    refine ⟨h.limits_eq, fun k => ?_, h.nodup.erase l, ?_, ?_, ?_, ?_⟩
    · rw [hopen, h.nodup.mem_erase_iff, and_comm]
    · rw [List.length_erase_of_mem hl, ← hdepth]
    · exact (Nat.sub_le _ 1).trans hle
    · rw [tries_leave]
      exact h.steps_eq
    · rw [limited_leave_iff]
      exact h.truncated_iff
  · rw [call_leave_of_not_mem hl]
    refine ⟨h.limits_eq, fun k => ?_, h.nodup, h.depth_eq, h.depth_le, ?_, ?_⟩
    · rw [hopen]
      exact ⟨fun hk => ⟨hk, fun he => hl (he ▸ hk)⟩, And.left⟩
    · rw [tries_leave]
      exact h.steps_eq
    · rw [limited_leave_iff]
      exact h.truncated_iff

end Recalls

/-- **After any calls a guard agrees with them.** -/
theorem recalls_after (limits : Limits) (calls : List (Call K)) :
    Recalls limits calls ((new limits).after calls) := by
  induction calls using List.reverseRecOn with
  | nil => exact recalls_nil
  | append_singleton calls c ih =>
    rw [after_concat]
    cases c with
    | enter k => exact ih.enter rfl k
    | leave k => exact ih.leave k

/-- **How a guard answers, and what it reports, after any calls.**  The guard agrees with the calls.
It counts the next try and refuses it if the count is beyond the limit on steps, else if as many
keys are active as may be, else if the key is.  A key that is refused changes nothing about what is
active, and neither does leaving a key that is not active, which is a misuse; to leave one that is
active is none.  Giving up the guard is a misuse exactly if keys are active, and their number is
reported. -/
theorem after_calls (limits : Limits) (calls : List (Call K)) :
    let g := (new limits).after calls
    Recalls limits calls g ∧
      (∀ k, (g.enter k).1 =
        if limits.maxSteps.toNat < min (tries calls + 1) stepsCap then .stepsExceeded
        else if g.depth = limits.maxDepth.toNat then .depthExceeded
        else if k ∈ g.active then .cycle
        else .entered) ∧
      (∀ k, (g.enter k).1 ≠ .entered →
        (g.enter k).2.active = g.active ∧ (g.enter k).2.depth = g.depth) ∧
      (∀ k, k ∉ g.active → g.leave k = .error .leftInactive ∧ g.call (.leave k) = g) ∧
      (∀ k, k ∈ g.active → g.leave k = .ok (g.call (.leave k))) ∧
      g.abandon = if 0 < g.depth then some (.guardAbandoned g.depth) else none := by
  intro g
  have h : Recalls limits calls g := recalls_after limits calls
  refine ⟨h, fun k => ?_, fun k hk => ?_, fun k hk => ⟨if_neg hk, call_leave_of_not_mem hk⟩,
    fun k hk => ?_, ?_⟩
  · have hcount : min (g.steps + 1) stepsCap = min (tries calls + 1) stepsCap := by
      rw [h.steps_eq]
      omega
    have hle : g.depth ≤ g.limits.maxDepth.toNat := h.limits_eq ▸ h.depth_le
    rw [enter_answer hle, hcount, h.limits_eq]
  · obtain ⟨cut, hg⟩ := of_refused hk
    rw [hg]
    exact ⟨rfl, rfl⟩
  · rw [call_leave_of_mem hk]
    exact if_pos hk
  · rw [abandon, h.depth_eq]
    cases g.active <;> rfl

/-- Calls that get all four answers, that leave keys in another order than they enter them, and that
leave keys which are not active. -/
def unruly : List (Call Char) :=
  [.enter 'a', .enter 'a', .enter 'b', .enter 'c', .leave 'c', .leave 'a', .enter 'c', .leave 'a',
    .enter 'b', .enter 'd']

/-- Where two keys may be active and six tries be made, two of the seven tries that were made have
left their keys active. -/
theorem after_calls_unruly :
    let g := (new ⟨2, 6⟩).after unruly
    g.active = ['c', 'b'] ∧ g.depth = 2 ∧ g.steps = 7 ∧ g.truncated = true ∧
      ((g.enter 'd').1 = .stepsExceeded ∧ (g.enter 'd').2.active = g.active) ∧
      ('a' ∉ g.active ∧ ¬ Open ⟨2, 6⟩ unruly 'a' ∧ g.leave 'a' = .error .leftInactive) ∧
      ('b' ∈ g.active ∧ Open ⟨2, 6⟩ unruly 'b' ∧ g.leave 'b' = .ok (g.call (.leave 'b'))) ∧
      g.abandon = some (.guardAbandoned 2) := by
  intro g
  obtain ⟨h, -, hrefused, hinactive, hleave, habandon⟩ := after_calls ⟨2, 6⟩ unruly
  have hactive : g.active = ['c', 'b'] := by decide
  have hdepth : g.depth = 2 := by decide
  have hd : (g.enter 'd').1 = .stepsExceeded := by decide
  have ha : 'a' ∉ g.active := by decide
  have hb : 'b' ∈ g.active := by decide
  refine ⟨hactive, hdepth, by decide, by decide, ⟨hd, ?_⟩, ⟨ha, mt (h.active 'a').2 ha, ?_⟩,
    ⟨hb, (h.active 'b').1 hb, hleave 'b' hb⟩, habandon.trans (by rw [hdepth]; rfl)⟩
  · exact (hrefused 'd' (by rw [hd]; decide)).1
  · exact (hinactive 'a' ha).1

end Guard

end TypeAncestry
