import Mathlib.Data.Nat.Bitwise
import TypeAncestry.Pattern.Matching

/-!
# Sets of positions

Matching works on sets of positions that are kept as numbers.  Every function that it applies to
such a set carries the positions along a relation, and so do the ways in which it puts functions
together: a repetition, whatever it leaves out, comes to all positions that some number of rounds
comes to.

* `Pattern.Carries` : a function carries sets of positions along a relation.
* `Pattern.Iterate` : a relation a number of times in a row.
* `Pattern.Positions.carries_select` : the positions whose neighbours pass a test.
* `Pattern.carries_rounds`, `Pattern.carries_grow`, `Pattern.carries_grow_unbounded` : repetitions.
-/

namespace TypeAncestry

namespace Pattern

/-- The character before a position of a text. -/
def charBefore (text : List Char) : Nat → Option Char
  | 0 => none
  | i + 1 => text[i]?

/-- Positions up to `length` lead to positions up to `length`, and to those that the relation `R`
leads to. -/
structure Carries (length : Nat) (f : Nat → Nat) (R : Nat → Nat → Prop) : Prop where
  bound : ∀ s, s < 2 ^ (length + 1) → f s < 2 ^ (length + 1)
  iff : ∀ s, s < 2 ^ (length + 1) →
    ∀ j, (f s).testBit j = true ↔ ∃ i, s.testBit i = true ∧ R i j

/-- The relation `R` leads from one position to the other in `n` steps. -/
def Iterate (R : Nat → Nat → Prop) : Nat → Nat → Nat → Prop
  | 0, i, j => i = j
  | n + 1, i, j => ∃ k, R i k ∧ Iterate R n k j

variable {length : Nat} {f g : Nat → Nat} {R S : Nat → Nat → Prop}

/-! ### Positions and their neighbours -/

theorem le_of_testBit {s i : Nat} (hs : s < 2 ^ (length + 1)) (hi : s.testBit i = true) :
    i ≤ length := by
  by_contra hlt
  rw [Nat.testBit_lt_two_pow (hs.trans_le (Nat.pow_le_pow_right (by omega) (by omega)))] at hi
  cases hi

namespace Positions

theorem length_neighbours (before : Option Char) (text : List Char) :
    (neighbours before text).length = text.length + 1 := by
  induction text generalizing before with
  | nil => rfl
  | cons c cs ih => rw [neighbours, List.length_cons, ih, List.length_cons]

theorem getElem?_neighbours (before : Option Char) (text : List Char) (i : Nat)
    (hi : i ≤ text.length) :
    (neighbours before text)[i]? =
      some (match i with | 0 => before | i + 1 => text[i]?, text[i]?) := by
  induction text generalizing before i with
  | nil =>
    obtain rfl := Nat.le_zero.1 hi
    rfl
  | cons c cs ih =>
    cases i with
    | zero => rfl
    | succ i =>
      rw [neighbours, List.getElem?_cons_succ, ih _ i (Nat.le_of_succ_le_succ hi)]
      cases i <;> rfl

section Select

variable (p : Option Char → Option Char → Bool)

@[simp] theorem select_zero (t : Positions) : t.select p 0 = 0 := by
  cases t with
  | single before after => simp [select]
  | join count front back => simp [select]

theorem testBit_select_single (before after : Option Char) {s : Nat} (hs : s < 2) :
    (single before after).select p s < 2 ∧ ∀ i, ((single before after).select p s).testBit i =
      (s.testBit i && [(before, after)][i]?.any fun n => p n.1 n.2) := by
  obtain rfl | rfl : s = 0 ∨ s = 1 := by omega
  · simp
  · cases hp : p before after with
    | false => exact ⟨by simp [select, hp], fun i => by cases i <;> simp [select, hp]⟩
    | true =>
      refine ⟨by simp [select, hp], fun i => ?_⟩
      cases i with
      | zero => simp [select, hp]
      | succ i => simp [select, hp, Nat.testBit_succ]

/-! Two numbers side by side, the lower one with `m` digits. -/

theorem joined_lt {m k a b : Nat} (ha : a < 2 ^ m) (hb : b < 2 ^ k) :
    a + b <<< m < 2 ^ (m + k) := by
  rw [Nat.shiftLeft_eq, Nat.pow_add, Nat.add_comm, Nat.mul_comm b]
  calc 2 ^ m * b + a < 2 ^ m * b + 2 ^ m := Nat.add_lt_add_left ha _
    _ = 2 ^ m * (b + 1) := (Nat.mul_succ _ _).symm
    _ ≤ 2 ^ m * 2 ^ k := Nat.mul_le_mul_left _ hb

theorem testBit_joined {m a : Nat} (ha : a < 2 ^ m) (b i : Nat) :
    (a + b <<< m).testBit i = if i < m then a.testBit i else b.testBit (i - m) := by
  rw [Nat.shiftLeft_eq, Nat.add_comm, Nat.mul_comm, Nat.testBit_two_pow_mul_add _ ha]

theorem sub_shiftLeft_shiftRight (s m : Nat) : s - s >>> m <<< m = s % 2 ^ m := by
  rw [Nat.shiftLeft_eq, Nat.shiftRight_eq_div_pow, Nat.mul_comm]
  have := Nat.div_add_mod s (2 ^ m)
  omega

/-- The positions of a set whose neighbours, which the tree holds, pass a test. -/
theorem testBit_select (depth : Nat) :
    ∀ (ps : List (Option Char × Option Char)) (s : Nat), ps ≠ [] → ps.length ≤ 2 ^ depth →
      s < 2 ^ ps.length →
      (ofList depth ps).select p s < 2 ^ ps.length ∧
        ∀ i, ((ofList depth ps).select p s).testBit i =
          (s.testBit i && ps[i]?.any fun n => p n.1 n.2) := by
  induction depth with
  | zero =>
    intro ps s hne hlength hs
    obtain ⟨n, rfl⟩ : ∃ n, ps = [n] := by
      cases ps with
      | nil => exact absurd rfl hne
      | cons n ns =>
        obtain rfl : ns = [] := List.length_eq_zero_iff.1 (by simpa using hlength)
        exact ⟨n, rfl⟩
    exact testBit_select_single p n.1 n.2 hs
  | succ depth ih =>
    intro ps s hne hlength hs
    rw [ofList]
    simp only [Nat.one_shiftLeft]
    split
    · next hle => exact ih ps s hne hle hs
    · next hlt =>
      by_cases hzero : s = 0
      · subst hzero
        simp [hs]
      -- the number is put together of the two that the halves of the tree make of its two parts
      have hfront : (ps.take (2 ^ depth)).length = 2 ^ depth := by
        rw [List.length_take]
        omega
      have hback : (ps.drop (2 ^ depth)).length = ps.length - 2 ^ depth := List.length_drop
      have hsum : ps.length = 2 ^ depth + (ps.length - 2 ^ depth) := by omega
      have hhigh : s >>> 2 ^ depth < 2 ^ (ps.length - 2 ^ depth) := by
        rw [hsum, Nat.pow_add] at hs
        rw [Nat.shiftRight_eq_div_pow]
        exact Nat.div_lt_of_lt_mul hs
      have hpos := Nat.two_pow_pos depth
      obtain ⟨ha, hafter⟩ := ih (ps.take (2 ^ depth)) (s % 2 ^ 2 ^ depth)
        (List.ne_nil_of_length_pos (by omega)) (by omega)
        (by rw [hfront]; exact Nat.mod_lt _ (Nat.two_pow_pos _))
      obtain ⟨hb, hbehind⟩ := ih (ps.drop (2 ^ depth)) (s >>> 2 ^ depth)
        (List.ne_nil_of_length_pos (by omega)) (by rw [Nat.pow_succ] at hlength; omega)
        (hback ▸ hhigh)
      rw [hfront] at ha
      rw [hback] at hb
      rw [select, if_neg hzero]
      simp only [sub_shiftLeft_shiftRight]
      refine ⟨?_, fun i => ?_⟩
      · rw [hsum]
        exact joined_lt ha hb
      · rw [testBit_joined ha]
        split
        · next hi =>
          rw [hafter, Nat.testBit_mod_two_pow, List.getElem?_take_of_lt hi]
          simp [hi]
        · next hi =>
          rw [hbehind, Nat.testBit_shiftRight, List.getElem?_drop,
            Nat.add_sub_cancel' (Nat.le_of_not_lt hi)]

end Select

end Positions

/-- A test of the neighbours of positions. -/
theorem carries_select (p : Option Char → Option Char → Bool) (text : List Char) :
    Carries text.length ((Positions.ofText text).select p)
      (fun i j => i = j ∧ p (charBefore text i) text[i]? = true) := by
  have hlength := Positions.length_neighbours none text
  have hselect : ∀ s, s < 2 ^ (text.length + 1) → _ := fun s hs =>
    Positions.testBit_select p (Nat.log2 (text.length + 1) + 1) (Positions.neighbours none text) s
      (List.ne_nil_of_length_pos (by omega)) (by rw [hlength]; exact Nat.lt_log2_self.le)
      (by rwa [hlength])
  refine ⟨fun s hs => hlength ▸ (hselect s hs).1, fun s hs j => ?_⟩
  rw [Positions.ofText, (hselect s hs).2 j, Bool.and_eq_true]
  constructor
  · rintro ⟨hj, hp⟩
    have hle := le_of_testBit hs hj
    rw [Positions.getElem?_neighbours none text j hle] at hp
    refine ⟨j, hj, rfl, ?_⟩
    cases j <;> exact hp
  · rintro ⟨i, hi, rfl, hp⟩
    have hle := le_of_testBit hs hi
    rw [Positions.getElem?_neighbours none text i hle]
    refine ⟨hi, ?_⟩
    cases i <;> exact hp

/-! ### Functions put together -/

theorem Carries.comp (hf : Carries length f R) (hg : Carries length g S) :
    Carries length (fun s => g (f s)) (fun i j => ∃ k, R i k ∧ S k j) := by
  refine ⟨fun s hs => hg.bound _ (hf.bound s hs), fun s hs j => ?_⟩
  rw [hg.iff _ (hf.bound s hs)]
  simp only [hf.iff s hs]
  constructor
  · rintro ⟨k, ⟨i, hi, hik⟩, hkj⟩
    exact ⟨i, hi, k, hik, hkj⟩
  · rintro ⟨i, hi, k, hik, hkj⟩
    exact ⟨k, ⟨i, hi, hik⟩, hkj⟩

theorem Carries.or (hf : Carries length f R) (hg : Carries length g S) :
    Carries length (fun s => f s ||| g s) (fun i j => R i j ∨ S i j) := by
  refine ⟨fun s hs => Nat.or_lt_two_pow (hf.bound s hs) (hg.bound s hs), fun s hs j => ?_⟩
  rw [Nat.testBit_or, Bool.or_eq_true, hf.iff s hs, hg.iff s hs]
  constructor
  · rintro (⟨i, hi, hij⟩ | ⟨i, hi, hij⟩)
    · exact ⟨i, hi, .inl hij⟩
    · exact ⟨i, hi, .inr hij⟩
  · rintro ⟨i, hi, hij | hij⟩
    · exact .inl ⟨i, hi, hij⟩
    · exact .inr ⟨i, hi, hij⟩

theorem Carries.congr (hf : Carries length f R) (h : ∀ i j, R i j ↔ S i j) :
    Carries length f S := by
  refine ⟨hf.bound, fun s hs j => ?_⟩
  rw [hf.iff s hs]
  simp only [h]

/-! ### Repetitions -/

theorem iterate_add_iff {n m i j : Nat} :
    Iterate R (n + m) i j ↔ ∃ k, Iterate R n i k ∧ Iterate R m k j := by
  induction n generalizing i with
  | zero => simp [Iterate]
  | succ n ih =>
    rw [Nat.succ_add, Iterate]
    simp only [ih, Iterate]
    constructor
    · rintro ⟨l, hil, k, hlk, hkj⟩
      exact ⟨k, ⟨l, hil, hlk⟩, hkj⟩
    · rintro ⟨k, ⟨l, hil, hlk⟩, hkj⟩
      exact ⟨l, hil, k, hlk, hkj⟩

/-- Once a round changes nothing, no further round does. -/
theorem rounds_of_fixed {s : Nat} (h : f s = s) (n : Nat) : rounds f n s = s := by
  cases n with
  | zero => rfl
  | succ n => rw [rounds, if_pos h]

theorem rounds_succ (f : Nat → Nat) (n s : Nat) : rounds f (n + 1) s = rounds f n (f s) := by
  rw [rounds]
  split
  · next h => rw [h, rounds_of_fixed h]
  · rfl

theorem carries_rounds (hf : Carries length f R) (n : Nat) :
    Carries length (rounds f n) (Iterate R n) := by
  induction n with
  | zero =>
    refine ⟨fun s hs => hs, fun s _ j => ?_⟩
    simp [rounds, Iterate]
  | succ n ih =>
    have hcomp := hf.comp ih
    refine ⟨fun s hs => ?_, fun s hs j => ?_⟩
    · rw [rounds_succ]
      exact hcomp.bound s hs
    · rw [rounds_succ]
      exact hcomp.iff s hs j

theorem testBit_without (s seen i : Nat) :
    (without s seen).testBit i = (s.testBit i && !seen.testBit i) := by
  rw [without, Nat.testBit_xor, Nat.testBit_or]
  cases s.testBit i <;> cases seen.testBit i <;> rfl

/-- All that the positions in `seen` lead to is in `seen`, but for what those in `fresh` lead to. -/
structure Explored (length : Nat) (R : Nat → Nat → Prop) (seen fresh : Nat) : Prop where
  seen_lt : seen < 2 ^ (length + 1)
  fresh_lt : fresh < 2 ^ (length + 1)
  seen_of_fresh : ∀ i, fresh.testBit i = true → seen.testBit i = true
  seen_of_old : ∀ i j, seen.testBit i = true → fresh.testBit i = false → R i j →
    seen.testBit j = true

namespace Explored

variable {seen fresh : Nat} (hf : Carries length f R) (h : Explored length R seen fresh)
include hf h

/-- What is new after a round. -/
theorem testBit_new (j : Nat) : (without (f fresh) seen).testBit j = true ↔
    (∃ i, fresh.testBit i = true ∧ R i j) ∧ seen.testBit j = false := by
  rw [testBit_without, Bool.and_eq_true, hf.iff fresh h.fresh_lt, Bool.not_eq_true']

/-- One round leads from what has been seen to what has been seen or is new. -/
theorem step {i j : Nat} (hi : seen.testBit i = true) (hij : R i j) :
    seen.testBit j = true ∨ (without (f fresh) seen).testBit j = true := by
  rcases hj : seen.testBit j
  · rcases hi' : fresh.testBit i
    · rw [h.seen_of_old i j hi hi' hij] at hj
      cases hj
    · exact .inr ((h.testBit_new hf j).2 ⟨⟨i, hi', hij⟩, hj⟩)
  · exact .inl rfl

/-- What a round adds is the next to be explored. -/
theorem next :
    Explored length R (seen ||| without (f fresh) seen) (without (f fresh) seen) := by
  have hlt : without (f fresh) seen < 2 ^ (length + 1) :=
    Nat.xor_lt_two_pow (Nat.or_lt_two_pow (hf.bound fresh h.fresh_lt) h.seen_lt) h.seen_lt
  refine ⟨Nat.or_lt_two_pow h.seen_lt hlt, hlt, fun i hi => ?_, fun i j hi hnew hij => ?_⟩
  · rw [Nat.testBit_or, hi, Bool.or_true]
  · rw [Nat.testBit_or, hnew, Bool.or_false] at hi
    rw [Nat.testBit_or, Bool.or_eq_true]
    exact h.step hf hi hij

/-- A way that leaves what has been seen goes on from a position that is new. -/
theorem leave {j : Nat} (k : Nat) : ∀ i, seen.testBit i = true → Iterate R k i j →
    seen.testBit j = true ∨
      ∃ m < k, ∃ i, (without (f fresh) seen).testBit i = true ∧ Iterate R m i j := by
  induction k with
  | zero =>
    rintro i hi rfl
    exact .inl hi
  | succ k ih =>
    rintro i hi ⟨l, hil, hlj⟩
    rcases h.step hf hi hil with hl | hl
    · rcases ih l hl hlj with hj | ⟨m, hm, hway⟩
      · exact .inl hj
      · exact .inr ⟨m, Nat.lt_succ_of_lt hm, hway⟩
    · exact .inr ⟨k, Nat.lt_succ_self k, l, hl, hlj⟩

end Explored

/-- What `grow` adds to the positions in `seen`. -/
theorem testBit_grow (hf : Carries length f R) (n : Nat) :
    ∀ seen fresh, Explored length R seen fresh →
      grow f n seen fresh < 2 ^ (length + 1) ∧
        ∀ j, (grow f n seen fresh).testBit j = true ↔
          seen.testBit j = true ∨ ∃ k ≤ n, ∃ i, fresh.testBit i = true ∧ Iterate R k i j := by
  induction n with
  | zero =>
    intro seen fresh h
    refine ⟨h.seen_lt, fun j => ⟨.inl, ?_⟩⟩
    rintro (hj | ⟨k, hk, i, hi, hij⟩)
    · exact hj
    · obtain rfl := Nat.le_zero.1 hk
      obtain rfl : i = j := hij
      exact h.seen_of_fresh i hi
  | succ n ih =>
    intro seen fresh h
    rw [grow]
    split
    · next hzero =>
      refine ⟨h.seen_lt, fun j => ⟨.inl, ?_⟩⟩
      rintro (hj | ⟨k, -, i, hi, hij⟩)
      · exact hj
      · rcases h.leave hf k i (h.seen_of_fresh i hi) hij with hj | ⟨m, -, l, hl, -⟩
        · exact hj
        · rw [hzero, Nat.zero_testBit] at hl
          cases hl
    · obtain ⟨hlt, hgrow⟩ := ih _ _ (h.next hf)
      refine ⟨hlt, fun j => ?_⟩
      rw [hgrow, Nat.testBit_or, Bool.or_eq_true]
      constructor
      · rintro ((hj | hj) | ⟨k, hk, i, hi, hij⟩)
        · exact .inl hj
        · obtain ⟨⟨i, hi, hij⟩, -⟩ := (h.testBit_new hf j).1 hj
          exact .inr ⟨1, Nat.le_add_left 1 n, i, hi, j, hij, rfl⟩
        · obtain ⟨⟨m, hm, hmi⟩, -⟩ := (h.testBit_new hf i).1 hi
          exact .inr ⟨k + 1, Nat.succ_le_succ hk, m, hm, i, hmi, hij⟩
      · rintro (hj | ⟨k, hk, i, hi, hij⟩)
        · exact .inl (.inl hj)
        · rcases h.leave hf k i (h.seen_of_fresh i hi) hij with hj | ⟨m, hm, hway⟩
          · exact .inl (.inl hj)
          · exact .inr ⟨m, by omega, hway⟩

/-- **Up to `n` rounds,** of which each starts from what is new. -/
theorem carries_grow (hf : Carries length f R) (n : Nat) :
    Carries length (fun s => grow f n s s) (fun i j => ∃ k ≤ n, Iterate R k i j) := by
  have hgrow : ∀ s, s < 2 ^ (length + 1) → _ := fun s hs =>
    testBit_grow hf n s s ⟨hs, hs, fun _ hi => hi, fun i j hi hi' _ => absurd hi (by simp [hi'])⟩
  refine ⟨fun s hs => (hgrow s hs).1, fun s hs j => ?_⟩
  rw [(hgrow s hs).2]
  constructor
  · rintro (hj | ⟨k, hk, i, hi, hij⟩)
    · exact ⟨j, hj, 0, Nat.zero_le n, rfl⟩
    · exact ⟨i, hi, k, hk, hij⟩
  · rintro ⟨i, hi, k, hk, hij⟩
    exact .inr ⟨k, hk, i, hi, hij⟩

/-- Rounds that lead nowhere can be left out of a way that never leads back. -/
theorem exists_iterate_le (hle : ∀ i j, R i j → i ≤ j) (n : Nat) :
    ∀ i j, Iterate R n i j → i ≤ j ∧ ∃ k ≤ j - i, Iterate R k i j := by
  induction n with
  | zero =>
    rintro i j rfl
    exact ⟨Nat.le_refl i, 0, Nat.zero_le _, rfl⟩
  | succ n ih =>
    rintro i j ⟨m, him, hmj⟩
    have him' := hle i m him
    obtain ⟨hmj', k, hk, hkj⟩ := ih m j hmj
    refine ⟨him'.trans hmj', ?_⟩
    rcases Nat.eq_or_lt_of_le him' with rfl | hlt
    · exact ⟨k, hk, hkj⟩
    · exact ⟨k + 1, by omega, m, him, hkj⟩

/-- **Any number of rounds**: if no round leads back, no more are needed than there are
positions. -/
theorem carries_grow_unbounded (hf : Carries length f R) (hle : ∀ i j, R i j → i ≤ j) :
    Carries length (fun s => grow f (length + 1) s s) (fun i j => ∃ k, Iterate R k i j) := by
  have hgrow := carries_grow hf (length + 1)
  refine ⟨hgrow.bound, fun s hs j => ?_⟩
  rw [hgrow.iff s hs]
  constructor
  · rintro ⟨i, hi, k, -, hij⟩
    exact ⟨i, hi, k, hij⟩
  · rintro ⟨i, hi, k, hij⟩
    have hj : j ≤ length := by
      have hrounds := carries_rounds hf k
      exact le_of_testBit (hrounds.bound s hs) ((hrounds.iff s hs j).2 ⟨i, hi, hij⟩)
    obtain ⟨-, m, hm, him⟩ := exists_iterate_le hle k i j hij
    exact ⟨i, hi, m, by omega, him⟩

end Pattern

end TypeAncestry
