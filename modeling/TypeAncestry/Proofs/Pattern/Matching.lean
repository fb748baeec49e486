import TypeAncestry.Proofs.Pattern.Positions

/-!
# What expressions match

An expression matches what lies between two positions of a text.  The rules for that know nothing of
sets of positions, and of repetitions only that there is some allowed number of rounds; matching
finds just those positions to which the rules lead.

* `Pattern.Expr.Spans` : an expression matches what lies between two positions.
* `Pattern.Expr.carries_advance` : matching follows the rules.
* `Pattern.Expr.isMatch_iff` : some part of a text matches.
* `Pattern.Expr.whole`, `Pattern.Expr.isMatch_whole_iff` : between two anchors, an expression
  matches whole texts.
-/

namespace TypeAncestry

namespace Pattern

namespace Expr

/-- The expression matches what lies between the positions `i` and `j` of the text.  A greatest
number of rounds that is less than the least one counts as the least one. -/
def Spans (text : List Char) : Expr → Nat → Nat → Prop
  | empty, i, j => i = j
  | one s, i, j => (∃ c, text[i]? = some c ∧ s.contains c = true) ∧ j = i + 1
  | place p, i, j => i = j ∧ p.test (charBefore text i) text[i]? = true
  | seq a b, i, j => ∃ k, a.Spans text i k ∧ b.Spans text k j
  | alt a b, i, j => a.Spans text i j ∨ b.Spans text i j
  | loop least most _ a, i, j =>
    ∃ n, least ≤ n ∧ (∀ m ∈ most, n ≤ max least m) ∧ Iterate (a.Spans text) n i j
  | group _ a, i, j => a.Spans text i j

variable {text : List Char} {e : Expr}

theorem Spans.le (e : Expr) : ∀ i j, e.Spans text i j → i ≤ j := by
  induction e with
  | empty => rintro i j rfl; exact Nat.le_refl i
  | one s => rintro i j ⟨-, rfl⟩; exact Nat.le_succ i
  | place p => rintro i j ⟨rfl, -⟩; exact Nat.le_refl i
  | seq a b iha ihb =>
    rintro i j ⟨k, hik, hkj⟩
    exact (iha i k hik).trans (ihb k j hkj)
  | alt a b iha ihb =>
    rintro i j (h | h)
    · exact iha i j h
    · exact ihb i j h
  | loop least most greedy a ih =>
    rintro i j ⟨n, -, -, h⟩
    exact (exists_iterate_le ih n i j h).1
  | group captures a ih => exact ih

/-- The positions in front of a character of a set, each moved on by one. -/
theorem carries_one (text : List Char) (set : Text.CharSet) :
    Carries text.length ((one set).advance text.length (.ofText text)) ((one set).Spans text) := by
  have hselect := carries_select (fun _ after => after.any set.contains) text
  have hdouble : ∀ s j, (2 * s).testBit j = true ↔ ∃ i, s.testBit i = true ∧ j = i + 1 := by
    intro s j
    cases j with
    | zero => simp
    | succ j => simp [Nat.testBit_succ]
  refine ⟨fun s hs => ?_, fun s hs j => ?_⟩
  · refine Nat.lt_pow_two_of_testBit _ fun j hj => ?_
    rw [Bool.eq_false_iff]
    intro hbit
    obtain ⟨i, hi, rfl⟩ := (hdouble _ j).1 hbit
    obtain ⟨k, hk, rfl, hset⟩ := (hselect.iff s hs i).1 hi
    obtain ⟨c, hc, -⟩ := (Option.any_eq_true _ _).1 hset
    have := (List.getElem?_eq_some_iff.1 hc).1
    omega
  · rw [advance, hdouble]
    simp only [hselect.iff s hs, Option.any_eq_true]
    constructor
    · rintro ⟨i, ⟨k, hk, rfl, hset⟩, rfl⟩
      exact ⟨k, hk, hset, rfl⟩
    · rintro ⟨i, hi, hset, rfl⟩
      exact ⟨i, ⟨i, hi, rfl, hset⟩, rfl⟩

/-- At least `least` rounds, and further ones as they are allowed. -/
theorem carries_loop {a : Expr} (least : Nat) (most : Option Nat) (greedy : Bool)
    (ha : Carries text.length (a.advance text.length (.ofText text)) (a.Spans text)) :
    Carries text.length ((loop least most greedy a).advance text.length (.ofText text))
      ((loop least most greedy a).Spans text) := by
  have hrounds := carries_rounds ha least
  cases most with
  | none =>
    refine (hrounds.comp (carries_grow_unbounded ha (Spans.le a))).congr fun i j => ?_
    constructor
    · rintro ⟨k, hik, n, hkj⟩
      exact ⟨least + n, Nat.le_add_right _ _, nofun, iterate_add_iff.2 ⟨k, hik, hkj⟩⟩
    · rintro ⟨n, hn, -, hij⟩
      obtain ⟨m, rfl⟩ := Nat.exists_eq_add_of_le hn
      obtain ⟨k, hik, hkj⟩ := iterate_add_iff.1 hij
      exact ⟨k, hik, m, hkj⟩
  | some most =>
    refine (hrounds.comp (carries_grow ha (most - least))).congr fun i j => ?_
    constructor
    · rintro ⟨k, hik, n, hn, hkj⟩
      refine ⟨least + n, Nat.le_add_right _ _, ?_, iterate_add_iff.2 ⟨k, hik, hkj⟩⟩
      rintro m hm
      obtain rfl := Option.some.inj hm
      omega
    · rintro ⟨n, hn, hmost, hij⟩
      obtain ⟨m, rfl⟩ := Nat.exists_eq_add_of_le hn
      obtain ⟨k, hik, hkj⟩ := iterate_add_iff.1 hij
      have := hmost most rfl
      exact ⟨k, hik, m, by omega, hkj⟩

/-- **Matching follows the rules**: from a set of positions it comes to those where a match may end
that begins in the set. -/
theorem carries_advance (text : List Char) (e : Expr) :
    Carries text.length (e.advance text.length (.ofText text)) (e.Spans text) := by
  induction e with
  | empty =>
    refine ⟨fun s hs => hs, fun s _ j => ?_⟩
    simp [advance, Spans]
  | one set => exact carries_one text set
  | place p => exact carries_select p.test text
  | seq a b iha ihb => exact iha.comp ihb
  | alt a b iha ihb => exact iha.or ihb
  | loop least most greedy a ih => exact carries_loop least most greedy ih
  | group captures a ih => exact ih

theorem testBit_allPositions (text : List Char) (i : Nat) :
    (allPositions text).testBit i = true ↔ i ≤ text.length := by
  rw [allPositions, Nat.one_shiftLeft, Nat.testBit_two_pow_sub_one, decide_eq_true_eq,
    Nat.lt_succ_iff]

theorem allPositions_lt (text : List Char) : allPositions text < 2 ^ (text.length + 1) := by
  rw [allPositions, Nat.one_shiftLeft]
  exact Nat.sub_lt (Nat.two_pow_pos _) Nat.one_pos

/-- A match that begins at a position of a text ends at one. -/
theorem Spans.le_length {i j : Nat} (h : e.Spans text i j) (hi : i ≤ text.length) :
    j ≤ text.length := by
  have hcarries := carries_advance text e
  have hall := allPositions_lt text
  exact le_of_testBit (hcarries.bound _ hall)
    ((hcarries.iff _ hall j).2 ⟨i, (testBit_allPositions text i).2 hi, h⟩)

/-- **Some part of a text matches** if there are positions between which the expression matches. -/
theorem isMatch_iff : e.isMatch text = true ↔ ∃ i j, i ≤ text.length ∧ e.Spans text i j := by
  have hiff := (carries_advance text e).iff _ (allPositions_lt text)
  rw [isMatch, bne_iff_ne]
  constructor
  · intro h
    obtain ⟨j, hj⟩ := Nat.exists_testBit_of_ne_zero h
    obtain ⟨i, hi, hij⟩ := (hiff j).1 hj
    exact ⟨i, j, (testBit_allPositions text i).1 hi, hij⟩
  · rintro ⟨i, j, hi, hij⟩ h
    have hj := (hiff j).2 ⟨i, (testBit_allPositions text i).2 hi, hij⟩
    rw [h, Nat.zero_testBit] at hj
    cases hj

/-! ### Whole texts -/

/-- The expression in a group between the start of a text and its end. -/
def whole (e : Expr) : Expr :=
  .seq (.place .textStart) (.seq (.group false e) (.seq (.place .textEnd) .empty))

/-- **Between the two anchors an expression matches whole texts.** -/
theorem isMatch_whole_iff : e.whole.isMatch text = true ↔ e.Spans text 0 text.length := by
  rw [isMatch_iff]
  constructor
  · rintro ⟨i, j, hi, k, ⟨rfl, hstart⟩, l, hspan, m, ⟨rfl, hend⟩, -⟩
    obtain rfl : i = 0 := by
      cases i with
      | zero => rfl
      | succ i =>
        have : text[i]? = none := by simpa [Place.test, charBefore] using hstart
        have := List.getElem?_eq_none_iff.1 this
        omega
    have hlength : text.length ≤ l := by simpa [Place.test] using hend
    have hle := Spans.le_length (e := e) hspan hi
    rwa [Nat.le_antisymm hle hlength] at hspan
  · intro h
    refine ⟨0, text.length, Nat.zero_le _, 0, ⟨rfl, rfl⟩, text.length, h, text.length, ?_, rfl⟩
    refine ⟨rfl, ?_⟩
    simp [Place.test]

end Expr

end Pattern

end TypeAncestry
