import TypeAncestry.Proofs.Comparison.Outcome
import TypeAncestry.Proofs.Tree.Positions

/-!
# What a comparison says of two trees

A comparison looks at the positions that two trees have in common as long as the nodes above agree
and are not `?`.  What it finds there hangs on the two nodes alone and on how deep they lie, so the
whole comparison can be read off the positions: it fails with the first fault in preorder, and if
there is none it reports on which side it came upon `?`.

* `Comparison.Compared` : the positions that a comparison looks at if nothing stops it.
* `Comparison.FaultAt` : what it finds wrong there.
* `Comparison.outcome_eq_error_iff`, `Comparison.outcome_eq_ok_iff` : failure and success in terms
  of positions.
* `Comparison.ofTrees_outcome` : the same for comparing two trees with a fresh counter.
-/

namespace TypeAncestry

namespace Comparison

/-- The nodes at a position let the comparison go on with their children: they lie less deep than
the limit, they have the same name, which is not `?`, and equally many children. -/
def Continues (l : Levels) (s t : TypeTree) (p : Position) : Prop :=
  l.depth + p.length < l.maxDepth.toNat ∧
    ∃ u v, s.at? p = some u ∧ t.at? p = some v ∧ u.name = v.name ∧ u.name ≠ Name.top ∧
      u.children.length = v.children.length

/-- Both trees have the position, and the comparison goes on at every position above it. -/
def Compared (l : Levels) (s t : TypeTree) (p : Position) : Prop :=
  (∃ u, s.at? p = some u) ∧ (∃ v, t.at? p = some v) ∧ ∀ q, q.Above p → Continues l s t q

/-- The nodes at a position do not agree, for the reason `e`. -/
def FaultAt (l : Levels) (s t : TypeTree) (p : Position) (e : Mismatch) : Prop :=
  ∃ u v, s.at? p = some u ∧ t.at? p = some v ∧ fault? (l.below p.length) u v = some e

variable {l : Levels} {s t u v : TypeTree} {p q : Position} {i : Nat} {e : Mismatch}
  {r : Compatibility}

/-! ### Positions below a child -/

theorem continues_nil_iff :
    Continues l s t [] ↔ fault? l s t = none ∧ s.isTop = false ∧ t.isTop = false := by
  simp only [Continues, TypeTree.at?_nil, TypeTree.isTop_eq_false_iff, List.length_nil,
    Nat.add_zero, Option.some.injEq]
  constructor
  · rintro ⟨hroom, u, v, rfl, rfl, hname, htop, hcount⟩
    refine ⟨?_, htop, hname ▸ htop⟩
    rw [fault?, if_neg (Nat.not_le_of_lt hroom), if_neg fun h => h.1 hname,
      if_neg fun h => h.2.2 hcount]
  · rintro ⟨hfault, hs, ht⟩
    obtain ⟨hname, hcount⟩ := eq_of_fault?_eq_none hfault (TypeTree.isTop_eq_false_iff.2 hs)
      (TypeTree.isTop_eq_false_iff.2 ht)
    exact ⟨(fault?_eq_none_iff.1 hfault).1, s, t, rfl, rfl, hname, hs, hcount⟩

theorem continues_cons_iff (hu : s.children[i]? = some u) (hv : t.children[i]? = some v) :
    Continues l s t (i :: p) ↔ Continues (l.below 1) u v p := by
  have hlen : l.depth + (p.length + 1) = l.depth + 1 + p.length := by omega
  simp only [Continues, TypeTree.at?_cons_of_child hu, TypeTree.at?_cons_of_child hv,
    Levels.below_depth, Levels.below_maxDepth, List.length_cons, hlen]

theorem faultAt_nil_iff : FaultAt l s t [] e ↔ fault? l s t = some e := by
  simp [FaultAt]

theorem not_faultAt_nil (h : fault? l s t = none) : ∀ e, ¬ FaultAt l s t [] e := by
  intro e he
  rw [faultAt_nil_iff, h] at he
  cases he

theorem faultAt_cons_iff (hu : s.children[i]? = some u) (hv : t.children[i]? = some v) :
    FaultAt l s t (i :: p) e ↔ FaultAt (l.below 1) u v p e := by
  simp only [FaultAt, TypeTree.at?_cons_of_child hu, TypeTree.at?_cons_of_child hv,
    List.length_cons, Levels.below_one_below]

theorem compared_nil (l : Levels) (s t : TypeTree) : Compared l s t [] :=
  ⟨⟨s, s.at?_nil⟩, ⟨t, t.at?_nil⟩, fun _ hq => absurd hq Position.not_above_nil⟩

/-- A position below child `i` is looked at if the comparison goes on at the root, and looks at the
position from there on in the children. -/
theorem compared_cons_iff :
    Compared l s t (i :: p) ↔ Continues l s t [] ∧
      ∃ u v, s.children[i]? = some u ∧ t.children[i]? = some v ∧ Compared (l.below 1) u v p := by
  constructor
  · rintro ⟨⟨u', hu'⟩, ⟨v', hv'⟩, habove⟩
    obtain ⟨u, hu, hup⟩ := TypeTree.at?_cons_eq_some_iff.1 hu'
    obtain ⟨v, hv, hvp⟩ := TypeTree.at?_cons_eq_some_iff.1 hv'
    refine ⟨habove [] (Position.nil_above_cons i p), u, v, hu, hv, ⟨u', hup⟩, ⟨v', hvp⟩, ?_⟩
    intro q hq
    exact (continues_cons_iff hu hv).1 (habove (i :: q) (hq.cons i))
  · rintro ⟨hroot, u, v, hu, hv, ⟨u', hup⟩, ⟨v', hvp⟩, habove⟩
    refine ⟨⟨u', TypeTree.at?_cons_eq_some_iff.2 ⟨u, hu, hup⟩⟩,
      ⟨v', TypeTree.at?_cons_eq_some_iff.2 ⟨v, hv, hvp⟩⟩, fun q hq => ?_⟩
    obtain rfl | ⟨q, rfl, hqp⟩ := Position.above_cons_iff.1 hq
    · exact hroot
    · exact (continues_cons_iff hu hv).2 (habove q hqp)

/-- Where one of two nodes is `?`, nothing below them is looked at. -/
theorem eq_nil_of_compared (h : Compared l s t p) (htop : s.isTop = true ∨ t.isTop = true) :
    p = [] := by
  rcases p with _ | ⟨i, p⟩
  · rfl
  · obtain ⟨-, hs, ht⟩ := continues_nil_iff.1 (compared_cons_iff.1 h).1
    simp [hs, ht] at htop

/-! ### The outcome -/

/-- Where a comparison succeeds, no position that is looked at shows a fault. -/
theorem not_faultAt_of_outcome_ok (h : (nested l s t).outcome = .ok r) :
    ∀ p, Compared l s t p → ∀ e, ¬ FaultAt l s t p e := by
  induction s using TypeTree.inductChildren generalizing l t r with
  | tree s ih =>
    obtain ⟨e, -, he⟩ | ⟨hnone, htop, -⟩ | ⟨hnone, -, hc⟩ := outcome_cases l s t
    · rw [he] at h
      cases h
    · intro p hp
      rw [eq_nil_of_compared hp htop]
      exact not_faultAt_nil hnone
    · rw [hc] at h
      rintro (_ | ⟨i, p⟩) hp
      · exact not_faultAt_nil hnone
      · obtain ⟨-, u, v, hu, hv, hp⟩ := compared_cons_iff.1 hp
        obtain ⟨r', hr'⟩ := eq_ok_of_combine_ok h _ (outcome_mem_childOutcomes l hu hv)
        intro e he
        exact ih i u hu hr' p hp e ((faultAt_cons_iff hu hv).1 he)

/-- Where a comparison succeeds, a mark is set on its grade if some position that is looked at
shows it. -/
theorem mark_iff_of_outcome_ok {mark : Compatibility → Bool} (hm : IsMark mark)
    (h : (nested l s t).outcome = .ok r) :
    mark r = true ↔ ∃ p u v, Compared l s t p ∧ s.at? p = some u ∧ t.at? p = some v ∧
      mark ⟨u.isTop, v.isTop⟩ = true := by
  induction s using TypeTree.inductChildren generalizing l t r with
  | tree s ih =>
    obtain ⟨e, -, he⟩ | ⟨-, htop, hr⟩ | ⟨hnone, ⟨hs, ht⟩, hc⟩ := outcome_cases l s t
    · rw [he] at h
      cases h
    · -- the root is all that is looked at
      obtain rfl := Except.ok.inj (hr.symm.trans h)
      constructor
      · intro hmark
        exact ⟨[], s, t, compared_nil l s t, s.at?_nil, t.at?_nil, hmark⟩
      · rintro ⟨p, u, v, hp, hu, hv, hmark⟩
        obtain rfl := eq_nil_of_compared hp htop
        obtain rfl : s = u := by simpa using hu
        obtain rfl : t = v := by simpa using hv
        exact hmark
    · rw [hc] at h
      rw [mark_combine_iff hm h]
      constructor
      · rintro ⟨r', hr', hmark⟩
        obtain ⟨i, u, v, hu, hv, huv⟩ := mem_childOutcomes.1 hr'
        obtain ⟨p, w, x, hp, hw, hx, hwx⟩ := (ih i u hu huv).1 hmark
        have hcont := continues_nil_iff.2 ⟨hnone, hs, ht⟩
        exact ⟨i :: p, w, x, compared_cons_iff.2 ⟨hcont, u, v, hu, hv, hp⟩,
          (TypeTree.at?_cons_of_child hu).trans hw, (TypeTree.at?_cons_of_child hv).trans hx, hwx⟩
      · rintro ⟨_ | ⟨i, p⟩, w, x, hp, hw, hx, hwx⟩
        · -- the comparison goes on at the root, so the root shows no mark
          obtain rfl : s = w := by simpa using hw
          obtain rfl : t = x := by simpa using hx
          rw [hs, ht] at hwx
          exact absurd hwx (Bool.eq_false_iff.1 hm.exact)
        · obtain ⟨-, u, v, hu, hv, hp⟩ := compared_cons_iff.1 hp
          have hmem := outcome_mem_childOutcomes l hu hv
          obtain ⟨r', hr'⟩ := eq_ok_of_combine_ok h _ hmem
          rw [TypeTree.at?_cons_of_child hu] at hw
          rw [TypeTree.at?_cons_of_child hv] at hx
          exact ⟨r', hr' ▸ hmem, (ih i u hu hr').2 ⟨p, w, x, hp, hw, hx, hwx⟩⟩

/-- Where a comparison fails, it does so for the fault at the first position in preorder that is
looked at and shows one. -/
theorem exists_of_outcome_error (h : (nested l s t).outcome = .error e) :
    ∃ p, Compared l s t p ∧ FaultAt l s t p e ∧
      ∀ q, q.Before p → Compared l s t q → ∀ e', ¬ FaultAt l s t q e' := by
  induction s using TypeTree.inductChildren generalizing l t with
  | tree s ih =>
    obtain ⟨e', hfault, he⟩ | ⟨-, -, hr⟩ | ⟨hnone, ⟨hs, ht⟩, hc⟩ := outcome_cases l s t
    · obtain rfl := Except.error.inj (he.symm.trans h)
      exact ⟨[], compared_nil l s t, faultAt_nil_iff.2 hfault, fun q hq => nomatch hq⟩
    · rw [hr] at h
      cases h
    · rw [hc] at h
      obtain ⟨i, hi, hbefore⟩ := exists_of_combine_error h
      obtain ⟨u, v, hu, hv, huv⟩ := getElem?_childOutcomes.1 hi
      obtain ⟨p, hp, hfault, hfirst⟩ := ih i u hu huv
      have hcont := continues_nil_iff.2 ⟨hnone, hs, ht⟩
      refine ⟨i :: p, compared_cons_iff.2 ⟨hcont, u, v, hu, hv, hp⟩,
        (faultAt_cons_iff hu hv).2 hfault, fun q hq hcomp e' he' => ?_⟩
      -- before it come the root, what lies below an earlier child, and some of what lies below `i`
      cases hq with
      | nil => exact not_faultAt_nil hnone e' he'
      | @rel j q _ _ hj =>
        obtain ⟨r', hr'⟩ := hbefore j hj
        obtain ⟨u', v', hu', hv', hok⟩ := getElem?_childOutcomes.1 hr'
        obtain ⟨-, u'', v'', hu'', hv'', hq⟩ := compared_cons_iff.1 hcomp
        obtain rfl : u' = u'' := Option.some.inj (hu'.symm.trans hu'')
        obtain rfl : v' = v'' := Option.some.inj (hv'.symm.trans hv'')
        exact not_faultAt_of_outcome_ok hok q hq e' ((faultAt_cons_iff hu' hv').1 he')
      | @cons _ q _ hqp =>
        obtain ⟨-, u', v', hu', hv', hq⟩ := compared_cons_iff.1 hcomp
        obtain rfl : u = u' := Option.some.inj (hu.symm.trans hu')
        obtain rfl : v = v' := Option.some.inj (hv.symm.trans hv')
        exact hfirst q hqp hq e' ((faultAt_cons_iff hu hv).1 he')

theorem FaultAt.unique {e' : Mismatch} (h : FaultAt l s t p e) (h' : FaultAt l s t p e') :
    e = e' := by
  obtain ⟨u, v, hu, hv, he⟩ := h
  obtain ⟨u', v', hu', hv', he'⟩ := h'
  obtain rfl : u = u' := Option.some.inj (hu.symm.trans hu')
  obtain rfl : v = v' := Option.some.inj (hv.symm.trans hv')
  exact Option.some.inj (he.symm.trans he')

/-- The failure of a comparison in terms of positions. -/
theorem outcome_eq_error_iff : (nested l s t).outcome = .error e ↔
    ∃ p, Compared l s t p ∧ FaultAt l s t p e ∧
      ∀ q, q.Before p → Compared l s t q → ∀ e', ¬ FaultAt l s t q e' := by
  refine ⟨exists_of_outcome_error, ?_⟩
  rintro ⟨p, hp, hfault, hfirst⟩
  rcases h : (nested l s t).outcome with e' | r
  · obtain ⟨p', hp', hfault', hfirst'⟩ := exists_of_outcome_error h
    rcases trichotomous_of (List.Lex (· < ·)) p p' with hlt | rfl | hgt
    · exact absurd hfault (hfirst' p hlt hp e)
    · rw [hfault.unique hfault']
    · exact absurd hfault' (hfirst p' hgt hp' e')
  · exact absurd hfault (not_faultAt_of_outcome_ok h p hp e)

/-- The success of a comparison in terms of positions. -/
theorem outcome_eq_ok_iff : (nested l s t).outcome = .ok r ↔
    (∀ p, Compared l s t p → ∀ e, ¬ FaultAt l s t p e) ∧
      (r.sourceUnknown = true ↔ ∃ p u, Compared l s t p ∧ s.at? p = some u ∧ u.isTop = true) ∧
      (r.targetUnknown = true ↔ ∃ p v, Compared l s t p ∧ t.at? p = some v ∧ v.isTop = true) := by
  have hok : ∀ r', (nested l s t).outcome = .ok r' →
      (∀ p, Compared l s t p → ∀ e, ¬ FaultAt l s t p e) ∧
        (r'.sourceUnknown = true ↔ ∃ p u, Compared l s t p ∧ s.at? p = some u ∧ u.isTop = true) ∧
        (r'.targetUnknown = true ↔
          ∃ p v, Compared l s t p ∧ t.at? p = some v ∧ v.isTop = true) := by
    intro r' h
    have hsource := mark_iff_of_outcome_ok isMark_sourceUnknown h
    have htarget := mark_iff_of_outcome_ok isMark_targetUnknown h
    refine ⟨not_faultAt_of_outcome_ok h, hsource.trans ⟨?_, ?_⟩, htarget.trans ⟨?_, ?_⟩⟩
    · rintro ⟨p, u, v, hp, hu, -, htop⟩
      exact ⟨p, u, hp, hu, htop⟩
    · rintro ⟨p, u, hp, hu, htop⟩
      obtain ⟨v, hv⟩ := hp.2.1
      exact ⟨p, u, v, hp, hu, hv, htop⟩
    · rintro ⟨p, u, v, hp, -, hv, htop⟩
      exact ⟨p, v, hp, hv, htop⟩
    · rintro ⟨p, v, hp, hv, htop⟩
      obtain ⟨u, hu⟩ := hp.1
      exact ⟨p, u, v, hp, hu, hv, htop⟩
  refine ⟨hok r, ?_⟩
  rintro ⟨hnone, hsource, htarget⟩
  rcases h : (nested l s t).outcome with e | r'
  · obtain ⟨p, hp, hfault, -⟩ := exists_of_outcome_error h
    exact absurd hfault (hnone p hp e)
  · obtain ⟨-, hsource', htarget'⟩ := hok r' h
    congr 1
    cases r
    cases r'
    simp only [Compatibility.mk.injEq]
    exact ⟨Bool.eq_iff_iff.2 (hsource'.trans hsource.symm),
      Bool.eq_iff_iff.2 (htarget'.trans htarget.symm)⟩

/-- **A comparison fails with the first fault in preorder, and otherwise tells where it came upon
`?`.**  It ends without misuse of its counter and gives it back as it was.  Its positions are all
that decides: it fails with `e` exactly if the first position that is looked at and shows a fault
shows `e`, and succeeds with `r` exactly if no such position shows a fault and `r` says of each tree
whether `?` stands in it at some of them. -/
theorem ofTrees_outcome (maxDepth : UInt32) (s t : TypeTree) :
    let l := Levels.new maxDepth
    let c := ofTrees l s t
    c.levels = l ∧ c.misuse = none ∧
      (∀ e, c.outcome = .error e ↔
        ∃ p, Compared l s t p ∧ FaultAt l s t p e ∧
          ∀ q, q.Before p → Compared l s t q → ∀ e', ¬ FaultAt l s t q e') ∧
      ∀ r, c.outcome = .ok r ↔
        (∀ p, Compared l s t p → ∀ e, ¬ FaultAt l s t p e) ∧
          (r.sourceUnknown = true ↔
            ∃ p u, Compared l s t p ∧ s.at? p = some u ∧ u.isTop = true) ∧
          (r.targetUnknown = true ↔
            ∃ p v, Compared l s t p ∧ t.at? p = some v ∧ v.isTop = true) := by
  intro l c
  obtain ⟨hlevels, hmisuse⟩ := ofTrees_restores l s t
  exact ⟨hlevels, hmisuse, fun e => outcome_eq_error_iff, fun r => outcome_eq_ok_iff⟩

end Comparison

end TypeAncestry
