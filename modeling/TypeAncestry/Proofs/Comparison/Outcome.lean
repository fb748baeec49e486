import TypeAncestry.Comparison

/-!
# What comparing two nodes comes to

A comparison opens a level for every pair of nodes and closes it again, whatever comes out, so it
gives its counter back as it was.  What comes out at a pair of nodes is settled by the pair itself,
or it is what comes out at the pairs of children taken together.

* `Comparison.nested_restores` : the counter is given back, and it is not misused.
* `Comparison.ofPairs_fresh` : so it can be used again, as if it were fresh.
* `Comparison.fault?` : what keeps two nodes from agreeing before their children are looked at.
* `Comparison.combine`, `Comparison.childOutcomes` : several outcomes taken together, and the
  outcomes at the children of two nodes.
* `Comparison.outcome_cases` : the three ways in which a comparison of two nodes ends.
* `Comparison.agrees_iff` : when it succeeds.
-/

namespace TypeAncestry

/-! ### Levels -/

namespace Levels

/-- The counter when `n` more levels are open. -/
def below (l : Levels) (n : Nat) : Levels := { l with depth := l.depth + n }

@[simp] theorem below_maxDepth (l : Levels) (n : Nat) : (l.below n).maxDepth = l.maxDepth := rfl

@[simp] theorem below_depth (l : Levels) (n : Nat) : (l.below n).depth = l.depth + n := rfl

@[simp] theorem below_zero (l : Levels) : l.below 0 = l := rfl

theorem below_one_below (l : Levels) (n : Nat) : (l.below 1).below n = l.below (n + 1) := by
  simp only [below, Nat.add_assoc, Nat.add_comm 1 n]

/-- A level is opened if the limit allows one more. -/
theorem enter?_eq_below {l : Levels} (h : l.depth < l.maxDepth.toNat) :
    l.enter? = some (l.below 1) :=
  enter?_eq_some_iff.2 ⟨h, rfl⟩

end Levels

namespace Comparison

/-! ### The counter -/

/-- The comparison left the counter as it had found it, and did not misuse it. -/
structure Restores (c : Comparison) (l : Levels) : Prop where
  levels : c.levels = l
  misuse : c.misuse = none

theorem Restores.settled (l : Levels) (x : Except Mismatch Compatibility) :
    (settled l x).Restores l :=
  ⟨rfl, rfl⟩

theorem Restores.close {c : Comparison} {l m : Levels} (hl : l.enter? = some m)
    (h : c.Restores m) : c.close.Restores l := by
  unfold Comparison.close
  rw [h.levels, Levels.leave_of_enter? hl]
  exact ⟨rfl, h.misuse⟩

theorem Restores.followedBy {c d : Comparison} {l m : Levels} (hc : c.Restores l)
    (hd : d.Restores m) (parent : String) (index : Nat) (r : Compatibility) :
    (c.followedBy parent index r d).Restores m := by
  refine ⟨hd.levels, ?_⟩
  rw [Comparison.followedBy, hc.misuse, hd.misuse]
  rfl

mutual

/-- **A comparison gives its counter back as it was,** whatever comes out, and does not misuse
it. -/
theorem nested_restores : ∀ (l : Levels) (s t : TypeTree), (nested l s t).Restores l
  | l, .node a as, .node b bs => by
    rw [nested]
    rcases hl : l.enter? with _ | m
    · exact .settled l _
    · refine .close hl ?_
      split
      · exact .settled m _
      · split
        · exact .settled m _
        · split
          · exact .settled m _
          · exact pairs_restores a 0 m as bs

theorem pairs_restores : ∀ (parent : String) (index : Nat) (l : Levels) (ss ts : List TypeTree),
    (pairs parent index l ss ts).Restores l
  | parent, index, l, s :: ss, t :: ts => by
    have hfirst := nested_restores l s t
    rw [pairs]
    split
    · exact hfirst
    · rw [hfirst.levels]
      exact hfirst.followedBy (pairs_restores parent (index + 1) l ss ts) parent index _
  | _, _, l, [], _ => by rw [pairs]; exact .settled l _; all_goals simp
  | _, _, l, _ :: _, [] => by rw [pairs]; exact .settled l _; all_goals simp

end

theorem ofTrees_restores (l : Levels) (s t : TypeTree) : (ofTrees l s t).Restores l := by
  have h := nested_restores l s t
  exact ⟨h.levels, h.misuse⟩

/-! ### Several comparisons with one counter -/

/-- Each of several comparisons starts with the counter that the first one started with. -/
theorem ofPairs_eq_map (l : Levels) (ps : List (TypeTree × TypeTree)) :
    ofPairs l ps = ps.map fun p => ofTrees l p.1 p.2 := by
  induction ps with
  | nil => rfl
  | cons p ps ih =>
    obtain ⟨s, t⟩ := p
    rw [ofPairs, (ofTrees_restores l s t).levels, ih, List.map_cons]

theorem ofPairs_restores {l : Levels} {ps : List (TypeTree × TypeTree)} {c : Comparison}
    (hc : c ∈ ofPairs l ps) : c.Restores l := by
  rw [ofPairs_eq_map] at hc
  obtain ⟨p, -, rfl⟩ := List.mem_map.1 hc
  exact ofTrees_restores l p.1 p.2

/-- **A counter can be used again as if it were fresh.**  Whatever the limits, each of several pairs
of trees that are compared with one counter in turn comes to what it comes to with a fresh counter:
the outcomes of the earlier pairs, failures at whatever level among them, do not matter.  Behind
each pair no level is open, nor has one been left that was not, and the counter may be given up. -/
theorem ofPairs_fresh (limits : Limits) (ps : List (TypeTree × TypeTree)) :
    let l := Levels.new limits.maxDepth
    ofPairs l ps = ps.map (fun p => ofTrees l p.1 p.2) ∧
      ∀ c ∈ ofPairs l ps, c.levels.depth = 0 ∧ c.misuse = none ∧ c.levels.abandon = none := by
  refine ⟨ofPairs_eq_map _ ps, fun c hc => ?_⟩
  obtain ⟨hlevels, hmisuse⟩ := ofPairs_restores hc
  rw [hlevels]
  exact ⟨rfl, hmisuse, rfl⟩

/-- With room for two levels, a pair that is nested too deeply, a pair of different names one level
down, and a pair of different numbers of children fail before two pairs that agree; the level that
was refused is not left, and the others are. -/
theorem ofPairs_fresh_failures :
    let l := Levels.new 2
    let deep := TypeTree.node "a" [.node "b" [.leaf "c"]]
    let ps := [(deep, deep), (.node "a" [.leaf "b"], .node "a" [.leaf "c"]),
      (.node "a" [.leaf "b"], .node "a" [.leaf "b", .leaf "b"]),
      (.node "a" [.leaf "b"], .node "a" [.leaf "?"]), (.leaf "a", .leaf "a")]
    (ofPairs l ps).map (·.outcome) =
        [.error (.nestingTooDeep "c" "c" 2), .error (.namesDiffer "b" "c"),
          .error (.childCountsDiffer "a" ["b"] "a" ["b", "b"]),
          .ok .ofTarget, .ok .exact] ∧
      ∀ c ∈ ofPairs l ps, c.levels.depth = 0 ∧ c.misuse = none ∧ c.levels.abandon = none := by
  intro l deep ps
  have hfresh := ofPairs_fresh { Limits.comparison with maxDepth := 2 } ps
  refine ⟨?_, hfresh.2⟩
  rw [hfresh.1]
  rfl

/-- The trees agree, and the comparison did not misuse its counter. -/
def Succeeds (c : Comparison) : Prop := c.misuse = none ∧ ∃ r, c.outcome = .ok r

/-! ### Several outcomes -/

/-- Outcomes taken together: the first that is a failure, or else all that is unknown in any of
them. -/
def combine : List (Except Mismatch Compatibility) → Except Mismatch Compatibility
  | [] => .ok .exact
  | .error e :: _ => .error e
  | .ok r :: xs => (combine xs).map r.merge

/-- The children of two nodes come to what they come to in pairs, taken together. -/
theorem outcome_pairs (l : Levels) (ss : List TypeTree) :
    ∀ (ts : List TypeTree) (parent : String) (index : Nat),
      (pairs parent index l ss ts).outcome =
        combine (List.zipWith (fun s t => (nested l s t).outcome) ss ts) := by
  induction ss with
  | nil => intro ts parent index; rw [pairs]; rfl; simp
  | cons s ss ih =>
    intro ts parent index
    cases ts with
    | nil => rw [pairs]; rfl; simp
    | cons t ts =>
      rw [pairs, List.zipWith_cons_cons]
      rcases hfirst : (nested l s t).outcome with e | r
      · simp [hfirst, combine]
      · simp only [followedBy, combine, (nested_restores l s t).levels, ih]

variable {xs : List (Except Mismatch Compatibility)} {e : Mismatch} {r : Compatibility}

/-- Outcomes fail together with the first of them that fails. -/
theorem exists_of_combine_error (h : combine xs = .error e) :
    ∃ i : Nat, xs[i]? = some (.error e) ∧ ∀ j < i, ∃ r, xs[j]? = some (.ok r) := by
  induction xs with
  | nil => cases h
  | cons x xs ih =>
    rcases x with e' | r
    · obtain rfl := Except.error.inj h
      exact ⟨0, rfl, fun j hj => absurd hj (Nat.not_lt_zero j)⟩
    · rcases hxs : combine xs with e' | r'
      · rw [combine, hxs] at h
        obtain rfl := Except.error.inj h
        obtain ⟨i, hi, hbefore⟩ := ih hxs
        refine ⟨i + 1, hi, fun j hj => ?_⟩
        cases j with
        | zero => exact ⟨r, rfl⟩
        | succ j => exact hbefore j (Nat.lt_of_succ_lt_succ hj)
      · rw [combine, hxs] at h
        cases h

/-- Outcomes agree together only if each of them does. -/
theorem eq_ok_of_combine_ok (h : combine xs = .ok r) : ∀ x ∈ xs, ∃ r', x = .ok r' := by
  induction xs generalizing r with
  | nil => simp
  | cons x xs ih =>
    rcases x with e | r'
    · cases h
    · rcases hxs : combine xs with e | r''
      · rw [combine, hxs] at h
        cases h
      · exact List.forall_mem_cons.2 ⟨⟨r', rfl⟩, ih hxs⟩

/-- Outcomes that all agree do so together. -/
theorem exists_combine_ok (h : ∀ x ∈ xs, ∃ r', x = .ok r') : ∃ r, combine xs = .ok r := by
  rcases hxs : combine xs with e | r
  · obtain ⟨i, hi, -⟩ := exists_of_combine_error hxs
    obtain ⟨r', hr'⟩ := h _ (List.mem_of_getElem? hi)
    cases hr'
  · exact ⟨r, rfl⟩

/-- One of the two marks of a grade: whether it is set in the whole is seen from the parts. -/
structure IsMark (mark : Compatibility → Bool) : Prop where
  exact : mark .exact = false
  merge : ∀ a b, mark (a.merge b) = (mark a || mark b)

theorem isMark_sourceUnknown : IsMark Compatibility.sourceUnknown := ⟨rfl, fun _ _ => rfl⟩

theorem isMark_targetUnknown : IsMark Compatibility.targetUnknown := ⟨rfl, fun _ _ => rfl⟩

/-- A mark is set on outcomes taken together if it is set on one of them. -/
theorem mark_combine_iff {mark : Compatibility → Bool} (hm : IsMark mark)
    (h : combine xs = .ok r) : mark r = true ↔ ∃ r', .ok r' ∈ xs ∧ mark r' = true := by
  induction xs generalizing r with
  | nil =>
    obtain rfl := Except.ok.inj h
    simp [hm.exact]
  | cons x xs ih =>
    rcases x with e | r'
    · cases h
    · rcases hxs : combine xs with e | r''
      · rw [combine, hxs] at h
        cases h
      · rw [combine, hxs] at h
        obtain rfl := Except.ok.inj h
        rw [hm.merge, Bool.or_eq_true, ih hxs]
        simp

/-! ### A pair of nodes -/

/-- What keeps two nodes from agreeing before their children are looked at: too many levels are
open, or the names differ and neither is `?`, or the names are the same, not `?`, and the numbers of
children differ. -/
def fault? (l : Levels) (s t : TypeTree) : Option Mismatch :=
  if l.maxDepth.toNat ≤ l.depth then some (.nestingTooDeep s.name t.name l.maxDepth)
  else if s.name ≠ t.name ∧ s.name ≠ Name.top ∧ t.name ≠ Name.top then
    some (.namesDiffer s.name t.name)
  else if s.name = t.name ∧ s.name ≠ Name.top ∧ s.children.length ≠ t.children.length then
    some (.ofChildCounts s t)
  else none

variable {l : Levels} {s t : TypeTree} {x : Except Mismatch Compatibility}

/-- The outcomes at the children of two nodes, pair by pair. -/
def childOutcomes (l : Levels) (s t : TypeTree) : List (Except Mismatch Compatibility) :=
  List.zipWith (fun u v => (nested (l.below 1) u v).outcome) s.children t.children

theorem getElem?_childOutcomes {i : Nat} : (childOutcomes l s t)[i]? = some x ↔
    ∃ u v, s.children[i]? = some u ∧ t.children[i]? = some v ∧
      (nested (l.below 1) u v).outcome = x :=
  List.getElem?_zipWith_eq_some

theorem mem_childOutcomes : x ∈ childOutcomes l s t ↔
    ∃ (i : Nat) (u v : TypeTree), s.children[i]? = some u ∧ t.children[i]? = some v ∧
      (nested (l.below 1) u v).outcome = x := by
  simp only [List.mem_iff_getElem?, getElem?_childOutcomes]

theorem outcome_mem_childOutcomes {u v : TypeTree} {i : Nat} (l : Levels)
    (hu : s.children[i]? = some u) (hv : t.children[i]? = some v) :
    (nested (l.below 1) u v).outcome ∈ childOutcomes l s t :=
  mem_childOutcomes.2 ⟨i, u, v, hu, hv, rfl⟩

theorem outcome_close (c : Comparison) : c.close.outcome = c.outcome := by
  unfold close
  split <;> rfl

/-- Two nodes are without a fault if there is room for one more level, and one of them is `?` or
they have the same name and equally many children. -/
theorem fault?_eq_none_iff : fault? l s t = none ↔ l.depth < l.maxDepth.toNat ∧
    (s.isTop = true ∨ t.isTop = true ∨
      (s.name = t.name ∧ s.children.length = t.children.length)) := by
  simp only [TypeTree.isTop_iff]
  unfold fault?
  grind

/-- The outcome at two nodes when a level has been opened for them. -/
theorem outcome_nested (h : l.depth < l.maxDepth.toNat) :
    (nested l s t).outcome =
      if s.name ≠ t.name then
        if s.isTop then .ok .ofSource
        else if t.isTop then .ok .ofTarget
        else .error (.namesDiffer s.name t.name)
      else if s.isTop then .ok .both
      else if s.children.length ≠ t.children.length then .error (.ofChildCounts s t)
      else combine (childOutcomes l s t) := by
  obtain ⟨a, as⟩ := s
  obtain ⟨b, bs⟩ := t
  rw [nested, Levels.enter?_eq_below h]
  simp only [outcome_close, apply_ite outcome, outcome_pairs, settled]
  rfl

theorem outcome_of_fault (h : fault? l s t = some e) : (nested l s t).outcome = .error e := by
  unfold fault? at h
  split at h
  · next hfull =>
    obtain rfl := Option.some.inj h
    obtain ⟨a, as⟩ := s
    obtain ⟨b, bs⟩ := t
    rw [nested, Levels.enter?_eq_none_iff.2 hfull]
    rfl
  · next hroom =>
    rw [outcome_nested (Nat.lt_of_not_le hroom)]
    split at h
    · next hname =>
      obtain rfl := Option.some.inj h
      obtain ⟨hne, hs, ht⟩ := hname
      rw [if_pos hne, if_neg (mt TypeTree.isTop_iff.1 hs), if_neg (mt TypeTree.isTop_iff.1 ht)]
    · split at h
      · next hcount =>
        obtain rfl := Option.some.inj h
        obtain ⟨hname, hs, hne⟩ := hcount
        rw [if_neg (not_not_intro hname), if_neg (mt TypeTree.isTop_iff.1 hs), if_pos hne]
      · cases h

theorem outcome_of_top (h : fault? l s t = none) (htop : s.isTop = true ∨ t.isTop = true) :
    (nested l s t).outcome = .ok ⟨s.isTop, t.isTop⟩ := by
  rw [outcome_nested (fault?_eq_none_iff.1 h).1]
  by_cases hname : s.name = t.name
  · have hsame : s.isTop = t.isTop := by rw [TypeTree.isTop, TypeTree.isTop, hname]
    have hs : s.isTop = true := by simpa [hsame] using htop
    rw [if_neg (not_not_intro hname), if_pos hs, ← hsame, hs]
    rfl
  · rw [if_pos hname]
    -- as the names differ, only one of the two is `?`
    rcases hs : s.isTop
    · have ht : t.isTop = true := by simpa [hs] using htop
      rw [if_neg Bool.false_ne_true, if_pos ht, ht]
      rfl
    · have ht : t.isTop = false := by
        rw [TypeTree.isTop_eq_false_iff, ← TypeTree.isTop_iff.1 hs]
        exact Ne.symm hname
      rw [if_pos rfl, ht]
      rfl

/-- Two nodes without a fault, and neither of which is `?`, have the same name and equally many
children. -/
theorem eq_of_fault?_eq_none (h : fault? l s t = none) (hs : s.isTop = false)
    (ht : t.isTop = false) : s.name = t.name ∧ s.children.length = t.children.length := by
  obtain ⟨-, htop | htop | heq⟩ := fault?_eq_none_iff.1 h
  · simp [hs] at htop
  · simp [ht] at htop
  · exact heq

theorem outcome_of_children (h : fault? l s t = none) (hs : s.isTop = false)
    (ht : t.isTop = false) : (nested l s t).outcome = combine (childOutcomes l s t) := by
  obtain ⟨hname, hcount⟩ := eq_of_fault?_eq_none h hs ht
  rw [outcome_nested (fault?_eq_none_iff.1 h).1, if_neg (not_not_intro hname),
    if_neg (by simp [hs]), if_neg (not_not_intro hcount)]

/-- **How a comparison of two nodes ends**: with their own fault; at once, as one of them is `?`;
or with what their children come to. -/
theorem outcome_cases (l : Levels) (s t : TypeTree) :
    (∃ e, fault? l s t = some e ∧ (nested l s t).outcome = .error e) ∨
    (fault? l s t = none ∧ (s.isTop = true ∨ t.isTop = true) ∧
      (nested l s t).outcome = .ok ⟨s.isTop, t.isTop⟩) ∨
    (fault? l s t = none ∧ (s.isTop = false ∧ t.isTop = false) ∧
      (nested l s t).outcome = combine (childOutcomes l s t)) := by
  rcases h : fault? l s t with _ | e
  · by_cases htop : s.isTop = true ∨ t.isTop = true
    · exact .inr (.inl ⟨rfl, htop, outcome_of_top h htop⟩)
    · obtain ⟨hs, ht⟩ : s.isTop = false ∧ t.isTop = false := by simpa using htop
      exact .inr (.inr ⟨rfl, ⟨hs, ht⟩, outcome_of_children h hs ht⟩)
  · exact .inl ⟨e, rfl, outcome_of_fault h⟩

/-- The comparison of two nodes succeeds. -/
def Agrees (l : Levels) (s t : TypeTree) : Prop := ∃ r, (nested l s t).outcome = .ok r

/-- **When two nodes agree**: a level can be opened for them, and one of them is `?` or they have
the same name and equally many children, which agree in pairs. -/
theorem agrees_iff : Agrees l s t ↔ l.depth < l.maxDepth.toNat ∧
    (s.isTop = true ∨ t.isTop = true ∨
      (s.name = t.name ∧ s.children.length = t.children.length ∧
        ∀ (i : Nat) (u v : TypeTree), s.children[i]? = some u → t.children[i]? = some v →
          Agrees (l.below 1) u v)) := by
  obtain ⟨e, hfault, he⟩ | ⟨hfault, htop, hr⟩ | ⟨hfault, ⟨hs, ht⟩, hc⟩ := outcome_cases l s t
  · constructor
    · rintro ⟨r, hr⟩
      cases he.symm.trans hr
    · rintro ⟨hroom, h⟩
      have hnone : fault? l s t = none := fault?_eq_none_iff.2
        ⟨hroom, h.imp_right (.imp_right fun ⟨hname, hcount, _⟩ => ⟨hname, hcount⟩)⟩
      cases hfault.symm.trans hnone
  · have hroom := (fault?_eq_none_iff.1 hfault).1
    exact ⟨fun _ => ⟨hroom, htop.imp_right .inl⟩, fun _ => ⟨_, hr⟩⟩
  · have hroom := (fault?_eq_none_iff.1 hfault).1
    obtain ⟨hname, hcount⟩ := eq_of_fault?_eq_none hfault hs ht
    constructor
    · rintro ⟨r, hr⟩
      rw [hc] at hr
      refine ⟨hroom, .inr (.inr ⟨hname, hcount, fun i u v hu hv => ?_⟩)⟩
      exact eq_ok_of_combine_ok hr _ (outcome_mem_childOutcomes l hu hv)
    · rintro ⟨-, h⟩
      have hchildren : ∀ (i : Nat) (u v : TypeTree), s.children[i]? = some u →
          t.children[i]? = some v → Agrees (l.below 1) u v := by
        simpa [hs, ht, hname, hcount] using h
      unfold Agrees
      rw [hc]
      refine exists_combine_ok fun x hx => ?_
      obtain ⟨i, u, v, hu, hv, rfl⟩ := mem_childOutcomes.1 hx
      exact hchildren i u v hu hv

end Comparison

namespace TypeTree

/-- Comparing two trees with a fresh counter does not misuse it. -/
theorem compare_misuse (s t : TypeTree) : (s.compare t).misuse = none := by
  have h := Comparison.ofTrees_restores (Levels.new Limits.comparison.maxDepth) s t
  rw [compare, h.misuse, h.levels]
  rfl

theorem compare_succeeds_iff {s t : TypeTree} : (s.compare t).Succeeds ↔
    Comparison.Agrees (Levels.new Limits.comparison.maxDepth) s t :=
  ⟨fun h => h.2, fun h => ⟨s.compare_misuse t, h⟩⟩

end TypeTree

end TypeAncestry
