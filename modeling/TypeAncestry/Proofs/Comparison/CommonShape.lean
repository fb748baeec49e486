import TypeAncestry.Proofs.Comparison.Outcome
import TypeAncestry.Proofs.Tree.Positions

/-!
# Trees agree if a known tree stands between them

Agreement does not pass from one tree to the next, as `?` agrees with everything.  It does pass
through a tree without `?`; and between two trees that agree there always is such a tree, in which
each of them fills in what the other leaves open.

* `TypeTree.known` : a tree with some known type in the place of every `?`.
* `TypeTree.meet` : the tree that fills in what is open in one of two trees from the other one.
* `Comparison.Agrees.trans_known` : agreement passes through trees without `?`.
* `TypeTree.compare_succeeds_iff_exists_known` : two trees agree exactly if a tree without `?`
  agrees with both.
-/

namespace TypeAncestry

namespace TypeTree

mutual

/-- The tree with some known type in the place of every `?` and of what lies below it. -/
def known : TypeTree → TypeTree
  | node n cs => if Name.isTop n then null else node n (knownAll cs)

/-- The same for every tree in a list. -/
def knownAll : List TypeTree → List TypeTree
  | [] => []
  | t :: ts => t.known :: knownAll ts

end

mutual

/-- Two trees laid over one another: where one has `?`, the other counts. -/
def meet : TypeTree → TypeTree → TypeTree
  | node a as, node b bs =>
    if Name.isTop a then known (node b bs)
    else if Name.isTop b then known (node a as)
    else node a (meetAll as bs)

/-- Two lists of trees laid over one another in pairs. -/
def meetAll : List TypeTree → List TypeTree → List TypeTree
  | s :: ss, t :: ts => s.meet t :: meetAll ss ts
  | _, _ => []

end

variable {s t u v : TypeTree} {i : Nat}

theorem knownAll_eq_map (ts : List TypeTree) : knownAll ts = ts.map known := by
  induction ts with
  | nil => rfl
  | cons t ts ih => rw [knownAll, ih, List.map_cons]

theorem meetAll_eq_zipWith (ss : List TypeTree) :
    ∀ ts : List TypeTree, meetAll ss ts = List.zipWith meet ss ts := by
  induction ss with
  | nil => intro ts; cases ts <;> rfl
  | cons s ss ih =>
    intro ts
    cases ts with
    | nil => rfl
    | cons t ts => rw [meetAll, ih, List.zipWith_cons_cons]

theorem known_of_top (h : t.isTop = true) : t.known = null := by
  obtain ⟨n, cs⟩ := t
  have hn : Name.isTop n = true := h
  rw [known, if_pos hn]

theorem known_of_not_top (h : t.isTop = false) : t.known = node t.name (t.children.map known) := by
  obtain ⟨n, cs⟩ := t
  have hn : Name.isTop n = false := h
  rw [known, if_neg (by simp [hn]), knownAll_eq_map]
  rfl

theorem meet_of_source_top (h : s.isTop = true) : s.meet t = t.known := by
  obtain ⟨a, as⟩ := s
  obtain ⟨b, bs⟩ := t
  have ha : Name.isTop a = true := h
  rw [meet, if_pos ha]

theorem meet_of_target_top (hs : s.isTop = false) (ht : t.isTop = true) : s.meet t = s.known := by
  obtain ⟨a, as⟩ := s
  obtain ⟨b, bs⟩ := t
  have ha : Name.isTop a = false := hs
  have hb : Name.isTop b = true := ht
  rw [meet, if_neg (by simp [ha]), if_pos hb]

theorem meet_of_not_top (hs : s.isTop = false) (ht : t.isTop = false) :
    s.meet t = node s.name (List.zipWith meet s.children t.children) := by
  obtain ⟨a, as⟩ := s
  obtain ⟨b, bs⟩ := t
  have ha : Name.isTop a = false := hs
  have hb : Name.isTop b = false := ht
  rw [meet, if_neg (by simp [ha]), if_neg (by simp [hb]), meetAll_eq_zipWith]
  rfl

/-! ### Nothing is left open -/

theorem containsTop_known (t : TypeTree) : t.known.containsTop = false := by
  induction t using TypeTree.inductChildren with
  | tree t ih =>
    rcases h : t.isTop
    · rw [known_of_not_top h]
      refine containsTop_eq_false_iff.2 ⟨h, fun i c hc => ?_⟩
      rw [children_node, List.getElem?_map] at hc
      obtain ⟨u, hu, rfl⟩ := Option.map_eq_some_iff.1 hc
      exact ih i u hu
    · rw [known_of_top h]
      rfl

theorem containsTop_meet (s t : TypeTree) : (s.meet t).containsTop = false := by
  induction s using TypeTree.inductChildren generalizing t with
  | tree s ih =>
    rcases hs : s.isTop
    · rcases ht : t.isTop
      · rw [meet_of_not_top hs ht]
        refine containsTop_eq_false_iff.2 ⟨hs, fun i c hc => ?_⟩
        obtain ⟨u, v, hu, -, rfl⟩ := List.getElem?_zipWith_eq_some.1 hc
        exact ih i u hu v
      · rw [meet_of_target_top hs ht]
        exact s.containsTop_known
    · rw [meet_of_source_top hs]
      exact t.containsTop_known

end TypeTree

namespace Comparison

open TypeTree

variable {l : Levels} {s t u : TypeTree}

/-! ### Agreement with what fills the gaps -/

theorem Agrees.symm (h : Agrees l s t) : Agrees l t s := by
  induction s using TypeTree.inductChildren generalizing l t with
  | tree s ih =>
    obtain ⟨hroom, htop | htop | ⟨hname, hcount, hchildren⟩⟩ := agrees_iff.1 h
    · exact agrees_iff.2 ⟨hroom, .inr (.inl htop)⟩
    · exact agrees_iff.2 ⟨hroom, .inl htop⟩
    · refine agrees_iff.2 ⟨hroom, .inr (.inr ⟨hname.symm, hcount.symm, fun i v u hv hu => ?_⟩)⟩
      exact ih i u hu (hchildren i u v hu hv)

/-- A tree agrees with what fills its gaps, if there is room for all its levels. -/
theorem agrees_known (h : l.depth + t.depth ≤ l.maxDepth.toNat) : Agrees l t t.known := by
  induction t using TypeTree.inductChildren generalizing l with
  | tree t ih =>
    have hroom : l.depth < l.maxDepth.toNat := by
      have := t.depth_pos
      omega
    rcases htop : t.isTop
    · refine agrees_iff.2 ⟨hroom, .inr (.inr ?_)⟩
      rw [known_of_not_top htop]
      refine ⟨rfl, by simp, fun i u v hu hv => ?_⟩
      rw [children_node, List.getElem?_map, hu, Option.map_some] at hv
      obtain rfl := Option.some.inj hv
      have hdepth := depth_lt_of_child hu
      refine ih i u hu ?_
      rw [Levels.below_depth, Levels.below_maxDepth]
      omega
    · exact agrees_iff.2 ⟨hroom, .inl htop⟩

/-- Two trees that agree both agree with what comes of laying them over one another. -/
theorem Agrees.meet (h : Agrees l s t) (hs : l.depth + s.depth ≤ l.maxDepth.toNat)
    (ht : l.depth + t.depth ≤ l.maxDepth.toNat) :
    Agrees l s (s.meet t) ∧ Agrees l (s.meet t) t := by
  induction s using TypeTree.inductChildren generalizing l t with
  | tree s ih =>
    obtain ⟨hroom, hagree⟩ := agrees_iff.1 h
    rcases hstop : s.isTop
    · rcases httop : t.isTop
      · -- neither is `?`, so the names agree, and so do the children in pairs
        obtain ⟨hname, hcount, hchildren⟩ : s.name = t.name ∧
            s.children.length = t.children.length ∧ ∀ (i : Nat) (u v : TypeTree),
              s.children[i]? = some u → t.children[i]? = some v → Agrees (l.below 1) u v := by
          simpa [hstop, httop] using hagree
        have hpair : ∀ (i : Nat) (u v : TypeTree), s.children[i]? = some u →
            t.children[i]? = some v →
              Agrees (l.below 1) u (u.meet v) ∧ Agrees (l.below 1) (u.meet v) v := by
          intro i u v hu hv
          have hdu := depth_lt_of_child hu
          have hdv := depth_lt_of_child hv
          refine ih i u hu (hchildren i u v hu hv) ?_ ?_ <;>
            rw [Levels.below_depth, Levels.below_maxDepth] <;> omega
        rw [meet_of_not_top hstop httop]
        have hlen : (List.zipWith TypeTree.meet s.children t.children).length =
            s.children.length := by simp [hcount]
        constructor
        · refine agrees_iff.2 ⟨hroom, .inr (.inr ⟨rfl, hlen.symm, fun i u w hu hw => ?_⟩)⟩
          obtain ⟨u', v, hu', hv, rfl⟩ := List.getElem?_zipWith_eq_some.1 hw
          obtain rfl : u = u' := Option.some.inj (hu.symm.trans hu')
          exact (hpair i u v hu hv).1
        · refine agrees_iff.2 ⟨hroom, .inr (.inr ⟨hname, hlen.trans hcount, ?_⟩)⟩
          intro i w v hw hv
          obtain ⟨u, v', hu, hv', rfl⟩ := List.getElem?_zipWith_eq_some.1 hw
          obtain rfl : v = v' := Option.some.inj (hv.symm.trans hv')
          exact (hpair i u v hu hv).2
      · rw [meet_of_target_top hstop httop]
        exact ⟨agrees_known hs, agrees_iff.2 ⟨hroom, .inr (.inl httop)⟩⟩
    · rw [meet_of_source_top hstop]
      exact ⟨agrees_iff.2 ⟨hroom, .inl hstop⟩, (agrees_known ht).symm⟩

/-- **Agreement passes through a tree without `?`.** -/
theorem Agrees.trans_known (h : Agrees l s u) (hu : u.containsTop = false) (h' : Agrees l u t) :
    Agrees l s t := by
  induction s using TypeTree.inductChildren generalizing l u t with
  | tree s ih =>
    obtain ⟨htop, hbelow⟩ := containsTop_eq_false_iff.1 hu
    obtain ⟨hroom, hs⟩ := agrees_iff.1 h
    obtain ⟨-, ht⟩ := agrees_iff.1 h'
    rw [htop] at hs ht
    rcases hs with hs | hs | ⟨hname, hcount, hchildren⟩
    · exact agrees_iff.2 ⟨hroom, .inl hs⟩
    · cases hs
    · rcases ht with ht | ht | ⟨hname', hcount', hchildren'⟩
      · cases ht
      · exact agrees_iff.2 ⟨hroom, .inr (.inl ht)⟩
      · refine agrees_iff.2 ⟨hroom, .inr (.inr ⟨hname.trans hname', hcount.trans hcount', ?_⟩)⟩
        intro i v w hv hw
        -- the child of the tree between the two
        obtain ⟨x, hx⟩ : ∃ x, u.children[i]? = some x := by
          have hlt := (List.getElem?_eq_some_iff.1 hv).1
          exact ⟨_, List.getElem?_eq_getElem (hcount ▸ hlt)⟩
        exact ih i v hv (hchildren i v x hv hx) (hbelow i x hx) (hchildren' i x w hx hw)

end Comparison

namespace TypeTree

/-- **Two trees agree exactly if a tree without `?` agrees with both of them,** as long as they have
no more levels than a comparison may open.  The tree between them may be as deep as it likes. -/
theorem compare_succeeds_iff_exists_known (s t : TypeTree) (hs : s.depth ≤ 1024)
    (ht : t.depth ≤ 1024) : (s.compare t).Succeeds ↔
      ∃ u : TypeTree, u.containsTop = false ∧ (s.compare u).Succeeds ∧ (u.compare t).Succeeds := by
  simp only [compare_succeeds_iff]
  have hmax : (Levels.new Limits.comparison.maxDepth).maxDepth.toNat = 1024 := rfl
  constructor
  · intro h
    obtain ⟨hsource, htarget⟩ := h.meet (by rw [hmax]; simpa [Levels.new] using hs)
      (by rw [hmax]; simpa [Levels.new] using ht)
    exact ⟨s.meet t, containsTop_meet s t, hsource, htarget⟩
  · rintro ⟨u, hu, hsource, htarget⟩
    exact hsource.trans_known hu htarget

/-- A map of which the key is open, though something stands below it, and one of which the value is
open have a common form without `?`.  Two maps with different values have none, even if the key is
open in both. -/
theorem compare_succeeds_iff_exists_known_map :
    let s := node "a.Map" [.node "?" [.leaf "b.Key"], .leaf "b.Value"]
    let t := node "a.Map" [.node "a.List" [.top], .top]
    let v := node "a.Map" [.top, .leaf "b.Other"]
    (s.depth ≤ 1024 ∧ t.depth ≤ 1024 ∧ v.depth ≤ 1024) ∧
      (∃ u : TypeTree, u.containsTop = false ∧ (s.compare u).Succeeds ∧ (u.compare t).Succeeds) ∧
      ¬ ∃ u : TypeTree, u.containsTop = false ∧ (s.compare u).Succeeds ∧
        (u.compare v).Succeeds := by
  intro s t v
  have hs : s.depth ≤ 1024 := by decide
  have ht : t.depth ≤ 1024 := by decide
  have hv : v.depth ≤ 1024 := by decide
  have hagree : (s.compare t).outcome = .ok .both := by decide +kernel
  have hdiffer : (s.compare v).outcome = .error (.namesDiffer "b.Value" "b.Other") := by
    decide +kernel
  refine ⟨⟨hs, ht, hv⟩, (compare_succeeds_iff_exists_known s t hs ht).1
    ⟨compare_misuse s t, .both, hagree⟩, fun hu => ?_⟩
  obtain ⟨-, r, hr⟩ := (compare_succeeds_iff_exists_known s v hs hv).2 hu
  rw [hdiffer] at hr
  cases hr

end TypeTree

end TypeAncestry
