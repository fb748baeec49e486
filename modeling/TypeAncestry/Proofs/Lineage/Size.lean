import TypeAncestry.Proofs.Comparison.FirstFault
import TypeAncestry.Proofs.Lineage.Following

/-!
# How large a lineage can be

A lineage is finite even where types have infinitely many ancestors: it is no deeper than the limit
on depth allows, with one more level for what is refused there.  The limit on steps does not bound
the number of nodes, as leaves cost nothing and what is refused leaves a leaf behind; and when the
budget is spent the walk goes on through what is left below the types that are open.  But each type
that is expanded costs a step of the budget, so the budget bounds the nodes with children, and with
the number of types next to one that is expanded it bounds all nodes.

* `Guard.room` : what is left of the budget.
* `Oracle.Runs.entries_le` : each expansion costs a step.
* `Oracle.Runs.depth_le`, `Oracle.Runs.inner_le`, `Oracle.Runs.size_le` : the bounds along a course.
* `TypeTree.not_nestingTooDeep` : comparisons can cope with trees that are not deeper than they go.
* `Oracle.lineage_size` : the bounds for lineages.
-/

namespace TypeAncestry

/-! ### What is left of the budget -/

namespace Guard

variable {K : Type}

/-- The number of steps that are left. -/
def room (g : Guard K) : Nat := g.limits.maxSteps.toNat - g.steps

variable [DecidableEq K] {g g' : Guard K} {k : K}

theorem room_enter_le (g : Guard K) (k : K) : (g.enter k).2.room ≤ g.room := by
  have hbound := g.limits.maxSteps.toNat_lt
  rw [room, room, limits_enter, enter_steps, stepsCap]
  omega

/-- What is entered costs a step. -/
theorem room_lt_of_entered (he : (g.enter k).1 = .entered)
    (hlimit : g.limits.maxSteps.toNat < stepsCap) : (g.enter k).2.room < g.room := by
  obtain ⟨hsteps, -⟩ := of_entered he
  rw [room, room, limits_enter, enter_steps]
  omega

theorem room_leave (h : g.leave k = .ok g') : g'.room = g.room := by
  obtain ⟨-, rfl⟩ := of_leave h
  rfl

end Guard

/-! ### What is counted -/

namespace Attempt

variable {H : Type} [DecidableEq H]

/-- How many of the attempts are successful. -/
def entries (as : List (Attempt H)) : Nat := as.countP (·.answer = .entered)

@[simp] theorem entries_append (as bs : List (Attempt H)) :
    entries (as ++ bs) = entries as + entries bs :=
  List.countP_append

section

variable {t : Target H} {g g' : Guard (Target H)} {as : List (Attempt H)}

theorem entries_of_entered (h : (g.enter t).1 = .entered) :
    entries (⟨t, g, g'⟩ :: as) = 1 + entries as := by
  simp [entries, answer, h, Nat.add_comm]

theorem entries_of_refused (h : (g.enter t).1 ≠ .entered) :
    entries (⟨t, g, g'⟩ :: as) = entries as := by
  simp [entries, answer, h]

end

end Attempt

namespace TypeTree

/-- The number of nodes with children. -/
def inner (t : TypeTree) : Nat := t.preorder.countP (!·.isLeaf)

/-- The number of nodes with children in a list of trees. -/
def innerAll (ts : List TypeTree) : Nat := (preorderAll ts).countP (!·.isLeaf)

theorem innerAll_cons (t : TypeTree) (ts : List TypeTree) :
    innerAll (t :: ts) = t.inner + innerAll ts :=
  List.countP_append

theorem inner_leaf (n : String) : (leaf n).inner = 0 := rfl

theorem size_leaf (n : String) : (leaf n).size = 1 := rfl

theorem inner_node_le (n : String) (ts : List TypeTree) : (node n ts).inner ≤ 1 + innerAll ts := by
  rw [inner, preorder, List.countP_cons, innerAll]
  split <;> omega

end TypeTree

namespace Oracle

variable {H : Type}

/-- The number of declared parameters or of arguments. -/
def parameterCount (o : Oracle H) : Target H → Nat
  | .declared h => (o.typeParameters h).length
  | .applied _ args => args.length

/-- How many types can come below a type: its parameters or arguments, its interfaces, and its
super-type. -/
def width (o : Oracle H) (t : Target H) : Nat :=
  o.parameterCount t + (o.interfaces t.handle).length + 1

theorem length_layer_le (o : Oracle H) (t : Target H) :
    (o.layer t).candidates.length ≤ o.width t := by
  have hparameters : (o.parameters t).length = o.parameterCount t := by
    cases t <;> exact List.length_map _
  have hancestor : ∀ u : Target H, (o.ancestor u).length ≤ 1 := by
    intro u
    unfold ancestor
    split <;> simp
  have hsuper : (o.superLayer t.handle).candidates.length ≤ 1 := by
    unfold superLayer
    rcases o.superType t.handle with _ | _ | _ | _
    · exact Nat.zero_le 1
    · exact hancestor _
    · exact hancestor _
    · exact Nat.zero_le 1
  simp only [layer, width, List.length_append, List.length_map, hparameters]
  omega

/-! ### Bounds along a course -/

variable [DecidableEq H] {o : Oracle H} {f : Filters}

mutual

/-- **Each expansion costs a step of the budget.** -/
theorem Runs.entries_le {t : Target H} {g g' : Guard (Target H)} {x : Course H}
    (hlimit : g.limits.maxSteps.toNat < Guard.stepsCap) :
    o.Runs f t g x g' → Attempt.entries x.attempts + g'.room ≤ g.room
  | .refused he => by
    have hroom := g.room_enter_le t
    rw [Course.attempts, Attempt.entries_of_refused he]
    exact (Nat.zero_add _).symm ▸ hroom
  | .entered he hr hl => by
    -- entering takes one step out of the room, which pays for this attempt
    have hroom := Guard.room_lt_of_entered he hlimit
    have hbelow := hr.entries_le (by rw [Guard.limits_enter]; exact hlimit)
    have hleave := Guard.room_leave hl
    rw [Course.attempts, Attempt.entries_of_entered he]
    omega

theorem RunsAll.entries_le {cs : List (Candidate H)} {g g' : Guard (Target H)}
    {xs : List (Course H)} (hlimit : g.limits.maxSteps.toNat < Guard.stepsCap) :
    o.RunsAll f cs g xs g' → Attempt.entries (Course.attemptsAll xs) + g'.room ≤ g.room
  | .nil => (Nat.zero_add _).le
  | .excluded _ hr => hr.entries_le hlimit
  | .leaf _ _ hr => by
    rw [Course.attemptsAll_leaf]
    exact hr.entries_le hlimit
  | .target _ _ hu hr => by
    have hfirst := hu.entries_le hlimit
    have hrest := hr.entries_le (by rw [hu.restored.limits]; exact hlimit)
    rw [Course.attemptsAll, Attempt.entries_append]
    omega

end

mutual

/-- A tree has at most one level more than may still be opened. -/
theorem Runs.depth_le {t : Target H} {g g' : Guard (Target H)} {x : Course H} :
    o.Runs f t g x g' → (x.tree o).depth ≤ g.limits.maxDepth.toNat - g.depth + 1
  | .refused _ => by simp [Course.tree, Course.treeAll, TypeTree.depth, TypeTree.depthAll]
  | .entered he hr hl => by
    obtain ⟨-, hdepth, -, hopened⟩ := Guard.of_entered he
    have hbelow := hr.depth_le
    have hlevel : (g.opened t).depth = g.depth + 1 := rfl
    have hlimits : (g.opened t).limits = g.limits := rfl
    rw [hopened, hlevel, hlimits] at hbelow
    simp only [Course.tree, TypeTree.depth]
    omega

theorem RunsAll.depth_le {cs : List (Candidate H)} {g g' : Guard (Target H)}
    {xs : List (Course H)} : o.RunsAll f cs g xs g' →
      TypeTree.depthAll (Course.treeAll o xs) ≤ g.limits.maxDepth.toNat - g.depth + 1
  | .nil => Nat.zero_le _
  | .excluded _ hr => hr.depth_le
  | .leaf _ _ hr => by
    have hrest := hr.depth_le
    simp only [Course.treeAll, Course.tree, TypeTree.leaf, TypeTree.depth, TypeTree.depthAll]
    omega
  | .target _ _ hu hr => by
    have hfirst := hu.depth_le
    have hrest := hr.depth_le
    rw [hu.restored.limits, hu.restored.depth] at hrest
    simp only [Course.treeAll, TypeTree.depthAll]
    omega

end

mutual

/-- Where a tree has a node with children, a type was expanded. -/
theorem Runs.inner_le {t : Target H} {g g' : Guard (Target H)} {x : Course H} :
    o.Runs f t g x g' → (x.tree o).inner ≤ Attempt.entries x.attempts
  | .refused _ => Nat.zero_le _
  | .entered he hr _ => by
    have hbelow := hr.inner_le
    rw [Course.attempts, Attempt.entries_of_entered he, Course.tree]
    exact (TypeTree.inner_node_le _ _).trans (Nat.add_le_add_left hbelow 1)

theorem RunsAll.inner_le {cs : List (Candidate H)} {g g' : Guard (Target H)}
    {xs : List (Course H)} : o.RunsAll f cs g xs g' →
      TypeTree.innerAll (Course.treeAll o xs) ≤ Attempt.entries (Course.attemptsAll xs)
  | .nil => Nat.zero_le _
  | .excluded _ hr => hr.inner_le
  | .leaf _ _ hr => by
    have hrest := hr.inner_le
    rw [Course.treeAll, Course.tree, TypeTree.innerAll_cons, TypeTree.inner_leaf, Nat.zero_add,
      Course.attemptsAll_leaf]
    exact hrest
  | .target _ _ hu hr => by
    have hfirst := hu.inner_le
    have hrest := hr.inner_le
    rw [Course.treeAll, TypeTree.innerAll_cons, Course.attemptsAll, Attempt.entries_append]
    exact Nat.add_le_add hfirst hrest

end

/-- What is put below a type is no more than the candidates. -/
theorem RunsAll.length_le {cs : List (Candidate H)} {g g' : Guard (Target H)}
    {xs : List (Course H)} : o.RunsAll f cs g xs g' → xs.length ≤ cs.length
  | .nil => Nat.le_refl 0
  | .excluded _ hr => Nat.le_succ_of_le hr.length_le
  | .leaf _ _ hr => Nat.succ_le_succ hr.length_le
  | .target _ _ _ hr => Nat.succ_le_succ hr.length_le

mutual

/-- **The nodes of a tree stand next to types that were expanded,** but for the root; `bound` is a
bound on how many can stand next to each. -/
theorem Runs.size_le {bound : Nat} {t : Target H} {g g' : Guard (Target H)} {x : Course H} :
    o.Runs f t g x g' →
      (∀ a ∈ x.attempts, a.answer = .entered → o.width a.target ≤ bound) →
      (x.tree o).size ≤ 1 + Attempt.entries x.attempts * bound
  | .refused _, _ => Nat.le_add_right 1 _
  | .entered he hr _, hbound => by
    rw [Course.attempts] at hbound
    obtain ⟨hwidth, hbound⟩ := List.forall_mem_cons.1 hbound
    -- the children are paid for by the attempt above them, so below each only its own are counted
    have hbelow := hr.size_le hbound
    have hcount : _ ≤ bound := hr.length_le.trans ((o.length_layer_le _).trans (hwidth he))
    rw [Course.tree, TypeTree.size, Course.attempts, Attempt.entries_of_entered he,
      Nat.add_mul, Nat.one_mul]
    omega

theorem RunsAll.size_le {bound : Nat} {cs : List (Candidate H)} {g g' : Guard (Target H)}
    {xs : List (Course H)} :
    o.RunsAll f cs g xs g' →
      (∀ a ∈ Course.attemptsAll xs, a.answer = .entered → o.width a.target ≤ bound) →
      TypeTree.sizeAll (Course.treeAll o xs) ≤
        xs.length + Attempt.entries (Course.attemptsAll xs) * bound
  | .nil, _ => Nat.zero_le _
  | .excluded _ hr, hbound => hr.size_le hbound
  | .leaf _ _ hr, hbound => by
    have hrest := hr.size_le hbound
    rw [Course.treeAll, Course.tree, TypeTree.sizeAll, TypeTree.size_leaf, Course.attemptsAll_leaf,
      List.length_cons]
    omega
  | .target _ _ hu hr, hbound => by
    obtain ⟨hfirst, hrest⟩ := List.forall_mem_append.1 hbound
    have hfirst := hu.size_le hfirst
    have hrest := hr.size_le hrest
    rw [Course.treeAll, TypeTree.sizeAll, Course.attemptsAll, Attempt.entries_append, Nat.add_mul,
      List.length_cons]
    omega

end

end Oracle

/-! ### Comparisons -/

/-- A comparison of trees of which one is not deeper than a comparison goes does not find them too
deep. -/
theorem TypeTree.not_nestingTooDeep {s t : TypeTree}
    (h : s.depth ≤ Limits.comparison.maxDepth.toNat ∨ t.depth ≤ Limits.comparison.maxDepth.toNat)
    (a b : String) (d : UInt32) : (s.compare t).outcome ≠ .error (.nestingTooDeep a b d) := by
  intro herror
  obtain ⟨p, -, ⟨u, v, hu, hv, hfault⟩, -⟩ := Comparison.outcome_eq_error_iff.1 herror
  have hs := length_lt_depth hu
  have ht := length_lt_depth hv
  unfold Comparison.fault? at hfault
  split at hfault
  · next hdeep =>
    rw [Levels.below_depth, Levels.below_maxDepth] at hdeep
    simp only [Levels.new] at hdeep
    omega
  · split at hfault
    · cases hfault
    · split at hfault
      · cases hfault
      · cases hfault

/-! ### Lineages -/

namespace Oracle

variable {H : Type} [DecidableEq H]

/-- **How large a lineage can be,** whatever the oracle.  The walk comes to an end, with a tree of
at most one level more than the limit on depth.  If the limit on steps is one that the counter can
exceed, it bounds the number of nodes with children; and it bounds the number of all nodes together
with any bound on the number of types next to a type that is expanded.  So under the limits for
lineages no lineage is too deep to be compared. -/
theorem lineage_size (o : Oracle H) (f : Filters) (limits : Limits) (s : Subject H) :
    let l := o.lineage f limits s
    l.tree.depth ≤ limits.maxDepth.toNat + 1 ∧
      (∃ x, o.IsCourse f limits s x ∧
        (limits.maxSteps.toNat < Guard.stepsCap →
          l.tree.preorder.countP (!·.isLeaf) ≤ limits.maxSteps.toNat ∧
            ∀ bound, (∀ a ∈ x.attempts, a.answer = .entered → o.width a.target ≤ bound) →
              l.tree.size ≤ 1 + limits.maxSteps.toNat * bound)) ∧
      (limits = .hierarchy → ∀ (t : TypeTree) (a b : String) (d : UInt32),
        (l.tree.compare t).outcome ≠ .error (.nestingTooDeep a b d) ∧
          (t.compare l.tree).outcome ≠ .error (.nestingTooDeep a b d)) := by
  intro l
  obtain ⟨x, hx⟩ := o.exists_isCourse f limits s
  have htree : l.tree = x.tree o := hx.tree
  have hdepth : l.tree.depth ≤ limits.maxDepth.toNat + 1 := by
    rw [htree]
    obtain ⟨k, -, hruns⟩ | ⟨n, rfl, -⟩ := hx.takes.cases
    · exact hruns.depth_le
    · exact Nat.le_add_left 1 _
  refine ⟨hdepth, ⟨x, hx, fun hlimit => ?_⟩, ?_⟩
  · obtain ⟨k, -, hruns⟩ | ⟨n, rfl, -⟩ := hx.takes.cases
    · have hentries : Attempt.entries x.attempts ≤ limits.maxSteps.toNat :=
        (Nat.le_add_right _ _).trans (hruns.entries_le hlimit)
      rw [htree]
      refine ⟨hruns.inner_le.trans hentries, fun bound hbound => ?_⟩
      calc (x.tree o).size
          ≤ 1 + Attempt.entries x.attempts * bound := hruns.size_le hbound
        _ ≤ 1 + limits.maxSteps.toNat * bound :=
          Nat.add_le_add_left (Nat.mul_le_mul_right bound hentries) 1
    · rw [htree]
      exact ⟨Nat.zero_le _, fun bound _ => Nat.le_add_right 1 _⟩
  · rintro rfl t a b d
    have hshallow : l.tree.depth ≤ Limits.comparison.maxDepth.toNat :=
      hdepth.trans (by decide)
    exact ⟨TypeTree.not_nestingTooDeep (.inl hshallow) a b d,
      TypeTree.not_nestingTooDeep (.inr hshallow) a b d⟩

/-- An oracle whose types have infinitely many ancestors. -/
def ladder : Oracle Nat where
  canonicalName _ := "a.Rung"
  typeParameters _ := []
  superType n := some (.plain (n + 1))
  interfaces _ := []
  resolve _ := none
  isUniversalTop _ := false
  primitiveKind _ := none
  runtimeType _ := none

/-- On the ladder nothing but types as they are declared is expanded, and one type stands next to
each. -/
theorem width_ladder {f : Filters} {limits : Limits} {x : Course Nat}
    {g : Guard (Target Nat)} (hx : ladder.Takes f limits (.type 0) x g) :
    ∀ a ∈ x.attempts, ladder.width a.target ≤ 1 := by
  have hobeyed : ladder.Obeyed (fun t => ∃ n, t = .declared n) fun _ _ => True := by
    refine ⟨fun _ => trivial, fun _ _ => trivial, fun _ _ _ => trivial, fun _ => trivial, ?_⟩
    rintro t ⟨n, rfl⟩ c hc u hu
    obtain rfl := List.mem_singleton.1 hc
    exact ⟨n + 1, (Option.some.inj hu).symm⟩
  intro a ha
  obtain ⟨⟨n, hn⟩, -⟩ := (Runs.spans hobeyed ⟨0, rfl⟩ hx).attempts a ha
  rw [hn]
  exact Nat.le_refl 1

end Oracle

/-- The bounds for the ladder are reached: 3 steps lead to 4 nodes of which 3 have children, and 9
levels to a depth of 10.  Without end as it is, its lineage can be compared. -/
theorem lineage_size_ladder :
    ((Oracle.ladder.lineage .none ⟨9, 3⟩ (.type 0)).tree.preorder.countP (!·.isLeaf) ≤ 3 ∧
        (Oracle.ladder.lineage .none ⟨9, 3⟩ (.type 0)).tree.size ≤ 1 + 3 * 1) ∧
      (Oracle.ladder.lineage .none ⟨9, 3⟩ (.type 0)).tree.preorder.countP (!·.isLeaf) = 3 ∧
      (Oracle.ladder.lineage .none ⟨9, 3⟩ (.type 0)).tree.size = 4 ∧
      (Oracle.ladder.lineage .none ⟨9, 100⟩ (.type 0)).tree.depth ≤ 9 + 1 ∧
      (Oracle.ladder.lineage .none ⟨9, 100⟩ (.type 0)).tree.depth = 10 ∧
      ∀ (t : TypeTree) (a b : String) (d : UInt32),
        ((Oracle.ladder.lineage .none .hierarchy (.type 0)).tree.compare t).outcome ≠
          .error (.nestingTooDeep a b d) := by
  have hcompare := (Oracle.ladder.lineage_size .none .hierarchy (.type 0)).2.2 rfl
  have hdepth := (Oracle.ladder.lineage_size .none ⟨9, 100⟩ (.type 0)).1
  obtain ⟨x, hx, hbounds⟩ := (Oracle.ladder.lineage_size .none ⟨9, 3⟩ (.type 0)).2.1
  obtain ⟨hinner, hsize⟩ := hbounds (by decide)
  have hwidth := Oracle.width_ladder hx.takes
  exact ⟨⟨hinner, hsize 1 fun a ha _ => hwidth a ha⟩, by decide +kernel, by decide +kernel,
    hdepth, by decide +kernel, fun t a b d => (hcompare t a b d).1⟩

end TypeAncestry
