import TypeAncestry.Proofs.Lineage.Course

/-!
# Walks follow the rules

A walk is written with a bound on how deep its expansions nest, the rules for courses are not.  The
bound never matters: the guard refuses to open more levels than its limits allow, and a walk is
given as many.  So from every guard there is exactly one course, which the walk takes; that is to
say, every walk comes to an end.

* `LineageEvent.endsAttempt` : the events that tell how an attempt ended.
* `Walk.expand_follows` : an expansion follows the rules.
* `Oracle.existsUnique_runs` : from every guard there is one course.
* `Oracle.IsCourse`, `Oracle.exists_isCourse` : the course that the walk of a lineage takes.
-/

namespace TypeAncestry

/-! ### What is told of attempts -/

namespace LineageEvent

/-- The event tells how an attempt to expand a type ended. -/
def endsAttempt : LineageEvent → Bool
  | built _ _ => true
  | cutOff _ _ _ => true
  | _ => false

/-- The events that tell how attempts ended. -/
def ends (es : List LineageEvent) : List LineageEvent := es.filter (·.endsAttempt)

@[simp] theorem ends_append (es es' : List LineageEvent) : ends (es ++ es') = ends es ++ ends es' :=
  List.filter_append es es'

end LineageEvent

open LineageEvent (ends ends_append)

namespace Oracle

variable {H : Type} (o : Oracle H)

/-- While names are found, no attempt ends. -/
theorem ends_leafName (name : String) : ends (o.leafName name).2 = [] := by
  unfold leafName
  by_cases hp : Name.isPlaceholder name = true
  · rw [if_pos hp]; rfl
  · rw [if_neg hp]
    cases o.resolve name <;> rfl

theorem ends_reference (role : Role) (r : TypeRef H) : ends (o.reference role r).remarks = [] := by
  cases r with
  | applied h args => rfl
  | plain h =>
    simp only [reference]
    split
    · rfl
    · exact o.ends_leafName _
  | var n => exact o.ends_leafName n

theorem ends_ancestor {t : Target H} {c : Candidate H} (hc : c ∈ o.ancestor t) :
    ends c.remarks = [] := by
  unfold ancestor at hc
  split at hc
  · nomatch hc
  · obtain rfl := List.mem_singleton.1 hc
    rfl

/-- Nothing in a layer tells of an attempt. -/
theorem ends_layer (t : Target H) :
    (∀ c ∈ (o.layer t).candidates, ends c.remarks = []) ∧ ends (o.layer t).remarks = [] := by
  have hparameters : ∀ c ∈ o.parameters t, ends c.remarks = [] := by
    intro c hc
    cases t with
    | declared h =>
      obtain ⟨p, -, rfl⟩ := List.mem_map.1 hc
      exact o.ends_leafName p
    | applied h args =>
      obtain ⟨r, -, rfl⟩ := List.mem_map.1 hc
      exact o.ends_reference _ r
  have hsuper : (∀ c ∈ (o.superLayer t.handle).candidates, ends c.remarks = []) ∧
      ends (o.superLayer t.handle).remarks = [] := by
    unfold superLayer
    rcases o.superType t.handle with _ | _ | _ | _
    · exact ⟨fun c hc => (nomatch hc), rfl⟩
    · exact ⟨fun c hc => o.ends_ancestor hc, rfl⟩
    · exact ⟨fun c hc => o.ends_ancestor hc, rfl⟩
    · exact ⟨fun c hc => (nomatch hc), rfl⟩
  refine ⟨fun c hc => ?_, hsuper.2⟩
  simp only [layer, List.mem_append, List.mem_map] at hc
  rcases hc with (hc | ⟨r, -, rfl⟩) | hc
  · exact hparameters c hc
  · exact o.ends_reference _ r
  · exact hsuper.1 c hc

end Oracle

/-! ### Expansions -/

namespace Walk

variable {H : Type} [DecidableEq H] {o : Oracle H} {f : Filters}

omit [DecidableEq H] in
@[simp] theorem note_log (w : Walk H) (es : List LineageEvent) :
    (w.note es).log.toList = w.log.toList ++ es := by
  simp [note]

/-- The expansion of `t` by a walk in the state `w` ended with `r`, and its course is `x`. -/
structure Follows (o : Oracle H) (f : Filters) (t : Target H) (w : Walk H) (x : Course H)
    (r : TypeTree × Walk H) : Prop where
  runs : o.Runs f t w.guard x r.2.guard
  tree : x.tree o = r.1
  events : ends r.2.log.toList = ends w.log.toList ++ x.events o

/-- What was put below a type by a walk in the state `w` came to `r`, and its courses are `xs`. -/
structure FollowsAll (o : Oracle H) (f : Filters) (cs : List (Candidate H)) (w : Walk H)
    (xs : List (Course H)) (r : List TypeTree × Walk H) : Prop where
  runs : o.RunsAll f cs w.guard xs r.2.guard
  trees : Course.treeAll o xs = r.1
  events : ends r.2.log.toList = ends w.log.toList ++ Course.eventsAll o xs

/-- What is put below a type follows the rules, if `grow` does where the guard is as it was at
first but for its counts. -/
theorem attach_follows {grow : Target H → Walk H → TypeTree × Walk H} {g : Guard (Target H)}
    (hgrow : ∀ t w, g.Restored w.guard → ∃ x, Follows o f t w x (grow t w))
    (cs : List (Candidate H)) :
    ∀ w, g.Restored w.guard → (∀ c ∈ cs, ends c.remarks = []) →
      ∃ xs, FollowsAll o f cs w xs (attach f grow cs w) := by
  induction cs with
  | nil =>
    intro w _ _
    exact ⟨[], .nil, rfl, by simp [attach, Course.eventsAll]⟩
  | cons c cs ih =>
    intro w hw hcs
    obtain ⟨hc, hcs⟩ := List.forall_mem_cons.1 hcs
    rcases hx : f.excludes c.role.filterKind c.name
    · rcases ht : c.target with _ | t
      · obtain ⟨xs, hruns, htrees, hevents⟩ := ih (w.note c.remarks) hw hcs
        rw [attach_leaf hx ht]
        refine ⟨.leaf c.name :: xs, .leaf hx ht hruns, by rw [Course.treeAll, htrees]; rfl, ?_⟩
        simpa [Course.eventsAll, Course.events, hc] using hevents
      · obtain ⟨x, hruns, htree, hevents⟩ := hgrow t (w.note c.remarks) hw
        obtain ⟨xs, hruns', htrees, hevents'⟩ := ih _ (hw.trans hruns.restored) hcs
        rw [attach_target hx ht]
        refine ⟨x :: xs, .target hx ht hruns hruns', by rw [Course.treeAll, htree, htrees], ?_⟩
        rw [hevents', hevents]
        simp [Course.eventsAll, hc]
    · obtain ⟨xs, hruns, htrees, hevents⟩ :=
        ih ((w.note c.remarks).note [c.role.filtered c.name]) hw hcs
      rw [attach_excluded hx]
      have hfiltered : ends [c.role.filtered c.name] = [] := by cases c.role <;> rfl
      exact ⟨xs, .excluded hx hruns, htrees, by simpa [hc, hfiltered] using hevents⟩

/-- Leaving the type that was entered last goes well. -/
theorem leave_of_head {w : Walk H} {t : Target H} {ts : List (Target H)}
    (h : w.guard.active = t :: ts) :
    w.guard.leave t = .ok (w.leave t).guard ∧ (w.leave t).log = w.log := by
  unfold leave
  rw [Guard.leave_head h]
  exact ⟨rfl, rfl⟩

/-- An expansion follows the rules, if this is so below the type whenever it is entered. -/
theorem expandWith_follows {grow : Target H → Walk H → TypeTree × Walk H} (t : Target H)
    (w : Walk H)
    (hgrow : (w.guard.enter t).1 = .entered →
      ∀ u v, (w.guard.opened t).Restored v.guard → ∃ x, Follows o f u v x (grow u v)) :
    ∃ x, Follows o f t w x (expandWith o f grow t w) := by
  obtain ⟨e, cut, he, henter, hw⟩ | ⟨-, henter, hw⟩ := expandWith_cases o f grow t w
  · have hrefused : (w.guard.enter t).1 ≠ .entered := by rw [henter]; exact he
    rw [hw]
    refine ⟨.attempt ⟨t, w.guard, (w.guard.enter t).2⟩ [], ?_, rfl, ?_⟩
    · have hruns := Oracle.Runs.refused (o := o) (f := f) hrefused
      rw [henter] at hruns ⊢
      exact hruns
    · have hcut : Course.events o (.attempt ⟨t, w.guard, (w.guard.enter t).2⟩ []) =
          [.cutOff (o.canonicalName t.handle) e w.guard.depth] := by
        simp only [Course.events, Attempt.answer, Attempt.answered, henter]
        cases e
        · exact absurd rfl he
        all_goals rfl
      rw [hcut, note_log, ends_append]
      rfl
  · have hentered : (w.guard.enter t).1 = .entered := by rw [henter]
    obtain ⟨hquiet, hremarks⟩ := o.ends_layer t
    obtain ⟨xs, hruns, htrees, hevents⟩ :=
      attach_follows (hgrow hentered) (o.layer t).candidates (w.opened t) (.refl _) hquiet
    rw [hw]
    generalize attach f grow (o.layer t).candidates (w.opened t) = r at hruns htrees hevents ⊢
    -- leaving finds `t` entered last, as all that was entered since has been left
    have hactive : (r.2.note (o.layer t).remarks).guard.active = t :: w.guard.active :=
      hruns.restored.active
    obtain ⟨hleave, hlog⟩ := leave_of_head hactive
    refine ⟨.attempt ⟨t, w.guard, _⟩ xs, .entered hentered ?_ hleave, by rw [Course.tree, htrees],
      ?_⟩
    · rw [henter]
      exact hruns
    · have hlength : xs.length = r.1.length := by
        rw [← htrees, Course.treeAll_eq_map, List.length_map]
      have hopened : ends (w.opened t).log.toList = ends w.log.toList := rfl
      rw [note_log, ends_append, hlog, note_log, ends_append, hremarks, hevents, hopened]
      simp [Course.events, Attempt.answer, hentered, hlength, ends, LineageEvent.endsAttempt]

/-- **An expansion follows the rules,** if it may nest as many levels as its guard still allows. -/
theorem expand_follows (levels : Nat) :
    ∀ (t : Target H) (w : Walk H), w.guard.limits.maxDepth.toNat ≤ w.guard.depth + levels →
      ∃ x, Follows o f t w x (expand o f levels t w) := by
  induction levels with
  | zero =>
    intro t w hw
    -- the guard has no level left to open, so nothing is entered
    refine expandWith_follows t w fun hentered => ?_
    obtain ⟨-, hdepth, -⟩ := Guard.of_entered hentered
    omega
  | succ levels ih =>
    intro t w hw
    refine expandWith_follows t w fun _ u v hv => ih u v ?_
    -- one more level is open below `t`, and one less is needed there
    have hdepth : v.guard.depth = w.guard.depth + 1 := hv.depth
    have hlimits : v.guard.limits = w.guard.limits := hv.limits
    rw [hdepth, hlimits]
    omega

end Walk

/-! ### Lineages -/

theorem Lineage.ends_ofWalk {H : Type} (tree : TypeTree) (w : Walk H) :
    ends (Lineage.ofWalk tree w).events = ends w.log.toList := by
  simp [Lineage.ofWalk, ends, LineageEvent.endsAttempt]

namespace Oracle

variable {H : Type} [DecidableEq H] (o : Oracle H) (f : Filters) (limits : Limits)

/-- **From every guard there is one course,** however the types refer to one another. -/
theorem existsUnique_runs (t : Target H) (g : Guard (Target H)) :
    ∃! r : Course H × Guard (Target H), o.Runs f t g r.1 r.2 := by
  let w : Walk H := ⟨g, #[], none⟩
  obtain ⟨x, hruns, -, -⟩ := Walk.expand_follows (o := o) (f := f) g.limits.maxDepth.toNat t w
    (Nat.le_add_left _ _)
  refine ⟨(x, _), hruns, fun r hr => ?_⟩
  obtain ⟨hx, hg⟩ := hr.unique hruns
  exact Prod.ext hx hg

/-- `o.Takes f limits s x g` : the walk for the lineage of `s` takes the course `x`, and its guard
becomes `g`. -/
def Takes (s : Subject H) (x : Course H) (g : Guard (Target H)) : Prop :=
  match o.root? s with
  | some h => o.Runs f (.declared h) (Guard.new limits) x g
  | none => x = .leaf (rootlessName s) ∧ g = Guard.new limits

section Takes

variable {o f limits} {s : Subject H} {x x' : Course H} {g g' : Guard (Target H)}

theorem Takes.unique (h : o.Takes f limits s x g) (h' : o.Takes f limits s x' g') :
    x = x' ∧ g = g' := by
  rcases hs : o.root? s with _ | k
  · simp only [Takes, hs] at h h'
    exact ⟨h.1.trans h'.1.symm, h.2.trans h'.2.symm⟩
  · simp only [Takes, hs] at h h'
    exact h.unique h'

/-- The course of a walk is that of an expansion, or it is a leaf. -/
theorem Takes.cases (h : o.Takes f limits s x g) :
    (∃ k, o.root? s = some k ∧ o.Runs f (.declared k) (Guard.new limits) x g) ∨
      ∃ n, x = .leaf n ∧ g = Guard.new limits := by
  rcases hs : o.root? s with _ | k
  · simp only [Takes, hs] at h
    exact .inr ⟨_, h⟩
  · simp only [Takes, hs] at h
    exact .inl ⟨k, rfl, h⟩

end Takes

/-- `o.IsCourse f limits s x` : the walk for the lineage of `s` takes the course `x` and could not
take another one; it ends with the guard of the lineage, and the lineage records it. -/
structure IsCourse (s : Subject H) (x : Course H) : Prop where
  takes : o.Takes f limits s x (o.lineage f limits s).guard
  only : ∀ y g, o.Takes f limits s y g → y = x ∧ g = (o.lineage f limits s).guard
  tree : (o.lineage f limits s).tree = x.tree o
  events : ends (o.lineage f limits s).events = x.events o

theorem exists_runs_lineageOfType (h : H) :
    let l := o.lineageOfType f limits h
    ∃ x, o.Runs f (.declared (o.boxed h).1) (Guard.new limits) x l.guard ∧ l.tree = x.tree o ∧
      ends l.events = x.events o := by
  intro l
  let w : Walk H := (Walk.new limits).note (o.boxed h).2
  have hboxed : ends (o.boxed h).2 = [] := by
    unfold boxed
    rcases o.primitiveKind h with _ | k
    · rfl
    · dsimp only
      cases o.resolve k.boxedName <;> rfl
  have hstart : ends w.log.toList = [] := by
    rw [Walk.note_log, ends_append, hboxed]
    rfl
  obtain ⟨x, hruns, htree, hevents⟩ := Walk.expand_follows (o := o) (f := f)
    limits.maxDepth.toNat (.declared (o.boxed h).1) w (Nat.le_add_left _ _)
  rw [hstart, List.nil_append] at hevents
  exact ⟨x, hruns, htree.symm, (Lineage.ends_ofWalk _ _).trans hevents⟩

theorem exists_takes (s : Subject H) :
    let l := o.lineage f limits s
    ∃ x, o.Takes f limits s x l.guard ∧ l.tree = x.tree o ∧ ends l.events = x.events o := by
  cases s with
  | type h => exact o.exists_runs_lineageOfType f limits h
  | null => exact ⟨.leaf _, ⟨rfl, rfl⟩, rfl, rfl⟩
  | value tag =>
    rcases ht : o.runtimeType tag with _ | h
    · simp only [Takes, root?, lineage, ht]
      exact ⟨.leaf _, ⟨rfl, rfl⟩, rfl, rfl⟩
    · simp only [Takes, root?, lineage, ht]
      exact o.exists_runs_lineageOfType f limits h

/-- **The walk of every lineage has its course.** -/
theorem exists_isCourse (s : Subject H) : ∃ x, o.IsCourse f limits s x := by
  obtain ⟨x, htakes, htree, hevents⟩ := o.exists_takes f limits s
  exact ⟨x, htakes, fun y g hy => hy.unique htakes, htree, hevents⟩

end Oracle

end TypeAncestry
