import TypeAncestry.Proofs.Lineage.Outline

/-!
# Walks within their budget

A walk shares its budget of steps among all expansions, so what it does in one place may hang on
what it did in another.  As long as the budget is not exceeded this does not show: the walk builds
the outline, without what filters keep out, and the guard ends as it began but for its counts.

* `Guard.advance` : the guard after a number of tries that it has forgotten but for its counts.
* `Walk.expand_rel` : what every step of a walk does, the whole walk does.
* `Walk.expand_eq_outline` : a walk within its budget builds the pruned outline.
* `Oracle.lineage_eq_outline` : the same for the lineage of a subject.
-/

namespace TypeAncestry

/-! ### The guard -/

namespace Guard

section

variable {K : Type}

/-- The guard after `n` tries that are over; some of them were refused because of a limit if `cut`
says so. -/
def advance (g : Guard K) (n : Nat) (cut : Bool) : Guard K :=
  { g with steps := min (g.steps + n) stepsCap, truncated := g.truncated || cut }

@[simp] theorem advance_limits (g : Guard K) (n : Nat) (b : Bool) :
    (g.advance n b).limits = g.limits := rfl

@[simp] theorem advance_steps (g : Guard K) (n : Nat) (b : Bool) :
    (g.advance n b).steps = min (g.steps + n) stepsCap := rfl

/-- The guard after `k` has been entered. -/
def opened (g : Guard K) (k : K) : Guard K :=
  { g.advance 1 false with active := k :: g.active, depth := g.depth + 1 }

theorem advance_zero {g : Guard K} (h : g.steps ≤ stepsCap) : g.advance 0 false = g := by
  simp [advance, h]

theorem advance_advance (g : Guard K) (n m : Nat) (b c : Bool) :
    (g.advance n b).advance m c = g.advance (n + m) (b || c) := by
  have hs : min (min (g.steps + n) stepsCap + m) stepsCap = min (g.steps + (n + m)) stepsCap := by
    omega
  simp [advance, hs, Bool.or_assoc]

end

variable {K : Type} [DecidableEq K]

/-- All that can happen when a key is to be entered. -/
theorem enter_cases (g : Guard K) (k : K) :
    (g.limits.maxSteps.toNat < (g.advance 1 false).steps ∧
      g.enter k = (.stepsExceeded, g.advance 1 true)) ∨
    (g.limits.maxDepth.toNat ≤ g.depth ∧ g.enter k = (.depthExceeded, g.advance 1 true)) ∨
    (g.depth < g.limits.maxDepth.toNat ∧ k ∈ g.active ∧ g.enter k = (.cycle, g.advance 1 false)) ∨
    (g.depth < g.limits.maxDepth.toNat ∧ k ∉ g.active ∧ g.enter k = (.entered, g.opened k)) := by
  simp only [enter, opened, advance, Bool.or_true, Bool.or_false]
  by_cases hs : g.limits.maxSteps.toNat < min (g.steps + 1) stepsCap
  · simp [hs]
  · by_cases hd : g.limits.maxDepth.toNat ≤ g.depth
    · simp [hs, hd]
    · by_cases hk : k ∈ g.active
      · simp [hs, hd, hk]; omega
      · simp [hs, hd, hk]; omega

theorem leave_head {g : Guard K} {k : K} {ks : List K} (h : g.active = k :: ks) :
    g.leave k = .ok { g with active := ks, depth := g.depth - 1 } := by
  simp [leave, h]

theorem enter_steps (g : Guard K) (k : K) : (g.enter k).2.steps = min (g.steps + 1) stepsCap := by
  obtain ⟨-, h⟩ | ⟨-, h⟩ | ⟨-, -, h⟩ | ⟨-, -, h⟩ := g.enter_cases k <;> rw [h] <;> rfl

theorem leave_steps {g g' : Guard K} {k : K} (h : g.leave k = .ok g') : g'.steps = g.steps := by
  unfold leave at h
  split at h
  · obtain rfl := Except.ok.inj h; rfl
  · simp at h

end Guard

/-! ### Steps of a walk -/

namespace Walk

variable {H : Type} [DecidableEq H]

omit [DecidableEq H] in
@[simp] theorem note_guard (w : Walk H) (es : List LineageEvent) : (w.note es).guard = w.guard :=
  rfl

theorem leave_steps (w : Walk H) (t : Target H) : (w.leave t).guard.steps = w.guard.steps := by
  unfold leave
  split
  · next h => exact Guard.leave_steps h
  · rfl

variable {o : Oracle H} {f : Filters}

theorem expandWith_denied {grow : Target H → Walk H → TypeTree × Walk H} {t : Target H}
    {w : Walk H} {e : Entry} {g : Guard (Target H)} (h : w.guard.enter t = (e, g))
    (he : e ≠ .entered) :
    expandWith o f grow t w =
      (.leaf (o.canonicalName t.handle),
        { w with guard := g }.note [.cutOff (o.canonicalName t.handle) e g.depth]) := by
  unfold expandWith
  rw [h]
  cases e
  · exact absurd rfl he
  all_goals rfl

theorem expandWith_entered {grow : Target H → Walk H → TypeTree × Walk H} {t : Target H}
    {w : Walk H} {g : Guard (Target H)} (h : w.guard.enter t = (.entered, g)) :
    expandWith o f grow t w =
      (let r := attach f grow (o.layer t).candidates { w with guard := g }
       (.node (o.canonicalName t.handle) r.1,
        ((r.2.note (o.layer t).remarks).leave t).note
          [.built (o.canonicalName t.handle) r.1.length])) := by
  unfold expandWith
  rw [h]

section Attach

variable {grow : Target H → Walk H → TypeTree × Walk H} {c : Candidate H} {cs : List (Candidate H)}
  {w : Walk H}

omit [DecidableEq H] in
theorem attach_excluded (h : f.excludes c.role.filterKind c.name = true) :
    attach f grow (c :: cs) w =
      attach f grow cs ((w.note c.remarks).note [c.role.filtered c.name]) := by
  simp [attach, h]

omit [DecidableEq H] in
theorem attach_leaf (h : f.excludes c.role.filterKind c.name = false) (ht : c.target = none) :
    attach f grow (c :: cs) w =
      (let r := attach f grow cs (w.note c.remarks)
       (.leaf c.name :: r.1, r.2)) := by
  simp [attach, h, ht]

omit [DecidableEq H] in
theorem attach_target {t : Target H} (h : f.excludes c.role.filterKind c.name = false)
    (ht : c.target = some t) :
    attach f grow (c :: cs) w =
      (let s := grow t (w.note c.remarks)
       let r := attach f grow cs s.2
       (s.1 :: r.1, r.2)) := by
  simp [attach, h, ht]

end Attach

section Relation

variable {R : Walk H → Walk H → Prop}

omit [DecidableEq H] in
theorem attach_rel (refl : ∀ w, R w w) (trans : ∀ {u v w}, R u v → R v w → R u w)
    (note : ∀ w es, R w (w.note es)) {grow : Target H → Walk H → TypeTree × Walk H}
    (hgrow : ∀ t w, R w (grow t w).2) :
    ∀ (cs : List (Candidate H)) (w : Walk H), R w (attach f grow cs w).2 := by
  intro cs
  induction cs with
  | nil => exact refl
  | cons c cs ih =>
    intro w
    by_cases hx : f.excludes c.role.filterKind c.name = true
    · rw [attach_excluded hx]
      exact trans (note _ _) (trans (note _ _) (ih _))
    · rw [Bool.not_eq_true] at hx
      rcases ht : c.target with _ | t
      · rw [attach_leaf hx ht]
        exact trans (note _ _) (ih _)
      · rw [attach_target hx ht]
        exact trans (note _ _) (trans (hgrow _ _) (ih _))

/-- **What every step of a walk does, the whole walk does**: a relation between states that noting,
entering and leaving obey holds between the two ends of an expansion. -/
theorem expand_rel (refl : ∀ w, R w w) (trans : ∀ {u v w}, R u v → R v w → R u w)
    (note : ∀ w es, R w (w.note es))
    (enter : ∀ w t, R w { w with guard := (w.guard.enter t).2 })
    (leave : ∀ w t, R w (w.leave t)) :
    ∀ (levels : Nat) (t : Target H) (w : Walk H), R w (expand o f levels t w).2 := by
  have step : ∀ {grow : Target H → Walk H → TypeTree × Walk H}, (∀ t w, R w (grow t w).2) →
      ∀ t w, R w (expandWith o f grow t w).2 := by
    intro grow hgrow t w
    rcases h : w.guard.enter t with ⟨e, g⟩
    have hw : R w { w with guard := g } := by simpa [h] using enter w t
    by_cases he : e = .entered
    · rw [expandWith_entered (he ▸ h)]
      have hr := attach_rel (f := f) refl trans note hgrow (o.layer t).candidates
        { w with guard := g }
      exact trans hw (trans hr (trans (note _ _) (trans (leave _ t) (note _ _))))
    · rw [expandWith_denied h he]
      exact trans hw (note _ _)
  intro levels
  induction levels with
  | zero => exact step fun _ w => refl w
  | succ levels ih => exact step ih

end Relation

/-! ### The count of steps -/

/-- From `w` to `w'` the count of steps has not fallen, nor has it left the range of the counter. -/
def CountsOn (w w' : Walk H) : Prop :=
  w.guard.steps ≤ Guard.stepsCap →
    w.guard.steps ≤ w'.guard.steps ∧ w'.guard.steps ≤ Guard.stepsCap

namespace CountsOn

omit [DecidableEq H] in
theorem refl (w : Walk H) : CountsOn w w := fun h => ⟨Nat.le_refl _, h⟩

omit [DecidableEq H] in
theorem trans {u v w : Walk H} (huv : CountsOn u v) (hvw : CountsOn v w) : CountsOn u w := by
  intro h
  have h₁ := huv h
  have h₂ := hvw h₁.2
  omega

omit [DecidableEq H] in
theorem note (w : Walk H) (es : List LineageEvent) : CountsOn w (w.note es) := refl w

theorem enter (w : Walk H) (t : Target H) :
    CountsOn w { w with guard := (w.guard.enter t).2 } := by
  intro h
  simp only [Guard.enter_steps]
  omega

theorem leave (w : Walk H) (t : Target H) : CountsOn w (w.leave t) := by
  intro h
  rw [leave_steps]
  exact ⟨Nat.le_refl _, h⟩

theorem expand (levels : Nat) (t : Target H) (w : Walk H) :
    CountsOn w (expand o f levels t w).2 :=
  expand_rel refl trans note enter leave levels t w

omit [DecidableEq H] in
theorem attach {grow : Target H → Walk H → TypeTree × Walk H}
    (hgrow : ∀ t w, CountsOn w (grow t w).2) (cs : List (Candidate H)) (w : Walk H) :
    CountsOn w (attach f grow cs w).2 :=
  attach_rel refl trans note hgrow cs w

end CountsOn

/-! ### Building outlines -/

/-- The types on `path` are open, and so many levels may still be opened. -/
structure At (w : Walk H) (path : List (Target H)) (levels : Nat) : Prop where
  active : w.guard.active = path
  depth : w.guard.depth + levels = w.guard.limits.maxDepth.toNat
  steps : w.guard.steps ≤ Guard.stepsCap

/-- After `n` tries that are over, `w` has become `w'`; the log is left out of account. -/
structure Leads (w : Walk H) (n : Nat) (cut : Bool) (w' : Walk H) : Prop where
  guard : w'.guard = w.guard.advance n cut
  misuse : w'.misuse = w.misuse

/-- The budget suffices for the part of a walk from `w` to `w'`, for which `n` tries are foreseen:
the count at its end says so, or the number of tries does. -/
def Affords (w : Walk H) (n : Nat) (w' : Walk H) : Prop :=
  w'.guard.steps ≤ w.guard.limits.maxSteps.toNat ∨
    min (w.guard.steps + n) Guard.stepsCap ≤ w.guard.limits.maxSteps.toNat

omit [DecidableEq H] in
theorem Leads.at {w w' : Walk H} {n : Nat} {cut : Bool} {path : List (Target H)} {levels : Nat}
    (h : Leads w n cut w') (hw : At w path levels) : At w' path levels := by
  obtain ⟨ha, hd, -⟩ := hw
  refine ⟨?_, ?_, ?_⟩ <;> rw [h.guard]
  · exact ha
  · exact hd
  · simp only [Guard.advance_steps]; omega

omit [DecidableEq H] in
theorem Leads.trans {u v w : Walk H} {n m : Nat} {b c : Bool} (huv : Leads u n b v)
    (hvw : Leads v m c w) : Leads u (n + m) (b || c) w :=
  ⟨by rw [hvw.guard, huv.guard, Guard.advance_advance], hvw.misuse.trans huv.misuse⟩

omit [DecidableEq H] in
theorem At.note {w : Walk H} {path : List (Target H)} {levels : Nat} (h : At w path levels)
    (es : List LineageEvent) : At (w.note es) path levels :=
  ⟨h.active, h.depth, h.steps⟩

omit [DecidableEq H] in
theorem Leads.note {w w' : Walk H} {n : Nat} {b : Bool} (h : Leads w n b w')
    (es : List LineageEvent) : Leads w n b (w'.note es) :=
  ⟨h.guard, h.misuse⟩

omit [DecidableEq H] in
theorem Leads.of_note {w w' : Walk H} {es : List LineageEvent} {n : Nat} {b : Bool}
    (h : Leads (w.note es) n b w') : Leads w n b w' :=
  ⟨h.guard, h.misuse⟩

omit [DecidableEq H] in
/-- A budget that suffices for two parts of a walk suffices for the first. -/
theorem Affords.left {u v w : Walk H} {n m : Nat} (h : Affords u (n + m) w) (hv : CountsOn v w)
    (hs : v.guard.steps ≤ Guard.stepsCap) : Affords u n v := by
  have := hv hs
  rcases h with h | h
  · exact .inl (by omega)
  · exact .inr (by omega)

omit [DecidableEq H] in
/-- A budget that suffices for two parts of a walk suffices for the second. -/
theorem Affords.right {u v w : Walk H} {n m : Nat} {b : Bool} (h : Affords u (n + m) w)
    (huv : Leads u n b v) : Affords v m w := by
  unfold Affords at h ⊢
  rw [huv.guard]
  simp only [Guard.advance_limits, Guard.advance_steps]
  omega

/-- What is put below a type is the pruned outline of the candidates, if `grow` builds the pruned
outlines of what is expanded. -/
theorem attach_eq_outline {grow : Target H → Walk H → TypeTree × Walk H}
    {path : List (Target H)} {levels : Nat} (hcount : ∀ t w, CountsOn w (grow t w).2)
    (hgrow : ∀ role t w, At w path levels →
      let x := (o.outline levels path role t).prune f
      let r := grow t w
      Affords w x.tries r.2 → r.1 = x.tree ∧ Leads w x.tries x.cutByDepth r.2) :
    ∀ (cs : List (Candidate H)) (w : Walk H),
      (∀ c ∈ cs, ∀ t, c.target = some t → c.name = o.canonicalName t.handle) →
      At w path levels →
      let xs := Outline.pruneAll f (cs.map (Oracle.sketch (o.outline levels path)))
      let r := attach f grow cs w
      Affords w (Outline.triesAll xs) r.2 →
        r.1 = Outline.treeAll xs ∧
          Leads w (Outline.triesAll xs) (Outline.cutByDepthAny xs) r.2 := by
  intro cs
  induction cs with
  | nil =>
    intro w _ hw _ _ _
    exact ⟨rfl, (Guard.advance_zero hw.steps).symm, rfl⟩
  | cons c cs ih =>
    intro w hcs hw
    obtain ⟨hc, hcs⟩ := List.forall_mem_cons.1 hcs
    have hnote := hw.note c.remarks
    have hx := Oracle.excluded_sketch f levels path hc
    by_cases hf : f.excludes c.role.filterKind c.name = true
    · rw [List.map_cons, Outline.pruneAll_of_excluded _ (hx.trans hf), attach_excluded hf]
      intro xs r haff
      obtain ⟨h₁, h₂⟩ := ih _ hcs (hnote.note [c.role.filtered c.name]) haff
      exact ⟨h₁, h₂.of_note.of_note⟩
    · rw [Bool.not_eq_true] at hf
      rw [List.map_cons, Outline.pruneAll_of_not_excluded _ (hx.trans hf)]
      simp only [Outline.treeAll, Outline.triesAll, Outline.cutByDepthAny]
      rcases ht : c.target with _ | t
      · rw [attach_leaf hf ht]
        simp only [Oracle.sketch, ht, Outline.prune, Outline.pruneAll, Outline.tree,
          Outline.treeAll, Outline.tries, Outline.triesAll, Outline.cutByDepth,
          Outline.cutByDepthAny]
        intro haff
        obtain ⟨h₁, h₂⟩ := ih _ hcs hnote (by simpa [Affords] using haff)
        exact ⟨by rw [h₁]; rfl, by simpa using h₂.of_note⟩
      · rw [attach_target hf ht]
        simp only [Oracle.sketch, ht]
        intro haff
        have hs := hcount t (w.note c.remarks) hw.steps
        obtain ⟨h₁, h₂⟩ := hgrow (some c.role) t _ hnote
          (Affords.left haff (CountsOn.attach hcount cs _) hs.2)
        obtain ⟨h₃, h₄⟩ := ih _ hcs (h₂.at hnote) (Affords.right (u := w.note c.remarks) haff h₂)
        exact ⟨by rw [h₁, h₃], (h₂.trans h₄).of_note⟩

omit [DecidableEq H] in
/-- `w` after the expansion of `t` has been allowed. -/
def opened (w : Walk H) (t : Target H) : Walk H := { w with guard := w.guard.opened t }

omit [DecidableEq H] in
theorem At.opened {w : Walk H} {path : List (Target H)} {levels : Nat}
    (h : At w path (levels + 1)) (t : Target H) : At (w.opened t) (t :: path) levels := by
  have hd := h.depth
  refine ⟨?_, ?_, ?_⟩
  · rw [← h.active]; rfl
  · simp only [Walk.opened, Guard.opened, Guard.advance_limits]; omega
  · simp only [Walk.opened, Guard.opened, Guard.advance_steps]; omega

omit [DecidableEq H] in
theorem Affords.opened {u v w : Walk H} {t : Target H} {n : Nat} (h : Affords w (1 + n) u)
    (hv : u.guard.steps = v.guard.steps) : Affords (w.opened t) n v := by
  simp only [Affords, Walk.opened, Guard.opened, Guard.advance_limits, Guard.advance_steps] at h ⊢
  omega

/-- Leaving `t` takes the guard back to where it was before `t` was entered, but for the counts. -/
theorem Leads.leave {w w' : Walk H} {t : Target H} {n : Nat} {b : Bool}
    (h : Leads (w.opened t) n b w') : Leads w (1 + n) b (w'.leave t) := by
  have hleave : w'.guard.leave t = .ok (w.guard.advance (1 + n) b) := by
    have hactive : w'.guard.active = t :: w.guard.active := by rw [h.guard]; rfl
    rw [Guard.leave_head hactive, h.guard, ← Bool.false_or b, ← Guard.advance_advance]
    rfl
  unfold Walk.leave
  rw [hleave]
  exact ⟨rfl, h.misuse⟩

/-- An expansion that is refused because the budget is spent was not afforded. -/
theorem not_affords_of_stepsExceeded {grow : Target H → Walk H → TypeTree × Walk H}
    {t : Target H} {w : Walk H} {n : Nat} (hn : 0 < n)
    (hs : w.guard.limits.maxSteps.toNat < (w.guard.advance 1 false).steps)
    (he : w.guard.enter t = (.stepsExceeded, w.guard.advance 1 true)) :
    ¬ Affords w n (expandWith o f grow t w).2 := by
  rw [expandWith_denied he (by decide)]
  simp only [Affords, note_guard, Guard.advance_steps] at hs ⊢
  omega

/-- **A walk within its budget builds the outline**, without what filters keep out; when it is done,
the guard is as it was but for its counts. -/
theorem expand_eq_outline (levels : Nat) :
    ∀ {path : List (Target H)} (role : Option Role) (t : Target H) (w : Walk H),
      At w path levels →
      let x := (o.outline levels path role t).prune f
      let r := expand o f levels t w
      Affords w x.tries r.2 → r.1 = x.tree ∧ Leads w x.tries x.cutByDepth r.2 := by
  induction levels with
  | zero =>
    intro path role t w hw x r haff
    -- no level is left, so the guard allows nothing
    have hd := hw.depth
    obtain ⟨hs, he⟩ | ⟨-, he⟩ | ⟨hlt, -⟩ | ⟨hlt, -⟩ := w.guard.enter_cases t
    · have hpos := o.tries_outline_pos f 0 path role t
      exact absurd haff (not_affords_of_stepsExceeded hpos hs he)
    · simp only [r, expand, expandWith_denied he (by decide)]
      exact ⟨rfl, rfl, rfl⟩
    · omega
    · omega
  | succ levels ih =>
    intro path role t w hw x r haff
    have hd := hw.depth
    obtain ⟨hs, he⟩ | ⟨hle, -⟩ | ⟨-, hmem, he⟩ | ⟨-, hmem, he⟩ := w.guard.enter_cases t
    · have hpos := o.tries_outline_pos f (levels + 1) path role t
      exact absurd haff (not_affords_of_stepsExceeded hpos hs he)
    · omega
    · rw [hw.active] at hmem
      simp only [r, x, expand, expandWith_denied he (by decide), Oracle.outline, if_pos hmem]
      exact ⟨rfl, rfl, rfl⟩
    · -- the type is entered: the candidates find it open, and leaving it takes the guard back
      rw [hw.active] at hmem
      have hattach := attach_eq_outline (CountsOn.expand levels) ih
        (o.layer t).candidates (w.opened t) (fun c hc u hu => Oracle.layer_name hc hu)
        (hw.opened t)
      generalize hxs : Outline.pruneAll f
        ((o.layer t).candidates.map (Oracle.sketch (o.outline levels (t :: path)))) = xs at hattach
      have hx : x = .node role (o.canonicalName t.handle) (some .entered) xs := by
        simp only [x, Oracle.outline, if_neg hmem, Outline.prune, hxs]
      have hr : r = expandWith o f (expand o f levels) t w := rfl
      rw [expandWith_entered he] at hr
      rw [hx, hr] at haff ⊢
      obtain ⟨h₁, h₂⟩ := hattach (haff.opened (by rw [note_guard, leave_steps]; rfl))
      exact ⟨by rw [Outline.tree, ← h₁]; rfl, ((h₂.note _).leave).note _⟩

end Walk

namespace Oracle

variable {H : Type} [DecidableEq H] (o : Oracle H) (f : Filters) (limits : Limits)

/-- What a lineage says of itself agrees with an outline, and its guard has not been misused. -/
def Agrees (l : Lineage H) (x : Outline) : Prop :=
  l.tree = x.tree ∧ l.steps = min x.tries Guard.stepsCap ∧ l.truncated = x.cutByDepth ∧
    l.misuse = none

theorem lineageOfType_eq_outline (h : H) :
    let x := (o.outline limits.maxDepth.toNat [] none (.declared (o.boxed h).1)).prune f
    let l := o.lineageOfType f limits h
    (l.steps ≤ limits.maxSteps.toNat ∨ min x.tries Guard.stepsCap ≤ limits.maxSteps.toNat) →
      Agrees l x := by
  intro x l haff
  let w : Walk H := (Walk.new limits).note (o.boxed h).2
  let r := Walk.expand o f limits.maxDepth.toNat (.declared (o.boxed h).1) w
  have hw : w.At [] limits.maxDepth.toNat := ⟨rfl, Nat.zero_add _, Nat.zero_le _⟩
  have hsteps : w.guard.steps = 0 := rfl
  have haff' : Walk.Affords w x.tries r.2 := by
    rw [Walk.Affords, hsteps, Nat.zero_add]
    exact haff
  obtain ⟨htree, hguard, hmisuse⟩ := Walk.expand_eq_outline _ none _ w hw haff'
  refine ⟨htree, ?_, ?_, ?_⟩
  · change r.2.guard.steps = _
    rw [hguard, Guard.advance_steps, hsteps, Nat.zero_add]
  · change r.2.guard.truncated = _
    rw [hguard]
    exact Bool.false_or _
  · change r.2.misuse.or r.2.guard.abandon = none
    rw [hguard, hmisuse]; rfl

/-- **The lineage of a subject within its budget is the pruned outline**: the tree, the count of
steps and the report of a limit are those of the outline. -/
theorem lineage_eq_outline (s : Subject H) :
    let x := (o.subjectOutline limits s).prune f
    let l := o.lineage f limits s
    (l.steps ≤ limits.maxSteps.toNat ∨ min x.tries Guard.stepsCap ≤ limits.maxSteps.toNat) →
      Agrees l x := by
  cases s with
  | type h => exact o.lineageOfType_eq_outline f limits h
  | null => exact fun _ => ⟨rfl, rfl, rfl, rfl⟩
  | value tag =>
    rcases ht : o.runtimeType tag with _ | h
    · simp only [lineage, subjectOutline, root?, ht]
      exact fun _ => ⟨rfl, rfl, rfl, rfl⟩
    · simp only [lineage, subjectOutline, root?, ht]
      exact o.lineageOfType_eq_outline f limits h

end Oracle

end TypeAncestry
