import TypeAncestry.Check.Basic
import TypeAncestry.NameCache
import TypeAncestry.Proofs.Lineage.Origins

/-!
# Walks that ask through a cache

A walk through a cache asks the cache for a name when it comes to the leaf that bears the name, so
that the cache changes all along the walk.  What the cache would answer does not change by asking:
so the walk gets the answers of the cache as it was in the beginning, and the cache ends as if it
had been told afterwards what happened.

* `CachedWalk`, `CachedWalk.expand` : a walk with its cache.
* `NameCache.lineage`, `NameCache.check` : lineages and checks through a cache.
* `NameCache.front_follow` : asking does not change what a cache answers.
* `NameCache.lineage_eq` : a lineage through a cache is one through `NameCache.front`, and
  `NameCache.follow` says what becomes of the cache.
-/

namespace TypeAncestry

variable {H : Type}

/-! ### Names, candidates and boxed types -/

namespace NameCache

section

variable (c : NameCache H) (o : Oracle H)

/-- `Oracle.leafName`, where the name is asked for through a cache. -/
def leafName (name : String) : (String × List LineageEvent) × NameCache H :=
  if Name.isPlaceholder name then ((Name.top, []), c)
  else
    match c.ask o.resolve name with
    | (some h, c, _) =>
      ((if o.isUniversalTop h then Name.top else o.canonicalName h, [.asked name]), c)
    | (none, c, _) => ((Name.top, [.asked name, .unresolved name]), c)

/-- `Oracle.leaf` through a cache. -/
def leaf (role : Role) (name : String) : Candidate H × NameCache H :=
  let ((name, remarks), c) := c.leafName o name
  (⟨role, name, none, remarks⟩, c)

/-- `Oracle.reference` through a cache. -/
def reference (role : Role) : TypeRef H → Candidate H × NameCache H
  | .applied h args => (⟨role, o.canonicalName h, some (.applied h args), []⟩, c)
  | .plain h =>
    if o.isUniversalTop h then (⟨role, Name.top, none, []⟩, c)
    else c.leaf o role (o.canonicalName h)
  | .var n => c.leaf o role n

/-- `Oracle.candidate` through a cache. -/
def candidate : Origin H → Candidate H × NameCache H
  | .parameter p => c.leaf o (.parameter p) p
  | .argument r => c.reference o .argument r
  | .interface r => c.reference o .interface r
  | .superType t => (⟨.superType, o.canonicalName t.handle, some t, []⟩, c)

/-- `Oracle.boxed` through a cache. -/
def boxed (h : H) : (H × List LineageEvent) × NameCache H :=
  match o.primitiveKind h with
  | none => ((h, []), c)
  | some k =>
    match c.ask o.resolve k.boxedName with
    | (some b, c, _) => ((b, [.asked k.boxedName, .boxed k]), c)
    | (none, c, _) => ((h, [.asked k.boxedName, .boxUnknown k]), c)

end

end NameCache

/-! ### Walks -/

/-- A walk and the cache that it asks. -/
structure CachedWalk (H : Type) where
  /-- The state of the walk. -/
  walk : Walk H
  /-- The state of the cache. -/
  cache : NameCache H

namespace CachedWalk

/-- Note what happens. -/
def note (s : CachedWalk H) (es : List LineageEvent) : CachedWalk H :=
  { s with walk := s.walk.note es }

section

variable (o : Oracle H) (f : Filters)

/-- `Walk.attach`, where each candidate is made when the walk comes to it. -/
def attach (grow : Target H → CachedWalk H → TypeTree × CachedWalk H) :
    List (Origin H) → CachedWalk H → List TypeTree × CachedWalk H
  | [], s => ([], s)
  | g :: gs, s =>
    let (c, cache) := s.cache.candidate o g
    let s : CachedWalk H := ⟨s.walk.note c.remarks, cache⟩
    if f.excludes c.role.filterKind c.name then
      attach grow gs (s.note [c.role.filtered c.name])
    else
      let (t, s) :=
        match c.target with
        | some target => grow target s
        | none => (.leaf c.name, s)
      let (ts, s) := attach grow gs s
      (t :: ts, s)

variable [DecidableEq H]

/-- `Walk.expandWith` through a cache. -/
def expandWith (grow : Target H → CachedWalk H → TypeTree × CachedWalk H) (t : Target H)
    (s : CachedWalk H) : TypeTree × CachedWalk H :=
  let name := o.canonicalName t.handle
  match s.walk.guard.enter t with
  | (.entered, g) =>
    let (children, s) :=
      attach o f grow (o.origins t) { s with walk := { s.walk with guard := g } }
    let w := (s.walk.note (o.superLayer t.handle).remarks).leave t
    (.node name children, { s with walk := w.note [.built name children.length] })
  | (denied, g) =>
    (.leaf name,
      { s with walk := { s.walk with guard := g }.note [.cutOff name denied g.depth] })

/-- `Walk.expand` through a cache. -/
def expand : Nat → Target H → CachedWalk H → TypeTree × CachedWalk H
  | 0 => expandWith o f fun t s => (.leaf (o.canonicalName t.handle), s)
  | levels + 1 => expandWith o f (expand levels)

end

end CachedWalk

namespace NameCache

section

variable [DecidableEq H] (c : NameCache H) (o : Oracle H) (f : Filters) (limits : Limits)

/-- `Oracle.lineageOfType` through a cache. -/
def lineageOfType (h : H) : Lineage H × NameCache H :=
  let ((h, remarks), c) := c.boxed o h
  let (tree, s) := CachedWalk.expand o f limits.maxDepth.toNat (.declared h)
    ⟨(Walk.new limits).note remarks, c⟩
  (.ofWalk tree s.walk, s.cache)

/-- The lineage of a subject through a cache, and the cache after it. -/
def lineage : Subject H → Lineage H × NameCache H
  | .type h => c.lineageOfType o f limits h
  | .value tag =>
    match o.runtimeType tag with
    | some h => c.lineageOfType o f limits h
    | none => (.ofWalk .top ((Walk.new limits).note [.valueUnknown]), c)
  | .null => (.ofWalk .null (Walk.new limits), c)

/-- A check of a subject against a signature through a cache, and the cache after it. -/
def check (filters : Option Filters) (s : Subject H) (signature : String) :
    Checked H × NameCache H :=
  match TypeTree.ofSignature signature with
  | .error e => (⟨none, none, .error (.invalidSignature e)⟩, c)
  | .ok expected =>
    let (lineage, c) := c.lineage o (filters.getD .none) .hierarchy s
    let comparison := lineage.tree.compare expected
    (⟨some lineage, some comparison, comparison.outcome.mapError .mismatch⟩, c)

end

/-! ### What becomes of a cache -/

variable {c : NameCache H} {o : Oracle H} {resolve : String → Option H} {es es' : List LineageEvent}

/-- An event after which a cache is as it was: nobody has asked it. -/
def Quiet (es : List LineageEvent) : Prop := ∀ n, .asked n ∉ es

theorem Quiet.singleton {e : LineageEvent} (he : ∀ n, e ≠ .asked n) : Quiet [e] := fun n hn =>
  he n (List.mem_singleton.1 hn).symm

theorem Quiet.append (hes : Quiet es) (hes' : Quiet es') : Quiet (es ++ es') := fun n hn =>
  (List.mem_append.1 hn).elim (hes n) (hes' n)

theorem follow_asked (c : NameCache H) (n : String) (es : List LineageEvent) :
    (c.follow resolve (.asked n :: es)).1 = ((c.ask resolve n).2.1.follow resolve es).1 := by
  simp only [follow]

theorem follow_other {e : LineageEvent} (c : NameCache H) (he : ∀ n, e ≠ .asked n)
    (es : List LineageEvent) : (c.follow resolve (e :: es)).1 = (c.follow resolve es).1 := by
  cases e with
  | asked n => exact absurd rfl (he n)
  | _ => simp only [follow]

theorem follow_append (c : NameCache H) (es es' : List LineageEvent) :
    (c.follow resolve (es ++ es')).1 = ((c.follow resolve es).1.follow resolve es').1 := by
  induction es generalizing c with
  | nil => rfl
  | cons e es ih =>
    by_cases he : ∃ n, e = .asked n
    · obtain ⟨n, rfl⟩ := he
      rw [List.cons_append, follow_asked, follow_asked, ih]
    · have he : ∀ n, e ≠ .asked n := fun n hn => he ⟨n, hn⟩
      rw [List.cons_append, follow_other c he, follow_other c he, ih]

/-- What no question of the events changes, the events do not change. -/
theorem follow_induction {P : NameCache H → Prop} (es : List LineageEvent)
    (hask : ∀ d n, .asked n ∈ es → P d → P (d.ask resolve n).2.1) (hc : P c) :
    P (c.follow resolve es).1 := by
  induction es generalizing c with
  | nil => exact hc
  | cons e es ih =>
    have hrest : ∀ d n, .asked n ∈ es → P d → P (d.ask resolve n).2.1 := fun d n hn =>
      hask d n (List.mem_cons_of_mem e hn)
    by_cases he : ∃ n, e = .asked n
    · obtain ⟨n, rfl⟩ := he
      rw [follow_asked]
      exact ih hrest (hask c n List.mem_cons_self hc)
    · rw [follow_other c fun n hn => he ⟨n, hn⟩]
      exact ih hrest hc

theorem follow_of_quiet (hes : Quiet es) : (c.follow resolve es).1 = c :=
  follow_induction es (P := (· = c)) (fun _ n hn => absurd hn (hes n)) rfl

/-- What a cache would answer does not change when it is asked. -/
theorem answer_ask (c : NameCache H) (resolve : String → Option H) (n : String) :
    (c.ask resolve n).2.1.answer resolve = c.answer resolve := by
  funext m
  unfold ask
  rcases hn : c.answers.get? n with _ | a
  · unfold answer
    by_cases hm : m = n
    · rw [hm, OrderedMap.get?_insert_self, hn]
      rfl
    · rw [OrderedMap.get?_insert_of_ne _ hm]
  · rfl

/-- **Asking does not change what is seen through a cache.** -/
theorem front_follow (c : NameCache H) (o : Oracle H) (es : List LineageEvent) :
    (c.follow o.resolve es).1.front o = c.front o := by
  refine follow_induction es (P := fun d => d.front o = c.front o) ?_ rfl
  intro d n _ hd
  rw [front, answer_ask]
  exact hd

/-! ### Candidates -/

theorem leafName_eq (c : NameCache H) (o : Oracle H) (n : String) :
    c.leafName o n =
      ((c.front o).leafName n, (c.follow o.resolve ((c.front o).leafName n).2).1) := by
  have hanswer : (c.front o).resolve n = (c.ask o.resolve n).1 := (c.ask_fst o.resolve n).symm
  unfold leafName Oracle.leafName
  by_cases hp : Name.isPlaceholder n = true
  · rw [if_pos hp, if_pos hp]
    rfl
  · rw [if_neg hp, if_neg hp, hanswer]
    rcases hask : c.ask o.resolve n with ⟨_ | h, c', records⟩
    · simp [follow, hask]
    · simp only [follow, hask]
      rfl

theorem candidate_eq (c : NameCache H) (o : Oracle H) (g : Origin H) :
    c.candidate o g =
      ((c.front o).candidate g, (c.follow o.resolve ((c.front o).candidate g).remarks).1) := by
  have hleaf : ∀ role n, c.leaf o role n =
      ((c.front o).leaf role n, (c.follow o.resolve ((c.front o).leaf role n).remarks).1) := by
    intro role n
    rw [leaf, leafName_eq]
    rfl
  have href : ∀ role r, c.reference o role r = ((c.front o).reference role r,
      (c.follow o.resolve ((c.front o).reference role r).remarks).1) := by
    intro role r
    cases r with
    | applied h args => rfl
    | plain h =>
      have htop : (c.front o).isUniversalTop h = o.isUniversalTop h := rfl
      simp only [reference, Oracle.reference, htop]
      split_ifs
      · rfl
      · exact hleaf role _
    | var n => exact hleaf role n
  cases g with
  | parameter p => exact hleaf _ p
  | argument r => exact href _ r
  | interface r => exact href _ r
  | superType t => rfl

theorem boxed_eq (c : NameCache H) (o : Oracle H) (h : H) :
    c.boxed o h = ((c.front o).boxed h, (c.follow o.resolve ((c.front o).boxed h).2).1) := by
  have hkind : (c.front o).primitiveKind h = o.primitiveKind h := rfl
  unfold boxed Oracle.boxed
  rw [hkind]
  rcases o.primitiveKind h with _ | k
  · rfl
  · have hanswer : (c.front o).resolve k.boxedName = (c.ask o.resolve k.boxedName).1 :=
      (c.ask_fst o.resolve k.boxedName).symm
    dsimp only
    rw [hanswer]
    rcases hask : c.ask o.resolve k.boxedName with ⟨_ | b, c', records⟩
    · simp [follow, hask]
    · simp [follow, hask]

end NameCache

/-! ### The course of a cached walk -/

namespace CachedWalk

/-- A walk that has begun with the cache `c`, when it has come to `w`. -/
def behind (c : NameCache H) (o : Oracle H) (w : Walk H) : CachedWalk H :=
  ⟨w, (c.follow o.resolve w.log.toList).1⟩

variable {c : NameCache H} {o : Oracle H} {f : Filters} {es : List LineageEvent}
  {grow : Target H → CachedWalk H → TypeTree × CachedWalk H}
  {grow' : Target H → Walk H → TypeTree × Walk H}

theorem walk_behind (w : Walk H) : (behind c o w).walk = w := rfl

/-- While the walk goes on without asking, the cache stays as it is. -/
theorem behind_of_quiet {w w' : Walk H} (hlog : w'.log.toList = w.log.toList ++ es)
    (hes : NameCache.Quiet es) : ⟨w', (behind c o w).cache⟩ = behind c o w' := by
  rw [behind, behind, hlog, NameCache.follow_append, NameCache.follow_of_quiet hes]

/-- A candidate is made as if by the cache that the walk has begun with. -/
theorem candidate_behind (w : Walk H) (g : Origin H) :
    (behind c o w).cache.candidate o g = ((c.front o).candidate g,
      (behind c o (w.note ((c.front o).candidate g).remarks)).cache) := by
  have hlog := Walk.note_log w ((c.front o).candidate g).remarks
  rw [NameCache.candidate_eq, behind, behind, hlog, NameCache.follow_append, NameCache.front_follow]

theorem quiet_filtered (role : Role) (n : String) : NameCache.Quiet [role.filtered n] := by
  cases role <;> exact .singleton fun m => nofun

/-- What is put below a type is what the cache in the beginning would have had put there. -/
theorem attach_behind
    (hgrow : ∀ t w, grow t (behind c o w) = ((grow' t w).1, behind c o (grow' t w).2))
    (gs : List (Origin H)) : ∀ w, attach o f grow gs (behind c o w) =
      ((Walk.attach f grow' (gs.map (c.front o).candidate) w).1,
        behind c o (Walk.attach f grow' (gs.map (c.front o).candidate) w).2) := by
  induction gs with
  | nil => exact fun w => rfl
  | cons g gs ih =>
    intro w
    have hstep : ∀ es, (⟨w.note es, (behind c o (w.note es)).cache⟩ : CachedWalk H) =
        behind c o (w.note es) := fun es => rfl
    rw [List.map_cons]
    simp only [attach, candidate_behind]
    rcases hx : f.excludes ((c.front o).candidate g).role.filterKind ((c.front o).candidate g).name
    · rcases ht : ((c.front o).candidate g).target with _ | t
      · rw [Walk.attach_leaf hx ht]
        simp only [Bool.false_eq_true, if_false]
        rw [walk_behind, hstep, ih]
      · rw [Walk.attach_target hx ht]
        simp only [Bool.false_eq_true, if_false]
        rw [walk_behind, hstep, hgrow, ih]
    · rw [Walk.attach_excluded hx]
      simp only [if_true]
      rw [walk_behind, hstep, note, walk_behind,
        behind_of_quiet (Walk.note_log _ _) (quiet_filtered _ _), ih]

theorem quiet_superLayer (o : Oracle H) (h : H) : NameCache.Quiet (o.superLayer h).remarks := by
  intro n
  unfold Oracle.superLayer
  rcases o.superType h with _ | _ | _ | _ <;> simp

variable [DecidableEq H]

theorem log_leave (w : Walk H) (t : Target H) : (w.leave t).log = w.log := by
  unfold Walk.leave
  split <;> rfl

theorem expandWith_behind
    (hgrow : ∀ t w, grow t (behind c o w) = ((grow' t w).1, behind c o (grow' t w).2))
    (t : Target H) (w : Walk H) : expandWith o f grow t (behind c o w) =
      ((Walk.expandWith (c.front o) f grow' t w).1,
        behind c o (Walk.expandWith (c.front o) f grow' t w).2) := by
  have hname : (c.front o).canonicalName t.handle = o.canonicalName t.handle := rfl
  have hcandidates : ((c.front o).layer t).candidates = (o.origins t).map (c.front o).candidate :=
    (c.front o).layer_candidates t
  have hremarks : ((c.front o).layer t).remarks = (o.superLayer t.handle).remarks := rfl
  unfold expandWith
  rw [walk_behind]
  rcases h : w.guard.enter t with ⟨e, g⟩
  by_cases he : e = .entered
  · subst he
    rw [Walk.expandWith_entered h, hname, hcandidates, hremarks]
    have hopened : ({ behind c o w with walk := { w with guard := g } } : CachedWalk H) =
        behind c o { w with guard := g } := rfl
    dsimp only
    rw [hopened, attach_behind hgrow]
    generalize Walk.attach f grow' _ _ = r
    -- what is noted after that tells of no question
    have hbuilt : NameCache.Quiet [.built (o.canonicalName t.handle) r.1.length] :=
      .singleton fun n => nofun
    have hquiet := (quiet_superLayer o t.handle).append hbuilt
    refine Prod.ext rfl (behind_of_quiet ?_ hquiet)
    rw [Walk.note_log, log_leave, walk_behind, Walk.note_log, List.append_assoc]
  · rw [Walk.expandWith_denied h he, hname]
    have hcut : NameCache.Quiet [.cutOff (o.canonicalName t.handle) e g.depth] :=
      .singleton fun n => nofun
    rw [← behind_of_quiet (Walk.note_log _ _) hcut]
    cases e
    · exact absurd rfl he
    all_goals rfl

/-- **A walk through a cache gets the answers of the cache in the beginning,** and the cache is in
the end what the events of the walk make of it. -/
theorem expand_behind (levels : Nat) : ∀ t w, expand o f levels t (behind c o w) =
    ((Walk.expand (c.front o) f levels t w).1,
      behind c o (Walk.expand (c.front o) f levels t w).2) := by
  induction levels with
  | zero => exact expandWith_behind fun t w => rfl
  | succ levels ih => exact expandWith_behind ih

end CachedWalk

/-! ### Lineages through a cache -/

namespace NameCache

/-- The last event of a lineage tells of no question. -/
theorem follow_ofWalk (c : NameCache H) (resolve : String → Option H) (tree : TypeTree)
    (w : Walk H) :
    (c.follow resolve (Lineage.ofWalk tree w).events).1 = (c.follow resolve w.log.toList).1 := by
  have hlast :
      Quiet [.finished tree.name tree.size tree.depth w.guard.steps w.guard.truncated] := by
    simp [Quiet]
  rw [Lineage.ofWalk, follow_append, follow_of_quiet hlast]

variable [DecidableEq H]

theorem lineageOfType_eq (c : NameCache H) (o : Oracle H) (f : Filters) (limits : Limits) (h : H) :
    c.lineageOfType o f limits h = ((c.front o).lineageOfType f limits h,
      (c.follow o.resolve ((c.front o).lineageOfType f limits h).events).1) := by
  let w : Walk H := (Walk.new limits).note ((c.front o).boxed h).2
  have hstart : (⟨w, (c.follow o.resolve ((c.front o).boxed h).2).1⟩ : CachedWalk H) =
      CachedWalk.behind c o w := by
    rw [CachedWalk.behind, Walk.note_log]
    rfl
  have hexpand := CachedWalk.expand_behind (c := c) (o := o) (f := f) limits.maxDepth.toNat
    (.declared ((c.front o).boxed h).1) w
  rw [lineageOfType, boxed_eq]
  dsimp only
  rw [hstart, hexpand, Oracle.lineageOfType, follow_ofWalk]
  rfl

/-- **A lineage through a cache is the one that the cache in the beginning shows,** and the cache is
afterwards what the events of the lineage make of it. -/
theorem lineage_eq (c : NameCache H) (o : Oracle H) (f : Filters) (limits : Limits)
    (s : Subject H) : c.lineage o f limits s = ((c.front o).lineage f limits s,
      (c.follow o.resolve ((c.front o).lineage f limits s).events).1) := by
  cases s with
  | type h => exact c.lineageOfType_eq o f limits h
  | null =>
    rw [lineage, Oracle.lineage, follow_ofWalk]
    rfl
  | value tag =>
    have hvalue : (c.front o).runtimeType tag = o.runtimeType tag := rfl
    simp only [lineage, Oracle.lineage, hvalue]
    rcases o.runtimeType tag with _ | h
    · simp only [follow_ofWalk]
      rfl
    · exact c.lineageOfType_eq o f limits h

end NameCache

end TypeAncestry
