import TypeAncestry.Proofs.Lineage.Exhaustion
import TypeAncestry.Proofs.Lineage.Pruning

/-!
# The log as an account of a walk

A walk tells how each of its attempts to expand a type ended: the type was built, or it was cut off.
An attempt ends when all attempts below it have ended, so the log goes through the tree in
postorder.  What the guard reports in the end is the sum of what the log tells: each attempt is one
step, and a limit was reached where the log says so.

* `TypeTree.postorder` : the positions of a tree, the children of a node before the node.
* `Guard.Accounts`, `Oracle.Runs.accounts` : the guard agrees with what is told.
* `Oracle.Runs.events_eq` : the log goes through the tree in postorder.
* `Course.told?`, `Oracle.Takes.told_eq` : what is told of the node at a position.
* `Oracle.lineage_log` : the log of a lineage.
-/

namespace TypeAncestry

/-! ### Positions in postorder -/

namespace TypeTree

mutual

/-- The positions of a tree: those in the children, from left to right, and then the root. -/
def postorder : TypeTree → List Position
  | node _ cs => postorderAll 0 cs ++ [[]]

/-- The positions in the children of a node, which are numbered from `i` on. -/
def postorderAll (i : Nat) : List TypeTree → List Position
  | [] => []
  | t :: ts => t.postorder.map (i :: ·) ++ postorderAll (i + 1) ts

end

theorem exists_of_mem_postorderAll {p : Position} {ts : List TypeTree} {i : Nat}
    (hp : p ∈ postorderAll i ts) : ∃ k q, p = (i + k) :: q := by
  induction ts generalizing i with
  | nil => nomatch hp
  | cons t ts ih =>
    rcases List.mem_append.1 hp with hp | hp
    · obtain ⟨q, -, rfl⟩ := List.mem_map.1 hp
      exact ⟨0, q, rfl⟩
    · obtain ⟨k, q, rfl⟩ := ih hp
      exact ⟨k + 1, q, by rw [Nat.add_right_comm, Nat.add_assoc]⟩

mutual

/-- In postorder what comes later encloses a node, or comes after it in the order of the tree. -/
theorem pairwise_postorder : ∀ t : TypeTree, t.postorder.Pairwise fun p q => q.Above p ∨ p.Before q
  | node _ cs => by
    rw [postorder, List.pairwise_append]
    refine ⟨pairwise_postorderAll 0 cs, List.pairwise_singleton _ _, fun p hp q hq => .inl ?_⟩
    obtain ⟨k, p, rfl⟩ := exists_of_mem_postorderAll hp
    obtain rfl := List.mem_singleton.1 hq
    exact Position.nil_above_cons _ p

theorem pairwise_postorderAll (i : Nat) : ∀ ts : List TypeTree,
    (postorderAll i ts).Pairwise fun p q => q.Above p ∨ p.Before q
  | [] => .nil
  | t :: ts => by
    rw [postorderAll, List.pairwise_append, List.pairwise_map]
    refine ⟨t.pairwise_postorder.imp fun h => ?_, pairwise_postorderAll (i + 1) ts,
      fun p hp q hq => .inr ?_⟩
    · exact h.imp (·.cons i) List.Lex.cons
    · obtain ⟨p, -, rfl⟩ := List.mem_map.1 hp
      obtain ⟨k, q, rfl⟩ := exists_of_mem_postorderAll hq
      exact .rel (by omega)

end

end TypeTree

/-! ### What events tell -/

/-- The answer refuses a call because of a limit. -/
def Entry.isLimit : Entry → Bool
  | depthExceeded => true
  | stepsExceeded => true
  | _ => false

namespace LineageEvent

/-- A type was built. -/
def isBuilt : LineageEvent → Bool
  | built _ _ => true
  | _ => false

/-- A type was cut off. -/
def isCutOff : LineageEvent → Bool
  | cutOff _ _ _ => true
  | _ => false

/-- A type was cut off because of a limit. -/
def tellsLimit : LineageEvent → Bool
  | cutOff _ e _ => e.isLimit
  | _ => false

/-- The attempts that ended are the types that were built and those that were cut off. -/
theorem length_ends (es : List LineageEvent) :
    (ends es).length = es.countP (·.isBuilt) + es.countP (·.isCutOff) := by
  have hone : ∀ e : LineageEvent, (if e.endsAttempt = true then 1 else 0) =
      (if e.isBuilt = true then 1 else 0) + if e.isCutOff = true then 1 else 0 := by
    intro e
    cases e <;> rfl
  rw [ends, ← List.countP_eq_length_filter]
  induction es with
  | nil => rfl
  | cons e es ih =>
    simp only [List.countP_cons, ih, hone]
    omega

theorem any_tellsLimit_iff {es : List LineageEvent} : es.any (·.tellsLimit) = true ↔
    ∃ n e d, cutOff n e d ∈ es ∧ (e = .depthExceeded ∨ e = .stepsExceeded) := by
  rw [List.any_eq_true]
  constructor
  · rintro ⟨e, he, hlimit⟩
    cases e with
    | cutOff n e d =>
      refine ⟨n, e, d, he, ?_⟩
      cases e with
      | depthExceeded => exact .inl rfl
      | stepsExceeded => exact .inr rfl
      | entered | cycle => cases hlimit
    | _ => cases hlimit
  · rintro ⟨n, e, d, he, rfl | rfl⟩ <;> exact ⟨_, he, rfl⟩

/-- Limits are only told of where an attempt ended. -/
theorem any_tellsLimit_ends (es : List LineageEvent) :
    (ends es).any (·.tellsLimit) = es.any (·.tellsLimit) := by
  rw [ends, List.any_filter]
  congr 1
  funext e
  cases e <;> rfl

end LineageEvent

/-! ### The guard agrees with what is told -/

namespace Guard

variable {K : Type} {g g' g'' : Guard K} {es es' : List LineageEvent}

/-- Between `g` and `g'` the guard counted a step for each of the events `es`, and reported a limit
where they do. -/
structure Accounts (g : Guard K) (es : List LineageEvent) (g' : Guard K) : Prop where
  steps : g.steps ≤ stepsCap → g'.steps = min (g.steps + es.length) stepsCap
  truncated : g'.truncated = (g.truncated || es.any (·.tellsLimit))

namespace Accounts

theorem nil (g : Guard K) : g.Accounts [] g :=
  ⟨fun h => (Nat.min_eq_left h).symm, by simp⟩

theorem append (h : g.Accounts es g') (h' : g'.Accounts es' g'') : g.Accounts (es ++ es') g'' := by
  refine ⟨fun hg => ?_, ?_⟩
  · have hfirst := h.steps hg
    rw [h'.steps (by omega), hfirst, List.length_append]
    omega
  · rw [h'.truncated, h.truncated, List.any_append, Bool.or_assoc]

variable [DecidableEq K] {k : K}

/-- A refused key is told of by one event. -/
theorem refused {e : LineageEvent} (he : (g.enter k).1 ≠ .entered)
    (hlimit : e.tellsLimit = (g.enter k).1.isLimit) : g.Accounts [e] (g.enter k).2 := by
  refine ⟨fun _ => g.enter_steps k, ?_⟩
  rw [List.any_cons, List.any_nil, Bool.or_false, hlimit]
  obtain ⟨-, h⟩ | ⟨-, h⟩ | ⟨-, -, h⟩ | ⟨-, -, h⟩ := g.enter_cases k
  case inr.inr.inr => rw [h] at he; exact absurd rfl he
  all_goals rw [h]; rfl

/-- A key that is entered and left is told of by one event more than what happens in between. -/
theorem enclose {e : LineageEvent} (he : (g.enter k).1 = .entered)
    (h : (g.enter k).2.Accounts es g') (hleave : g'.leave k = .ok g'')
    (hlimit : e.tellsLimit = false) : g.Accounts (es ++ [e]) g'' := by
  obtain ⟨-, -, -, hopened⟩ := of_entered he
  obtain ⟨-, rfl⟩ := of_leave hleave
  rw [hopened] at h
  refine ⟨fun _ => ?_, ?_⟩
  · have hsteps : (g.opened k).steps = min (g.steps + 1) stepsCap := rfl
    have hinner := h.steps (by omega)
    simp only [hinner, hsteps, List.length_append, List.length_singleton]
    omega
  · have htruncated : (g.opened k).truncated = g.truncated := Bool.or_false _
    simp only [h.truncated, htruncated, List.any_append, List.any_cons, List.any_nil, hlimit,
      Bool.or_false]

end Accounts

end Guard

/-! ### What is told of an attempt -/

namespace Course

variable {H : Type} [DecidableEq H] {o : Oracle H} {t : Target H} {g g' : Guard (Target H)}
  {xs : List (Course H)}

theorem events_of_refused (he : (g.enter t).1 ≠ .entered) :
    (attempt ⟨t, g, g'⟩ xs).events o =
      [.cutOff (o.canonicalName t.handle) (g.enter t).1 (g.enter t).2.depth] := by
  unfold events
  split
  · next hentered => exact absurd hentered he
  · rfl

theorem events_of_entered (he : (g.enter t).1 = .entered) :
    (attempt ⟨t, g, g'⟩ xs).events o =
      eventsAll o xs ++ [.built (o.canonicalName t.handle) xs.length] := by
  unfold events
  split
  · rfl
  · next hrefused => exact absurd he (hrefused ·)

variable (o) in
/-- What is told last, which is how the attempt at the root ended. -/
def lastEvent? (x : Course H) : Option LineageEvent := (x.events o).getLast?

theorem lastEvent?_of_refused (he : (g.enter t).1 ≠ .entered) :
    (attempt ⟨t, g, g'⟩ xs).lastEvent? o =
      some (.cutOff (o.canonicalName t.handle) (g.enter t).1 (g.enter t).2.depth) := by
  rw [lastEvent?, events_of_refused he]
  rfl

theorem lastEvent?_of_entered (he : (g.enter t).1 = .entered) :
    (attempt ⟨t, g, g'⟩ xs).lastEvent? o =
      some (.built (o.canonicalName t.handle) xs.length) := by
  rw [lastEvent?, events_of_entered he, List.getLast?_concat]

end Course

namespace Oracle

variable {H : Type} [DecidableEq H] {o : Oracle H} {f : Filters}

mutual

/-- **The guard of a walk agrees with what is told of its attempts.** -/
theorem Runs.accounts {t : Target H} {g g' : Guard (Target H)} {x : Course H} :
    o.Runs f t g x g' → g.Accounts (x.events o) g'
  | .refused he => by
    rw [Course.events_of_refused he]
    exact .refused he rfl
  | .entered he hr hl => by
    rw [Course.events_of_entered he]
    exact .enclose he hr.accounts hl rfl

theorem RunsAll.accounts {cs : List (Candidate H)} {g g' : Guard (Target H)}
    {xs : List (Course H)} : o.RunsAll f cs g xs g' → g.Accounts (Course.eventsAll o xs) g'
  | .nil => .nil _
  | .excluded _ hr => hr.accounts
  | .leaf _ _ hr => hr.accounts
  | .target _ _ hu hr => hu.accounts.append hr.accounts

end

/-! ### Postorder -/

mutual

/-- **The log goes through the tree in postorder.** -/
theorem Runs.events_eq {t : Target H} {g g' : Guard (Target H)} {x : Course H} :
    o.Runs f t g x g' → x.events o =
      (x.tree o).postorder.filterMap fun p => (x.at? p).bind (Course.lastEvent? o)
  | .refused he => by
    rw [Course.events_of_refused he]
    simp [Course.tree, Course.treeAll, TypeTree.postorder, TypeTree.postorderAll, Course.at?,
      Course.lastEvent?_of_refused he]
  | .entered he hr hl => by
    rw [Course.events_of_entered he, Course.tree, TypeTree.postorder, List.filterMap_append,
      ← hr.events_eq 0 _ fun k p => by rw [Nat.zero_add]; rfl]
    simp [Course.at?, Course.lastEvent?_of_entered he]

/-- The same for the courses below a type, which are numbered from `i` on; `told` says what is told
of the attempt at a position. -/
theorem RunsAll.events_eq {cs : List (Candidate H)} {g g' : Guard (Target H)}
    {xs : List (Course H)} : o.RunsAll f cs g xs g' →
      ∀ (i : Nat) (told : Position → Option LineageEvent),
        (∀ k p, told ((i + k) :: p) =
          (xs[k]?.bind fun x => x.at? p).bind (Course.lastEvent? o)) →
        Course.eventsAll o xs = (TypeTree.postorderAll i (Course.treeAll o xs)).filterMap told
  | .nil, _, _, _ => rfl
  | .excluded _ hr, i, told, htold => hr.events_eq i told htold
  | .leaf _ _ hr, i, told, htold => by
    have hleaf : told [i] = none := htold 0 []
    rw [Course.eventsAll, Course.treeAll, TypeTree.postorderAll, List.filterMap_append,
      ← hr.events_eq (i + 1) told fun k p => by rw [Nat.add_right_comm, Nat.add_assoc, htold]; rfl]
    simp [Course.events, Course.tree, TypeTree.leaf, TypeTree.postorder, TypeTree.postorderAll,
      hleaf]
  | .target (x := x) _ _ hu hr, i, told, htold => by
    have hfirst : (fun p => told (i :: p)) = fun p => (x.at? p).bind (Course.lastEvent? o) :=
      funext fun p => htold 0 p
    rw [Course.eventsAll, Course.treeAll, TypeTree.postorderAll, List.filterMap_append,
      ← hr.events_eq (i + 1) told fun k p => by rw [Nat.add_right_comm, Nat.add_assoc, htold]; rfl,
      List.filterMap_map, hu.events_eq]
    exact congrArg (List.filterMap · _ ++ _) hfirst.symm

end

end Oracle

/-! ### What is told of a node -/

namespace Course

variable {H : Type} [DecidableEq H]

/-- How many expansions enclose what is done at a position. -/
def enclosing (x : Course H) (p : Position) : Nat :=
  (List.range p.length).countP fun k => x.answer? (p.take k) == some .entered

/-- What is to be told of the node at a position of the tree `t`, if it was tried to expand it. -/
def told? (x : Course H) (t : TypeTree) (p : Position) : Option LineageEvent :=
  (x.answer? p).bind fun e => (t.at? p).map fun u =>
    if e = .entered then .built u.name u.children.length else .cutOff u.name e (x.enclosing p)

end Course

namespace Oracle

variable {H : Type} [DecidableEq H] {o : Oracle H} {f : Filters}

/-- What is done at a position is enclosed by an expansion for each part of it. -/
theorem Runs.enclosing_eq {t : Target H} {g g' : Guard (Target H)} {x y : Course H}
    {p : Position} (hr : o.Runs f t g x g') (hy : x.at? p = some y) :
    x.enclosing p = p.length := by
  have hall : ∀ k ∈ List.range p.length, (x.answer? (p.take k) == some .entered) = true := by
    intro k hk
    have hlt := List.mem_range.1 hk
    have habove : Position.Above (p.take k) p := by
      refine ⟨List.take_prefix k p, fun he => ?_⟩
      have hlength := congrArg List.length he
      rw [List.length_take] at hlength
      omega
    rw [hr.entered_above hy habove]
    rfl
  rw [Course.enclosing, List.countP_eq_length.2 hall, List.length_range]

variable {limits : Limits} {s : Subject H} {x : Course H} {g : Guard (Target H)}

/-- **What is told last of what is done at a position is told of the node there.** -/
theorem Takes.told_eq (h : o.Takes f limits s x g) (p : Position) :
    x.told? (x.tree o) p = (x.at? p).bind (Course.lastEvent? o) := by
  unfold Course.told? Course.answer?
  rw [Course.at?_tree]
  rcases hy : x.at? p with _ | n | ⟨a, ys⟩
  · rfl
  · rfl
  · obtain ⟨k, -, hr⟩ | ⟨n, rfl, -⟩ := h.cases
    · have henclosing := hr.enclosing_eq hy
      obtain ⟨n, hn⟩ | ⟨u, h, h', hu, hdepth⟩ := hr.runs_at hy
      · cases hn
      · cases hu with
        | refused he =>
          obtain ⟨cut, hcut⟩ := Guard.of_refused he
          have hsame : (h.enter u).2.depth = h.depth := by rw [hcut]; rfl
          have hzero : (Guard.new limits : Guard (Target H)).depth = 0 := rfl
          rw [hzero, Nat.zero_add] at hdepth
          simp only [Attempt.answer, Course.tree, Option.map_some, Option.bind_some, if_neg he,
            Course.lastEvent?_of_refused he, hsame, hdepth, henclosing, TypeTree.name_node]
        | entered he hr hl =>
          simp only [Attempt.answer, Course.tree, Option.map_some, Option.bind_some, if_pos he,
            Course.lastEvent?_of_entered he, TypeTree.name_node, TypeTree.children_node,
            Course.treeAll_eq_map, List.length_map]
    · exact absurd hy (Course.at?_leaf n p a ys)

/-- **The log tells of the nodes in postorder.** -/
theorem Takes.events_eq (h : o.Takes f limits s x g) :
    x.events o = (x.tree o).postorder.filterMap (x.told? (x.tree o)) := by
  rw [funext h.told_eq]
  obtain ⟨k, -, hr⟩ | ⟨n, rfl, -⟩ := h.cases
  · exact hr.events_eq
  · rfl

mutual

/-- Each attempt is told of once. -/
theorem Runs.length_events {t : Target H} {g g' : Guard (Target H)} {x : Course H} :
    o.Runs f t g x g' → (x.events o).length = x.attempts.length
  | .refused he => by
    rw [Course.events_of_refused he]
    rfl
  | .entered he hr _ => by
    rw [Course.events_of_entered he, List.length_append, hr.length_events]
    rfl

theorem RunsAll.length_events {cs : List (Candidate H)} {g g' : Guard (Target H)}
    {xs : List (Course H)} : o.RunsAll f cs g xs g' →
      (Course.eventsAll o xs).length = (Course.attemptsAll xs).length
  | .nil => rfl
  | .excluded _ hr => hr.length_events
  | .leaf _ _ hr => hr.length_events
  | .target _ _ hu hr => by
    rw [Course.eventsAll, Course.attemptsAll, List.length_append, List.length_append,
      hu.length_events, hr.length_events]

end

/-! ### The log of a lineage -/

open LineageEvent (ends)

section Takes

variable {limits : Limits} {s : Subject H} {x : Course H} {g : Guard (Target H)}

theorem Takes.accounts (h : o.Takes f limits s x g) :
    (Guard.new limits).Accounts (x.events o) g := by
  obtain ⟨k, -, hr⟩ | ⟨n, rfl, rfl⟩ := h.cases
  · exact hr.accounts
  · exact .nil _

theorem Takes.length_events (h : o.Takes f limits s x g) :
    (x.events o).length = x.attempts.length := by
  obtain ⟨k, -, hr⟩ | ⟨n, rfl, -⟩ := h.cases
  · exact hr.length_events
  · rfl

end Takes

/-- The log of a lineage ends with what its guard reports. -/
theorem getLast?_events (o : Oracle H) (f : Filters) (limits : Limits) (s : Subject H) :
    let l := o.lineage f limits s
    l.events.getLast? =
      some (.finished l.tree.name l.tree.size l.tree.depth l.steps l.truncated) := by
  have hwalk : ∀ (tree : TypeTree) (w : Walk H),
      let l := Lineage.ofWalk tree w
      l.events.getLast? =
        some (.finished l.tree.name l.tree.size l.tree.depth l.steps l.truncated) :=
    fun _ _ => List.getLast?_concat
  cases s with
  | type h => exact hwalk _ _
  | null => exact hwalk _ _
  | value tag =>
    simp only [lineage]
    split <;> exact hwalk _ _

end Oracle

end TypeAncestry
