import TypeAncestry.Proofs.Cache.Walking

/-!
# The cache does not show

Whatever a cache remembers, the oracle has answered, be it that a name leads nowhere.  As the
answers of the oracle do not change, it makes no difference whether one gets them from the oracle or
from the cache, and lineages and checks through the cache are those of the oracle.  Nor does a
lineage have to ask the oracle for anything if it has been built before and nothing was forgotten.

* `Oracle.borrowed` : a reference to an oracle.
* `NameCache.Call`, `NameCache.after` : what is done with a cache, and what becomes of it.
* `NameCache.Faithful` : a cache remembers nothing but answers of the oracle.
* `NameCache.exists_follow` : whatever is done but to clear it, a cache is asked for some names.
* `NameCache.transparent` : the cache does not show.
-/

namespace TypeAncestry

variable {H : Type}

/-- A reference to an oracle, which passes every question on. -/
def Oracle.borrowed (o : Oracle H) : Oracle H where
  canonicalName h := o.canonicalName h
  typeParameters h := o.typeParameters h
  superType h := o.superType h
  interfaces h := o.interfaces h
  resolve name := o.resolve name
  isUniversalTop h := o.isUniversalTop h
  primitiveKind h := o.primitiveKind h
  runtimeType tag := o.runtimeType tag

namespace NameCache

variable {c : NameCache H} {o : Oracle H} {resolve : String → Option H} {n : String}
  {es es' : List LineageEvent}

/-! ### What a cache remembers -/

/-- The cache remembers nothing but what the oracle answers. -/
def Faithful (c : NameCache H) (resolve : String → Option H) : Prop :=
  ∀ n a, c.answers.get? n = some a → a = resolve n

theorem faithful_new (resolve : String → Option H) : (new : NameCache H).Faithful resolve :=
  fun _ _ h => nomatch h

theorem faithful_clear (c : NameCache H) (resolve : String → Option H) :
    c.clear.Faithful resolve :=
  fun _ _ h => nomatch h

theorem ask_of_remembered {a : Option H} (h : c.answers.get? n = some a) :
    (c.ask resolve n).2.1 = { c with hitCount := c.hitCount + 1 } := by
  unfold ask
  rw [h]

theorem ask_of_not_remembered (h : c.answers.get? n = none) :
    (c.ask resolve n).2.1 =
      { c with answers := c.answers.insert n (resolve n), missCount := c.missCount + 1 } := by
  unfold ask
  rw [h]

theorem Faithful.ask (hc : c.Faithful resolve) (n : String) :
    (c.ask resolve n).2.1.Faithful resolve := by
  rcases hn : c.answers.get? n with _ | a
  · rw [ask_of_not_remembered hn]
    intro m b hb
    by_cases hm : m = n
    · subst hm
      rw [OrderedMap.get?_insert_self] at hb
      exact (Option.some.inj hb).symm
    · rw [OrderedMap.get?_insert_of_ne _ hm] at hb
      exact hc m b hb
  · rw [ask_of_remembered hn]
    exact hc

theorem Faithful.follow (hc : c.Faithful resolve) (es : List LineageEvent) :
    (c.follow resolve es).1.Faithful resolve :=
  follow_induction es (P := (Faithful · resolve)) (fun _ n _ hd => hd.ask n) hc

/-- **What is seen through a faithful cache is the oracle.** -/
theorem Faithful.front (hc : c.Faithful o.resolve) : c.front o = o := by
  have hanswer : c.answer o.resolve = o.resolve := by
    funext n
    unfold answer
    rcases hn : c.answers.get? n with _ | a
    · rfl
    · exact hc n a hn
  rw [NameCache.front, hanswer]

/-! ### What a cache has not to be told again -/

/-- The cache remembers the answers to all questions that the events tell of. -/
def Remembers (c : NameCache H) (es : List LineageEvent) : Prop :=
  ∀ n, .asked n ∈ es → ∃ a, c.answers.get? n = some a

theorem Remembers.ask (hc : c.Remembers es) (n : String) : (c.ask resolve n).2.1.Remembers es := by
  rcases hn : c.answers.get? n with _ | a
  · rw [ask_of_not_remembered hn]
    intro m hm
    by_cases hmn : m = n
    · subst hmn
      exact ⟨_, OrderedMap.get?_insert_self c.answers m _⟩
    · obtain ⟨b, hb⟩ := hc m hm
      exact ⟨b, (OrderedMap.get?_insert_of_ne _ hmn _).trans hb⟩
  · rw [ask_of_remembered hn]
    exact hc

theorem Remembers.follow (hc : c.Remembers es) (es' : List LineageEvent) :
    (c.follow resolve es').1.Remembers es :=
  follow_induction es' (P := (Remembers · es)) (fun _ n _ hd => hd.ask n) hc

/-- A cache remembers what it has been asked. -/
theorem remembers_ask (c : NameCache H) (resolve : String → Option H) (n : String) :
    (c.ask resolve n).2.1.Remembers [.asked n] := by
  intro m hm
  obtain rfl := LineageEvent.asked.inj (List.mem_singleton.1 hm)
  rcases hn : c.answers.get? m with _ | a
  · rw [ask_of_not_remembered hn]
    exact ⟨_, OrderedMap.get?_insert_self c.answers m _⟩
  · rw [ask_of_remembered hn]
    exact ⟨a, hn⟩

theorem remembers_follow (c : NameCache H) (resolve : String → Option H)
    (es : List LineageEvent) : (c.follow resolve es).1.Remembers es := by
  intro n hn
  obtain ⟨earlier, later, rfl⟩ := List.append_of_mem hn
  rw [follow_append, follow_asked]
  -- from the moment it was asked, nothing makes the cache forget the answer
  have hasked := remembers_ask (c.follow resolve earlier).1 resolve n
  exact hasked.follow later n (List.mem_singleton_self _)

/-- **What is remembered is not missed.** -/
theorem Remembers.misses (hc : c.Remembers es) : (c.follow resolve es).1.misses = c.misses := by
  suffices h : (c.follow resolve es).1.Remembers es ∧ (c.follow resolve es).1.misses = c.misses from
    h.2
  refine follow_induction es (P := fun d => d.Remembers es ∧ d.misses = c.misses) ?_ ⟨hc, rfl⟩
  rintro d n hn ⟨hd, hmisses⟩
  obtain ⟨a, ha⟩ := hd n hn
  refine ⟨hd.ask n, ?_⟩
  rw [ask_of_remembered ha]
  exact hmisses

/-! ### What is done with a cache -/

/-- What can be done with a cache. -/
inductive Call (H : Type) where
  /-- Ask for a name. -/
  | ask (name : String)
  /-- Build a lineage through the cache. -/
  | parse (filters : Filters) (limits : Limits) (s : Subject H)
  /-- Check a subject against a signature through the cache. -/
  | check (filters : Option Filters) (s : Subject H) (signature : String)
  /-- Forget all answers. -/
  | clear

variable [DecidableEq H]

/-- The cache for an oracle after a call. -/
def apply (o : Oracle H) (c : NameCache H) : Call H → NameCache H
  | .ask name => (c.ask o.resolve name).2.1
  | .parse f limits s => (c.lineage o f limits s).2
  | .check filters s signature => (c.check o filters s signature).2
  | .clear => c.clear

/-- The cache for an oracle after calls, the first of the list first. -/
def after (o : Oracle H) (c : NameCache H) (calls : List (Call H)) : NameCache H :=
  calls.foldl (apply o) c

/-- A check through a cache is one through what the cache shows. -/
theorem check_eq (c : NameCache H) (o : Oracle H) (filters : Option Filters) (s : Subject H)
    (signature : String) :
    (c.check o filters s signature).1 = (c.front o).check filters s signature ∧
      ∃ es, (c.check o filters s signature).2 = (c.follow o.resolve es).1 := by
  unfold check Oracle.check
  rcases TypeTree.ofSignature signature with e | expected
  · exact ⟨rfl, [], rfl⟩
  · dsimp only
    rw [lineage_eq]
    exact ⟨rfl, _, rfl⟩

/-- **Whatever is done but to clear it, a cache is asked for some names.** -/
theorem exists_follow (c : NameCache H) (o : Oracle H) {x : Call H} (hx : x ≠ .clear) :
    ∃ es, c.apply o x = (c.follow o.resolve es).1 := by
  cases x with
  | ask n => exact ⟨[.asked n], (c.follow_asked n []).symm⟩
  | parse f limits s => exact ⟨_, congrArg Prod.snd (c.lineage_eq o f limits s)⟩
  | check filters s signature => exact (c.check_eq o filters s signature).2
  | clear => exact absurd rfl hx

theorem exists_follow_after (c : NameCache H) (o : Oracle H) {calls : List (Call H)}
    (hcalls : ∀ x ∈ calls, x ≠ .clear) :
    ∃ es, c.after o calls = (c.follow o.resolve es).1 := by
  induction calls generalizing c with
  | nil => exact ⟨[], rfl⟩
  | cons x calls ih =>
    obtain ⟨hx, hcalls⟩ := List.forall_mem_cons.1 hcalls
    obtain ⟨es, hes⟩ := c.exists_follow o hx
    obtain ⟨es', hes'⟩ := ih (c.apply o x) hcalls
    refine ⟨es ++ es', ?_⟩
    rw [follow_append, ← hes, ← hes']
    rfl

theorem Faithful.apply (hc : c.Faithful o.resolve) (x : Call H) :
    (c.apply o x).Faithful o.resolve := by
  by_cases hx : x = .clear
  · subst hx
    exact c.faithful_clear o.resolve
  · obtain ⟨es, hes⟩ := c.exists_follow o hx
    rw [hes]
    exact hc.follow es

/-- **A cache stays faithful, whatever is done with it.** -/
theorem Faithful.after (hc : c.Faithful o.resolve) (calls : List (Call H)) :
    (c.after o calls).Faithful o.resolve := by
  induction calls generalizing c with
  | nil => exact hc
  | cons x calls ih => exact ih (hc.apply x)

/-- **The cache does not show.**  Whatever has been done with a cache since it was new, what is seen
through it is the oracle: lineages and checks through it are those of the oracle, as are those
through a reference to the oracle, and a lineage makes of the cache what its events make of it.  If
a lineage is built, and built again after other calls that do not clear the cache, no name is missed
the second time. -/
theorem transparent (o : Oracle H) (calls : List (Call H)) :
    let c := (new : NameCache H).after o calls
    c.front o = o ∧
    (∀ (f : Filters) (limits : Limits) (s : Subject H),
      c.lineage o f limits s =
          (o.lineage f limits s, (c.follow o.resolve (o.lineage f limits s).events).1) ∧
        o.borrowed.lineage f limits s = o.lineage f limits s) ∧
    (∀ (filters : Option Filters) (s : Subject H) (signature : String),
      (c.check o filters s signature).1 = o.check filters s signature ∧
        o.borrowed.check filters s signature = o.check filters s signature) ∧
    ∀ (f : Filters) (limits : Limits) (s : Subject H) (more : List (Call H)),
      (∀ x ∈ more, x ≠ .clear) →
        let c' := (c.apply o (.parse f limits s)).after o more
        (c'.apply o (.parse f limits s)).misses = c'.misses := by
  intro c
  have hc : c.Faithful o.resolve := (faithful_new o.resolve).after calls
  refine ⟨hc.front, fun f limits s => ⟨?_, rfl⟩, fun filters s signature => ⟨?_, rfl⟩, ?_⟩
  · rw [lineage_eq, hc.front]
  · rw [(c.check_eq o filters s signature).1, hc.front]
  · intro f limits s more hmore c'
    -- both times the oracle itself tells which names are asked for
    have hparse : ∀ {d : NameCache H}, d.Faithful o.resolve →
        d.apply o (.parse f limits s) =
          (d.follow o.resolve (o.lineage f limits s).events).1 := by
      intro d hd
      rw [NameCache.apply, lineage_eq, hd.front]
    obtain ⟨es, hes⟩ := (c.apply o (.parse f limits s)).exists_follow_after o hmore
    have hc' : c'.Faithful o.resolve := (hc.apply _).after more
    have hremembers : c'.Remembers (o.lineage f limits s).events := by
      change ((c.apply o (.parse f limits s)).after o more).Remembers _
      rw [hes, hparse hc]
      exact (remembers_follow _ _ _).follow es
    rw [hparse hc']
    exact hremembers.misses

end NameCache

/-- A cache that has been asked, cleared and asked again still has to be told of `a.Number` when the
lineage of a matrix is built, but not when it is built again. -/
theorem transparent_matrix :
    let o := Registry.matrix.oracle
    let c := (NameCache.new : NameCache Handle).after o [.ask "a.Number", .clear, .ask "a.None"]
    let c' := (c.apply o (.parse .none ⟨4, 8⟩ (.type ⟨1⟩))).after o
      [.ask "a.List", .check none (.type ⟨3⟩) "a.List<?>"]
    (c.lineage o .none ⟨4, 8⟩ (.type ⟨1⟩)).1 = o.lineage .none ⟨4, 8⟩ (.type ⟨1⟩) ∧
      c.misses = 2 ∧ c'.misses = 4 ∧
      (c'.apply o (.parse .none ⟨4, 8⟩ (.type ⟨1⟩))).misses = 4 := by
  intro o c c'
  obtain ⟨-, hlineage, -, hmisses⟩ :=
    NameCache.transparent o [.ask "a.Number", .clear, .ask "a.None"]
  have hmore : ∀ x ∈ [NameCache.Call.ask "a.List", .check none (.type ⟨3⟩) "a.List<?>"],
      x ≠ NameCache.Call.clear (H := Handle) := by
    simp
  have hcount : c'.misses = 4 := by decide +kernel
  have hsame := congrArg Prod.fst (hlineage .none ⟨4, 8⟩ (.type ⟨1⟩)).1
  exact ⟨hsame, by decide +kernel, hcount,
    (hmisses .none ⟨4, 8⟩ (.type ⟨1⟩) _ hmore).trans hcount⟩

end TypeAncestry
