import TypeAncestry.Signature.Term

/-!
# The grammar of signatures

A signature is `?`, or `?` with a bound, or a name, which may have arguments.  The grammar says so
of sequences of tokens, without a reader.

* `Derives` : tokens are a signature, which stands for a tree.
* `Nested` : at most so many brackets are open at once.
* `Term.WellNamed` : no name is `?`.
* `Term.nesting` : the number of brackets that are open at the deepest place.
* `derives_iff_spelling` : the derived sequences of tokens are the spellings of well-named terms.
* `Term.nested_spelling_iff` : how many brackets are open in a spelling.
-/

namespace TypeAncestry

namespace Signature

/-- The tree of a name with the trees of its arguments: a name that is not qualified stands for a
type that is not known, whatever its arguments. -/
def denoted (n : Word) (arguments : List TypeTree) : TypeTree :=
  if Name.isQualified n.text then .node n.text arguments else .top

mutual

/-- The tokens are a signature, which stands for the tree. -/
inductive Derives : List Token → TypeTree → Prop where
  /-- A wildcard. -/
  | wildcard : Derives [.word .wildcard] .top
  /-- A wildcard with a bound, which is dropped. -/
  | bounded {b : Bound} {ts : List Token} {t : TypeTree} :
      Derives ts t → Derives (.word .wildcard :: .word b.word :: ts) .top
  /-- A name. -/
  | name {n : Word} : n ≠ .wildcard → Derives [.word n] (denoted n [])
  /-- A name with its arguments. -/
  | applied {n : Word} {ts : List Token} {arguments : List TypeTree} :
      n ≠ .wildcard → DerivesAll ts arguments →
      Derives (.word n :: .opening :: ts ++ [.closing]) (denoted n arguments)

/-- The tokens are signatures with commas between them, which stand for the trees. -/
inductive DerivesAll : List Token → List TypeTree → Prop where
  /-- One signature. -/
  | one {ts : List Token} {t : TypeTree} : Derives ts t → DerivesAll ts [t]
  /-- A signature before others. -/
  | more {ts us : List Token} {t : TypeTree} {trees : List TypeTree} :
      Derives ts t → DerivesAll us trees → DerivesAll (ts ++ .comma :: us) (t :: trees)

end

/-- At most `limit` brackets are open at once. -/
def Nested (limit : Nat) (ts : List Token) : Prop :=
  ∀ p, p <+: ts → p.count .opening ≤ p.count .closing + limit

/-! ### Terms -/

namespace Term

/-- To prove a statement of all terms, prove it of each form from the terms inside. -/
@[elab_as_elim]
theorem induct {P : Term → Prop} (wildcard : P wildcard)
    (bounded : ∀ b t, P t → P (bounded b t))
    (named : ∀ n ts, (∀ t ∈ ts, P t) → P (named n ts)) :
    ∀ t, P t := by
  intro t
  refine Term.rec (motive_1 := P) (motive_2 := fun ts => ∀ t ∈ ts, P t) ?_ ?_ ?_ ?_ ?_ t
  · exact wildcard
  · exact bounded
  · exact named
  · simp
  · intro t ts ht hts
    exact List.forall_mem_cons.2 ⟨ht, hts⟩

mutual

/-- No name is `?`. -/
def WellNamed : Term → Prop
  | wildcard => True
  | bounded _ t => t.WellNamed
  | named n ts => n ≠ .wildcard ∧ WellNamedAll ts

/-- No name in a list of terms is `?`. -/
def WellNamedAll : List Term → Prop
  | [] => True
  | t :: ts => t.WellNamed ∧ WellNamedAll ts

end

mutual

/-- The number of brackets that are open at the deepest place. -/
def nesting : Term → Nat
  | wildcard => 0
  | bounded _ t => t.nesting
  | named _ [] => 0
  | named _ (t :: ts) => 1 + max t.nesting (nestingAll ts)

/-- The number of brackets that are open at the deepest place of a list of terms. -/
def nestingAll : List Term → Nat
  | [] => 0
  | t :: ts => max t.nesting (nestingAll ts)

end

theorem wellNamedAll_iff (ts : List Term) : WellNamedAll ts ↔ ∀ t ∈ ts, t.WellNamed := by
  induction ts with
  | nil => simp [WellNamedAll]
  | cons t ts ih => rw [WellNamedAll, ih, List.forall_mem_cons]

theorem denote_named (n : Word) (ts : List Term) :
    (named n ts).denote = denoted n (denoteAll ts) := by
  rw [denote, denoted]

end Term

/-! ### Derivations and terms -/

mutual

theorem Derives.exists_term {ts : List Token} {t : TypeTree} :
    Derives ts t → ∃ u : Term, u.WellNamed ∧ u.spelling = ts ∧ u.denote = t
  | .wildcard => ⟨.wildcard, trivial, rfl, rfl⟩
  | .bounded (b := b) h => by
    obtain ⟨u, hu, rfl, -⟩ := h.exists_term
    exact ⟨.bounded b u, hu, rfl, rfl⟩
  | .name (n := n) hn => ⟨.named n [], ⟨hn, trivial⟩, rfl, Term.denote_named n []⟩
  | .applied (n := n) hn h => by
    obtain ⟨u, us, hu, hus, rfl, rfl⟩ := h.exists_terms
    exact ⟨.named n (u :: us), ⟨hn, hu, hus⟩, by simp [Term.spelling], Term.denote_named n _⟩

theorem DerivesAll.exists_terms {ts : List Token} {trees : List TypeTree} :
    DerivesAll ts trees → ∃ (u : Term) (us : List Term), u.WellNamed ∧ Term.WellNamedAll us ∧
      u.spelling ++ Term.spellingRest us = ts ∧ Term.denoteAll (u :: us) = trees
  | .one h => by
    obtain ⟨u, hu, rfl, rfl⟩ := h.exists_term
    exact ⟨u, [], hu, trivial, by simp [Term.spellingRest], rfl⟩
  | .more h hs => by
    obtain ⟨u, hu, rfl, rfl⟩ := h.exists_term
    obtain ⟨v, vs, hv, hvs, rfl, rfl⟩ := hs.exists_terms
    exact ⟨u, v :: vs, hu, ⟨hv, hvs⟩, by simp [Term.spellingRest], rfl⟩

end

theorem derivesAll_spelling (ts : List Term) :
    ∀ t : Term, (∀ u ∈ t :: ts, Derives u.spelling u.denote) →
      DerivesAll (t.spelling ++ Term.spellingRest ts) (Term.denoteAll (t :: ts)) := by
  induction ts with
  | nil =>
    intro t h
    rw [Term.spellingRest, List.append_nil]
    exact .one (h t List.mem_cons_self)
  | cons u us ih =>
    intro t h
    obtain ⟨ht, hus⟩ := List.forall_mem_cons.1 h
    rw [Term.spellingRest, List.cons_append]
    exact .more ht (ih u hus)

theorem derives_spelling {t : Term} (h : t.WellNamed) : Derives t.spelling t.denote := by
  induction t using Term.induct with
  | wildcard => exact .wildcard
  | bounded b t ih => exact .bounded (ih h)
  | named n ts ih =>
    obtain ⟨hn, hts⟩ := h
    have hall : ∀ t ∈ ts, Derives t.spelling t.denote := fun t ht =>
      ih t ht ((Term.wellNamedAll_iff ts).1 hts t ht)
    rw [Term.denote_named]
    cases ts with
    | nil => exact .name hn
    | cons t ts =>
      have := Derives.applied hn (derivesAll_spelling ts t hall)
      simpa [Term.spelling] using this

/-- **The grammar derives the spellings of the terms in which no name is `?`,** and a spelling
stands for the tree that its term stands for. -/
theorem derives_iff_spelling {ts : List Token} {t : TypeTree} :
    Derives ts t ↔ ∃ u : Term, u.WellNamed ∧ u.spelling = ts ∧ u.denote = t := by
  constructor
  · exact Derives.exists_term
  · rintro ⟨u, hu, rfl, rfl⟩
    exact derives_spelling hu

/-! ### Open brackets -/

/-- As many brackets are closed as are opened. -/
def Balanced (ts : List Token) : Prop := ts.count .opening = ts.count .closing

theorem Balanced.append {ts us : List Token} (ht : Balanced ts) (hu : Balanced us) :
    Balanced (ts ++ us) := by
  unfold Balanced at *
  rw [List.count_append, List.count_append, ht, hu]

theorem Balanced.cons {t : Token} {ts : List Token} (ho : t ≠ .opening) (hc : t ≠ .closing)
    (h : Balanced ts) : Balanced (t :: ts) := by
  unfold Balanced at *
  rw [List.count_cons_of_ne ho, List.count_cons_of_ne hc, h]

theorem Balanced.enclosed {ts : List Token} (h : Balanced ts) :
    Balanced (.opening :: ts ++ [.closing]) := by
  unfold Balanced at *
  simp [List.count_append, h]

theorem nested_nil (limit : Nat) : Nested limit [] := by
  intro p hp
  rw [List.prefix_nil.1 hp]
  simp

theorem nested_cons {limit : Nat} {t : Token} {ts : List Token} (ho : t ≠ .opening)
    (hc : t ≠ .closing) : Nested limit (t :: ts) ↔ Nested limit ts := by
  constructor
  · intro h p hp
    have := h (t :: p) (by simpa using hp)
    rwa [List.count_cons_of_ne ho, List.count_cons_of_ne hc] at this
  · intro h p hp
    rcases List.prefix_cons_iff.1 hp with rfl | ⟨q, rfl, hq⟩
    · simp
    · rw [List.count_cons_of_ne ho, List.count_cons_of_ne hc]
      exact h q hq

theorem nested_opening {limit : Nat} {ts : List Token} :
    Nested limit (.opening :: ts) ↔ 1 ≤ limit ∧ Nested (limit - 1) ts := by
  have hcount : ∀ q : List Token, (Token.opening :: q).count .opening = q.count .opening + 1 :=
    fun q => by simp
  have hcount' : ∀ q : List Token, (Token.opening :: q).count .closing = q.count .closing :=
    fun q => by simp
  constructor
  · intro h
    have hone := h [.opening] (by simp)
    rw [hcount, hcount'] at hone
    simp only [List.count_nil] at hone
    refine ⟨by omega, fun p hp => ?_⟩
    have := h (.opening :: p) (by simpa using hp)
    rw [hcount, hcount'] at this
    omega
  · rintro ⟨hl, h⟩ p hp
    rcases List.prefix_cons_iff.1 hp with rfl | ⟨q, rfl, hq⟩
    · simp
    · have := h q hq
      rw [hcount, hcount']
      omega

/-- Behind balanced tokens the count of open brackets begins anew. -/
theorem nested_append {limit : Nat} {ts us : List Token} (hts : Balanced ts) :
    Nested limit (ts ++ us) ↔ Nested limit ts ∧ Nested limit us := by
  unfold Balanced at hts
  constructor
  · intro h
    refine ⟨fun p hp => h p (hp.trans (List.prefix_append ts us)), fun p hp => ?_⟩
    have := h (ts ++ p) ((List.prefix_append_right_inj ts).2 hp)
    rw [List.count_append, List.count_append] at this
    omega
  · rintro ⟨ht, hu⟩ p hp
    rcases List.prefix_or_prefix_of_prefix hp (List.prefix_append ts us) with h | ⟨q, rfl⟩
    · exact ht p h
    · have := hu q ((List.prefix_append_right_inj ts).1 hp)
      rw [List.count_append, List.count_append]
      omega

namespace Term

theorem balanced_spellingRest {ts : List Term} (h : ∀ t ∈ ts, Balanced t.spelling) :
    Balanced (spellingRest ts) := by
  induction ts with
  | nil => rfl
  | cons t ts ih =>
    obtain ⟨ht, hts⟩ := List.forall_mem_cons.1 h
    exact (ht.cons (by simp) (by simp)).append (ih hts)

theorem balanced_spelling (t : Term) : Balanced t.spelling := by
  induction t using Term.induct with
  | wildcard => rfl
  | bounded b t ih => exact (ih.cons (by simp) (by simp)).cons (by simp) (by simp)
  | named n ts ih =>
    cases ts with
    | nil => exact Balanced.cons (by simp) (by simp) rfl
    | cons t ts =>
      obtain ⟨ht, hts⟩ := List.forall_mem_cons.1 ih
      have := (ht.append (balanced_spellingRest hts)).enclosed
      simpa [spelling] using this.cons (t := .word n) (by simp) (by simp)

theorem nested_spellingRest_iff {limit : Nat} {ts : List Term}
    (h : ∀ t ∈ ts, Nested limit t.spelling ↔ t.nesting ≤ limit) :
    Nested limit (spellingRest ts) ↔ nestingAll ts ≤ limit := by
  induction ts with
  | nil => simp [spellingRest, nestingAll, nested_nil]
  | cons t ts ih =>
    obtain ⟨ht, hts⟩ := List.forall_mem_cons.1 h
    rw [spellingRest, List.cons_append, nested_cons (by simp) (by simp),
      nested_append (balanced_spelling t), ht, ih hts, nestingAll]
    omega

/-- **At most `limit` brackets are open in a spelling exactly if its term nests no deeper.** -/
theorem nested_spelling_iff (t : Term) :
    ∀ limit, Nested limit t.spelling ↔ t.nesting ≤ limit := by
  induction t using Term.induct with
  | wildcard =>
    intro limit
    rw [spelling, nested_cons (by simp) (by simp)]
    simp [nesting, nested_nil]
  | bounded b t ih =>
    intro limit
    rw [spelling, nested_cons (by simp) (by simp), nested_cons (by simp) (by simp), ih, nesting]
  | named n ts ih =>
    intro limit
    cases ts with
    | nil =>
      rw [spelling, nested_cons (by simp) (by simp)]
      simp [nesting, nested_nil]
    | cons t ts =>
      obtain ⟨ht, hts⟩ := List.forall_mem_cons.1 ih
      have hlast : Nested (limit - 1) [.closing] := fun p hp => by
        rcases List.prefix_cons_iff.1 hp with rfl | ⟨q, rfl, hq⟩
        · simp
        · simp [List.prefix_nil.1 hq]
      have hrest : Balanced (spellingRest ts) :=
        balanced_spellingRest fun t _ => balanced_spelling t
      rw [spelling, List.cons_append, List.cons_append, List.cons_append, List.cons_append,
        nested_cons (by simp) (by simp), nested_opening,
        nested_append ((balanced_spelling t).append hrest), nested_append (balanced_spelling t),
        ht, nested_spellingRest_iff fun u hu => hts u hu _, nesting]
      simp only [hlast, and_true]
      omega

end Term

end Signature

end TypeAncestry
