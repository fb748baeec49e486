import TypeAncestry.Proofs.Signature.Acceptance
import TypeAncestry.Proofs.Signature.Names

/-!
# Written trees are read back

A tree is written with its children in angle brackets, and a comma and a space between them.  If its
names can stand in a signature, what is written splits into the tokens of a term that stands for the
tree, and is read back; unless the tree is deeper than the brackets of a signature may nest.

* `TypeTree.WellNamed` : the names of the tree can stand in a signature.
* `TypeTree.Printable` : the tree is well-named and not too deep.
* `TypeTree.term` : the signature that a tree is written as.
* `TypeTree.splits_render` : the tokens of what is written.
* `ofSignature_render` : written trees are read back, and no others are ever read.
-/

namespace TypeAncestry

open Signature

namespace TypeTree

/-- Every name is qualified or `?`, and `?` has no children. -/
def WellNamed (t : TypeTree) : Prop :=
  ∀ u ∈ t.preorder, (Name.isQualified u.name = true ∨ u.name = Name.top) ∧
    (u.name = Name.top → u.children = [])

instance (t : TypeTree) : Decidable t.WellNamed := by
  unfold WellNamed
  infer_instance

/-- The tree is well-named and has at most 129 levels. -/
def Printable (t : TypeTree) : Prop := t.WellNamed ∧ t.depth ≤ 129

instance (t : TypeTree) : Decidable t.Printable := by
  unfold Printable
  infer_instance

variable {n : String} {cs : List TypeTree}

theorem wellNamed_node_iff : (node n cs).WellNamed ↔
    ((Name.isQualified n = true ∨ n = Name.top) ∧ (n = Name.top → cs = [])) ∧
      ∀ c ∈ cs, c.WellNamed := by
  unfold WellNamed
  rw [preorder, List.forall_mem_cons]
  refine and_congr_right fun _ => ⟨fun h c hc u hu => ?_, fun h u hu => ?_⟩
  · exact h u (mem_preorderAll.2 ⟨c, hc, hu⟩)
  · obtain ⟨c, hc, hu⟩ := mem_preorderAll.1 hu
    exact h c hc u hu

/-- A well-named tree is `?` alone, or a qualified name above well-named trees. -/
theorem wellNamed_node_cases (h : (node n cs).WellNamed) :
    (n = Name.top ∧ cs = []) ∨ (Name.isQualified n = true ∧ n ≠ Name.top) := by
  obtain ⟨⟨hn | hn, hcs⟩, -⟩ := wellNamed_node_iff.1 h
  · exact .inr ⟨hn, Name.ne_top_of_isQualified hn⟩
  · exact .inl ⟨hn, hcs hn⟩

/-! ### The signature of a tree -/

mutual

/-- The signature that a tree is written as. -/
def term : TypeTree → Term
  | node n cs => if n = Name.top then .wildcard else .named (Word.ofName n) (termAll cs)

/-- The signatures that trees are written as. -/
def termAll : List TypeTree → List Term
  | [] => []
  | t :: ts => t.term :: termAll ts

end

theorem termAll_eq_map (ts : List TypeTree) : termAll ts = ts.map term := by
  induction ts with
  | nil => rfl
  | cons t ts ih => rw [termAll, ih, List.map_cons]

theorem term_wellNamed {t : TypeTree} (h : t.WellNamed) : t.term.WellNamed := by
  induction t using TypeTree.induct with
  | node n cs ih =>
    rcases wellNamed_node_cases h with ⟨hn, -⟩ | ⟨hq, hn⟩
    · rw [term, if_pos hn]
      trivial
    · rw [term, if_neg hn]
      refine ⟨Word.ofName_ne_wildcard hq, (Term.wellNamedAll_iff _).2 fun u hu => ?_⟩
      rw [termAll_eq_map] at hu
      obtain ⟨t, ht, rfl⟩ := List.mem_map.1 hu
      exact ih t ht ((wellNamed_node_iff.1 h).2 t ht)

/-- The signature that a tree is written as stands for the tree. -/
theorem denote_term {t : TypeTree} (h : t.WellNamed) : t.term.denote = t := by
  induction t using TypeTree.induct with
  | node n cs ih =>
    have hcs : Term.denoteAll (termAll cs) = cs := by
      rw [Term.denoteAll_eq_map, termAll_eq_map, List.map_map]
      refine (List.map_congr_left fun t ht => ?_).trans (List.map_id cs)
      exact ih t ht ((wellNamed_node_iff.1 h).2 t ht)
    rcases wellNamed_node_cases h with ⟨rfl, rfl⟩ | ⟨hq, hn⟩
    · rw [term, if_pos rfl]
      rfl
    · rw [term, if_neg hn, Term.denote, Word.text_ofName hq, if_pos hq, hcs]

theorem nestingAll_termAll (ts : List TypeTree) : ∀ t : TypeTree,
    (∀ u ∈ t :: ts, u.term.nesting + 1 = u.depth) →
      Term.nestingAll (termAll (t :: ts)) + 1 = depthAll (t :: ts) := by
  induction ts with
  | nil =>
    intro t h
    have := h t List.mem_cons_self
    simp only [termAll, Term.nestingAll, depthAll]
    omega
  | cons u us ih =>
    intro t h
    obtain ⟨ht, hus⟩ := List.forall_mem_cons.1 h
    have := ih u hus
    rw [termAll, Term.nestingAll, depthAll]
    omega

/-- Every level below the first is inside one more bracket. -/
theorem nesting_term {t : TypeTree} (h : t.WellNamed) : t.term.nesting + 1 = t.depth := by
  induction t using TypeTree.induct with
  | node n cs ih =>
    have hcs : ∀ t ∈ cs, t.term.nesting + 1 = t.depth := fun t ht =>
      ih t ht ((wellNamed_node_iff.1 h).2 t ht)
    rcases wellNamed_node_cases h with ⟨rfl, rfl⟩ | ⟨-, hn⟩
    · rw [term, if_pos rfl]
      rfl
    · rw [term, if_neg hn]
      cases cs with
      | nil => rfl
      | cons c cs =>
        have hnest : (Term.named (Word.ofName n) (termAll (c :: cs))).nesting =
            1 + Term.nestingAll (termAll (c :: cs)) := rfl
        rw [hnest, depth, ← nestingAll_termAll cs c hcs]
        omega

/-! ### The written form -/

theorem head_cons {c : Char} (h : isWordChar c = false) (cs : List Char) :
    ∀ d ∈ (c :: cs).head?, isWordChar d = false := by
  intro d hd
  obtain rfl : c = d := by simpa using hd
  exact h

/-- What follows a child in a written tree ends the word before it. -/
theorem head_renderRest {rest : List Char} (hrest : ∀ c ∈ rest.head?, isWordChar c = false)
    (ts : List TypeTree) : ∀ c ∈ ((renderRest ts).toList ++ rest).head?, isWordChar c = false := by
  cases ts with
  | nil => simpa [renderRest] using hrest
  | cons t ts => simpa [renderRest] using head_cons (c := ',') (by decide) []

theorem isWordChar_of_mem_wildcard : ∀ c ∈ Word.wildcard.chars, isWordChar c = true := by
  intro c hc
  obtain rfl := List.mem_singleton.1 hc
  decide

theorem splits_name {rest : List Char} {us : List Token} (hq : Name.isQualified n = true)
    (hrest : ∀ c ∈ rest.head?, isWordChar c = false) (h : Splits rest us) :
    Splits (n.toList ++ rest) (.word (Word.ofName n) :: us) := by
  have hchars := Word.chars_ofName hq
  rw [← hchars]
  refine .word ?_ hrest h
  rw [hchars]
  exact isWordChar_of_isQualified hq

/-- A written list of children splits into the tokens of the list, if each child does. -/
theorem splits_renderRest (ts : List TypeTree)
    (hall : ∀ t ∈ ts, ∀ (rest : List Char) (us : List Token),
      (∀ c ∈ rest.head?, isWordChar c = false) → Splits rest us →
        Splits (t.render.toList ++ rest) (t.term.spelling ++ us)) :
    ∀ (rest : List Char) (us : List Token), (∀ c ∈ rest.head?, isWordChar c = false) →
      Splits rest us →
        Splits ((renderRest ts).toList ++ rest) (Term.spellingRest (termAll ts) ++ us) := by
  induction ts with
  | nil =>
    intro rest us _ h
    simpa [renderRest, termAll, Term.spellingRest] using h
  | cons t ts ih =>
    intro rest us hrest h
    obtain ⟨ht, hts⟩ := List.forall_mem_cons.1 hall
    have hchild := ht _ _ (head_renderRest hrest ts) (ih hts rest us hrest h)
    have hcomma : Splits (',' :: ' ' :: (t.render.toList ++ ((renderRest ts).toList ++ rest)))
        (.comma :: (t.term.spelling ++ (Term.spellingRest (termAll ts) ++ us))) :=
      .mark (by decide) (.blank (by decide) hchild)
    simpa [renderRest, termAll, Term.spellingRest] using hcomma

/-- **A written tree splits into the tokens of its signature,** whatever follows that is not part of
a word. -/
theorem splits_render (t : TypeTree) : t.WellNamed → ∀ (rest : List Char) (us : List Token),
    (∀ c ∈ rest.head?, isWordChar c = false) → Splits rest us →
      Splits (t.render.toList ++ rest) (t.term.spelling ++ us) := by
  induction t using TypeTree.induct with
  | node n cs ih =>
    intro hwell rest us hrest h
    have hcs := fun t ht => ih t ht ((wellNamed_node_iff.1 hwell).2 t ht)
    rcases wellNamed_node_cases hwell with ⟨rfl, rfl⟩ | ⟨hq, hn⟩
    · rw [term, if_pos rfl]
      exact .word isWordChar_of_mem_wildcard hrest h
    · rw [term, if_neg hn]
      cases cs with
      | nil => exact splits_name hq hrest h
      | cons t ts =>
        obtain ⟨ht, hts⟩ := List.forall_mem_cons.1 hcs
        -- from the back: the closing bracket, the other children, the first one, the opening
        -- bracket, the name
        have hclose : Splits ('>' :: rest) (.closing :: us) := .mark (by decide) h
        have hmark := head_cons (c := '>') (by decide) rest
        have hrests := splits_renderRest ts hts _ _ hmark hclose
        have hopen := Splits.mark (c := '<') (t := .opening) (by decide)
          (ht _ _ (head_renderRest hmark ts) hrests)
        have hname := splits_name hq (head_cons (by decide) _) hopen
        simpa [render, termAll, Term.spelling] using hname

theorem spelling_term {t : TypeTree} (h : t.WellNamed) :
    t.term.spelling = Signature.tokens t.render := by
  have := splits_render t h [] [] (by simp) .nil
  rw [List.append_nil, List.append_nil] at this
  exact (splits_iff_tokens.1 this).symm

end TypeTree

namespace Signature

/-! ### The trees that are read -/

theorem wellNamed_top : TypeTree.top.WellNamed := by decide

/-- Whatever a signature stands for is well-named. -/
theorem Term.wellNamed_denote (t : Term) : t.denote.WellNamed := by
  induction t using Term.induct with
  | wildcard => exact wellNamed_top
  | bounded b t ih => exact wellNamed_top
  | named n ts ih =>
    by_cases hq : Name.isQualified n.text = true
    · rw [denote, if_pos hq, TypeTree.wellNamed_node_iff]
      refine ⟨⟨.inl hq, fun h => absurd h (Name.ne_top_of_isQualified hq)⟩, fun c hc => ?_⟩
      rw [denoteAll_eq_map] at hc
      obtain ⟨t, ht, rfl⟩ := List.mem_map.1 hc
      exact ih t ht
    · rw [denote, if_neg hq]
      exact wellNamed_top

theorem Term.depthAll_denoteAll_le {ts : List Term} (h : ∀ t ∈ ts, t.denote.depth ≤ t.nesting + 1) :
    TypeTree.depthAll (denoteAll ts) ≤ nestingAll ts + 1 := by
  induction ts with
  | nil => exact Nat.zero_le _
  | cons t ts ih =>
    obtain ⟨ht, hts⟩ := List.forall_mem_cons.1 h
    have := ih hts
    rw [denoteAll, TypeTree.depthAll, nestingAll]
    omega

/-- Trees are at most one level deeper than the brackets of their signatures; a signature nests
deeper than its tree where arguments are dropped. -/
theorem Term.depth_denote_le (t : Term) : t.denote.depth ≤ t.nesting + 1 := by
  induction t using Term.induct with
  | wildcard => exact Nat.le_refl _
  | bounded b t ih => exact Nat.le_add_left 1 _
  | named n ts ih =>
    by_cases hq : Name.isQualified n.text = true
    · rw [denote, if_pos hq, TypeTree.depth]
      cases ts with
      | nil => exact Nat.le_refl _
      | cons u us =>
        have hnest : (named n (u :: us)).nesting = 1 + nestingAll (u :: us) := rfl
        have := depthAll_denoteAll_le ih
        omega
    · rw [denote, if_neg hq]
      exact Nat.le_add_left 1 _

theorem printable_of_ofSignature {text : String} {t : TypeTree}
    (h : TypeTree.ofSignature text = .ok t) : t.Printable := by
  obtain ⟨u, -, -, hfit, rfl⟩ := ofSignature_eq_ok_iff.1 h
  have := u.depth_denote_le
  exact ⟨u.wellNamed_denote, by omega⟩

theorem ofSignature_of_printable {t : TypeTree} (h : t.Printable) :
    TypeTree.ofSignature t.render = .ok t := by
  obtain ⟨hwell, hdepth⟩ := h
  have hnest := TypeTree.nesting_term hwell
  exact ofSignature_eq_ok_iff.2 ⟨t.term, TypeTree.term_wellNamed hwell,
    TypeTree.spelling_term hwell, by omega, TypeTree.denote_term hwell⟩

theorem ofSignature_of_depth {t : TypeTree} (hwell : t.WellNamed) (hdepth : 130 ≤ t.depth) :
    ∃ p, TypeTree.ofSignature t.render = .error (.tooDeep p) := by
  have hnest := TypeTree.nesting_term hwell
  obtain ⟨p, hp⟩ := Reading.outcome_of_tooDeep (TypeTree.term_wellNamed hwell)
    (TypeTree.spelling_term hwell) (by omega)
  exact ⟨p, by rw [TypeTree.ofSignature, hp]; rfl⟩

/-- **Printable trees are read back from what is written for them, and only printable trees are ever
read,** so that writing a tree that was read and reading it again changes nothing.  A well-named
tree that is too deep to be printable is refused for its depth. -/
theorem ofSignature_render :
    (∀ t : TypeTree, t.Printable → TypeTree.ofSignature t.render = .ok t) ∧
    (∀ (text : String) (t : TypeTree), TypeTree.ofSignature text = .ok t →
      t.Printable ∧ TypeTree.ofSignature t.render = .ok t) ∧
    (∀ t : TypeTree, t.WellNamed → 130 ≤ t.depth →
      ∃ p, TypeTree.ofSignature t.render = .error (.tooDeep p)) := by
  refine ⟨fun t h => ofSignature_of_printable h, fun text t h => ?_,
    fun t hwell hdepth => ofSignature_of_depth hwell hdepth⟩
  have hprintable := printable_of_ofSignature h
  exact ⟨hprintable, ofSignature_of_printable hprintable⟩

/-- A chain of nodes of one name, with `n` levels below the root. -/
def tower : Nat → TypeTree
  | 0 => .leaf "a.B"
  | n + 1 => .node "a.B" [tower n]

/-- A tree of 129 levels is read back, one of 130 is not; and arguments that are dropped in reading
do not come back. -/
theorem ofSignature_render_tower :
    (tower 128).Printable ∧ TypeTree.ofSignature (tower 128).render = .ok (tower 128) ∧
      (tower 129).WellNamed ∧ (tower 129).depth = 130 ∧
      (∃ p, TypeTree.ofSignature (tower 129).render = .error (.tooDeep p)) ∧
      TypeTree.ofSignature "a.Map<T<b.V>,? extends b.V>" = .ok (.node "a.Map" [.top, .top]) ∧
      TypeTree.ofSignature (TypeTree.node "a.Map" [.top, .top]).render =
        .ok (.node "a.Map" [.top, .top]) := by
  obtain ⟨hback, himage, hdeep⟩ := ofSignature_render
  have hlow : (tower 128).Printable := by decide +kernel
  have hhigh : (tower 129).WellNamed ∧ (tower 129).depth = 130 := by decide +kernel
  have hread : TypeTree.ofSignature "a.Map<T<b.V>,? extends b.V>" =
      .ok (.node "a.Map" [.top, .top]) := by decide +kernel
  exact ⟨hlow, hback _ hlow, hhigh.1, hhigh.2, hdeep _ hhigh.1 (Nat.le_of_eq hhigh.2.symm), hread,
    (himage _ _ hread).2⟩

end Signature

end TypeAncestry
