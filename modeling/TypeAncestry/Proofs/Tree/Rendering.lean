import TypeAncestry.Tree

/-!
# Written trees can be told apart

A written tree is a name, and the written children in angle brackets if there are any.  As long as
no name holds a bracket or a comma, a name ends where the first of these stands, and there it can be
seen whether children follow and whether another child does.  The space behind a comma is always
one; spaces beyond it belong to the next name.  So nothing is lost in writing: names may be empty,
and begin and end with spaces.

* `TypeTree.Unmarked` : no name holds a bracket or a comma.
* `TypeTree.eq_of_append_eq` : a text without marks is told from what follows it.
* `TypeTree.Separates`, `TypeTree.separates_of_unmarked` : a written tree is told from what follows
  it.
* `TypeTree.render_injective` : trees that are written alike are equal.
-/

namespace TypeAncestry

namespace TypeTree

/-- The character marks off children in a written tree. -/
def isMark (c : Char) : Bool := c == '<' || c == '>' || c == ','

/-- No name holds an angle bracket or a comma. -/
def Unmarked (t : TypeTree) : Prop := ∀ u ∈ t.preorder, ∀ c ∈ u.name.toList, isMark c = false

instance (t : TypeTree) : Decidable t.Unmarked :=
  decidable_of_iff ((t.preorder.all fun u => u.name.toList.all fun c => !isMark c) = true)
    (by simp [Unmarked])

/-- What follows a child in a written tree: nothing, the end of the children, or another child. -/
def Closes (rest : List Char) : Prop := ∀ c ∈ rest.head?, c = '>' ∨ c = ','

variable {n m : String} {cs ds : List TypeTree} {u v : List Char}

theorem unmarked_node_iff : (node n cs).Unmarked ↔
    (∀ c ∈ n.toList, isMark c = false) ∧ ∀ t ∈ cs, t.Unmarked := by
  unfold Unmarked
  rw [preorder, List.forall_mem_cons]
  refine and_congr_right fun _ => ⟨fun h t ht w hw => ?_, fun h w hw => ?_⟩
  · exact h w (mem_preorderAll.2 ⟨t, ht, hw⟩)
  · obtain ⟨t, ht, hw⟩ := mem_preorderAll.1 hw
    exact h t ht w hw

/-- A text without marks reaches up to the first mark. -/
theorem takeWhile_append_eq {as : List Char} (has : ∀ c ∈ as, isMark c = false)
    (hu : ∀ c ∈ u.head?, isMark c = true) : (as ++ u).takeWhile (!isMark ·) = as := by
  rw [List.takeWhile_append_of_pos (by simpa using has)]
  cases u with
  | nil => simp
  | cons c u => simp [hu c rfl]

/-- **A text without marks is told from what follows it,** if that begins with a mark. -/
theorem eq_of_append_eq {as bs : List Char} (has : ∀ c ∈ as, isMark c = false)
    (hbs : ∀ c ∈ bs, isMark c = false) (hu : ∀ c ∈ u.head?, isMark c = true)
    (hv : ∀ c ∈ v.head?, isMark c = true) (h : as ++ u = bs ++ v) : as = bs ∧ u = v := by
  obtain rfl : as = bs := by
    rw [← takeWhile_append_eq has hu, h, takeWhile_append_eq hbs hv]
  exact ⟨rfl, List.append_cancel_left h⟩

/-! ### What is written below a name -/

/-- The written children: nothing if there are none, else all that stands in the brackets and the
brackets. -/
def renderBelow : List TypeTree → List Char
  | [] => []
  | t :: ts => '<' :: (t.render.toList ++ ((renderRest ts).toList ++ ['>']))

theorem toList_render (n : String) (cs : List TypeTree) :
    (node n cs).render.toList = n.toList ++ renderBelow cs := by
  cases cs <;> simp [render, renderBelow]

theorem head_renderBelow (hu : Closes u) (cs : List TypeTree) :
    ∀ c ∈ (renderBelow cs ++ u).head?, isMark c = true := by
  intro c hc
  cases cs with
  | nil =>
    obtain rfl | rfl := hu c hc <;> rfl
  | cons t ts =>
    obtain rfl : '<' = c := by simpa [renderBelow] using hc
    rfl

theorem closes_renderRest (ts : List TypeTree) (u : List Char) :
    Closes ((renderRest ts).toList ++ '>' :: u) := by
  intro c hc
  cases ts with
  | nil =>
    obtain rfl : '>' = c := by simpa [renderRest] using hc
    exact .inl rfl
  | cons t ts =>
    obtain rfl : ',' = c := by simpa [renderRest] using hc
    exact .inr rfl

/-- The written tree `t` is told from what follows it, in comparison with `s`. -/
def Separates (t s : TypeTree) : Prop :=
  ∀ u v, Closes u → Closes v → t.render.toList ++ u = s.render.toList ++ v → t = s ∧ u = v

/-- The children after the first are told from what follows the closing bracket. -/
theorem renderRest_append_inj (cs : List TypeTree) : ∀ ds : List TypeTree,
    (∀ t ∈ cs, ∀ s ∈ ds, Separates t s) →
      (renderRest cs).toList ++ '>' :: u = (renderRest ds).toList ++ '>' :: v →
        cs = ds ∧ u = v := by
  induction cs with
  | nil =>
    intro ds _ h
    cases ds with
    | nil => exact ⟨rfl, by simpa [renderRest] using h⟩
    | cons s ds => simp [renderRest] at h
  | cons t cs ih =>
    intro ds hall h
    cases ds with
    | nil => simp [renderRest] at h
    | cons s ds =>
      obtain ⟨ht, hcs⟩ := List.forall_mem_cons.1 hall
      have htail : t.render.toList ++ ((renderRest cs).toList ++ '>' :: u) =
          s.render.toList ++ ((renderRest ds).toList ++ '>' :: v) := by
        simpa [renderRest] using h
      obtain ⟨rfl, hrest⟩ := ht s List.mem_cons_self _ _ (closes_renderRest cs u)
        (closes_renderRest ds v) htail
      obtain ⟨rfl, huv⟩ := ih ds (fun t ht s hs => hcs t ht s (List.mem_cons_of_mem _ hs)) hrest
      exact ⟨rfl, huv⟩

/-- Lists of children are told from what follows them, if each child is. -/
theorem renderBelow_append_inj (hall : ∀ t ∈ cs, ∀ s ∈ ds, Separates t s) (hu : Closes u)
    (hv : Closes v) (h : renderBelow cs ++ u = renderBelow ds ++ v) : cs = ds ∧ u = v := by
  -- a bracket opens only where there are children
  have hopen : ∀ w, ¬ Closes ('<' :: w) := fun w hw => by simpa using hw '<' rfl
  cases cs with
  | nil =>
    cases ds with
    | nil => exact ⟨rfl, h⟩
    | cons s ds =>
      obtain rfl : u = '<' :: _ := h
      exact absurd hu (hopen _)
  | cons t cs =>
    cases ds with
    | nil =>
      obtain rfl : '<' :: _ = v := h
      exact absurd hv (hopen _)
    | cons s ds =>
      have hrest : (renderRest (t :: cs)).toList ++ '>' :: u =
          (renderRest (s :: ds)).toList ++ '>' :: v := by
        simpa [renderBelow, renderRest] using h
      exact renderRest_append_inj (t :: cs) (s :: ds) hall hrest

/-- **A written tree is told from what follows it.** -/
theorem separates_of_unmarked (s : TypeTree) :
    ∀ t : TypeTree, s.Unmarked → t.Unmarked → s.Separates t := by
  induction s using TypeTree.induct with
  | node n cs ih =>
    rintro ⟨m, ds⟩ hs ht u v hu hv h
    obtain ⟨hn, hcs⟩ := unmarked_node_iff.1 hs
    obtain ⟨hm, hds⟩ := unmarked_node_iff.1 ht
    rw [toList_render, toList_render, List.append_assoc, List.append_assoc] at h
    obtain ⟨hname, hbelow⟩ :=
      eq_of_append_eq hn hm (head_renderBelow hu cs) (head_renderBelow hv ds) h
    obtain ⟨rfl, rfl⟩ := renderBelow_append_inj
      (fun s hs t ht => ih s hs t (hcs s hs) (hds t ht)) hu hv hbelow
    exact ⟨by rw [String.toList_inj.1 hname], rfl⟩

/-- **Trees that are written alike are equal,** if no name holds an angle bracket or a comma,
whatever else the names are and however deep the trees. -/
theorem render_injective {s t : TypeTree} (hs : s.Unmarked) (ht : t.Unmarked)
    (h : s.render = t.render) : s = t := by
  have hend : Closes [] := fun c hc => nomatch hc
  exact (separates_of_unmarked s t hs ht [] [] hend hend (by rw [h])).1

/-- A tree with names that are empty or begin and end with spaces. -/
def spaced : TypeTree := node "" [leaf "", leaf " b ", node " " [leaf ""]]

/-- The tree is the only one that is written as it is, but a comma in a name can be taken for one
between children. -/
theorem render_injective_spaced :
    spaced.Unmarked ∧ spaced.render = "<,  b ,  <>>" ∧
      node "" (["", " b "].map leaf ++ [node " " [leaf ""]]) = spaced ∧
      (∀ t : TypeTree, t.Unmarked → t.render = "<,  b ,  <>>" → t = spaced) ∧
      (node "a" [leaf "b, c"]).render = (node "a" [leaf "b", leaf "c"]).render ∧
      ¬ (node "a" [leaf "b, c"]).Unmarked := by
  have hspaced : spaced.Unmarked := by decide
  have hrender : spaced.render = "<,  b ,  <>>" := by decide
  exact ⟨hspaced, hrender, render_injective (by decide) hspaced (by decide),
    fun t ht h => render_injective ht hspaced (h.trans hrender.symm), by decide, by decide⟩

end TypeTree

end TypeAncestry
