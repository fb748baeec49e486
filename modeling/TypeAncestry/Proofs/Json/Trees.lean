import TypeAncestry.Proofs.Json.Reading

/-!
# Trees are read back from JSON

The library and the code for trees are any that do what is relied on.  A tree is a record of its
name and its children, so each of its levels has a record and a list, and the limit of the library
on nesting is one on the levels of trees.  Within the limit the library gives the record back that
it has written, and level by level the tree is found in it.

* `TypeTree.nesting_encode`, `TypeTree.decode?_encode` : how deeply the record of a tree nests, and
  which tree is found in it.
* `TypeTree.read?_write` : which trees are read back.
* `TypeTree.write_faithful` : trees of at most 63 levels are told by their texts.
-/

namespace TypeAncestry

namespace TypeTree

open Json

variable {code : Coder TypeTree} {L : Library} {cs : List TypeTree}

theorem nestingAll_encode (h : ∀ t ∈ cs, (code.encode t).nesting = 2 * t.depth) :
    Datum.nestingAll (cs.map code.encode) = 2 * depthAll cs := by
  induction cs with
  | nil => rfl
  | cons t ts ih =>
    obtain ⟨ht, hts⟩ := List.forall_mem_cons.1 h
    rw [List.map_cons, Datum.nestingAll, ht, ih hts, depthAll]
    omega

/-- Each level of a tree has a record and a list. -/
theorem nesting_encode (hcode : code.OfFields) (t : TypeTree) :
    (code.encode t).nesting = 2 * t.depth := by
  induction t using TypeTree.induct with
  | node n cs ih =>
    have hlist : (Datum.list (cs.map code.encode)).nesting = 1 + 2 * depthAll cs := by
      rw [Datum.nesting, nestingAll_encode ih]
    rw [hcode.encode_node, Datum.nesting, Datum.nestingMembers, Datum.nestingMembers,
      Datum.nestingMembers, hlist, Datum.nesting, depth]
    omega

theorem mapM_decode?_encode (h : ∀ t ∈ cs, code.decode? (code.encode t) = some t) :
    (cs.map code.encode).mapM code.decode? = some cs := by
  induction cs with
  | nil => rfl
  | cons t ts ih =>
    obtain ⟨ht, hts⟩ := List.forall_mem_cons.1 h
    simp [ht, ih hts]

/-- A tree is found in its record. -/
theorem decode?_encode (hcode : code.OfFields) (t : TypeTree) :
    code.decode? (code.encode t) = some t := by
  induction t using TypeTree.induct with
  | node n cs ih =>
    have hkeys : (["name", "children"] : List String).Nodup := by decide
    have hchildren : childrenIn? code
        [("name", .text n), ("children", .list (cs.map code.encode))] = some cs := by
      rw [childrenIn?]
      exact mapM_decode?_encode ih
    have hrecord : code.decode? (.record
        [("name", .text n), ("children", .list (cs.map code.encode))]) = _ :=
      hcode.decode?_record hkeys
    rw [hcode.encode_node, hrecord, hchildren]
    rfl

/-- **A tree is read back from its text exactly if it has at most 63 levels.** -/
theorem read?_write (hL : L.Standard) (hcode : code.OfFields) (t : TypeTree) :
    code.read? L (code.write L t) = if t.depth ≤ 63 then some t else none := by
  have hlevels : 2 * t.depth ≤ maxNesting ↔ t.depth ≤ 63 := by
    rw [maxNesting]
    omega
  rw [Coder.read?, Coder.write, hL.read?_of_form (hL.form_write _), nesting_encode hcode]
  simp only [hlevels]
  split
  · exact decode?_encode hcode t
  · rfl

/-- **The text of a tree tells which tree it is of,** whatever characters the names hold: a tree of
at most 63 levels is read back from it, and no other tree has the same text. -/
theorem write_faithful (L : Library) (hL : L.Standard) (code : Coder TypeTree)
    (hcode : code.OfFields) {t : TypeTree} (ht : t.depth ≤ 63) :
    code.read? L (code.write L t) = some t ∧
      ∀ s : TypeTree, code.write L s = code.write L t → s = t := by
  have hread : code.read? L (code.write L t) = some t := by rw [read?_write hL hcode, if_pos ht]
  refine ⟨hread, fun s hs => ?_⟩
  rw [← hs, read?_write hL hcode] at hread
  split at hread
  · exact Option.some.inj hread
  · cases hread

/-- A tree of `n + 1` levels with names that have to be escaped, or are empty, or look escaped. -/
def awkward : Nat → TypeTree
  | 0 => leaf "a\"\\\n\x01"
  | n + 1 => node "" [awkward n, leaf "\\u0041"]

theorem depth_awkward (n : Nat) : (awkward n).depth = n + 1 := by
  induction n with
  | zero => rfl
  | succ n ih =>
    have hleaf : (leaf "\\u0041").depth = 1 := rfl
    simp only [awkward, depth, depthAll, ih, hleaf]
    omega

/-- With 63 levels the tree is read back, with one more it is not. -/
theorem write_faithful_awkward :
    library.Standard ∧ coder.OfFields ∧
      coder.write library (awkward 0) =
        "\x7b\"name\":\"a\\\"\\\\\\n\\u0001\",\"children\":[]\x7d" ∧
      (awkward 62).depth ≤ 63 ∧
      coder.read? library (coder.write library (awkward 62)) = some (awkward 62) ∧
      (∀ s, coder.write library s = coder.write library (awkward 62) → s = awkward 62) ∧
      coder.read? library (coder.write library (awkward 63)) = none := by
  have hdepth : (awkward 62).depth ≤ 63 := Nat.le_of_eq (depth_awkward 62)
  obtain ⟨hread, honly⟩ := write_faithful library library_standard coder coder_ofFields hdepth
  refine ⟨library_standard, coder_ofFields, by decide, hdepth, hread, honly, ?_⟩
  rw [read?_write library_standard coder_ofFields, depth_awkward, if_neg (by omega)]

end TypeTree

end TypeAncestry
