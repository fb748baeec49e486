import TypeAncestry.Proofs.Signature.Splitting

/-!
# Where the lexemes of a text stand

The offset of a lexeme is the size of the text before it.  A text that is cut where no word goes on
has the lexemes of its two parts; in particular, the lexemes before some lexeme are those of the
text before it, and they stay the same whatever follows.

* `byteSize` : its lemmas, and what it has to do with the size of a string.
* `Lexeme.scan_append` : the lexemes of a text that is cut.
* `Lexeme.exists_cut` : a text cut at one of its lexemes.
* `Splits.visible`, `Splits.count_mark` : the characters of a text and those of its tokens.
-/

namespace TypeAncestry

namespace Signature

variable {cs pre post : List Char} {ts : List Token}

/-! ### Sizes -/

@[simp] theorem byteSize_nil : byteSize [] = 0 := rfl

@[simp] theorem byteSize_cons (c : Char) (cs : List Char) :
    byteSize (c :: cs) = c.utf8Size + byteSize cs := rfl

@[simp] theorem byteSize_append (cs ds : List Char) :
    byteSize (cs ++ ds) = byteSize cs + byteSize ds := by
  induction cs with
  | nil => simp
  | cons c cs ih => simp [ih, Nat.add_assoc]

theorem byteSize_ofList (cs : List Char) : (String.ofList cs).utf8ByteSize = byteSize cs := by
  induction cs with
  | nil => rfl
  | cons c cs ih =>
    rw [String.ofList_cons, String.utf8ByteSize_append, ih, byteSize_cons,
      String.utf8ByteSize_singleton]

theorem byteSize_toList (text : String) : byteSize text.toList = text.utf8ByteSize := by
  rw [← byteSize_ofList, String.ofList_toList]

/-! ### Cutting a text -/

theorem first_of_ofMark? {c : Char} {t : Token} (h : Token.ofMark? c = some t) : t.first = c := by
  unfold Token.ofMark? at h
  grind [Token.first]

/-- A text that is cut where no word goes on has the lexemes of its two parts. -/
theorem Lexeme.scan_append (hpost : ∀ c ∈ post.head?, isWordChar c = false) (pre : List Char) :
    ∀ offset, scan offset (pre ++ post) = scan offset pre ++ scan (offset + byteSize pre) post := by
  obtain ⟨ts, hts⟩ := Splits.exists pre
  induction hts with
  | nil => intro offset; rfl
  | @blank c cs _ hb _ ih =>
    intro offset
    rw [List.cons_append, scan_blank _ _ hb, scan_blank _ _ hb, ih, byteSize_cons, Nat.add_assoc]
  | @mark c _ cs _ hm _ ih =>
    intro offset
    rw [List.cons_append, scan_mark _ _ hm, scan_mark _ _ hm, ih, byteSize_cons, Nat.add_assoc,
      List.cons_append]
  | @word w cs _ hw hcs _ ih =>
    intro offset
    -- the word ends where it did, be it before the cut or at the cut
    have hend : ∀ d ∈ (cs ++ post).head?, isWordChar d = false := by
      cases cs with
      | nil => exact hpost
      | cons d ds => exact hcs
    rw [Word.chars] at hw ⊢
    rw [List.append_assoc, scan_word hend w.rest w.first offset hw,
      scan_word hcs w.rest w.first offset hw, ih, byteSize_append, Nat.add_assoc,
      List.cons_append]

/-- **A text can be cut at each of its lexemes**: the lexeme stands behind as many bytes as its
offset says, the lexemes before it are those of the text before it, and the text from it on begins
with its first character. -/
theorem Lexeme.exists_cut {l : Lexeme} (cs : List Char) :
    ∀ {offset : Nat} {ls : List Lexeme}, ls ++ [l] <+: scan offset cs →
      ∃ pre c post, cs = pre ++ c :: post ∧ l.offset = offset + byteSize pre ∧
        scan offset pre = ls ∧ c = l.token.first ∧ Text.isBlank c = false ∧
        ((∃ w, l.token = .word w) ∨ Token.ofMark? c = some l.token) := by
  obtain ⟨ts, hts⟩ := Splits.exists cs
  induction hts with
  | nil =>
    intro offset ls h
    rw [scan, List.prefix_nil] at h
    simp at h
  | @blank c cs _ hb _ ih =>
    intro offset ls h
    rw [scan_blank _ _ hb] at h
    obtain ⟨pre, d, post, rfl, hoffset, hscan, hpost⟩ := ih h
    refine ⟨c :: pre, d, post, rfl, ?_, ?_, hpost⟩
    · rw [hoffset, byteSize_cons, Nat.add_assoc]
    · rw [scan_blank _ _ hb, hscan]
  | @mark c t cs _ hm _ ih =>
    intro offset ls h
    rw [scan_mark _ _ hm] at h
    cases ls with
    | nil =>
      obtain ⟨rfl, -⟩ := List.cons_prefix_cons.1 h
      exact ⟨[], c, cs, rfl, rfl, rfl, (first_of_ofMark? hm).symm, isBlank_of_ofMark? hm, .inr hm⟩
    | cons m ls =>
      rw [List.cons_append, List.cons_prefix_cons] at h
      obtain ⟨rfl, h⟩ := h
      obtain ⟨pre, d, post, rfl, hoffset, hscan, hpost⟩ := ih h
      refine ⟨c :: pre, d, post, rfl, ?_, ?_, hpost⟩
      · rw [hoffset, byteSize_cons, Nat.add_assoc]
      · rw [scan_mark _ _ hm, hscan]
  | @word w cs _ hw hcs _ ih =>
    intro offset ls h
    rw [Word.chars] at hw h ⊢
    rw [scan_word hcs w.rest w.first offset hw] at h
    cases ls with
    | nil =>
      obtain ⟨rfl, -⟩ := List.cons_prefix_cons.1 h
      have hfirst := isWordChar_iff.1 (hw w.first List.mem_cons_self)
      exact ⟨[], w.first, w.rest ++ cs, rfl, rfl, rfl, rfl, hfirst.1, .inl ⟨w, rfl⟩⟩
    | cons m ls =>
      rw [List.cons_append, List.cons_prefix_cons] at h
      obtain ⟨rfl, h⟩ := h
      obtain ⟨pre, d, post, rfl, hoffset, hscan, hpost⟩ := ih h
      have hpre : ∀ d ∈ pre.head?, isWordChar d = false := by
        cases pre with
        | nil => simp
        | cons d ds => exact hcs
      refine ⟨w.first :: w.rest ++ pre, d, post, by rw [List.append_assoc], ?_, ?_, hpost⟩
      · rw [hoffset, byteSize_append, Nat.add_assoc]
      · rw [scan_word hpre w.rest w.first offset hw, hscan]

/-! ### Characters and tokens -/

/-- The characters of a token. -/
def Token.chars : Token → List Char
  | .word w => w.chars
  | t => [t.first]

theorem Token.chars_of_ofMark? {c : Char} {t : Token} (h : Token.ofMark? c = some t) :
    t.chars = [c] := by
  rw [← first_of_ofMark? h]
  have hword := (eq_of_ofMark? h).2
  cases t with
  | word w => exact absurd rfl (hword w)
  | opening | closing | comma => rfl

/-- The characters of a text that are not white space are those of its tokens. -/
theorem Splits.visible (h : Splits cs ts) :
    cs.filter (fun c => !Text.isBlank c) = ts.flatMap Token.chars := by
  induction h with
  | nil => rfl
  | blank hb _ ih => rw [List.filter_cons_of_neg (by simp [hb]), ih]
  | mark hm _ ih =>
    rw [List.filter_cons_of_pos (by simp [isBlank_of_ofMark? hm]), ih, List.flatMap_cons,
      Token.chars_of_ofMark? hm, List.singleton_append]
  | @word w cs _ hw _ _ ih =>
    have hvisible : w.chars.filter (fun c => !Text.isBlank c) = w.chars :=
      List.filter_eq_self.2 fun c hc => by simp [(isWordChar_iff.1 (hw c hc)).1]
    rw [List.filter_append, hvisible, ih, List.flatMap_cons]
    rfl

/-- A mark occurs in a text as often as the token that it is. -/
theorem Splits.count_mark {c : Char} {t : Token} (hc : Token.ofMark? c = some t)
    (h : Splits cs ts) : cs.count c = ts.count t := by
  have hword := isWordChar_of_ofMark? hc
  induction h with
  | nil => rfl
  | @blank d _ _ hb _ ih =>
    have hne : d ≠ c := by rintro rfl; simp [isBlank_of_ofMark? hc] at hb
    rw [List.count_cons_of_ne hne, ih]
  | @mark d u _ _ hm _ ih =>
    have heq : d = c ↔ u = t := by
      constructor
      · rintro rfl
        exact Option.some.inj (hm.symm.trans hc)
      · rintro rfl
        rw [← first_of_ofMark? hm, first_of_ofMark? hc]
    rw [List.count_cons, List.count_cons, ih]
    simp only [beq_iff_eq, heq]
  | @word w _ _ hw _ _ ih =>
    have hnone : w.chars.count c = 0 := List.count_eq_zero.2 fun hmem => by
      simp [hw c hmem] at hword
    rw [List.count_append, hnone, Nat.zero_add, ih,
      List.count_cons_of_ne ((eq_of_ofMark? hc).2 w).symm]

end Signature

end TypeAncestry
