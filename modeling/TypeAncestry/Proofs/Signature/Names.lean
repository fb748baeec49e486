import TypeAncestry.Name
import TypeAncestry.Proofs.Signature.Splitting

/-!
# Names are words

A qualified name consists of dots and of characters of identifiers.  None of these is a mark or
white space, so that in a signature a qualified name is one word, up to the mark that follows it.

* `isWordChar_of_isQualified` : no character of a qualified name ends a word.
* `Word.ofName` : the word that a name is.
-/

namespace TypeAncestry

/-! ### The characters of names -/

namespace Name

theorem mem_segments {c : Char} {cs : List Char} (h : c ∈ cs) :
    c = '.' ∨ ∃ s ∈ segments cs, c ∈ s := by
  induction cs with
  | nil => simp at h
  | cons d ds ih =>
    by_cases hd : d = '.'
    · rw [segments, if_pos hd]
      rcases List.mem_cons.1 h with rfl | h
      · exact .inl hd
      · rcases ih h with hc | ⟨s, hs, hc⟩
        · exact .inl hc
        · exact .inr ⟨s, List.mem_cons_of_mem _ hs, hc⟩
    · rw [segments, if_neg hd]
      rcases hds : segments ds with _ | ⟨s, rest⟩
      · exact absurd hds (segments_ne_nil ds)
      · rw [hds] at ih
        rcases List.mem_cons.1 h with rfl | h
        · exact .inr ⟨c :: s, List.mem_cons_self, List.mem_cons_self⟩
        · rcases ih h with hc | ⟨r, hr, hc⟩
          · exact .inl hc
          · rcases List.mem_cons.1 hr with rfl | hr
            · exact .inr ⟨d :: r, List.mem_cons_self, List.mem_cons_of_mem _ hc⟩
            · exact .inr ⟨r, List.mem_cons_of_mem _ hr, hc⟩

theorem isIdentifierPart_of_isIdentifier {s : List Char} (h : isIdentifier s = true) :
    ∀ c ∈ s, isIdentifierPart c = true := by
  cases s with
  | nil => simp [isIdentifier] at h
  | cons d ds =>
    obtain ⟨hd, hds⟩ := Bool.and_eq_true_iff.1 h
    refine List.forall_mem_cons.2 ⟨?_, List.all_eq_true.1 hds⟩
    simp only [isIdentifierStart, Bool.or_eq_true] at hd
    simp only [isIdentifierPart, Text.isAlphanumeric, Bool.or_eq_true]
    rcases hd with (hd | hd) | hd
    · exact .inl (.inl (.inl hd))
    · exact .inl (.inr hd)
    · exact .inr hd

/-- The characters of a valid name are dots and those of identifiers. -/
theorem eq_or_isIdentifierPart {name : String} (h : isValid name = true) :
    ∀ c ∈ name.toList, c = '.' ∨ isIdentifierPart c = true := by
  intro c hc
  rcases mem_segments hc with hc | ⟨s, hs, hc⟩
  · exact .inl hc
  · exact .inr (isIdentifierPart_of_isIdentifier (List.all_eq_true.1 h s hs) c hc)

theorem ne_top_of_isQualified {name : String} (h : isQualified name = true) : name ≠ top := by
  rintro rfl
  revert h
  decide +kernel

end Name

namespace Text

theorem mem_of_inIntervals {n : Nat} {is : List (Nat × Nat)} (h : inIntervals n is = true) :
    n ∈ is.flatMap fun i => List.range' i.1 (i.2 + 1 - i.1) := by
  induction is with
  | nil => simp [inIntervals] at h
  | cons i is ih =>
    rw [List.flatMap_cons, List.mem_append, List.mem_range'_1]
    unfold inIntervals at h
    split at h
    · simp at h
    · rcases Bool.or_eq_true_iff.1 h with h | h
      · have := of_decide_eq_true h
        exact .inl (by omega)
      · exact .inr (ih h)

end Text

namespace Signature

/-! ### White space and marks -/

/-- There are few white characters, and none of them belongs to an identifier. -/
theorem isIdentifierPart_of_isBlank {c : Char} (h : Text.isBlank c = true) :
    Name.isIdentifierPart c = false := by
  have hall : ∀ n ∈ Text.blanks.flatMap fun i => List.range' i.1 (i.2 + 1 - i.1),
      Name.isIdentifierPart (Char.ofNat n) = false := by decide +kernel
  have := hall c.toNat (Text.mem_of_inIntervals h)
  rwa [Char.ofNat_toNat] at this

theorem isIdentifierPart_of_ofMark? {c : Char} {t : Token} (h : Token.ofMark? c = some t) :
    Name.isIdentifierPart c = false := by
  obtain ⟨rfl | rfl | rfl, -⟩ := eq_of_ofMark? h <;> decide +kernel

/-- **No character of an identifier ends a word.** -/
theorem isWordChar_of_isIdentifierPart {c : Char} (h : Name.isIdentifierPart c = true) :
    isWordChar c = true := by
  rw [isWordChar_iff]
  constructor
  · rcases hb : Text.isBlank c
    · rfl
    · rw [isIdentifierPart_of_isBlank hb] at h
      cases h
  · rcases hm : Token.ofMark? c with _ | t
    · rfl
    · rw [isIdentifierPart_of_ofMark? hm] at h
      cases h

theorem isWordChar_of_isQualified {name : String} (h : Name.isQualified name = true) :
    ∀ c ∈ name.toList, isWordChar c = true := by
  intro c hc
  rcases Name.eq_or_isIdentifierPart (Bool.and_eq_true_iff.1 h).1 c hc with rfl | hc
  · decide
  · exact isWordChar_of_isIdentifierPart hc

/-! ### Names as words -/

/-- The word that a name is. -/
def Word.ofName (name : String) : Word :=
  match name.toList with
  | [] => .wildcard
  | c :: cs => ⟨c, cs⟩

theorem Word.chars_ofName {name : String} (h : Name.isQualified name = true) :
    (ofName name).chars = name.toList := by
  unfold ofName
  split
  · next hname =>
    have := (Bool.and_eq_true_iff.1 h).2
    simp [hname] at this
  · next hname => rw [hname, Word.chars]

theorem Word.text_ofName {name : String} (h : Name.isQualified name = true) :
    (ofName name).text = name := by
  have := chars_ofName h
  rw [Word.chars] at this
  rw [Word.text, this, String.ofList_toList]

theorem Word.ofName_ne_wildcard {name : String} (h : Name.isQualified name = true) :
    ofName name ≠ .wildcard := by
  intro hw
  have := text_ofName h
  rw [hw] at this
  exact Name.ne_top_of_isQualified h this.symm

end Signature

end TypeAncestry
