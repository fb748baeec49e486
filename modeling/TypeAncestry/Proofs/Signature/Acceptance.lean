import Mathlib.Control.Monad.Basic
import TypeAncestry.Proofs.Signature.Splitting
import TypeAncestry.Proofs.Signature.States

/-!
# Which texts are signatures

* `ofSignature_eq_ok_iff` : a text is read as the tree of the term that its tokens spell.
* `ofSignature_iff_derives` : it is read exactly if the grammar derives its tokens with at most 128
  brackets open, and as the tree that they stand for.
-/

namespace TypeAncestry

namespace Signature

variable {text : String} {t : TypeTree} {ts : List Token}

theorem ofSignature_eq_ok_iff : TypeTree.ofSignature text = .ok t ↔
    ∃ u : Term, u.WellNamed ∧ u.spelling = tokens text ∧ u.nesting ≤ 128 ∧ u.denote = t := by
  unfold TypeTree.ofSignature
  constructor
  · intro h
    rcases hu : (Reading.ofText text).outcome with e | u
    · rw [hu] at h
      cases h
    · rw [hu] at h
      obtain ⟨hwell, hspell, hfit⟩ := Reading.outcome_eq_ok_iff.1 hu
      exact ⟨u, hwell, hspell, hfit, Except.ok.inj h⟩
  · rintro ⟨u, hwell, hspell, hfit, rfl⟩
    rw [Reading.outcome_of_spelling hwell hspell hfit]
    rfl

theorem ofSignature_iff_of_splits (hts : Splits text.toList ts) :
    TypeTree.ofSignature text = .ok t ↔ Derives ts t ∧ Nested 128 ts := by
  rw [ofSignature_eq_ok_iff, splits_iff_tokens.1 hts]
  constructor
  · rintro ⟨u, hwell, rfl, hfit, rfl⟩
    exact ⟨derives_spelling hwell, (u.nested_spelling_iff 128).2 hfit⟩
  · rintro ⟨hd, hn⟩
    obtain ⟨u, hwell, rfl, rfl⟩ := derives_iff_spelling.1 hd
    exact ⟨u, hwell, rfl, (u.nested_spelling_iff 128).1 hn, rfl⟩

/-- **A text is read as a tree exactly if the grammar derives its tokens, with at most 128 brackets
open at once, and they stand for the tree.**  White space between tokens does not matter: of two
texts that split into the same tokens, both are read as the tree or neither is. -/
theorem ofSignature_iff_derives (text : String) (t : TypeTree) :
    (TypeTree.ofSignature text = .ok t ↔
      ∃ ts, Splits text.toList ts ∧ Derives ts t ∧ Nested 128 ts) ∧
    ∀ (other : String) (ts : List Token), Splits text.toList ts → Splits other.toList ts →
      (TypeTree.ofSignature other = .ok t ↔ TypeTree.ofSignature text = .ok t) := by
  constructor
  · obtain ⟨ts, hts⟩ := Splits.exists text.toList
    rw [ofSignature_iff_of_splits hts]
    constructor
    · intro h
      exact ⟨ts, hts, h⟩
    · rintro ⟨us, hus, h⟩
      rwa [← splits_iff_tokens.1 hts, splits_iff_tokens.1 hus]
  · intro other ts htext hother
    rw [ofSignature_iff_of_splits htext, ofSignature_iff_of_splits hother]

/-- Of two spellings of a map from an unknown type, one has white space around its marks. -/
theorem ofSignature_iff_derives_spaced :
    TypeTree.ofSignature "a.Map<? super T,b.V>" = .ok (.node "a.Map" [.top, .leaf "b.V"]) ∧
      tokens " a.Map\u2003< ? super T , b.V>\n" = tokens "a.Map<? super T,b.V>" ∧
      TypeTree.ofSignature " a.Map\u2003< ? super T , b.V>\n" =
        .ok (.node "a.Map" [.top, .leaf "b.V"]) := by
  have htext : TypeTree.ofSignature "a.Map<? super T,b.V>" =
      .ok (.node "a.Map" [.top, .leaf "b.V"]) := by decide +kernel
  have htokens : tokens " a.Map\u2003< ? super T , b.V>\n" = tokens "a.Map<? super T,b.V>" := by
    decide +kernel
  obtain ⟨-, hsame⟩ :=
    ofSignature_iff_derives "a.Map<? super T,b.V>" (.node "a.Map" [.top, .leaf "b.V"])
  have hspaced := hsame " a.Map\u2003< ? super T , b.V>\n" _ (splits_iff_tokens.2 rfl)
    (splits_iff_tokens.2 htokens)
  exact ⟨htext, htokens, hspaced.2 htext⟩

end Signature

end TypeAncestry
