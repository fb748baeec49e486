import Mathlib.Tactic.SplitIfs
import TypeAncestry.Proofs.Json.Manual

/-!
# Quoted texts are written and read

A text in quotation marks is a form of the text.  Between quotation marks each character is written
by itself, by a short escape or by its number, and each of these forms is read as the number of the
character.  No character is half of a surrogate pair, so the numbers stand for the characters that
were written, whatever these are.

* `Json.quoted_quote` : what is written is a form of the text.
* `Json.unquote_charForm` : a form of a character is read as its number.
* `Json.unquote_forms` : forms of characters are read up to the closing quotation mark.
* `Json.joinPairs?_map_toNat` : the numbers of characters stand for these characters.
-/

namespace TypeAncestry

namespace Json

variable {a b c d : Char} {n : Nat} {s cs rest : List Char} {forms : List (List Char)}

/-- What is read of a text when the unit `n` has been read in front of it. -/
def behindUnit (n : Nat) (x : List Nat × List Char) : List Nat × List Char := (n :: x.1, x.2)

/-! ### One character -/

theorem unquote_shortEscape (hc : c ≠ 'u') (hd : unescape? c = some d) (s : List Char) :
    unquote ('\\' :: c :: s) = (unquote s).map (behindUnit d.toNat) := by
  rw [unquote, hd]
  · cases unquote s <;> rfl
  · exact fun _ _ _ _ _ hu => absurd hu hc

theorem unquote_numberEscape (hn : hexUnit? a b c d = some n) (s : List Char) :
    unquote ('\\' :: 'u' :: a :: b :: c :: d :: s) = (unquote s).map (behindUnit n) := by
  rw [unquote, hn]
  cases unquote s <;> rfl

theorem unquote_plain (hquote : c ≠ '"') (hescape : c ≠ '\\') (hc : ¬ c.toNat < 0x20)
    (s : List Char) : unquote (c :: s) = (unquote s).map (behindUnit c.toNat) := by
  rw [unquote, if_neg fun h => h.elim hescape hc]
  · cases unquote s <;> rfl
  · exact hquote
  · exact fun _ _ _ _ _ h => absurd h hescape
  · exact fun _ _ h => absurd h hescape

theorem hexValue?_hexDigit : ∀ k < 16, hexValue? (hexDigit k) = some k := by decide

/-- The number of a control character is written with two digits behind two zeros. -/
theorem hexUnit?_hexDigit (hn : n < 0x20) :
    hexUnit? '0' '0' (hexDigit (n / 16)) (hexDigit (n % 16)) = some n := by
  have hzero : hexValue? '0' = some 0 := rfl
  simp only [hexUnit?, hzero, hexValue?_hexDigit (n / 16) (by omega),
    hexValue?_hexDigit (n % 16) (by omega), Option.bind_eq_bind, Option.bind_some]
  exact congrArg some (by omega)

/-- **A form of a character is read as its number.** -/
theorem unquote_charForm (h : CharForm c cs) (s : List Char) :
    unquote (cs ++ s) = (unquote s).map (behindUnit c.toNat) := by
  cases h with
  | plain hquote hescape hcontrol => exact unquote_plain hquote hescape hcontrol s
  | @short e h =>
    have he : e ≠ 'u' := by
      rintro rfl
      cases h
    exact unquote_shortEscape he h s
  | number h => exact unquote_numberEscape h s

theorem charForm_escapeControl (hc : c.toNat < 0x20) : CharForm c (escapeControl c) := by
  unfold escapeControl
  split_ifs with hn hr ht hb hf
  · subst hn
    exact .short rfl
  · subst hr
    exact .short rfl
  · subst ht
    exact .short rfl
  · subst hb
    exact .short rfl
  · subst hf
    exact .short rfl
  · exact .number (hexUnit?_hexDigit hc)

/-- A character is written in one of its forms. -/
theorem charForm_escape (c : Char) : CharForm c (escape c) := by
  unfold escape
  split_ifs with hquote hescape hc
  · subst hquote
    exact .short rfl
  · subst hescape
    exact .short rfl
  · exact charForm_escapeControl hc
  · exact .plain hquote hescape hc

/-! ### Whole texts -/

/-- **What is written is a form of the text.** -/
theorem quoted_quote (s : String) : Quoted s (quote s.toList) := by
  refine ⟨s.toList.map escape, ?_, ?_⟩
  · rw [List.forall₂_map_right_iff, List.forall₂_same]
    exact fun c _ => charForm_escape c
  · rw [quote, List.flatMap_def, List.cons_append]

/-- **Forms of characters are read up to the closing quotation mark.** -/
theorem unquote_forms (h : List.Forall₂ CharForm s forms) (rest : List Char) :
    unquote (forms.flatten ++ '"' :: rest) = some (s.map (·.toNat), rest) := by
  induction h with
  | nil => rw [List.flatten_nil, List.nil_append, unquote]; rfl
  | cons hc _ ih =>
    rw [List.flatten_cons, List.append_assoc, unquote_charForm hc, ih]
    rfl

/-- The numbers from `0xD800` to `0xDFFF` are those of no character. -/
theorem not_surrogate (c : Char) :
    isHighSurrogate c.toNat = false ∧ isLowSurrogate c.toNat = false := by
  have hvalid : c.toNat.isValidChar := c.valid
  simp only [Nat.isValidChar] at hvalid
  simp only [isHighSurrogate, isLowSurrogate, Bool.and_eq_false_iff, decide_eq_false_iff_not]
  omega

theorem joinPairs?_cons (hhigh : isHighSurrogate n = false) (hlow : isLowSurrogate n = false)
    (ns : List Nat) : joinPairs? (n :: ns) = (joinPairs? ns).map (Char.ofNat n :: ·) := by
  cases ns <;> simp [joinPairs?, hhigh, hlow]

/-- **The numbers of characters stand for these characters.** -/
theorem joinPairs?_map_toNat (s : List Char) : joinPairs? (s.map (·.toNat)) = some s := by
  induction s with
  | nil => rfl
  | cons c s ih =>
    obtain ⟨hhigh, hlow⟩ := not_surrogate c
    rw [List.map_cons, joinPairs?_cons hhigh hlow, ih, Char.ofNat_toNat]
    rfl

end Json

end TypeAncestry
