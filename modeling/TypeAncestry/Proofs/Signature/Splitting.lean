import TypeAncestry.Signature.Lexeme

/-!
# How a text splits into tokens

The tokens of a text are its marks and the longest runs of characters that are neither marks nor
white space.  Lexemes are found from the end of the text to its beginning, and a character joins the
word behind it if that begins where the character ends; the two come to the same.

* `Splits` : a text splits into tokens.
* `splits_iff_tokens` : every text splits into its tokens and into nothing else.
-/

namespace TypeAncestry

namespace Signature

/-- The characters of a word. -/
def Word.chars (w : Word) : List Char := w.first :: w.rest

/-- A character that words are made of. -/
def isWordChar (c : Char) : Bool := !Text.isBlank c && (Token.ofMark? c).isNone

/-- The text has the tokens: its marks, and the longest runs of characters of words. -/
inductive Splits : List Char → List Token → Prop where
  /-- There is nothing in nothing. -/
  | nil : Splits [] []
  /-- White space only separates. -/
  | blank {c : Char} {cs : List Char} {ts : List Token} :
      Text.isBlank c = true → Splits cs ts → Splits (c :: cs) ts
  /-- A mark is a token by itself. -/
  | mark {c : Char} {t : Token} {cs : List Char} {ts : List Token} :
      Token.ofMark? c = some t → Splits cs ts → Splits (c :: cs) (t :: ts)
  /-- A run of characters of words that cannot be longer is a token. -/
  | word {w : Word} {cs : List Char} {ts : List Token} :
      (∀ c ∈ w.chars, isWordChar c = true) → (∀ c ∈ cs.head?, isWordChar c = false) →
      Splits cs ts → Splits (w.chars ++ cs) (.word w :: ts)

/-! ### Kinds of characters -/

theorem isWordChar_of_isBlank {c : Char} (h : Text.isBlank c = true) : isWordChar c = false := by
  simp [isWordChar, h]

theorem isWordChar_of_ofMark? {c : Char} {t : Token} (h : Token.ofMark? c = some t) :
    isWordChar c = false := by
  simp [isWordChar, h]

theorem isWordChar_iff {c : Char} :
    isWordChar c = true ↔ Text.isBlank c = false ∧ Token.ofMark? c = none := by
  simp [isWordChar]

theorem eq_of_ofMark? {c : Char} {t : Token} (h : Token.ofMark? c = some t) :
    (c = '<' ∨ c = '>' ∨ c = ',') ∧ ∀ w, t ≠ .word w := by
  unfold Token.ofMark? at h
  grind

/-- A mark is not white space. -/
theorem isBlank_of_ofMark? {c : Char} {t : Token} (h : Token.ofMark? c = some t) :
    Text.isBlank c = false := by
  obtain ⟨rfl | rfl | rfl, -⟩ := eq_of_ofMark? h <;> decide

/-! ### Every text splits -/

theorem Splits.exists (cs : List Char) : ∃ ts, Splits cs ts := by
  induction cs with
  | nil => exact ⟨[], .nil⟩
  | cons c cs ih =>
    obtain ⟨ts, hts⟩ := ih
    by_cases hb : Text.isBlank c = true
    · exact ⟨ts, .blank hb hts⟩
    · rcases hm : Token.ofMark? c with _ | t
      · have hc : isWordChar c = true := isWordChar_iff.2 ⟨by simpa using hb, hm⟩
        -- the character joins a word that follows it at once, and else is a word by itself
        cases hts with
        | nil => exact ⟨_, .word (w := ⟨c, []⟩) (by simpa [Word.chars] using hc) (by simp) .nil⟩
        | blank hd h =>
          exact ⟨_, .word (w := ⟨c, []⟩) (by simpa [Word.chars] using hc)
            (by simpa using isWordChar_of_isBlank hd) (.blank hd h)⟩
        | mark hd h =>
          exact ⟨_, .word (w := ⟨c, []⟩) (by simpa [Word.chars] using hc)
            (by simpa using isWordChar_of_ofMark? hd) (.mark hd h)⟩
        | @word w rest us hw hrest h =>
          exact ⟨_, .word (w := ⟨c, w.chars⟩) (List.forall_mem_cons.2 ⟨hc, hw⟩) hrest h⟩
      · exact ⟨_, .mark hm hts⟩

/-! ### Lexemes -/

/-- The number of bytes that characters take. -/
def byteSize : List Char → Nat
  | [] => 0
  | c :: cs => c.utf8Size + byteSize cs

namespace Lexeme

theorem scan_blank {c : Char} (cs : List Char) (offset : Nat) (h : Text.isBlank c = true) :
    scan offset (c :: cs) = scan (offset + c.utf8Size) cs := by
  rw [scan, if_pos h]

theorem scan_mark {c : Char} {t : Token} (cs : List Char) (offset : Nat)
    (h : Token.ofMark? c = some t) :
    scan offset (c :: cs) = ⟨t, offset⟩ :: scan (offset + c.utf8Size) cs := by
  rw [scan, if_neg (by simp [isBlank_of_ofMark? h]), h]

theorem scan_wordChar {c : Char} (cs : List Char) (offset : Nat) (h : isWordChar c = true) :
    scan offset (c :: cs) = attach c offset (scan (offset + c.utf8Size) cs) := by
  obtain ⟨hb, hm⟩ := isWordChar_iff.1 h
  rw [scan, if_neg (by simp [hb]), hm]

/-- No lexeme stands before the beginning of its text. -/
theorem le_offset_of_mem_scan (cs : List Char) :
    ∀ (offset : Nat) (l : Lexeme), l ∈ scan offset cs → offset ≤ l.offset := by
  induction cs with
  | nil => intro offset l h; simp [scan] at h
  | cons c cs ih =>
    intro offset l h
    have hrest : ∀ l ∈ scan (offset + c.utf8Size) cs, offset ≤ l.offset := fun l hl => by
      have := ih _ _ hl; omega
    by_cases hb : Text.isBlank c = true
    · rw [scan_blank cs offset hb] at h
      exact hrest l h
    · rcases hm : Token.ofMark? c with _ | t
      · rw [scan_wordChar cs offset (isWordChar_iff.2 ⟨by simpa using hb, hm⟩)] at h
        unfold attach at h
        split at h
        · next heq => split at h <;> grind
        · grind
      · rw [scan_mark cs offset hm] at h
        rcases List.mem_cons.1 h with rfl | h
        · exact Nat.le_refl _
        · exact hrest l h

/-- A character of a word that is followed by no other is a word by itself. -/
theorem scan_last {c : Char} {cs : List Char} (offset : Nat) (hc : isWordChar c = true)
    (hcs : ∀ d ∈ cs.head?, isWordChar d = false) :
    scan offset (c :: cs) = ⟨.word ⟨c, []⟩, offset⟩ :: scan (offset + c.utf8Size) cs := by
  rw [scan_wordChar cs offset hc]
  cases cs with
  | nil => rfl
  | cons d ds =>
    have hd : isWordChar d = false := hcs d rfl
    by_cases hb : Text.isBlank d = true
    · -- behind white space, no lexeme begins where the character ends
      rw [scan_blank ds _ hb]
      have hsize := d.utf8Size_pos
      unfold attach
      split
      · next w o rest heq =>
        have hle := le_offset_of_mem_scan ds _ ⟨.word w, o⟩ (by rw [heq]; exact List.mem_cons_self)
        have hle' : offset + c.utf8Size + d.utf8Size ≤ o := hle
        rw [if_neg (by omega), heq]
      · rfl
    · rcases hm : Token.ofMark? d with _ | t
      · rw [isWordChar_iff.2 ⟨by simpa using hb, hm⟩] at hd
        cases hd
      · rw [scan_mark ds _ hm]
        unfold attach
        split
        · next heq =>
          have ht : t = .word _ := congrArg Lexeme.token (List.cons.inj heq).1
          exact absurd ht ((eq_of_ofMark? hm).2 _)
        · rfl

/-- A run of characters of words that cannot be longer is one lexeme. -/
theorem scan_word {cs : List Char} (hcs : ∀ d ∈ cs.head?, isWordChar d = false) (ds : List Char) :
    ∀ (c : Char) (offset : Nat), (∀ d ∈ c :: ds, isWordChar d = true) →
      scan offset (c :: ds ++ cs) =
        ⟨.word ⟨c, ds⟩, offset⟩ :: scan (offset + byteSize (c :: ds)) cs := by
  induction ds with
  | nil =>
    intro c offset h
    exact scan_last offset (h c List.mem_cons_self) hcs
  | cons d ds ih =>
    intro c offset h
    obtain ⟨hc, hds⟩ := List.forall_mem_cons.1 h
    rw [List.cons_append, scan_wordChar _ offset hc, ih d _ hds, attach, if_pos rfl]
    simp only [byteSize]
    grind

end Lexeme

/-- The lexemes of a text that splits into tokens have these tokens. -/
theorem Splits.map_scan {cs : List Char} {ts : List Token} (h : Splits cs ts) :
    ∀ offset, (Lexeme.scan offset cs).map (·.token) = ts := by
  induction h with
  | nil => intro offset; rfl
  | blank hb _ ih => intro offset; rw [Lexeme.scan_blank _ _ hb, ih]
  | mark hm _ ih => intro offset; rw [Lexeme.scan_mark _ _ hm, List.map_cons, ih]
  | @word w cs ts hw hcs _ ih =>
    intro offset
    rw [Word.chars, Lexeme.scan_word hcs w.rest w.first offset hw, List.map_cons, ih]

/-- **Every text splits into its tokens, and into nothing else.** -/
theorem splits_iff_tokens {text : String} {ts : List Token} :
    Splits text.toList ts ↔ tokens text = ts := by
  constructor
  · intro h
    exact h.map_scan 0
  · rintro rfl
    obtain ⟨ts, hts⟩ := Splits.exists text.toList
    have : tokens text = ts := hts.map_scan 0
    rw [this]
    exact hts

end Signature

end TypeAncestry
