import TypeAncestry.Proofs.Signature.Faults

/-!
# Texts that can be continued to signatures

A text that only ends too early can be completed: a wildcard stands for the signature that is
missing, if one is, and closing brackets for the brackets that are open.  A missing argument and a
bracket too many are found at a mark, before which no word goes on; so what follows the mark cannot
change how the text before it is read, and the fault stays.

* `Reading.closes` : as many closing brackets as are open complete a signature.
* `Reading.completion` : what completes a text that ends too early.
* `Reading.scan_prefix_of_mark` : the lexemes up to a mark, whatever follows it.
* `Reading.continuations` : which texts can be continued, and which cannot.
-/

namespace TypeAncestry

namespace Signature

namespace Reading

open State

variable {s s' : State} {l : Lexeme}

/-! ### Closing what is open -/

/-- A closing bracket behind a complete signature closes the innermost bracket that is open. -/
theorem resume_closing (hl : l.token = .closing) (stack : List Frame) :
    ∀ t : Term, openBrackets stack ≠ 0 → ∃ u s', s.resume t l stack = .ok s' ∧
      s'.focus = .complete u ∧ openBrackets s'.stack + 1 = openBrackets stack := by
  induction stack with
  | nil => intro t h; exact absurd rfl h
  | cons f stack ih =>
    intro t h
    cases f with
    | bound b => exact ih (.bounded b t) h
    | arguments n done =>
      refine ⟨.named n (t :: done).reverse, closeLevel { s with stack := stack, focus := _ }, ?_,
        closeLevel_focus _, ?_⟩
      · simp only [resume, hl]
      · rw [closeLevel_stack, openBrackets_arguments]

theorem finish_isSome (stack : List Frame) :
    ∀ t : Term, openBrackets stack = 0 → (finish t stack).isSome := by
  induction stack with
  | nil => intro t _; rfl
  | cons f stack ih =>
    intro t h
    cases f with
    | bound b => exact ih (.bounded b t) h
    | arguments n done => simp at h

/-- A signature is being read, to which nothing needs to be added. -/
def HasTerm (s : State) (t : Term) : Prop :=
  s.result? = finish t s.stack ∧
    ∀ l : Lexeme, l.token = .closing → s.step l = s.resume t l s.stack

theorem exists_hasTerm (h : s.focus ≠ .start) : ∃ t, HasTerm s t := by
  rcases hf : s.focus with _ | _ | n | t
  · exact absurd hf h
  · refine ⟨.wildcard, by rw [result?, hf], fun l hl => ?_⟩
    simp only [State.step, hf, afterWildcard, hl]
  · refine ⟨.named n [], by rw [result?, hf], fun l hl => ?_⟩
    simp only [State.step, hf, afterName, hl]
  · refine ⟨t, by rw [result?, hf], fun l hl => ?_⟩
    simp only [State.step, hf]

/-- **As many closing brackets as are open complete a signature.** -/
theorem closes (ls : List Lexeme) :
    ∀ s : State, s.focus ≠ .start → (∀ l ∈ ls, l.token = .closing) →
      ls.length = openBrackets s.stack → ∃ s' u, s.run ls = (s', none) ∧ s'.result? = some u := by
  induction ls with
  | nil =>
    intro s hs _ hlength
    obtain ⟨t, hresult, -⟩ := exists_hasTerm hs
    obtain ⟨u, hu⟩ := Option.isSome_iff_exists.1 (finish_isSome s.stack t hlength.symm)
    exact ⟨s, u, rfl, hresult.trans hu⟩
  | cons l ls ih =>
    intro s hs hls hlength
    obtain ⟨hl, hls⟩ := List.forall_mem_cons.1 hls
    rw [List.length_cons] at hlength
    obtain ⟨t, -, hstep⟩ := exists_hasTerm hs
    obtain ⟨v, s₁, hresume, hfocus, hopen⟩ := resume_closing (s := s) hl s.stack t (by omega)
    obtain ⟨s₂, u, hrun, hresult⟩ := ih s₁ (by simp [hfocus]) hls (by omega)
    exact ⟨s₂, u, (run_cons ((hstep l hl).trans hresume)).trans hrun, hresult⟩

/-! ### Completing a text -/

/-- What completes a text behind which the state is `s`. -/
def completion (s : State) : List Char :=
  let closing := List.replicate (openBrackets s.stack) '>'
  match s.focus with
  | .start => ' ' :: '?' :: closing
  | _ => closing

theorem scan_closing (n : Nat) : ∀ offset, ∃ ls, Lexeme.scan offset (List.replicate n '>') = ls ∧
    ls.length = n ∧ ∀ l ∈ ls, l.token = .closing := by
  induction n with
  | zero => exact fun offset => ⟨[], rfl, rfl, by simp⟩
  | succ n ih =>
    intro offset
    obtain ⟨ls, hscan, hlength, hls⟩ := ih (offset + '>'.utf8Size)
    refine ⟨⟨.closing, offset⟩ :: ls, ?_, by rw [List.length_cons, hlength],
      List.forall_mem_cons.2 ⟨rfl, hls⟩⟩
    rw [List.replicate_succ, Lexeme.scan_mark _ _ (t := .closing) rfl, hscan]

theorem scan_wildcard (n offset : Nat) :
    Lexeme.scan offset (' ' :: '?' :: List.replicate n '>') =
      ⟨.word .wildcard, offset + 1⟩ :: Lexeme.scan (offset + 2) (List.replicate n '>') := by
  rw [Lexeme.scan_blank _ _ (by decide)]
  have hend : ∀ d ∈ (List.replicate n '>').head?, isWordChar d = false := by
    cases n with
    | zero => exact fun d hd => nomatch hd
    | succ n =>
      intro d hd
      obtain rfl := Option.some.inj hd
      decide
  exact Lexeme.scan_last (offset + 1) (by decide) hend

/-- No word goes on in what completes a text. -/
theorem head_completion (s : State) : ∀ c ∈ (completion s).head?, isWordChar c = false := by
  intro c hc
  unfold completion at hc
  have hclosing : c ∈ (List.replicate (openBrackets s.stack) '>').head? → isWordChar c = false := by
    intro h
    obtain rfl := List.eq_of_mem_replicate (List.mem_of_mem_head? h)
    decide
  split at hc
  · obtain rfl := Option.some.inj hc
    decide
  · exact hclosing hc

/-- What completes a text is read from its state to the end of a signature. -/
theorem run_completion (s : State) (offset : Nat) :
    ∃ s' u, s.run (Lexeme.scan offset (completion s)) = (s', none) ∧ s'.result? = some u := by
  unfold completion
  split
  · next hs =>
    obtain ⟨ls, hscan, hlength, hls⟩ := scan_closing (openBrackets s.stack) (offset + 2)
    rw [scan_wildcard, hscan, run_cons (step_word hs rfl), if_pos rfl]
    exact closes ls _ (by simp) hls hlength
  · next hs =>
    obtain ⟨ls, hscan, hlength, hls⟩ := scan_closing (openBrackets s.stack) offset
    rw [hscan]
    exact closes ls s hs hls hlength

/-! ### Marks -/

/-- The lexemes up to a mark are there whatever follows the text. -/
theorem scan_prefix_of_mark {text : String} {ls : List Lexeme}
    (h : ls ++ [l] <+: Lexeme.ofText text) (hl : ∀ w, l.token ≠ .word w) (suffix : String) :
    ls ++ [l] <+: Lexeme.ofText (text ++ suffix) := by
  obtain ⟨pre, c, post, htext, hoffset, rfl, -, -, hword | hmark⟩ := Lexeme.exists_cut _ h
  · obtain ⟨w, hw⟩ := hword
    exact absurd hw (hl w)
  · have hend : ∀ d ∈ (c :: (post ++ suffix.toList)).head?, isWordChar d = false := by
      intro d hd
      obtain rfl := Option.some.inj hd
      exact isWordChar_of_ofMark? hmark
    rw [Lexeme.ofText, String.toList_append, htext, List.append_assoc, List.cons_append,
      Lexeme.scan_append hend, Lexeme.scan_mark _ _ hmark, ← hoffset,
      List.prefix_append_right_inj]
    exact ⟨_, rfl⟩

/-- **Texts that end too early, and texts that are beyond help.**  A text that is refused for its
end can be continued to a signature.  A text that is refused for a missing argument, or for a
bracket too many, is refused for that, at the same place, however it is continued. -/
theorem continuations (text : String) :
    (∀ p, TypeTree.ofSignature text = .error (.unexpectedEnd p) →
      ∃ suffix tree, TypeTree.ofSignature (text ++ suffix) = .ok tree) ∧
    (∀ p, TypeTree.ofSignature text = .error (.emptyArgument p) →
      ∀ suffix, TypeTree.ofSignature (text ++ suffix) = .error (.emptyArgument p)) ∧
    ∀ p, TypeTree.ofSignature text = .error (.tooDeep p) →
      ∀ suffix, TypeTree.ofSignature (text ++ suffix) = .error (.tooDeep p) := by
  -- a fault at a mark is found again, as the lexemes up to the mark are the same
  have hstable : ∀ {e : SignatureError} {ls : List Lexeme} {l : Lexeme} {s : State},
      ls ++ [l] <+: Lexeme.ofText text → State.initial.run ls = (s, none) → s.step l = .error e →
      (∀ w, l.token ≠ .word w) → ∀ suffix, TypeTree.ofSignature (text ++ suffix) = .error e := by
    intro e ls l s hls hrun hstep hl suffix
    obtain ⟨s', hfault⟩ := (run_eq_error_iff _ _).2
      ⟨ls, l, s, scan_prefix_of_mark hls hl suffix, hrun, hstep⟩
    exact ofSignature_eq_error_iff.2 (outcome_of_fault hfault)
  refine ⟨fun p h => ?_, fun p h suffix => ?_, fun p h suffix => ?_⟩
  · rcases outcome_error h with ⟨s, -, hrun, -⟩ | ⟨ls, l, s, -, -, hstep⟩
    · obtain ⟨s', u, hrest, hresult⟩ := run_completion s (byteSize text.toList)
      have hall : State.initial.run (Lexeme.ofText (text ++ String.ofList (completion s))) =
          (s', none) := by
        rw [Lexeme.ofText, String.toList_append, String.toList_ofList,
          Lexeme.scan_append (head_completion s), Nat.zero_add]
        exact (run_append_of_ok hrun _).trans hrest
      refine ⟨String.ofList (completion s), u.denote, ?_⟩
      rw [TypeTree.ofSignature, outcome_of_run hall, hresult]
      rfl
    · rcases step_error hstep with h | ⟨h, -⟩ | ⟨h, -⟩ | ⟨h, -⟩ <;> cases h
  · rcases outcome_error h with ⟨s, h, -⟩ | ⟨ls, l, s, hls, hrun, hstep⟩
    · cases h
    · rcases step_error hstep with h | ⟨-, hl, -⟩ | ⟨h, -⟩ | ⟨h, -⟩
      · cases h
      · refine hstable hls hrun hstep (fun w hw => ?_) suffix
        rcases hl with hl | hl <;> rw [hw] at hl <;> cases hl
      · cases h
      · cases h
  · rcases outcome_error h with ⟨s, h, -⟩ | ⟨ls, l, s, hls, hrun, hstep⟩
    · cases h
    · rcases step_error hstep with h | ⟨h, -⟩ | ⟨h, -⟩ | ⟨-, hl⟩
      · cases h
      · cases h
      · cases h
      · exact hstable hls hrun hstep (fun w hw => by rw [hw] at hl; cases hl) suffix

/-- A text with 129 open brackets. -/
def deepText : String := String.ofList (List.replicate 129 ['a', '<']).flatten

theorem ofSignature_of_fault {cs : List Char} {e : SignatureError}
    (h : (State.initial.run (Lexeme.scan 0 cs)).2 = some e) :
    TypeTree.ofSignature (String.ofList cs) = .error e := by
  refine ofSignature_eq_error_iff.2 (outcome_of_fault (s := _) (Prod.ext rfl ?_))
  rw [Lexeme.ofText, String.toList_ofList, h]

theorem ofSignature_deepText : TypeTree.ofSignature deepText = .error (.tooDeep 257) :=
  ofSignature_of_fault (by decide +kernel)

/-- `a.B<? extends` can be continued to a signature, and neither `a.B<,` nor `deepText` can. -/
theorem continuations_of_open_arguments :
    (TypeTree.ofSignature "a.B<? extends" = .error (.unexpectedEnd 13) ∧
      ∃ suffix tree, TypeTree.ofSignature ("a.B<? extends" ++ suffix) = .ok tree) ∧
    (TypeTree.ofSignature "a.B<," = .error (.emptyArgument 4) ∧
      ∀ suffix, TypeTree.ofSignature ("a.B<," ++ suffix) = .error (.emptyArgument 4)) ∧
    TypeTree.ofSignature deepText = .error (.tooDeep 257) ∧
      ∀ suffix, TypeTree.ofSignature (deepText ++ suffix) = .error (.tooDeep 257) :=
  ⟨⟨rfl, (continuations _).1 13 rfl⟩, ⟨rfl, (continuations _).2.1 4 rfl⟩, ofSignature_deepText,
    (continuations _).2.2 257 ofSignature_deepText⟩

end Reading

end Signature

end TypeAncestry
