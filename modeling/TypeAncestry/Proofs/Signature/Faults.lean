import TypeAncestry.Proofs.Signature.Nesting

/-!
# What a fault says of the text

A lexeme is refused in one of four ways, each at its own place, and the text is cut there.  The
lexemes before the cut are those of the text before it, so what the reader had come to says how that
text ends, how many brackets are open in it, and whether it would have been a signature.

* `Reading.step_error` : the ways in which a lexeme is refused.
* `Reading.outcome_error` : the ways in which a text is refused, and where it is cut.
* `Reading.count_stackTokens` : the brackets among the tokens that a state keeps.
* `SignatureError.Describes` : what a fault says of the text before and behind it.
* `Reading.faults_describe` : it is always true.
-/

namespace TypeAncestry

/-- The last character of a text that is not white space. -/
def Signature.lastVisible (text : String) : Option Char :=
  (text.toList.filter fun c => !Text.isBlank c).getLast?

/-- What a fault says of the text `before` and `after` its place. -/
def SignatureError.Describes (before after : String) : SignatureError → Prop
  | unexpectedEnd _ => after = ""
  | unexpectedChar c _ => after.toList.head? = some c ∧ Text.isBlank c = false
  | emptyArgument _ =>
    (after.toList.head? = some ',' ∨ after.toList.head? = some '>') ∧
      (Signature.lastVisible before = some '<' ∨ Signature.lastVisible before = some ',')
  | trailingInput _ =>
    (∃ c, after.toList.head? = some c ∧ Text.isBlank c = false) ∧
      ∃ tree, TypeTree.ofSignature before = .ok tree
  | tooDeep _ =>
    after.toList.head? = some '<' ∧ before.toList.count '<' = before.toList.count '>' + 128

namespace Signature

namespace Reading

open State

variable {s : State} {l : Lexeme} {e : SignatureError}

/-! ### Refused lexemes -/

theorem resume_error (stack : List Frame) :
    ∀ t : Term, s.resume t l stack = .error e →
      e = .unexpectedChar l.token.first l.offset ∨
        e = .trailingInput l.offset ∧ (finish t stack).isSome := by
  induction stack with
  | nil =>
    intro t h
    cases h
    exact .inr ⟨rfl, rfl⟩
  | cons f stack ih =>
    intro t h
    cases f with
    | bound b => exact ih (.bounded b t) h
    | arguments n done =>
      unfold resume at h
      split at h
      · cases h
      · cases h
      · cases h
        exact .inl rfl

/-- **A lexeme is refused at its own place**: for its first character, or as one that comes too
early, for a missing argument, or as one that comes too late, behind a complete signature, or as one
bracket too many. -/
theorem step_error (h : s.step l = .error e) :
    e = .unexpectedChar l.token.first l.offset ∨
    (e = .emptyArgument l.offset ∧ (l.token = .comma ∨ l.token = .closing) ∧ s.focus = .start ∧
      ∃ n done stack, s.stack = .arguments n done :: stack) ∨
    (e = .trailingInput l.offset ∧ s.result?.isSome) ∨
    (e = .tooDeep l.offset ∧ l.token = .opening) := by
  have hlate : ∀ t, s.result? = finish t s.stack → s.resume t l s.stack = .error e →
      e = .unexpectedChar l.token.first l.offset ∨
      (e = .emptyArgument l.offset ∧ (l.token = .comma ∨ l.token = .closing) ∧ s.focus = .start ∧
        ∃ n done stack, s.stack = .arguments n done :: stack) ∨
      (e = .trailingInput l.offset ∧ s.result?.isSome) ∨
      (e = .tooDeep l.offset ∧ l.token = .opening) := fun t ht h => by
    rw [ht]
    exact (resume_error s.stack t h).imp_right fun h => .inr (.inl h)
  unfold State.step at h
  split at h
  · next hf =>
    unfold begin at h
    split at h
    · cases h
    · next hl hstack =>
      cases h
      exact .inr (.inl ⟨rfl, .inl hl, hf, _, _, _, hstack⟩)
    · next hl hstack =>
      cases h
      exact .inr (.inl ⟨rfl, .inr hl, hf, _, _, _, hstack⟩)
    · cases h
      exact .inl rfl
  · next hf =>
    have hresult : s.result? = finish .wildcard s.stack := by rw [result?, hf]
    unfold afterWildcard at h
    split at h
    · split at h
      · cases h
      · exact hlate _ hresult h
    · exact hlate _ hresult h
  · next n hf =>
    have hresult : s.result? = finish (.named n []) s.stack := by rw [result?, hf]
    unfold afterName at h
    split at h
    · next hl =>
      split at h
      · cases h
      · cases h
        exact .inr (.inr (.inr ⟨rfl, hl⟩))
    · exact hlate _ hresult h
  · next t hf =>
    have hresult : s.result? = finish t s.stack := by rw [result?, hf]
    exact hlate _ hresult h

/-! ### Refused texts -/

theorem ofSignature_eq_error_iff {text : String} :
    TypeTree.ofSignature text = .error e ↔ (ofText text).outcome = .error e := by
  rw [TypeTree.ofSignature]
  rcases (ofText text).outcome with e' | t <;> simp [Except.map]

/-- A text is refused for its end, when all of it has been read, or for one of its lexemes. -/
theorem outcome_error {text : String} (h : TypeTree.ofSignature text = .error e) :
    (∃ s, e = .unexpectedEnd text.utf8ByteSize ∧
      State.initial.run (Lexeme.ofText text) = (s, none) ∧ s.result? = none) ∨
    ∃ ls l s, ls ++ [l] <+: Lexeme.ofText text ∧ State.initial.run ls = (s, none) ∧
      s.step l = .error e := by
  rw [ofSignature_eq_error_iff] at h
  rcases hrun : State.initial.run (Lexeme.ofText text) with ⟨s, _ | e'⟩
  · rw [outcome_of_run hrun] at h
    split at h
    · cases h
    · next hresult => exact .inl ⟨s, (Except.error.inj h).symm, rfl, hresult⟩
  · rw [outcome_of_fault hrun] at h
    obtain rfl := Except.error.inj h
    exact .inr ((run_eq_error_iff _ _).1 ⟨s, hrun⟩)

/-! ### What a state knows of the text -/

/-- The brackets among the tokens of a stack: those of the arguments that are being read are open,
and the others are closed. -/
theorem count_stackTokens (stack : List Frame) :
    (stackTokens stack).count .opening =
      (stackTokens stack).count .closing + openBrackets stack := by
  induction stack with
  | nil => rfl
  | cons f stack ih =>
    rw [stackTokens, List.count_append, List.count_append, ih]
    cases f with
    | bound b => simp [Frame.tokens, openBrackets, Frame.isArguments]
    | arguments n done =>
      have hdone : Balanced (done.reverse.flatMap fun t => t.spelling ++ [.comma]) := by
        induction done.reverse with
        | nil => rfl
        | cons t ts ih =>
          have hcomma : Balanced [.comma] := rfl
          rw [List.flatMap_cons]
          exact ((Term.balanced_spelling t).append hcomma).append ih
      rw [openBrackets_arguments]
      simp only [Frame.tokens, List.count_cons, beq_iff_eq, reduceCtorEq, if_false, if_true]
      unfold Balanced at hdone
      omega

/-- Where an argument has to begin, the last token was the bracket or a comma. -/
theorem stackTokens_arguments (n : Word) (done : List Term) (stack : List Frame) :
    ∃ ts t, stackTokens (.arguments n done :: stack) = ts ++ [t] ∧ (t = .opening ∨ t = .comma) := by
  cases done with
  | nil =>
    exact ⟨stackTokens stack ++ [.word n], .opening, by simp [stackTokens, Frame.tokens], .inl rfl⟩
  | cons u us =>
    refine ⟨stackTokens stack ++ .word n :: .opening ::
      (us.reverse.flatMap fun t => t.spelling ++ [.comma]) ++ u.spelling, .comma, ?_, .inr rfl⟩
    simp [stackTokens, Frame.tokens]

theorem lastVisible_of_tokens {text : String} {ts : List Token} {c : Char} {t : Token}
    (hc : Token.ofMark? c = some t) (h : tokens text = ts ++ [t]) : lastVisible text = some c := by
  rw [lastVisible, (splits_iff_tokens.2 h).visible, List.flatMap_append, List.flatMap_singleton,
    Token.chars_of_ofMark? hc, List.getLast?_concat]

/-- A text that is cut at a lexeme. -/
theorem exists_cut {text : String} {ls : List Lexeme} (h : ls ++ [l] <+: Lexeme.ofText text) :
    ∃ before after, text = before ++ after ∧ before.utf8ByteSize = l.offset ∧
      Lexeme.ofText before = ls ∧ after.toList.head? = some l.token.first ∧
      Text.isBlank l.token.first = false := by
  obtain ⟨pre, c, post, htext, hoffset, hscan, rfl, hblank, -⟩ := Lexeme.exists_cut _ h
  refine ⟨String.ofList pre, String.ofList (l.token.first :: post), ?_, ?_, ?_, ?_, hblank⟩
  · rw [← String.ofList_append, ← htext, String.ofList_toList]
  · rw [byteSize_ofList, hoffset, Nat.zero_add]
  · rw [Lexeme.ofText, String.toList_ofList, hscan]
  · rw [String.toList_ofList]
    rfl

/-- The tokens that were read say what the fault of the next lexeme says. -/
theorem describes_of_step {before after : String} {ls : List Lexeme}
    (hbefore : Lexeme.ofText before = ls) (hafter : after.toList.head? = some l.token.first)
    (hblank : Text.isBlank l.token.first = false) (hrun : State.initial.run ls = (s, none))
    (hstep : s.step l = .error e) : e.position = l.offset ∧ e.Describes before after := by
  have hread : Consumed (tokens before) s := by
    rw [tokens, hbefore]
    exact consumed_initial.run ls hrun
  have hsplits : Splits before.toList (tokens before) := splits_iff_tokens.2 rfl
  rcases step_error hstep with rfl | ⟨rfl, hl, hfocus, n, done, stack, hstack⟩ | ⟨rfl, hresult⟩ |
    ⟨rfl, hl⟩
  · exact ⟨rfl, hafter, hblank⟩
  · refine ⟨rfl, ?_, ?_⟩
    · rw [hafter]
      rcases hl with hl | hl <;> simp [hl, Token.first]
    · obtain ⟨ts, t, hts, ht⟩ := stackTokens_arguments n done stack
      have htokens := hread.tokens
      rw [hstack, hfocus, hts, Focus.tokens, List.append_nil] at htokens
      rcases ht with rfl | rfl
      · exact .inl (lastVisible_of_tokens (c := '<') rfl htokens.symm)
      · exact .inr (lastVisible_of_tokens (c := ',') rfl htokens.symm)
  · obtain ⟨t, ht⟩ := Option.isSome_iff_exists.1 hresult
    refine ⟨rfl, ⟨_, hafter, hblank⟩, t.denote, ?_⟩
    rw [← hbefore] at hrun
    rw [TypeTree.ofSignature, outcome_of_run hrun, ht]
    rfl
  · obtain ⟨hfull, ⟨n, hn⟩, -, -⟩ := (counted_initial.run ls hrun).step_tooDeep_iff.1 hstep
    refine ⟨rfl, ?_, ?_⟩
    · rw [hafter, hl]
      rfl
    · rw [hsplits.count_mark (c := '<') rfl, hsplits.count_mark (c := '>') rfl, ← hread.tokens, hn,
        List.count_append, List.count_append, count_stackTokens, hfull]
      simp [Focus.tokens]

/-- **A fault tells the truth about the text.**  Its place lies between two characters or at an end
of the text; and it describes the text before and behind this place.  A reading by descent that
checks every slice it takes finds the same tree or the same fault, and no check ever fails. -/
theorem faults_describe (text : String) :
    (∀ e, TypeTree.ofSignature text = .error e →
      e.position ≤ text.utf8ByteSize ∧
      ∃ before after, text = before ++ after ∧ before.utf8ByteSize = e.position ∧
        e.Describes before after) ∧
    ((Descent.ofText text).outcome =
      match TypeTree.ofSignature text with
      | .ok tree => .ok tree
      | .error e => .error (.fault e)) ∧
    ∀ p, (Descent.ofText text).outcome ≠ .error (.slice p) := by
  refine ⟨fun e he => ?_, (Descent.ofText_eq text).1, fun p hp => ?_⟩
  · have hcut : ∃ before after, text = before ++ after ∧ before.utf8ByteSize = e.position ∧
        e.Describes before after := by
      rcases outcome_error he with ⟨s, rfl, -, -⟩ | ⟨ls, l, s, hls, hrun, hstep⟩
      · exact ⟨text, "", by simp, rfl, rfl⟩
      · obtain ⟨before, after, htext, hsize, hbefore, hafter, hblank⟩ := exists_cut hls
        obtain ⟨hplace, hdescribes⟩ := describes_of_step hbefore hafter hblank hrun hstep
        exact ⟨before, after, htext, hsize.trans hplace.symm, hdescribes⟩
    refine ⟨?_, hcut⟩
    obtain ⟨before, after, rfl, hsize, -⟩ := hcut
    rw [← hsize, String.utf8ByteSize_append]
    exact Nat.le_add_right _ _
  · rw [(Descent.ofText_eq text).1] at hp
    split at hp
    · cases hp
    · cases hp

/-- The fault of `a.é < a.B ,>` lies at the closing bracket, behind twelve bytes. -/
theorem faults_describe_missing_argument :
    TypeTree.ofSignature "a.é < a.B ,>" = .error (.emptyArgument 12) ∧
      ∃ before after, "a.é < a.B ,>" = before ++ after ∧ before.utf8ByteSize = 12 ∧
        (SignatureError.emptyArgument 12).Describes before after := by
  have hfault : TypeTree.ofSignature "a.é < a.B ,>" = .error (.emptyArgument 12) := rfl
  exact ⟨hfault, ((faults_describe _).1 _ hfault).2⟩

end Reading

end Signature

end TypeAncestry
