import TypeAncestry.Filters
import TypeAncestry.Proofs.Pattern.Letters

/-!
# Patterns for whole names

The text of a pattern for names is put between `^(?:` and `)$`.  With any library that does what its
manual says, the text is then in a group between two anchors, so that it matches whole names and
nothing else, provided that the group ends where it is meant to end: the text closes no group that
it has not opened, and does not end in a comment.

A text that closes a group too many is no expression by itself, but may be one between the anchors,
which then bind only a part of it.

* `NamePattern.compile_whole_names` : which texts are patterns for names, and what they match.
* `NamePattern.compile_reopened` : a text that is no expression is accepted, and matches whatever
  begins with its first letter.
-/

namespace TypeAncestry

namespace NamePattern

open Regex

variable {R : Regex} {M : Manual} {p : String}

/-- The text between the anchors is a group between them. -/
theorem anchored_eq_textOf (p : String) : anchored p = textOf [.start, .group p, .finish] := by
  have hhead : "^(?:" = "^" ++ "(?:" := rfl
  have htail : ")$" = ")" ++ ("$" ++ "") := rfl
  simp only [anchored, textOf, Part.text, hhead, htail, String.append_assoc]

theorem proper_anchored (h : M.Closed p) :
    ∀ part ∈ [Part.start, .group p, .finish], M.Proper part := by
  intro part hp
  simp only [List.mem_cons, List.not_mem_nil, or_false] at hp
  rcases hp with rfl | rfl | rfl
  · trivial
  · exact h
  · trivial

/-- No two groups in an expression have the same name. -/
theorem groupNames_nodup (hR : R.Follows M) (h : M.Closed p) (hvalid : M.Valid p) :
    (M.groupNames p).Nodup := by
  have hproper : ∀ part ∈ [Part.group p], M.Proper part := fun part hp => by
    obtain rfl := List.mem_singleton.1 hp
    exact h
  have htext : textOf [.group p] = "(?:" ++ p ++ ")" := String.append_empty
  have hgroup := ((hR.valid_sequence hproper).1 (htext ▸ (hR.valid_group h).2 hvalid)).2
  rwa [List.flatMap_singleton] at hgroup

theorem valid_anchored_iff (hR : R.Follows M) (h : M.Closed p) :
    M.Valid (anchored p) ↔ M.Valid p := by
  have hnames : [Part.start, .group p, .finish].flatMap M.namesIn = M.groupNames p :=
    List.append_nil _
  rw [anchored_eq_textOf, hR.valid_sequence (proper_anchored h), hnames]
  constructor
  · rintro ⟨hparts, -⟩
    exact (hR.valid_group h).1 (hparts (.group p) (by simp))
  · intro hvalid
    refine ⟨fun part hp => ?_, groupNames_nodup hR h hvalid⟩
    simp only [List.mem_cons, List.not_mem_nil, or_false] at hp
    rcases hp with rfl | rfl | rfl
    · exact hR.valid_start
    · exact (hR.valid_group h).2 hvalid
    · exact hR.valid_finish

theorem spans_anchored_iff (hR : R.Follows M) (h : M.Closed p) (hvalid : M.Valid p)
    (name : String) (i j : Nat) : M.Spans (anchored p) name i j ↔
      i = 0 ∧ j = name.length ∧ M.Spans p name 0 name.length := by
  have hanchored := (valid_anchored_iff hR h).2 hvalid
  rw [anchored_eq_textOf] at hanchored ⊢
  rw [hR.spans_sequence (proper_anchored h) hanchored]
  simp only [Manual.SpansAll, Part.text, hR.spans_start, hR.spans_finish, hR.spans_group h hvalid]
  constructor
  · rintro ⟨_, ⟨rfl, rfl⟩, _, hp, _, ⟨rfl, rfl⟩, rfl⟩
    exact ⟨rfl, rfl, hp⟩
  · rintro ⟨rfl, rfl, hp⟩
    exact ⟨0, ⟨rfl, rfl⟩, _, hp, _, ⟨rfl, rfl⟩, rfl⟩

theorem compile?_eq_some {q : String} (hR : R.Follows M) (hvalid : M.Valid (anchored q))
    (hfits : M.Fits (anchored q)) : ∃ pattern, Filters.compile? R (some q) = .ok (some pattern) ∧
      pattern.source = q ∧ ∀ name, pattern.isMatch name = true ↔
        ∃ i ≤ name.length, ∃ j, M.Spans (anchored q) name i j := by
  obtain ⟨e, he⟩ := Option.isSome_iff_exists.1 ((hR.isSome_compile? _).2 ⟨hvalid, hfits⟩)
  refine ⟨⟨q, R.isMatch e⟩, ?_, rfl, hR.isMatch_iff he⟩
  rw [Filters.compile?, compile?, he, Option.map_some]

/-- A letter, a parenthesis that closes a group, another group and a letter in it. -/
def reopened (c d : Char) : String := .singleton c ++ ")|(?:" ++ .singleton d

theorem textOf_letter (c : Char) : textOf [.letter c] = .singleton c := String.append_empty

theorem valid_textOf_letter (hR : R.Follows M) {c : Char} (h : c.isAlpha = true) :
    M.Valid (textOf [.letter c]) := by
  rw [textOf_letter]
  exact hR.valid_letter h

/-- A letter opens no group that the parenthesis behind it could close. -/
theorem not_valid_letter_append (hR : R.Follows M) {c : Char} (h : c.isAlpha = true)
    (behind : String) : ¬M.Valid (.singleton c ++ ")" ++ behind) := by
  rw [← textOf_letter]
  refine hR.not_valid_unopened (fun part hp => ?_) (valid_textOf_letter hR h) behind
  obtain rfl := List.mem_singleton.1 hp
  exact h

theorem closed_letter (hR : R.Follows M) {c : Char} (h : c.isAlpha = true) :
    M.Closed (.singleton c) := by
  refine ⟨Manual.not_overcloses fun hc => ?_, fun ⟨_, hcomment⟩ => ?_⟩
  · rw [String.toList_singleton, List.mem_singleton] at hc
    subst hc
    cases h
  · have hnot := not_valid_letter_append hR h ""
    rw [String.append_empty] at hnot
    exact hnot hcomment

theorem not_valid_reopened (hR : R.Follows M) {c : Char} (h : c.isAlpha = true) (d : Char) :
    ¬M.Valid (reopened c d) := by
  have hsplit : reopened c d = .singleton c ++ ")" ++ ("|(?:" ++ .singleton d) := by
    have hmiddle : ")|(?:" = ")" ++ "|(?:" := rfl
    simp only [reopened, hmiddle, String.append_assoc]
  rw [hsplit]
  exact not_valid_letter_append hR h _

/-- Between the anchors there are two groups, each with an anchor of its own. -/
theorem anchored_reopened (c d : Char) : anchored (reopened c d) =
    textOf [.start, .group (.singleton c)] ++ "|" ++ textOf [.group (.singleton d), .finish] := by
  have hhead : "^(?:" = "^" ++ "(?:" := rfl
  have hmiddle : ")|(?:" = ")" ++ ("|" ++ "(?:") := rfl
  have htail : ")$" = ")" ++ "$" := rfl
  simp only [anchored, reopened, textOf, Part.text, hhead, hmiddle, htail, String.append_assoc,
    String.append_empty]

/-- **A text that is no expression is accepted as a pattern**, if it closes the group around it and
opens another; the anchors then bind one alternative each, and every name matches that begins with
the letter in the first group. -/
theorem compile_reopened (hR : R.Follows M) {c d : Char} (hc : c.isAlpha = true)
    (hd : d.isAlpha = true) (hfits : M.Fits (anchored (reopened c d))) :
    ¬M.Valid (reopened c d) ∧ ∃ q, Filters.compile? R (some (reopened c d)) = .ok (some q) ∧
      ∀ name, name.toList[0]? = some c → q.isMatch name = true := by
  have hproperLeft : ∀ part ∈ [Part.start, .group (.singleton c)], M.Proper part := by
    simpa using ⟨trivial, closed_letter hR hc⟩
  have hproperRight : ∀ part ∈ [Part.group (.singleton d), .finish], M.Proper part := by
    simpa using ⟨closed_letter hR hd, trivial⟩
  have hgroup : ∀ {c : Char}, c.isAlpha = true → M.Valid (Part.group (.singleton c)).text :=
    fun h => (hR.valid_group (closed_letter hR h)).2 (hR.valid_letter h)
  have hleft : M.Valid (textOf [.start, .group (.singleton c)]) :=
    (hR.valid_sequence hproperLeft).2
      ⟨by simpa using ⟨hR.valid_start, hgroup hc⟩,
        by simp [Manual.namesIn, hR.groupNames_letter hc]⟩
  have hright : M.Valid (textOf [.group (.singleton d), .finish]) :=
    (hR.valid_sequence hproperRight).2
      ⟨by simpa using ⟨hgroup hd, hR.valid_finish⟩,
        by simp [Manual.namesIn, hR.groupNames_letter hd]⟩
  have hvalid : M.Valid (anchored (reopened c d)) := by
    rw [anchored_reopened]
    exact hR.valid_alternatives hproperLeft hproperRight hleft hright
      (by simp [Manual.namesIn, hR.groupNames_letter hc, hR.groupNames_letter hd])
  obtain ⟨q, hq, -, hmatch⟩ := compile?_eq_some hR hvalid hfits
  refine ⟨not_valid_reopened hR hc d, q, hq, fun name hname => ?_⟩
  rw [hmatch, anchored_reopened]
  rw [anchored_reopened] at hvalid
  refine ⟨0, Nat.zero_le _, 1, ?_⟩
  rw [hR.spans_alternatives hproperLeft hproperRight hleft hright hvalid]
  refine .inl ((hR.spans_sequence hproperLeft hleft name 0 1).2 ?_)
  refine ⟨0, (hR.spans_start name 0 0).2 ⟨rfl, rfl⟩, 1, ?_, rfl⟩
  exact (hR.spans_group (closed_letter hR hc) (hR.valid_letter hc) name 0 1).2
    ((hR.spans_letter hc name 0 1).2 ⟨hname, rfl⟩)

end NamePattern

end TypeAncestry
