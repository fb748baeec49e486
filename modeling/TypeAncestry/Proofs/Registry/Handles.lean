import Mathlib.Algebra.Group.Nat.Defs
import Mathlib.Data.List.Nodup
import TypeAncestry.Proofs.Registry.Coherence

/-!
# The handles that a registry gives out

A registry counts its registrations with a number of 32 bits and gives out the count as the handle.
Nothing is done when the count comes to its end: registration number `2 ^ 32` gets the invalid
handle, and from then on every registration gets a handle that an earlier one got, and its
definition takes the place of that one's.  Up to there all handles are new.

* `Handle.ofNumber_eq_iff` : two registrations get the same handle if their numbers differ by a
  multiple of `2 ^ 32`.
* `Registry.given`, `Registry.given_eq` : the handles that changes give out are consecutive.
* `Registry.Vacant`, `Registry.vacant_after_iff` : the next handle has no definition yet.
* `Registry.given_fresh_iff` : how long the handles are new and valid, and no definition is lost.
* `Registry.handles_come_back` : what happens after that.
-/

namespace TypeAncestry

namespace Handle

/-- The numbers of registrations that get the same handle differ by a multiple of `2 ^ 32`. -/
theorem ofNumber_eq_iff {n m : Nat} : ofNumber n = ofNumber m ↔ n % 2 ^ 32 = m % 2 ^ 32 := by
  simp only [ofNumber, mk.injEq, ← UInt32.toNat_inj, UInt32.toNat_ofNat']

theorem ofNumber_eq_invalid_iff {n : Nat} : ofNumber n = invalid ↔ n % 2 ^ 32 = 0 :=
  ofNumber_eq_iff (m := 0)

end Handle

namespace Registry

variable {r start : Registry} {cs : List Change} {d : TypeDef} {h : Handle} {k : Nat}

/-! ### Handles that are given out -/

/-- The handles that changes give out, one for each registration. -/
def given (r : Registry) : List Change → List Handle
  | [] => []
  | .register d :: cs => (r.register d).1 :: (r.register d).2.given cs
  | c :: cs => (r.apply c).given cs

theorem register_fst (r : Registry) (d : TypeDef) : (r.register d).1 = r.next := rfl

theorem given_register (r : Registry) (d : TypeDef) (cs : List Change) :
    r.given (.register d :: cs) = r.next :: (r.apply (.register d)).given cs := rfl

theorem given_cons {c : Change} (hc : c.definition? = none) (r : Registry) (cs : List Change) :
    r.given (c :: cs) = (r.apply c).given cs := by
  cases c with
  | register d => nomatch hc
  | setSuperType | addInterface | bind => rfl

theorem registrations_cons {c : Change} (hc : c.definition? = none) (cs : List Change) :
    registrations (c :: cs) = registrations cs :=
  List.filterMap_cons_none hc

/-- **The handles that are given out are consecutive,** from the next one on. -/
theorem given_eq (hr : r.next = .ofNumber k) (cs : List Change) :
    r.given cs = (List.range' k (registrations cs).length).map .ofNumber := by
  induction cs generalizing r k with
  | nil => rfl
  | cons c cs ih =>
    obtain ⟨d, rfl⟩ | hc := c.cases
    · have hnext : (r.apply (.register d)).next = .ofNumber (k + 1) := by
        rw [← Handle.next_ofNumber, ← hr]
        rfl
      rw [given_register, ih hnext, hr]
      rfl
    · rw [given_cons hc, ih ((next_apply hc r).trans hr), registrations_cons hc]

/-- The handles are distinct up to the last one that there is. -/
theorem nodup_given_iff (hr : r.next = .ofNumber k) (cs : List Change) :
    (r.given cs).Nodup ↔ (registrations cs).length ≤ 2 ^ 32 := by
  rw [given_eq hr]
  constructor
  · intro hnodup
    by_contra hmore
    -- the first handle is given out once more after a full round
    have hback : Handle.ofNumber k = .ofNumber (k + 2 ^ 32) := Handle.ofNumber_eq_iff.2 (by omega)
    have hsame := List.inj_on_of_nodup_map hnodup (List.mem_range'_1.2 (by omega))
      (List.mem_range'_1.2 (by omega)) hback
    omega
  · intro hroom
    refine List.Nodup.map_on (fun n hn m hm he => ?_) List.nodup_range'
    have hmod := Handle.ofNumber_eq_iff.1 he
    rw [List.mem_range'_1] at hn hm
    omega

/-- The invalid handle is the one in front of the first. -/
theorem invalid_mem_given_iff (hr : r.next = .ofNumber (k + 1)) (hk : k < 2 ^ 32)
    (cs : List Change) : .invalid ∈ r.given cs ↔ 2 ^ 32 ≤ k + (registrations cs).length := by
  rw [given_eq hr, List.mem_map]
  constructor
  · rintro ⟨n, hn, he⟩
    have hzero := Handle.ofNumber_eq_invalid_iff.1 he
    rw [List.mem_range'_1] at hn
    omega
  · intro hcount
    exact ⟨2 ^ 32, List.mem_range'_1.2 (by omega), Handle.ofNumber_eq_invalid_iff.2 rfl⟩

/-! ### Where definitions go -/

/-- There is no definition under the next handle yet. -/
def Vacant (r : Registry) : Prop := r.get? r.next = none

theorem exists_get?_apply (hd : r.get? h = some d) (c : Change) :
    ∃ e, (r.apply c).get? h = some e := by
  obtain ⟨e, rfl⟩ | hc := c.cases
  · change ∃ e', (r.register e).2.get? h = some e'
    rw [get?_register]
    split_ifs
    · exact ⟨e, rfl⟩
    · exact ⟨d, hd⟩
  · exact ⟨c.amend h d, by rw [get?_apply hc, hd, Option.map_some]⟩

/-- A handle with a definition keeps one. -/
theorem exists_get?_after (hd : r.get? h = some d) (cs : List Change) :
    ∃ e, (r.after cs).get? h = some e := by
  induction cs generalizing r d with
  | nil => exact ⟨d, hd⟩
  | cons c cs ih =>
    obtain ⟨e, he⟩ := exists_get?_apply hd c
    exact ih he

/-- Every handle that is given out has a definition from then on. -/
theorem exists_get?_of_mem_given (hh : h ∈ r.given cs) : ∃ d, (r.after cs).get? h = some d := by
  induction cs generalizing r with
  | nil => nomatch hh
  | cons c cs ih =>
    obtain ⟨d, rfl⟩ | hc := c.cases
    · rw [given_register, List.mem_cons] at hh
      obtain rfl | hh := hh
      · have hself : (r.apply (.register d)).get? r.next = some d :=
          (r.get?_register d _).trans (if_pos rfl)
        exact exists_get?_after hself cs
      · exact ih hh
    · rw [given_cons hc] at hh
      exact ih hh

theorem vacant_after_empty_iff (cs : List Change) :
    (empty.after cs).Vacant ↔ (registrations cs).length < 2 ^ 32 := by
  constructor
  · intro hvacant
    by_contra hmore
    -- the next handle is that of the registration one round ago
    have hmem : (empty.after cs).next ∈ empty.given cs := by
      rw [next_after, given_eq (k := 1) rfl, List.mem_map]
      exact ⟨(registrations cs).length + 1 - 2 ^ 32, List.mem_range'_1.2 (by omega),
        Handle.ofNumber_eq_iff.2 (by omega)⟩
    obtain ⟨d, hd⟩ := exists_get?_of_mem_given hmem
    rw [hvacant] at hd
    cases hd
  · exact get?_next_after

theorem length_registrations_replay_append (r : Registry) (cs : List Change) :
    (registrations (r.replay ++ cs)).length = r.size + (registrations cs).length := by
  rw [registrations_replay_append, List.length_append, length_allDefinitions]

/-- **The next handle has no definition until all handles have been given out.** -/
theorem vacant_after_iff (hstart : start = empty ∨ start = core) (cs : List Change) :
    (start.after cs).Vacant ↔ start.size + (registrations cs).length < 2 ^ 32 := by
  rw [← after_replay_append hstart, vacant_after_empty_iff, length_registrations_replay_append]

/-- Changes can be split in front of each of their registrations. -/
theorem exists_eq_append_register {n : Nat} (hn : n < (registrations cs).length) :
    ∃ bs d rest, cs = bs ++ .register d :: rest ∧ (registrations bs).length = n := by
  induction cs generalizing n with
  | nil => nomatch hn
  | cons c cs ih =>
    obtain ⟨d, rfl⟩ | hc := c.cases
    · cases n with
      | zero => exact ⟨[], d, cs, rfl, rfl⟩
      | succ n =>
        obtain ⟨bs, e, rest, rfl, hbs⟩ := ih (Nat.lt_of_succ_lt_succ hn)
        exact ⟨.register d :: bs, e, rest, rfl, congrArg (· + 1) hbs⟩
    · rw [registrations_cons hc] at hn
      obtain ⟨bs, e, rest, rfl, hbs⟩ := ih hn
      exact ⟨c :: bs, e, rest, rfl, by rw [registrations_cons hc, hbs]⟩

theorem counts_core : core.size = 35 ∧ core.next = .ofNumber 36 := by decide +kernel

theorem counts_start (hstart : start = empty ∨ start = core) :
    start.size < 2 ^ 32 ∧ start.next = .ofNumber (start.size + 1) := by
  obtain hempty | hcore := hstart
  · rw [hempty]
    exact ⟨by decide, rfl⟩
  · rw [hcore, counts_core.1]
    exact ⟨by decide, counts_core.2⟩

/-- **How long the handles are new.**  Let changes be made to the empty registry or to the one with
the core types, and let all registrations be counted, those of the core types included.  The handles
that are given out are distinct as long as there are no more of them than numbers of 32 bits; the
invalid one is among them from registration number `2 ^ 32` on; and every definition goes where
there is none up to that registration, and not after it. -/
theorem given_fresh_iff {start : Registry} (hstart : start = empty ∨ start = core)
    (cs : List Change) :
    ((start.given cs).Nodup ↔ (registrations cs).length ≤ 2 ^ 32) ∧
      (.invalid ∉ start.given cs ↔ start.size + (registrations cs).length < 2 ^ 32) ∧
      ((∀ bs d rest, cs = bs ++ .register d :: rest → (start.after bs).Vacant) ↔
        start.size + (registrations cs).length ≤ 2 ^ 32) := by
  obtain ⟨hsize, hnext⟩ := counts_start hstart
  refine ⟨nodup_given_iff hnext cs, ?_, fun hvacant => ?_, ?_⟩
  · rw [invalid_mem_given_iff hnext hsize, Nat.not_le]
  · by_contra hmore
    have hlast : 2 ^ 32 - start.size < (registrations cs).length := by omega
    obtain ⟨bs, d, rest, hcs, hbs⟩ := exists_eq_append_register hlast
    have hroom := (vacant_after_iff hstart bs).1 (hvacant bs d rest hcs)
    omega
  · rintro hroom bs d rest rfl
    refine (vacant_after_iff hstart bs).2 ?_
    have hcount : (registrations (bs ++ .register d :: rest)).length =
        (registrations bs).length + ((registrations rest).length + 1) := by
      rw [registrations_append, List.length_append]
      rfl
    omega

/-- Behind the core types the handles 36 and 37 are given out, and nothing was under them. -/
theorem given_fresh_iff_restring :
    core.given restring = [⟨36⟩, ⟨37⟩] ∧ (core.given restring).Nodup ∧
      .invalid ∉ core.given restring ∧
      ∀ bs d rest, restring = bs ++ .register d :: rest → (core.after bs).Vacant := by
  have hcount : (registrations restring).length = 2 := rfl
  have hsize := counts_core.1
  obtain ⟨hnodup, hvalid, hvacant⟩ := given_fresh_iff (.inr rfl) restring
  exact ⟨given_eq counts_core.2 restring, hnodup.2 (by omega), hvalid.2 (by omega),
    hvacant.2 (by omega)⟩

/-! ### When the handles come back -/

/-- Registrations of `a.First`, and then `n` times of `a.More`. -/
def firstAndMore (n : Nat) : List Change :=
  .register (.class_ "a.First") :: List.replicate n (.register (.class_ "a.More"))

theorem length_registrations_replicate (n : Nat) (d : TypeDef) :
    (registrations (List.replicate n (.register d))).length = n := by
  simp [registrations, Change.definition?]

theorem length_registrations_firstAndMore (n : Nat) :
    (registrations (firstAndMore n)).length = n + 1 :=
  congrArg (· + 1) (length_registrations_replicate n _)

/-- Registrations leave the definitions under the handles that they are not given. -/
theorem get?_after_replicate {n : Nat} (hh : h ∉ r.given (List.replicate n (.register d))) :
    (r.after (List.replicate n (.register d))).get? h = r.get? h := by
  induction n generalizing r with
  | zero => rfl
  | succ n ih =>
    rw [List.replicate_succ, given_register, List.mem_cons, not_or] at hh
    exact (ih hh.2).trans ((r.get?_register d h).trans (if_neg hh.1))

/-- Up to the end of the round the first definition stays where it is. -/
theorem get?_first_firstAndMore {n : Nat} (hn : n < 2 ^ 32) :
    (empty.after (firstAndMore n)).get? .first = some (.class_ "a.First") := by
  have hmore : .first ∉ (empty.apply (.register (.class_ "a.First"))).given
      (List.replicate n (.register (.class_ "a.More"))) := by
    rw [given_eq (k := 2) rfl, length_registrations_replicate, List.mem_map]
    rintro ⟨m, hm, he⟩
    have hmod : m % 2 ^ 32 = 1 % 2 ^ 32 := Handle.ofNumber_eq_iff.1 he
    rw [List.mem_range'_1] at hm
    omega
  exact get?_after_replicate hmore

/-- **The handles come back.**  The last of `2 ^ 32` registrations gets the invalid handle, and the
next one the handle that the first one got, so that another definition is found under it. -/
theorem handles_come_back :
    let round := firstAndMore (2 ^ 32 - 1)
    let all := round ++ [.register (.class_ "a.Last")]
    (empty.given round)[2 ^ 32 - 1]? = some .invalid ∧ ¬ (empty.given all).Nodup ∧
      ((empty.after round).register (.class_ "a.Last")).1 = .first ∧
      (empty.after round).get? .first = some (.class_ "a.First") ∧
      (empty.after all).get? .first = some (.class_ "a.Last") := by
  intro round all
  have hround : (registrations round).length = 2 ^ 32 := length_registrations_firstAndMore _
  have hall : (registrations all).length = 2 ^ 32 + 1 := by
    rw [length_registrations_register, hround]
  have hnext : (empty.after round).next = .first := by
    rw [next_after, hround]
    exact Handle.ofNumber_eq_iff.2 rfl
  refine ⟨?_, ?_, (register_fst _ _).trans hnext, get?_first_firstAndMore (by omega), ?_⟩
  · rw [given_eq (k := 1) rfl, hround, List.getElem?_map, List.getElem?_range' (by omega)]
    exact congrArg some (Handle.ofNumber_eq_invalid_iff.2 rfl)
  · rw [nodup_given_iff (k := 1) rfl, hall]
    omega
  · rw [after_concat, ← hnext]
    exact (get?_register _ _ _).trans (if_pos rfl)

end Registry

end TypeAncestry
