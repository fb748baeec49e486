import TypeAncestry.Json.Library
import TypeAncestry.Proofs.Json.Quoting

/-!
# The library does what is relied on

The compact form of a datum is put together from quoted texts, arrays and objects, and for each of
these there is a rule that says what is read of it.  The rules lead from the items of a list and the
members of a record to the whole, so a form of a datum is read as one value, whatever follows it.
From this value the datum is found again if there is room for what is nested in it.

* `Json.Reads` : what stands at the beginning of a text, and how much fuel it takes to read it.
* `Json.Datum.value`, `Json.Datum.reads_of_form` : a form of a datum is read as its value.
* `Json.library_standard` : the library writes and reads compact forms.
* `TypeTree.coder_ofFields` : the code for trees treats them as records of their fields.
-/

namespace TypeAncestry

namespace Json

variable {α : Type} {read? : Nat → List Char → Option α} {x : α} {s s' rest k : List Char}
  {v : Value} {vs : List Value} {ks : List (Option (List Char))} {c : Char} {key : String}
  {forms : List (List Char)} {d : Datum}

/-- What is read of `s` is `x`, and this ends where `rest` begins.  A unit of fuel is enough for
each character. -/
structure Reads (read? : Nat → List Char → Option α) (s : List Char) (x : α) (rest : List Char) :
    Prop where
  shorter : rest.length < s.length
  reads : ∀ fuel, s.length ≤ rest.length + fuel → read? fuel s = some x

/-- The first unit of fuel pays for the first character. -/
theorem Reads.of_succ (hlt : rest.length < s.length)
    (h : ∀ fuel, s.length ≤ rest.length + (fuel + 1) → read? (fuel + 1) s = some x) :
    Reads read? s x rest where
  shorter := hlt
  reads fuel hfuel := by
    cases fuel with
    | zero => omega
    | succ fuel => exact h fuel hfuel

theorem skipBlanks_cons (hc : isBlank c = false) (s : List Char) :
    skipBlanks (c :: s) = c :: s := by
  rw [skipBlanks, List.dropWhile_cons_of_neg (by simp [hc])]

/-! ### Texts and arrays -/

/-- A form of a text is an opening quotation mark and what is read behind it. -/
theorem Quoted.unquote_append (h : Quoted key k) (rest : List Char) :
    ∃ t, k ++ rest = '"' :: t ∧ rest.length < t.length ∧
      unquote t = some (key.toList.map (·.toNat), rest) := by
  obtain ⟨forms, hforms, rfl⟩ := h
  refine ⟨forms.flatten ++ '"' :: rest, ?_, ?_, unquote_forms hforms rest⟩
  · rw [List.cons_append, List.append_assoc, List.singleton_append]
  · rw [List.length_append, List.length_cons]
    omega

theorem reads_text (h : Quoted key k) (rest : List Char) :
    Reads value? (k ++ rest) (.text (some key.toList), rest) rest := by
  obtain ⟨t, ht, hlt, hunquote⟩ := h.unquote_append rest
  rw [ht]
  refine .of_succ (by rw [List.length_cons]; omega) fun fuel _ => ?_
  rw [value?, skipBlanks_cons rfl]
  simp only [hunquote, joinPairs?_map_toNat, Option.map_some]

theorem reads_emptyArray (rest : List Char) :
    Reads value? ('[' :: ']' :: rest) (.array [], rest) rest := by
  refine .of_succ (by simp only [List.length_cons]; omega) fun fuel _ => ?_
  rw [value?, skipBlanks_cons rfl]
  simp only [skipBlanks_cons (c := ']') rfl]

/-- An array is read by its items. -/
theorem reads_array (h : Reads items? s (vs, rest) rest) (hs : ∀ u, skipBlanks s ≠ ']' :: u) :
    Reads value? ('[' :: s) (.array vs, rest) rest := by
  have hlt := h.shorter
  refine .of_succ (by rw [List.length_cons]; omega) fun fuel hfuel => ?_
  rw [List.length_cons] at hfuel
  have hitems := h.reads fuel (by omega)
  rw [value?, skipBlanks_cons rfl]
  -- by `hs` no closing bracket comes first
  simp only [hitems, Option.map_some]

theorem reads_item (h : Reads value? s (v, ']' :: rest) (']' :: rest)) :
    Reads items? s ([v], rest) rest := by
  have hlt := h.shorter
  rw [List.length_cons] at hlt
  refine .of_succ (by omega) fun fuel hfuel => ?_
  rw [items?, h.reads fuel (by rw [List.length_cons]; omega)]
  simp only [skipBlanks_cons (c := ']') rfl]

theorem reads_items (h : Reads value? s (v, ',' :: s') (',' :: s'))
    (hs : Reads items? s' (vs, rest) rest) : Reads items? s (v :: vs, rest) rest := by
  have hlt := h.shorter
  have hlt' := hs.shorter
  rw [List.length_cons] at hlt
  refine .of_succ (by omega) fun fuel hfuel => ?_
  rw [items?, h.reads fuel (by rw [List.length_cons]; omega)]
  simp only [skipBlanks_cons (c := ',') rfl, hs.reads fuel (by omega), Option.map_some]

/-! ### Objects -/

theorem reads_emptyObject (rest : List Char) :
    Reads value? ('\x7b' :: '\x7d' :: rest) (.object [] [], rest) rest := by
  refine .of_succ (by simp only [List.length_cons]; omega) fun fuel _ => ?_
  rw [value?, skipBlanks_cons rfl]
  simp only [skipBlanks_cons (c := '\x7d') rfl]

theorem reads_member (hk : Quoted key k) (h : Reads value? s (v, '\x7d' :: rest) ('\x7d' :: rest)) :
    Reads members? (k ++ ':' :: s) ([some key.toList], [v], rest) rest := by
  have hlt := h.shorter
  obtain ⟨t, ht, hlt', hunquote⟩ := hk.unquote_append (':' :: s)
  rw [List.length_cons] at hlt hlt'
  rw [ht]
  refine .of_succ (by rw [List.length_cons]; omega) fun fuel hfuel => ?_
  rw [List.length_cons] at hfuel
  have hvalue := h.reads fuel (by rw [List.length_cons]; omega)
  rw [members?, skipBlanks_cons rfl]
  simp only [hunquote, joinPairs?_map_toNat, skipBlanks_cons (c := ':') rfl, hvalue,
    skipBlanks_cons (c := '\x7d') rfl]

theorem reads_members (hk : Quoted key k) (h : Reads value? s (v, ',' :: s') (',' :: s'))
    (hs : Reads members? s' (ks, vs, rest) rest) :
    Reads members? (k ++ ':' :: s) (some key.toList :: ks, v :: vs, rest) rest := by
  have hlt := h.shorter
  have hlt' := hs.shorter
  obtain ⟨t, ht, hlt'', hunquote⟩ := hk.unquote_append (':' :: s)
  rw [List.length_cons] at hlt hlt''
  rw [ht]
  refine .of_succ (by rw [List.length_cons]; omega) fun fuel hfuel => ?_
  rw [List.length_cons] at hfuel
  have hvalue := h.reads fuel (by rw [List.length_cons]; omega)
  rw [members?, skipBlanks_cons rfl]
  simp only [hunquote, joinPairs?_map_toNat, skipBlanks_cons (c := ':') rfl, hvalue,
    skipBlanks_cons (c := ',') rfl, hs.reads fuel (by omega), Option.map_some]

/-- An object is read by its members. -/
theorem reads_object (h : Reads members? s (ks, vs, rest) rest) (hs : ∃ t, s = '"' :: t) :
    Reads value? ('\x7b' :: s) (.object ks vs, rest) rest := by
  obtain ⟨t, rfl⟩ := hs
  have hlt := h.shorter
  refine .of_succ (by rw [List.length_cons]; omega) fun fuel hfuel => ?_
  rw [List.length_cons] at hfuel
  have hmembers := h.reads fuel (by omega)
  rw [value?, skipBlanks_cons rfl]
  simp only [skipBlanks_cons (c := '"') rfl, hmembers, Option.map_some]
  rfl

namespace Datum

mutual

/-- What is read of a form of a datum. -/
def value : Datum → Value
  | text s => .text (some s.toList)
  | list items => .array (values items)
  | record members => .object (members.map fun m => some m.1.toList) (memberValues members)

/-- What is read of forms of data. -/
def values : List Datum → List Value
  | [] => []
  | d :: ds => d.value :: values ds

/-- What is read of forms of the data under the keys of a record. -/
def memberValues : List (String × Datum) → List Value
  | [] => []
  | (_, d) :: members => d.value :: memberValues members

end

/-! ### Writing -/

theorem formAll_compactAll {items : List Datum} (h : ∀ d ∈ items, d.Form d.compact) :
    FormAll items (compactAll items) := by
  induction items with
  | nil => trivial
  | cons d ds ih =>
    obtain ⟨hd, hds⟩ := List.forall_mem_cons.1 h
    exact ⟨hd, ih hds⟩

theorem formMembers_compactMembers {members : List (String × Datum)}
    (h : ∀ m ∈ members, m.2.Form m.2.compact) : FormMembers members (compactMembers members) := by
  induction members with
  | nil => trivial
  | cons m ms ih =>
    obtain ⟨hm, hms⟩ := List.forall_mem_cons.1 h
    exact ⟨⟨_, _, quoted_quote m.1, hm, rfl⟩, ih hms⟩

/-- The compact form that is written is one. -/
theorem form_compact (d : Datum) : d.Form d.compact := by
  induction d using Datum.induct with
  | text s => exact quoted_quote s
  | list items ih => exact ⟨_, formAll_compactAll ih, rfl⟩
  | record members ih => exact ⟨_, formMembers_compactMembers ih, rfl⟩

/-! ### Reading -/

/-- A form of a datum does not begin with white space or a closing bracket. -/
theorem Form.skipBlanks_append (h : d.Form s) (rest u : List Char) :
    skipBlanks (s ++ rest) ≠ ']' :: u := by
  cases d with
  | text key =>
    obtain ⟨t, ht, -⟩ := Quoted.unquote_append h rest
    rw [ht, skipBlanks_cons rfl]
    simp
  | list items =>
    obtain ⟨forms, -, rfl⟩ := h
    rw [List.cons_append, skipBlanks_cons rfl]
    simp
  | record members =>
    obtain ⟨forms, -, rfl⟩ := h
    rw [List.cons_append, skipBlanks_cons rfl]
    simp

/-- All forms of the datum are read as its value, whatever follows them. -/
def Readable (d : Datum) : Prop :=
  ∀ s, d.Form s → ∀ rest, Reads value? (s ++ rest) (d.value, rest) rest

theorem separated_cons_append (s : List Char) (forms : List (List Char)) (rest : List Char) :
    ∃ t, separated (s :: forms) ++ rest = s ++ t := by
  cases forms with
  | nil => exact ⟨rest, rfl⟩
  | cons s' forms => exact ⟨_, List.append_assoc ..⟩

/-- Forms with commas between them are read as items. -/
theorem reads_separated (ds : List Datum) : ∀ (d : Datum) (forms : List (List Char)),
    (∀ e ∈ d :: ds, e.Readable) → FormAll (d :: ds) forms → ∀ rest,
      Reads items? (separated forms ++ ']' :: rest) (values (d :: ds), rest) rest := by
  induction ds with
  | nil =>
    intro d forms h hforms rest
    obtain ⟨s, rfl⟩ : ∃ s, forms = [s] := by
      match forms, hforms with
      | [s], _ => exact ⟨s, rfl⟩
    exact reads_item (h d List.mem_cons_self s hforms.1 _)
  | cons e es ih =>
    intro d forms h hforms rest
    obtain ⟨s, s', forms, rfl⟩ : ∃ s s' forms', forms = s :: s' :: forms' := by
      match forms, hforms with
      | s :: s' :: forms', _ => exact ⟨s, s', forms', rfl⟩
    obtain ⟨hd, hes⟩ := List.forall_mem_cons.1 h
    rw [separated, List.append_assoc]
    exact reads_items (hd s hforms.1 _) (ih e (s' :: forms) hes hforms.2 rest)

/-- Members with commas between them begin with a key. -/
theorem separated_of_formMembers {m : String × Datum} {members : List (String × Datum)}
    (h : FormMembers (m :: members) forms) (rest : List Char) :
    ∃ t, separated forms ++ rest = '"' :: t := by
  match forms, h with
  | [_], ⟨⟨_, _, ⟨_, _, rfl⟩, _, rfl⟩, _⟩ => exact ⟨_, rfl⟩
  | _ :: _ :: _, ⟨⟨_, _, ⟨_, _, rfl⟩, _, rfl⟩, _⟩ => exact ⟨_, rfl⟩

/-- Members with commas between them are read as members. -/
theorem reads_separatedMembers (ms : List (String × Datum)) :
    ∀ (m : String × Datum) (forms : List (List Char)), (∀ n ∈ m :: ms, n.2.Readable) →
      FormMembers (m :: ms) forms → ∀ rest,
        Reads members? (separated forms ++ '\x7d' :: rest)
          ((m :: ms).map fun n => some n.1.toList, memberValues (m :: ms), rest) rest := by
  induction ms with
  | nil =>
    intro m forms h hforms rest
    obtain ⟨s, rfl⟩ : ∃ s, forms = [s] := by
      match forms, hforms with
      | [s], _ => exact ⟨s, rfl⟩
    obtain ⟨⟨k, t, hk, ht, rfl⟩, -⟩ := hforms
    rw [separated, List.append_assoc]
    exact reads_member hk (h m List.mem_cons_self t ht _)
  | cons n ms ih =>
    intro m forms h hforms rest
    obtain ⟨s, s', forms, rfl⟩ : ∃ s s' forms', forms = s :: s' :: forms' := by
      match forms, hforms with
      | s :: s' :: forms', _ => exact ⟨s, s', forms', rfl⟩
    obtain ⟨hm, hms⟩ := List.forall_mem_cons.1 h
    obtain ⟨⟨k, t, hk, ht, rfl⟩, hforms⟩ := hforms
    rw [separated, List.append_assoc, List.append_assoc]
    exact reads_members hk (hm t ht _) (ih n (s' :: forms) hms hforms rest)

/-- **A form of a datum is read as its value,** whatever follows. -/
theorem reads_of_form (d : Datum) : d.Readable := by
  induction d using Datum.induct with
  | text key => exact fun s hs rest => reads_text hs rest
  | list items ih =>
    rintro s ⟨forms, hforms, rfl⟩ rest
    rw [List.cons_append, List.append_assoc, List.singleton_append]
    match items, forms, hforms with
    | [], [], _ => exact reads_emptyArray rest
    | d :: ds, s :: forms, hforms =>
      obtain ⟨t, ht⟩ := separated_cons_append s forms (']' :: rest)
      refine reads_array (reads_separated ds d _ ih hforms rest) fun u => ?_
      rw [ht]
      exact hforms.1.skipBlanks_append t u
  | record members ih =>
    rintro s ⟨forms, hforms, rfl⟩ rest
    rw [List.cons_append, List.append_assoc, List.singleton_append]
    match members, forms, hforms with
    | [], [], _ => exact reads_emptyObject rest
    | m :: ms, _, hforms =>
      exact reads_object (reads_separatedMembers ms m _ ih hforms rest)
        (separated_of_formMembers hforms _)

/-! ### Data in values -/

theorem data?_values {items : List Datum}
    (h : ∀ d ∈ items, ∀ room, d.value.datum? room = if d.nesting ≤ room then some d else none)
    (room : Nat) : Value.data? room (values items) =
      if nestingAll items ≤ room then some items else none := by
  induction items with
  | nil => rfl
  | cons d ds ih =>
    obtain ⟨hd, hds⟩ := List.forall_mem_cons.1 h
    rw [values, Value.data?, hd, ih hds, nestingAll]
    simp only [Nat.max_le]
    by_cases hroom : d.nesting ≤ room <;> by_cases hroom' : nestingAll ds ≤ room <;>
      simp [hroom, hroom']

theorem members?_memberValues {members : List (String × Datum)}
    (h : ∀ m ∈ members, ∀ room, m.2.value.datum? room =
      if m.2.nesting ≤ room then some m.2 else none) (room : Nat) :
    Value.members? room (members.map fun m => some m.1.toList) (memberValues members) =
      if nestingMembers members ≤ room then some members else none := by
  induction members with
  | nil => rfl
  | cons m ms ih =>
    obtain ⟨hm, hms⟩ := List.forall_mem_cons.1 h
    rw [List.map_cons, memberValues, Value.members?, hm, ih hms, nestingMembers]
    simp only [Nat.max_le, String.ofList_toList]
    by_cases hroom : m.2.nesting ≤ room <;> by_cases hroom' : nestingMembers ms ≤ room <;>
      simp [hroom, hroom']

/-- **A datum is found in its value** if there is room for what is nested in it. -/
theorem datum?_value (d : Datum) :
    ∀ room, d.value.datum? room = if d.nesting ≤ room then some d else none := by
  induction d using Datum.induct with
  | text s =>
    intro room
    rw [value, Value.datum?, String.ofList_toList, nesting, if_pos (Nat.zero_le room)]
  | list items ih =>
    intro room
    cases room with
    | zero => rw [nesting, if_neg (by omega)]; rfl
    | succ room =>
      simp only [value, Value.datum?, nesting, Nat.add_comm 1, Nat.add_le_add_iff_right,
        data?_values ih]
      split <;> rfl
  | record members ih =>
    intro room
    cases room with
    | zero => rw [nesting, if_neg (by omega)]; rfl
    | succ room =>
      simp only [value, Value.datum?, nesting, Nat.add_comm 1, Nat.add_le_add_iff_right,
        members?_memberValues ih]
      split <;> rfl

/-- A form of a datum holds nothing but its value. -/
theorem ofText?_of_form (h : d.Form s) : Value.ofText? s = some d.value := by
  have hreads := d.reads_of_form s h []
  rw [List.append_nil] at hreads
  have hfuel : s.length ≤ [].length (α := Char) + fuelFor s := by
    simp only [fuelFor]
    omega
  rw [Value.ofText?, hreads.reads _ hfuel]
  rfl

end Datum

/-- **The library writes compact forms, and reads all of them.** -/
theorem library_standard : library.Standard where
  form_write d := by
    change d.Form (String.ofList d.compact).toList
    rw [String.toList_ofList]
    exact d.form_compact
  read?_of_form {d text} h := by
    change (Value.ofText? text.toList).bind _ = _
    rw [Datum.ofText?_of_form h, Option.bind_some, Datum.datum?_value]

end Json

open Json

namespace TypeTree

theorem toData_eq_map (cs : List TypeTree) : toData cs = cs.map toDatum := by
  induction cs with
  | nil => rfl
  | cons t ts ih => rw [toData, ih, List.map_cons]

theorem ofData?_eq_mapM (items : List Datum) : ofData? items = items.mapM ofDatum? := by
  induction items with
  | nil => rfl
  | cons d ds ih =>
    rw [ofData?, ih, List.mapM_cons]
    cases ofDatum? d with
    | none => rfl
    | some t => cases List.mapM ofDatum? ds <;> rfl

theorem childrenOf?_eq (members : List (String × Datum)) :
    childrenOf? members = childrenIn? coder members := by
  induction members with
  | nil => rfl
  | cons m ms ih =>
    obtain ⟨key, d⟩ := m
    rw [childrenOf?, childrenIn?, List.lookup_cons]
    cases hkey : "children" == key with
    | true =>
      rw [if_pos rfl]
      cases d with
      | list items => exact ofData?_eq_mapM items
      | text s => rfl
      | record members => rfl
    | false =>
      rw [if_neg (by decide), ih, childrenIn?]

/-- **The code treats a tree as a record of its fields.** -/
theorem coder_ofFields : coder.OfFields where
  encode_node n cs := by
    change (node n cs).toDatum = .record [_, ("children", .list (cs.map toDatum))]
    rw [toDatum, toData_eq_map]
  decode?_record _ := by
    rw [← childrenOf?_eq]
    rfl

end TypeTree

end TypeAncestry
