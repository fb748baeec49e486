/-!
# Maps in order of insertion

* `OrderedMap` : finite maps that keep their keys in the order in which they were first inserted.
* `OrderedMap.get?`, `OrderedMap.insert`, `OrderedMap.adjust` : look a key up, give it a value,
  change its value.
* `OrderedMap.keys_insert` : what becomes of the keys.
-/

namespace TypeAncestry

/-- A finite map whose keys are in the order in which they were first inserted. -/
structure OrderedMap (K V : Type) where
  /-- The keys with their values. -/
  entries : List (K × V)
  deriving Repr

namespace OrderedMap

variable {K V : Type}

/-- The map without keys. -/
def empty : OrderedMap K V := ⟨[]⟩

/-- The keys in order. -/
def keys (m : OrderedMap K V) : List K := m.entries.map (·.1)

/-- The number of keys. -/
def size (m : OrderedMap K V) : Nat := m.entries.length

variable [DecidableEq K]

/-- The value of the first entry with the key `k`. -/
def lookup (k : K) : List (K × V) → Option V
  | [] => none
  | (l, v) :: rest => if l = k then some v else lookup k rest

/-- The entries in which `k` has the value `v`: in its old place if it has one, else at the end. -/
def put (k : K) (v : V) : List (K × V) → List (K × V)
  | [] => [(k, v)]
  | (l, u) :: rest => if l = k then (l, v) :: rest else (l, u) :: put k v rest

/-- The value of a key. -/
def get? (m : OrderedMap K V) (k : K) : Option V := lookup k m.entries

/-- The map in which `k` has the value `v`. -/
def insert (m : OrderedMap K V) (k : K) (v : V) : OrderedMap K V := ⟨put k v m.entries⟩

/-- The map in which the value of `k` is changed by `f`; none if `k` has no value. -/
def adjust (m : OrderedMap K V) (k : K) (f : V → V) : Option (OrderedMap K V) :=
  (m.get? k).map fun v => m.insert k (f v)

@[simp] theorem get?_empty (k : K) : (empty : OrderedMap K V).get? k = none := rfl

theorem lookup_put_self (k : K) (v : V) (es : List (K × V)) : lookup k (put k v es) = some v := by
  induction es with
  | nil => simp [put, lookup]
  | cons e es ih =>
    simp only [put]
    split
    · next h => simp [lookup, h]
    · next h => simp [lookup, h, ih]

theorem lookup_put_of_ne {k l : K} (h : l ≠ k) (v : V) (es : List (K × V)) :
    lookup l (put k v es) = lookup l es := by
  induction es with
  | nil => simp [put, lookup, Ne.symm h]
  | cons e es ih =>
    simp only [put]
    split
    · next he => simp [lookup, he, Ne.symm h]
    · simp [lookup, ih]

@[simp] theorem get?_insert_self (m : OrderedMap K V) (k : K) (v : V) :
    (m.insert k v).get? k = some v :=
  lookup_put_self k v m.entries

theorem get?_insert_of_ne (m : OrderedMap K V) {k l : K} (h : l ≠ k) (v : V) :
    (m.insert k v).get? l = m.get? l :=
  lookup_put_of_ne h v m.entries

/-- A key that has a value keeps its place. -/
theorem keys_put (k : K) (v : V) (es : List (K × V)) :
    (put k v es).map (·.1) =
      if k ∈ es.map (·.1) then es.map (·.1) else es.map (·.1) ++ [k] := by
  induction es with
  | nil => simp [put]
  | cons e es ih =>
    obtain ⟨l, u⟩ := e
    simp only [put]
    split
    · next h => simp [h]
    · next h =>
      simp only [List.map_cons, ih, List.mem_cons, Ne.symm h, false_or]
      split <;> simp

theorem keys_insert (m : OrderedMap K V) (k : K) (v : V) :
    (m.insert k v).keys = if k ∈ m.keys then m.keys else m.keys ++ [k] :=
  keys_put k v m.entries

theorem nodup_keys_insert {m : OrderedMap K V} (h : m.keys.Nodup) (k : K) (v : V) :
    (m.insert k v).keys.Nodup := by
  rw [keys_insert]
  split
  · exact h
  · next hk =>
    refine List.nodup_append.2 ⟨h, by simp, fun l hl m hm heq => hk ?_⟩
    rwa [← List.mem_singleton.1 hm, ← heq]

omit [DecidableEq K] in
theorem size_eq_length_keys (m : OrderedMap K V) : m.size = m.keys.length :=
  (List.length_map _).symm

/-- The keys are what has a value. -/
theorem mem_keys_iff {m : OrderedMap K V} {k : K} : k ∈ m.keys ↔ ∃ v, m.get? k = some v := by
  obtain ⟨es⟩ := m
  simp only [keys, get?]
  induction es with
  | nil => simp [lookup]
  | cons e es ih =>
    rw [List.map_cons, List.mem_cons, lookup, ih]
    split
    · next h => simp [h]
    · next h => simp [Ne.symm h]

end OrderedMap

end TypeAncestry
