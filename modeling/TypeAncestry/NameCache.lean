import TypeAncestry.Lineage.Walk
import TypeAncestry.OrderedMap

/-!
# A cache for names

A cache remembers which types an oracle has found for which names, also that it has found none.

* `NameCache` : the state of a cache.
* `NameCache.hits`, `NameCache.misses` : what its two counters show.  They are words of 64 bits, so
  they begin again from zero after `2 ^ 64` questions.
* `NameCache.ask` : ask for a name through a cache.
* `NameCache.front` : an oracle seen through a cache.
* `NameCache.follow` : take in what happened while a lineage was built through the cache.

An oracle does not change while a lineage is built, so the answers that the walk gets through the
cache are those of `front` throughout, and the cache only has to be told afterwards, in order, which
names were asked for.
-/

namespace TypeAncestry

/-- The state of a cache for an oracle with handles in `H`. -/
structure NameCache (H : Type) where
  /-- The answers that are remembered. -/
  answers : OrderedMap String (Option H)
  /-- How many questions had an answer that was remembered, counted with 64 bits. -/
  hitCount : UInt64
  /-- How many had not. -/
  missCount : UInt64
  deriving Repr

namespace NameCache

variable {H : Type}

/-- A cache that has not been asked. -/
def new : NameCache H := ⟨.empty, 0, 0⟩

/-- Forget all answers. -/
def clear (c : NameCache H) : NameCache H := { c with answers := .empty }

/-- What the counter of remembered answers shows. -/
def hits (c : NameCache H) : Nat := c.hitCount.toNat

/-- What the counter of missed answers shows. -/
def misses (c : NameCache H) : Nat := c.missCount.toNat

/-- The number of answers that are remembered. -/
def size (c : NameCache H) : Nat := c.answers.size

/-- The log record of asking the oracle itself for a name. -/
def missed (name : String) (found : Bool) : LogRecord :=
  ⟨.trace, "cache", "resolve_name cache miss", [("found", LogRecord.flag found), ("name", name)]⟩

/-- The answer that the cache gives, without a change of its state; `resolve` answers for the
oracle. -/
def answer (c : NameCache H) (resolve : String → Option H) (name : String) : Option H :=
  (c.answers.get? name).getD (resolve name)

/-- Ask for a name.  If the answer is not remembered, the oracle is asked. -/
def ask (c : NameCache H) (resolve : String → Option H) (name : String) :
    Option H × NameCache H × List LogRecord :=
  match c.answers.get? name with
  | some h => (h, { c with hitCount := c.hitCount + 1 }, [])
  | none =>
    let h := resolve name
    (h, { c with answers := c.answers.insert name h, missCount := c.missCount + 1 },
      [missed name h.isSome])

/-- An oracle seen through a cache. -/
def front (c : NameCache H) (o : Oracle H) : Oracle H := { o with resolve := c.answer o.resolve }

/-- The cache after the events of a lineage that was built through it, and the log of both. -/
def follow (c : NameCache H) (resolve : String → Option H) :
    List LineageEvent → NameCache H × List LogRecord
  | [] => (c, [])
  | .asked name :: events =>
    let (_, c, records) := c.ask resolve name
    let (c, rest) := follow c resolve events
    (c, records ++ rest)
  | e :: events =>
    let (c, rest) := follow c resolve events
    (c, e.record?.toList ++ rest)

/-- What `ask` answers is what `answer` says. -/
theorem ask_fst (c : NameCache H) (resolve : String → Option H) (name : String) :
    (c.ask resolve name).1 = c.answer resolve name := by
  unfold ask answer
  cases c.answers.get? name <;> rfl

end NameCache

end TypeAncestry
