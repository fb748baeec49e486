import TypeAncestry.Proofs.Guard.Calls
import TypeAncestry.Proofs.Lineage.Following

/-!
# How a walk calls its guard

A walk enters the types that it tries to expand.  If one is refused, that is all; if it is entered,
the walk deals with what comes below it and leaves it again.

* `Course.calls` : the calls of the guard in the course of a walk.
* `Oracle.Runs.performs` : they do not misuse the guard.
* `Oracle.IsCourse.performs`, `Oracle.restored_lineage` : the same for the lineage of a subject, at
  the end of which nothing is open.
-/

namespace TypeAncestry

namespace Course

variable {H : Type} [DecidableEq H]

mutual

/-- The calls of the guard, in order. -/
def calls : Course H → List (Guard.Call (Target H))
  | leaf _ => []
  | attempt a xs =>
    match a.answer with
    | .entered => .enter a.target :: (callsAll xs ++ [.leave a.target])
    | _ => [.enter a.target]

/-- The calls of the guard in a list of courses. -/
def callsAll : List (Course H) → List (Guard.Call (Target H))
  | [] => []
  | x :: xs => x.calls ++ callsAll xs

end

variable (a : Attempt H) (xs : List (Course H))

theorem calls_of_entered (h : a.answer = .entered) :
    (attempt a xs).calls = [.enter a.target] ++ (callsAll xs ++ [.leave a.target]) := by
  simp only [calls, h, List.singleton_append]

theorem calls_of_refused (h : a.answer ≠ .entered) :
    (attempt a xs).calls = [.enter a.target] := by
  unfold calls
  split
  · next hentered => exact absurd hentered h
  · rfl

end Course

namespace Oracle

variable {H : Type} [DecidableEq H] {o : Oracle H} {f : Filters}

mutual

/-- **A walk does not misuse its guard:** it leaves exactly what it has entered. -/
theorem Runs.performs {t : Target H} {g g' : Guard (Target H)} {x : Course H} :
    o.Runs f t g x g' → g.Performs x.calls g'
  | .refused he => by
    rw [Course.calls_of_refused ⟨t, g, _⟩ [] he]
    exact .enter g t
  | .entered he hr hl => by
    rw [Course.calls_of_entered ⟨t, g, g'⟩ _ he]
    exact (Guard.Performs.enter g t).append (hr.performs.append (.leave hl))

theorem RunsAll.performs {cs : List (Candidate H)} {g g' : Guard (Target H)}
    {xs : List (Course H)} : o.RunsAll f cs g xs g' → g.Performs (Course.callsAll xs) g'
  | .nil => .nil g
  | .excluded _ hr => hr.performs
  | .leaf _ _ hr => hr.performs
  | .target _ _ hu hr => hu.performs.append hr.performs

end

variable {limits : Limits} {s : Subject H} {x : Course H}

theorem IsCourse.performs (hx : o.IsCourse f limits s x) :
    (Guard.new limits).Performs x.calls (o.lineage f limits s).guard := by
  obtain ⟨h, -, hruns⟩ | ⟨n, rfl, hg⟩ := hx.takes.cases
  · exact hruns.performs
  · rw [hg]
    exact .nil _

theorem restored_lineage (o : Oracle H) (f : Filters) (limits : Limits) (s : Subject H) :
    (Guard.new limits).Restored (o.lineage f limits s).guard := by
  obtain ⟨x, hx⟩ := o.exists_isCourse f limits s
  obtain ⟨h, -, hruns⟩ | ⟨n, rfl, hg⟩ := hx.takes.cases
  · exact hruns.restored
  · rw [hg]
    exact .refl _

end Oracle

end TypeAncestry
