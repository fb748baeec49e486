import TypeAncestry.Comparison
import TypeAncestry.Lineage.Walk
import TypeAncestry.Signature.Reading

/-!
# Checking a type against a signature

* `Failure` : what can go wrong for a user of the library.
* `Oracle.ancestry`, `Oracle.ancestryWith`, `Oracle.strictAncestry` : the lineage of a subject under
  the usual limits, without filters, with filters that may be missing, and with filters that may
  not be.
* `Oracle.check` : compare the lineage of a subject with a signature.
-/

namespace TypeAncestry

/-- What can go wrong for a user of the library. -/
inductive Failure where
  /-- Two trees do not agree. -/
  | mismatch (m : Mismatch)
  /-- An argument is missing. -/
  | missingArgument (name : String)
  /-- A text is no pattern for names. -/
  | invalidPattern (text : String)
  /-- A text is no signature. -/
  | invalidSignature (e : SignatureError)
  deriving DecidableEq, Repr

/-- A failure in words. -/
def Failure.message : Failure → String
  | mismatch m => m.message
  | missingArgument a => "required argument `" ++ a ++ "` was not provided"
  | invalidPattern t => "invalid name pattern `" ++ t ++ "`"
  | invalidSignature e => "invalid signature: " ++ e.message

namespace Oracle

variable {H : Type} [DecidableEq H] (o : Oracle H)

/-- The lineage of a subject under the usual limits. -/
def ancestry (s : Subject H) : Lineage H := o.lineage .none .hierarchy s

/-- The lineage of a subject with filters that may be missing. -/
def ancestryWith (filters : Option Filters) (s : Subject H) : Lineage H :=
  o.lineage (filters.getD .none) .hierarchy s

/-- The lineage of a subject with filters that may not be missing. -/
def strictAncestry (filters : Option Filters) (s : Subject H) : Except Failure (Lineage H) :=
  match filters with
  | some f => .ok (o.lineage f .hierarchy s)
  | none => .error (.missingArgument "filters")

end Oracle

/-- The result of checking a subject against a signature. -/
structure Checked (H : Type) where
  /-- The lineage of the subject, unless the signature was not one. -/
  lineage? : Option (Lineage H)
  /-- The comparison with the signature, if there was one. -/
  comparison? : Option Comparison
  /-- How well the lineage agrees with the signature, or what went wrong. -/
  outcome : Except Failure Compatibility

/-- Compare the lineage of a subject with a signature.  The signature is read first. -/
def Oracle.check {H : Type} [DecidableEq H] (o : Oracle H) (filters : Option Filters)
    (s : Subject H) (signature : String) : Checked H :=
  match TypeTree.ofSignature signature with
  | .error e => ⟨none, none, .error (.invalidSignature e)⟩
  | .ok expected =>
    let lineage := o.ancestryWith filters s
    let comparison := lineage.tree.compare expected
    ⟨some lineage, some comparison, comparison.outcome.mapError .mismatch⟩

end TypeAncestry
