import TypeAncestry.Text.Classes
import TypeAncestry.Text.Utf8
import TypeAncestry.Primitive
import TypeAncestry.Guard
import TypeAncestry.Levels
import TypeAncestry.Tree
import TypeAncestry.Comparison
import TypeAncestry.Signature.Reading
import TypeAncestry.Json.Tree
import TypeAncestry.Pattern.Reading
import TypeAncestry.Pattern.Property
import TypeAncestry.Pattern.Assembly
import TypeAncestry.Pattern.Meaning
import TypeAncestry.Pattern.Matching
import TypeAncestry.Pattern.Library
import TypeAncestry.Filters
import TypeAncestry.Lineage.Walk
import TypeAncestry.Registry.Core
import TypeAncestry.NameCache
import TypeAncestry.Check
import TypeAncestry.LogFormat
import TypeAncestry.Proofs.Lineage.Budget
import TypeAncestry.Proofs.Lineage.Pruning
import TypeAncestry.Proofs.Lineage.Transparency
import TypeAncestry.Proofs.Lineage.Keeping
import TypeAncestry.Proofs.Lineage.Cutting
import TypeAncestry.Proofs.Lineage.Course
import TypeAncestry.Proofs.Lineage.Following
import TypeAncestry.Proofs.Lineage.Size
import TypeAncestry.Proofs.Lineage.Cycles
import TypeAncestry.Proofs.Lineage.Renaming
import TypeAncestry.Proofs.Lineage.Learning
import TypeAncestry.Proofs.Registry.References
import TypeAncestry.Proofs.Registry.Changes
import TypeAncestry.Proofs.Registry.Orders
import TypeAncestry.Proofs.Registry.Growing
import TypeAncestry.Proofs.Registry.Rounds
import TypeAncestry.Proofs.Registry.Wildcards
import TypeAncestry.Proofs.Signature.Acceptance
import TypeAncestry.Proofs.Signature.Names
import TypeAncestry.Proofs.Signature.RoundTrip
import TypeAncestry.Proofs.Signature.Nesting
import TypeAncestry.Proofs.Signature.Continuation
import TypeAncestry.Proofs.Tree.Positions
import TypeAncestry.Proofs.Comparison.Outcome
import TypeAncestry.Proofs.Comparison.FirstFault
import TypeAncestry.Proofs.Comparison.Symmetry
import TypeAncestry.Proofs.Comparison.Exactness
import TypeAncestry.Proofs.Comparison.CommonShape
import TypeAncestry.Proofs.Comparison.Generalising
import TypeAncestry.Proofs.Check.OwnSignature
import TypeAncestry.Proofs.Cache.Walking
import TypeAncestry.Proofs.Cache.Transparency
import TypeAncestry.Proofs.Registry.Coherence
import TypeAncestry.Proofs.Cache.Staleness
import TypeAncestry.Proofs.Check.Guarding
import TypeAncestry.Proofs.Pattern.Letters
import TypeAncestry.Proofs.Pattern.Manual
import TypeAncestry.Proofs.Pattern.Matching
import TypeAncestry.Proofs.Pattern.WholeNames
import TypeAncestry.Proofs.Guard.History
import TypeAncestry.Proofs.Tree.Rendering
import TypeAncestry.Proofs.Lineage.Exhaustion
import TypeAncestry.Proofs.Lineage.Account
import TypeAncestry.Proofs.Lineage.Stems
import TypeAncestry.Proofs.Registry.Naming
import TypeAncestry.Proofs.Json.Reading
import TypeAncestry.Proofs.Json.Trees
import TypeAncestry.Proofs.Registry.Handles
import TypeAncestry.Proofs.Tree.Searching
