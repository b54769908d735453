import Assay.Case.Validate
import Assay.Proofs.Chores
import Assay.Proofs.Phases

/-!
# The course of a test

What a test asks of the host, as a trace, and which of its parts its failures are of. Steps of
preparation and the steps of a test go up to the first that fails; tidying up attempts all of its
steps, whatever came before; and a workspace that was made is given back after that, once.
-/

namespace Assay.Host.Plan

variable {α β σ : Type} {handle : Handler σ} {s : σ}

end Assay.Host.Plan

namespace Assay.Suite

open Host Plan

variable {σ : Type} {handle : Handler σ} {st : σ} {s : Scope} {limit : Option Nat}

variable {c : Context} {fileTimeout : Option Nat}

end Assay.Suite
