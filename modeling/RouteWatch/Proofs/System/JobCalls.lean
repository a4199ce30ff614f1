import Mathlib
import RouteWatch.Proofs.System.CallTimes

-- The calls of one job.
namespace RouteWatch

open Schedule

namespace JobLife

variable {p d T : Nat} {L : JobLife}

end JobLife

namespace Setup

variable (setup : Setup) {steps : List Step}

end Setup

end RouteWatch
