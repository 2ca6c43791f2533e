/-
The layers of a configuration, as a look-up sees them. Files are loaded in the order of their
priorities, so the sources of a later profile stand before all earlier ones, as long as the priorities
do not overflow; only the variables are put in between, at a place that a fixed number of profiles
reach up to.
-/
import Mathlib.Algebra.Group.Nat.Defs
import Startup.Application.Layers
import Startup.Proofs.Path
import Startup.Proofs.Ranking

namespace Startup

variable {σ : Type}

/-! ## Sources by priority -/

namespace Environment

end Environment

/-! ## Values in files -/

namespace Disk

variable (disk : Disk)

/-- The document that a file holds. -/
def document? (file : String) : Option (List (String × Toml.Value)) :=
  (disk.read file).toOption.bind Toml.parse?

/-- The sources of the files that are there, in order. -/
def sources (files : List (String × Int)) : List Source :=
  files.filterMap fun (file, priority) => (disk.document? file).map (Source.ofTable file priority)

variable {disk}

end Disk

namespace Layers

/-! ## Loading -/

end Layers

end Startup
