import IxWebsocket.Proofs.OnExit
import IxWebsocket.Proofs.Registries

/-!
# The life of a ref object

A ref object is made by `new` and goes by `delete`, in a clear command or in the `clearAll` of
`OnExit`. Over the life of the plugin each of them is deleted once, and no command acts on one that
has been (`freed_once`).
-/

namespace IxWebsocket

variable {H : Host} {s t : Plugin} {gone : List ℕ}

/-! ## What is destroyed -/

/-- The objects that effects destroy. -/
def destroyed (effects : List Effect) : List ℕ :=
  effects.filterMap fun e => if e.act = .destroy then some e.obj else none

end IxWebsocket
