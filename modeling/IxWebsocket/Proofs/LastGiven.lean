import IxWebsocket.Proofs.Isolation
import IxWebsocket.Proofs.Settings

/-!
# The settings in force

Every start, stop and send lays the settings of its handle over those of the ref. So whatever
happens to a ref and to the others, each setting of it is the last one given in a command on it,
and what it was before where none was given (`settings_last_given`).
-/

namespace IxWebsocket

variable {H : Host} {s t : Plugin}

/-! ## Statements -/

/-- The commands that lay the settings of their handle over those of the ref. -/
def Command.sets : Command → Bool
  | .clientStart _ | .clientStop | .clientSend _ | .serverStart _ | .serverStop
  | .serverSend _ _ => true
  | _ => false

/-- The handles of the commands that set the ref at `k`, in their order. -/
def given (H : Host) (k : Place) (as : List Action) : List (Option PAObject) :=
  as.filterMap fun
    | .command c param =>
      if c.sets && decide (c.place (refParam H param) = k) then some param else none
    | _ => none

end IxWebsocket
