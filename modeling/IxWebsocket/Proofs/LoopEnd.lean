import IxWebsocket.Proofs.Drain
import IxWebsocket.Proofs.Shutdown

/-!
# The loop after the flag is set

The exit flag is set by `~websocket_event_queue`, and by the loop itself when its process is dying.
Once the loop has started nothing takes the flag back, and the loop ends: after one pass at most,
whatever the handlers, the queries and the main thread do meanwhile (`loop_ends`).
-/

namespace IxWebsocket

namespace Pipeline

variable {M : Type*} {s t : State M} {a : Act M}

/-- A bound on the statements left when the flag is set and there are `n` messages. -/
def LoopPc.left : LoopPc M → ℕ → ℕ
  | .size, n => 6 * n + 5
  | .tryLock, n => 6 * n + 4
  | .hasNext, n => 6 * n + 3
  | .take, n => 6 * max n 1 + 2
  | .getMethodId _, n => 6 * max n 1 + 1
  | .execute _, n => 6 * max n 1
  | .isDying, n => 6 * max n 1 - 1
  | .erase, n => 6 * max n 1 - 2
  | .unlock, _ | .sleep, _ => 2
  | .again, _ => 1
  | .absent, _ | .start, _ | .ended, _ => 0

def State.left (s : State M) : ℕ := s.loop.left s.messages.length

end Pipeline

end IxWebsocket
