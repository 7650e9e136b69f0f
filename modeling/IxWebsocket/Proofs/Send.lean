import IxWebsocket.Proofs.Moves

/-!
# Whom a server sends to

With a collection in `clients` the data goes to the connections registered under the numbers in
it, each cut to an integer (`mem_sendTo`). Any other value of `clients` reads as no collection at
all, and the data goes to every connection the server holds.
-/

namespace IxWebsocket

variable {H : Host}

theorem exists_real_mem_cons {v : PAVariable} {c : PACollection} {P : Double → Prop} :
    (∃ x, .real x ∈ v :: c ∧ P x) ↔ (∃ x, v = .real x ∧ P x) ∨ ∃ x, .real x ∈ c ∧ P x := by
  simp only [List.mem_cons, or_and_right, exists_or, eq_comm]

theorem mem_sendTo {ref : ServerRef} {data : Bytes} {outcome : ℕ → Conn → SendInfo} {p : Conn} :
    ∀ {c : PACollection} {n : ℕ}, p ∈ (ref.sendTo H data outcome c n).map (·.conn) ↔
      ∃ x, .real x ∈ c ∧ ref.getClient (H.toInt x) = some p
  | [], n => by simp [ServerRef.sendTo]
  | v :: c, n => by
    rw [exists_real_mem_cons]
    unfold ServerRef.sendTo
    split
    · rename_i x
      dsimp only
      split
      · rename_i client hclient
        rw [List.map_cons, List.mem_cons, mem_sendTo]
        simp [hclient, eq_comm]
      · rename_i hclient
        rw [mem_sendTo]
        simp [hclient]
    · rename_i hreal
      rw [mem_sendTo]
      refine (or_iff_right ?_).symm
      rintro ⟨x, hx, -⟩
      exact hreal x hx

theorem sendToAll_conns (ref : ServerRef) (data : Bytes) (outcome : ℕ → Conn → SendInfo) :
    ∀ (clients : List Conn) (n : ℕ),
      (ref.sendToAll data outcome clients n).map (·.conn) = clients
  | [], n => rfl
  | p :: clients, n => by
    rw [ServerRef.sendToAll, List.map_cons, sendToAll_conns ref data outcome clients]

/-- `p` is registered under an id that is an element of the collection in `clients`. -/
def Addressed (ref : ServerRef) (params : PAObject) (p : Conn) : Prop :=
  ∃ c, ∃ i : ℤ, params.get? "clients" = some (.collection c) ∧ .real (i : Double) ∈ c
    ∧ ref.getClient i = some p

/-- Where the value of `clients` names whom it reaches: in a collection, every number that is cut
to the id of a connection goes with an id of that connection; otherwise the server holds no
connection. -/
def NamesItsTargets (H : Host) (ref : ServerRef) : PAVariable → Prop
  | .collection c => ∀ x p, .real x ∈ c → ref.getClient (H.toInt x) = some p →
      ∃ i : ℤ, .real (i : Double) ∈ c ∧ ref.getClient i = some p
  | _ => ref.server.clients.toList = []

theorem obGetC_of_get? {params : PAObject} {key : String} {v : PAVariable}
    (h : params.get? key = some v) :
    obGetC (some params) key = match v with | .collection c => some c | _ => none := by
  unfold obGetC obGet
  simp only [Option.bind_some, h]
  cases v <;> rfl

/-- A send with a `clients` property goes to addressed connections only, exactly when the value of
that property names its targets. -/
theorem send_addressed_iff {ref : ServerRef} {params : PAObject} {v : PAVariable}
    (h : params.get? "clients" = some v) (data : Bytes) (outcome : ℕ → Conn → SendInfo) :
    (∀ t ∈ ref.send H (some params) data outcome, Addressed ref params t.conn) ↔
      NamesItsTargets H ref v := by
  have hmap : (∀ t ∈ ref.send H (some params) data outcome, Addressed ref params t.conn) ↔
      ∀ p ∈ (ref.send H (some params) data outcome).map (·.conn), Addressed ref params p := by
    simp only [List.mem_map, forall_exists_index, and_imp, forall_apply_eq_imp_iff₂]
  rw [hmap, ServerRef.send, obGetC_of_get? h]
  cases v with
  | collection c =>
    have haddr : ∀ p, Addressed ref params p ↔
        ∃ i : ℤ, .real (i : Double) ∈ c ∧ ref.getClient i = some p := by
      intro p
      simp [Addressed, h]
    simp only [mem_sendTo, haddr, NamesItsTargets]
    constructor
    · intro hall x p hx hp
      exact hall p ⟨x, hx, hp⟩
    · rintro hall p ⟨x, hx, hp⟩
      exact hall x p hx hp
  | _ =>
    have haddr : ∀ p, ¬ Addressed ref params p := by
      rintro p ⟨c, i, hc, -⟩
      simp [h] at hc
    simp only [sendToAll_conns, haddr, NamesItsTargets, imp_false]
    exact List.eq_nil_iff_forall_not_mem.symm

/-- A server with one connection, 7, that is open as number 1. -/
def oneConnection : Plugin :=
  ((Runs.exec (step .plain) {} [.server none, .hold (-1) (Std.TreeSet.ofList [7]),
    .serverEvent (-1) 7 { type := .open }]).getD {})

theorem oneConnection_reachable : Reachable .plain oneConnection :=
  Runs.reachable_of_exec [.server none, .hold (-1) (Std.TreeSet.ofList [7]),
    .serverEvent (-1) 7 { type := .open }] rfl

def oneConnectionRef : ServerRef := oneConnection.serverList[(-1 : ℤ)]?.getD ⟨0, ⟨0, [], 0, 0, ∅⟩,
  [], [], 0, 0, 0, ∅, ∅⟩

/-- Half a one is cut to 0, which is no number of a connection. -/
def oneAndAHalf : PAObject :=
  [("clients", .collection [.real (1 : ℤ), .real (.finite (1 / 2)), .null])]

theorem send_one_addressed :
    (oneConnectionRef.send .plain (some oneAndAHalf) (ascii "hi")
        fun _ _ => ⟨true, false, 2, 4⟩).map (·.conn) = [7]
      ∧ ∀ t ∈ oneConnectionRef.send .plain (some oneAndAHalf) (ascii "hi")
        (fun _ _ => ⟨true, false, 2, 4⟩), Addressed oneConnectionRef oneAndAHalf t.conn := by
  refine ⟨by decide +kernel, ?_⟩
  refine (send_addressed_iff (H := .plain) rfl _ _).2 fun x p _ hp => ⟨1, List.mem_cons_self, ?_⟩
  rcases Maps.getElem?_insertIfNew_some hp with ⟨-, -, rfl⟩ | hp
  · rfl
  · exact absurd hp (by simp [ServerRef.create, ServerRef.setParams])

/-- With null in `clients` the data goes to the connection, which nothing addresses. -/
theorem send_null_broadcasts :
    Reachable .plain oneConnection ∧ oneConnection.serverList[(-1 : ℤ)]? = some oneConnectionRef
      ∧ ¬ ∀ t ∈ oneConnectionRef.send .plain (some [("clients", .null)]) (ascii "hi")
          (fun _ _ => ⟨true, false, 2, 4⟩),
        Addressed oneConnectionRef [("clients", .null)] t.conn := by
  refine ⟨oneConnection_reachable, rfl, fun h => ?_⟩
  obtain ⟨c, -, hc, -⟩ := h _ List.mem_cons_self
  simp [PAObject.get?] at hc

end IxWebsocket
