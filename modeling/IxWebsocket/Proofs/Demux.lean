import IxWebsocket.Handlers
import IxWebsocket.Proofs.ConnectionMaps

/-!
# Telling the connections of a server apart

Read in the order of the list, the messages with one id should be an open message, messages of the
same connection, its close message, and so on again (`follows`). The id is taken and given back
before the message is appended, so an id can be handed out while the close message of its last
connection is still to come, and the two then change places. When no id is handed out so early,
the messages of every id can be followed (`released_separable`).
-/

namespace IxWebsocket

namespace Handlers

variable {s t : State} {a : Act} {p q : Conn} {j : ℤ}

/-! ## Following one id -/

/-- Who is open after one more message of an id; `none` when the message does not fit. -/
def follow (current : Option Conn) (e : Entry) : Option (Option Conn) :=
  match e.type, current with
  | .open, none => some (some e.conn)
  | .open, some _ => none
  | _, none => none
  | .close, some p => if e.conn = p then some none else none
  | _, some p => if e.conn = p then some (some p) else none

def follows (es : List Entry) : Option (Option Conn) := es.foldlM follow none

def State.ofId (s : State) (j : ℤ) : List Entry := s.messages.filter fun e => e.client = j

/-- The messages of every id from 1 on can be followed. -/
def Separable (s : State) : Prop := ∀ j, 1 ≤ j → (follows (s.ofId j)).isSome

/-- No id is handed out while the close message of its last connection is still to come. -/
def Released (s : State) (a : Act) : Prop :=
  ∀ p q, a = .look p .open → s.phase q ≠ .looked .close (Maps.leastFree s.ref.clients)

/-- The open message of `p` with id `j` has been appended, its close message has not. -/
def State.Current (s : State) (j : ℤ) (p : Conn) : Prop :=
  (s.ref.clients[j]? = some p ∧ s.phase p ≠ .looked .open j) ∨ s.phase p = .looked .close j

/-! ## The invariant -/

/-- What the maps hold for a connection in a phase. -/
def Phase.Holds (r : ServerRef) (p : Conn) : Phase → Prop
  | .before | .after => ∀ j : ℤ, r.clients[j]? ≠ some p
  | .looked .open j => r.clients[j]? = some p
  | .looked .close j => r.clients[j]? = none ∧ ∀ i : ℤ, r.clients[i]? ≠ some p
  | .looked _ j => (∃ i : ℤ, r.clients[i]? = some p) ∧ (1 ≤ j → r.clients[j]? = some p)
  | .idle => ∃ j : ℤ, r.clients[j]? = some p

structure Inv (s : State) : Prop where
  maps : s.ref.Inverse
  phase : ∀ p, (s.phase p).Holds s.ref p
  closing : ∀ {p q j}, s.phase p = .looked .close j → s.phase q = .looked .close j → p = q
  follows : ∀ j, 1 ≤ j → ∃ c, Handlers.follows (s.ofId j) = some c ∧ ∀ p, c = some p ↔ s.Current j p

theorem Inv.init (server : WebSocketServer) : Inv (init server) where
  maps := ⟨fun h => by simp [Handlers.init] at h, by simp [Handlers.init]⟩
  phase p j := by simp [Handlers.init]
  closing h := by simp [Handlers.init] at h
  follows j _ := ⟨none, rfl, fun p => by simp [State.Current, Handlers.init]⟩

theorem follows_concat (es : List Entry) (e : Entry) :
    follows (es ++ [e]) = (follows es).bind (follow · e) := by
  simp [follows, List.foldlM_append]

/-- The messages stay, and so does who is current. -/
theorem Inv.of_messages (hs : Inv s) (hmes : t.messages = s.messages) (hmaps : t.ref.Inverse)
    (hphase : ∀ p, (t.phase p).Holds t.ref p)
    (hclosing : ∀ {p q j}, t.phase p = .looked .close j → t.phase q = .looked .close j → p = q)
    (hcurrent : ∀ j, 1 ≤ j → ∀ p, t.Current j p ↔ s.Current j p) : Inv t where
  maps := hmaps
  phase := hphase
  closing := hclosing
  follows j hj := by
    obtain ⟨c, hc, hiff⟩ := hs.follows j hj
    refine ⟨c, by rw [State.ofId, hmes]; exact hc, fun p => ?_⟩
    rw [hiff, hcurrent j hj]

theorem Phase.Holds.congr {r r' : ServerRef} {ph : Phase} (h : ph.Holds r q)
    (hq : ∀ i : ℤ, r'.clients[i]? = some q ↔ r.clients[i]? = some q)
    (hclose : ∀ j, ph = .looked .close j → r'.clients[j]? = none) : ph.Holds r' q := by
  cases ph with
  | before => exact fun j hj => h j ((hq j).1 hj)
  | after => exact fun j hj => h j ((hq j).1 hj)
  | idle =>
    obtain ⟨j, hj⟩ := h
    exact ⟨j, (hq j).2 hj⟩
  | looked type j =>
    cases type with
    | «open» => exact (hq j).2 h
    | close => exact ⟨hclose j rfl, fun i hi => h.2 i ((hq i).1 hi)⟩
    | _ =>
      obtain ⟨⟨i, hi⟩, hj⟩ := h
      exact ⟨⟨i, (hq i).2 hi⟩, fun h1 => (hq j).2 (hj h1)⟩

/-- A connection whose phase becomes another than that of a close handler is none that closes. -/
theorem Inv.closing_update (hs : Inv s) {ph : Phase} (hph : ∀ j, ph ≠ .looked .close j)
    {q q' : Conn} (h : Function.update s.phase p ph q = .looked .close j)
    (h' : Function.update s.phase p ph q' = .looked .close j) : q = q' := by
  have hold : ∀ {q}, Function.update s.phase p ph q = .looked .close j →
      s.phase q = .looked .close j := by
    intro q h
    by_cases hq : q = p
    · subst hq
      rw [Function.update_self] at h
      exact absurd h (hph j)
    · rwa [Function.update_of_ne hq] at h
  exact hs.closing (hold h) (hold h')

theorem current_congr (hphase : t.phase q = s.phase q)
    (hq : ∀ i : ℤ, t.ref.clients[i]? = some q ↔ s.ref.clients[i]? = some q) (j : ℤ) :
    t.Current j q ↔ s.Current j q := by
  unfold State.Current
  rw [hphase, hq]

/-! ## The first step of a handler -/

theorem Inv.register (hs : Inv s) (hp : s.phase p = .before)
    (hfree : ∀ q, s.phase q ≠ .looked .close (Maps.leastFree s.ref.clients)) :
    Inv { s with
      ref := (s.ref.registerClient p).1
      phase := Function.update s.phase p (.looked .open (s.ref.registerClient p).2) } := by
  have hnot : ∀ i : ℤ, s.ref.clients[i]? ≠ some p := by
    have := hs.phase p
    rwa [hp] at this
  have hnone : s.ref.clients[(s.ref.registerClient p).2]? = none :=
    Std.TreeMap.getElem?_eq_none (Maps.leastFree_notMem _)
  have hother : ∀ q, q ≠ p → ∀ i : ℤ, (s.ref.registerClient p).1.clients[i]? = some q ↔
      s.ref.clients[i]? = some q := by
    intro q hq i
    rw [ServerRef.registerClient_clients]
    split_ifs with hi
    · subst hi
      rw [hnone]
      simp [Ne.symm hq]
    · exact Iff.rfl
  refine hs.of_messages rfl (hs.maps.register hnot) (fun q => ?_)
    (hs.closing_update (by simp)) fun j hj q => ?_
  · by_cases hq : q = p
    · subst hq
      simp [Phase.Holds, ServerRef.registerClient_clients]
    · simp only [Function.update_of_ne hq]
      refine (hs.phase q).congr (hother q hq) fun j hclose => ?_
      have hne : j ≠ (s.ref.registerClient p).2 := by
        rintro rfl
        exact hfree q hclose
      have hold := hs.phase q
      rw [hclose] at hold
      rw [ServerRef.registerClient_clients, if_neg hne]
      exact hold.1
  · by_cases hq : q = p
    · -- neither before nor after is the open message of `p` there
      subst hq
      constructor
      · rintro (⟨hc, hph⟩ | hph)
        · rw [ServerRef.registerClient_clients] at hc
          split_ifs at hc with hi
          · simp [hi] at hph
          · exact absurd hc (hnot j)
        · simp at hph
      · rintro (⟨hc, -⟩ | hph)
        · exact absurd hc (hnot j)
        · simp [hp] at hph
    · exact current_congr (by simp [Function.update_of_ne hq]) (hother q hq) j

theorem Inv.unregister (hs : Inv s) (hp : s.phase p = .idle) :
    Inv { s with
      ref := (s.ref.unregisterClient p).1
      phase := Function.update s.phase p (.looked .close (s.ref.unregisterClient p).2) } := by
  obtain ⟨i₀, hi₀⟩ : ∃ i : ℤ, s.ref.clients[i]? = some p := by
    have := hs.phase p
    rwa [hp] at this
  have hclients := fun j => (ServerRef.unregisterClient_clients (hs.maps.iff.2 hi₀) j).2
  have hid := (ServerRef.unregisterClient_clients (hs.maps.iff.2 hi₀) i₀).1
  have hother : ∀ q, q ≠ p → ∀ i : ℤ, (s.ref.unregisterClient p).1.clients[i]? = some q ↔
      s.ref.clients[i]? = some q := by
    intro q hq i
    rw [hclients]
    split_ifs with hi
    · subst hi
      rw [hi₀]
      simp [Ne.symm hq]
    · exact Iff.rfl
  have hgone : ∀ i : ℤ, (s.ref.unregisterClient p).1.clients[i]? ≠ some p := by
    intro i hi
    rw [hclients] at hi
    split_ifs at hi with hne
    exact hne (hs.maps.inj hi hi₀)
  rw [hid]
  have hopen : ∀ {q j}, q ≠ p → s.phase q = .looked .close j → j ≠ i₀ := by
    rintro q j - hq rfl
    have := hs.phase q
    rw [hq] at this
    rw [this.1] at hi₀
    cases hi₀
  refine hs.of_messages rfl (hs.maps.unregister p) (fun q => ?_) (fun {q q' j} h h' => ?_)
    fun j hj q => ?_
  · by_cases hq : q = p
    · subst hq
      simp only [Function.update_self]
      exact ⟨by rw [hclients, if_pos rfl], hgone⟩
    · simp only [Function.update_of_ne hq]
      refine (hs.phase q).congr (hother q hq) fun j hclose => ?_
      have hold := hs.phase q
      rw [hclose] at hold
      rw [hclients, if_neg (hopen hq hclose)]
      exact hold.1
  · by_cases hq : q = p <;> by_cases hq' : q' = p
    · rw [hq, hq']
    · subst hq
      simp only [Function.update_self, Phase.looked.injEq, true_and] at h
      simp only [Function.update_of_ne hq'] at h'
      exact absurd h.symm (hopen hq' h')
    · subst hq'
      simp only [Function.update_self, Phase.looked.injEq, true_and] at h'
      simp only [Function.update_of_ne hq] at h
      exact absurd h'.symm (hopen hq h)
    · simp only [Function.update_of_ne hq] at h
      simp only [Function.update_of_ne hq'] at h'
      exact hs.closing h h'
  · by_cases hq : q = p
    · -- `p` is current under the id it gives back, and stays so until its close message
      subst hq
      have hcur : s.Current j q ↔ j = i₀ := by
        constructor
        · rintro (⟨hc, -⟩ | hph)
          · exact hs.maps.inj hc hi₀
          · simp [hp] at hph
        · rintro rfl
          exact .inl ⟨hi₀, by simp [hp]⟩
      rw [hcur]
      constructor
      · rintro (⟨hc, -⟩ | hph)
        · exact absurd hc (hgone j)
        · simp only [Function.update_self, Phase.looked.injEq, true_and] at hph
          exact hph.symm
      · rintro rfl
        exact .inr (by simp)
    · exact current_congr (by simp [Function.update_of_ne hq]) (hother q hq) j

theorem Inv.find (hs : Inv s) (hp : s.phase p = .idle) {type : MessageType}
    (hopen : type ≠ .open) (hclose : type ≠ .close) :
    Inv { s with phase := Function.update s.phase p (.looked type (s.ref.findClient p)) } := by
  have hreg : ∃ i : ℤ, s.ref.clients[i]? = some p := by
    have := hs.phase p
    rwa [hp] at this
  refine hs.of_messages rfl hs.maps (fun q => ?_) (hs.closing_update (by simp [hclose]))
    fun j hj q => ?_
  · by_cases hq : q = p
    · subst hq
      simp only [Function.update_self]
      cases type with
      | «open» => exact absurd rfl hopen
      | close => exact absurd rfl hclose
      | _ => exact ⟨hreg, hs.maps.linked.findClient⟩
    · simp only [Function.update_of_ne hq]
      exact hs.phase q
  · by_cases hq : q = p
    · subst hq
      simp [State.Current, hp, hopen, hclose]
    · refine current_congr (Function.update_of_ne hq _ _) (fun i => ?_) j
      rfl

/-! ## The second step of a handler -/

/-- Whoever is registered under an id, nobody's close message is to come with it. -/
theorem Inv.not_closing (hs : Inv s) (hj : s.ref.clients[j]? = some p) (q : Conn) :
    s.phase q ≠ .looked .close j := by
  intro hq
  have hold := hs.phase q
  rw [hq] at hold
  rw [hold.1] at hj
  cases hj

/-- One more message of `p` with its id, and who is current after it. -/
theorem Inv.follow_append (hs : Inv s) {type : MessageType} (hp : s.phase p = .looked type j)
    (hj : 1 ≤ j) {c : Option Conn} (hc : ∀ q, c = some q ↔ s.Current j q) :
    ∃ c', follow c ⟨j, p, type⟩ = some c' ∧ ∀ q, c' = some q ↔
      State.Current { s with
        phase := Function.update s.phase p (if type = .close then .after else .idle) } j q := by
  have hold := hs.phase p
  rw [hp] at hold
  have hupdate : ∀ {q} {ph : Phase}, q ≠ p → Function.update s.phase p ph q = s.phase q :=
    fun hq => Function.update_of_ne hq _ _
  cases type with
  | «open» =>
    have hnone : c = none := by
      rcases c with _ | q
      · rfl
      · rcases (hc q).1 rfl with ⟨hq, hph⟩ | hph
        · obtain rfl := Option.some.inj (hold.symm.trans hq)
          exact absurd hp hph
        · exact absurd hph (hs.not_closing hold q)
    refine ⟨some p, by rw [hnone]; rfl, fun q => ?_⟩
    constructor
    · rintro ⟨⟩
      exact .inl ⟨hold, by simp⟩
    · rintro (⟨hq, -⟩ | hph)
      · exact hold.symm.trans hq
      · by_cases hq : q = p
        · rw [hq]
        · simp only [hupdate hq] at hph
          exact absurd hph (hs.not_closing hold q)
  | close =>
    have hsome : c = some p := (hc p).2 (.inr hp)
    refine ⟨none, by simp [hsome, follow], fun q => ?_⟩
    constructor
    · rintro ⟨⟩
    · rintro (⟨hq, -⟩ | hph)
      · rw [hold.1] at hq
        cases hq
      · by_cases hq : q = p
        · subst hq
          simp at hph
        · simp only [hupdate hq] at hph
          exact absurd (hs.closing hph hp) hq
  | _ =>
    have hreg := hold.2 hj
    have hsome : c = some p := (hc p).2 (.inl ⟨hreg, by simp [hp]⟩)
    refine ⟨some p, by simp [hsome, follow], fun q => ?_⟩
    constructor
    · rintro ⟨⟩
      exact .inl ⟨hreg, by simp⟩
    · rintro (⟨hq, -⟩ | hph)
      · exact hreg.symm.trans hq
      · by_cases hq : q = p
        · rw [hq]
        · simp only [hupdate hq] at hph
          exact absurd hph (hs.not_closing hreg q)

theorem Inv.append (hs : Inv s) {type : MessageType} {j₀ : ℤ} (hp : s.phase p = .looked type j₀) :
    Inv { s with
      phase := Function.update s.phase p (if type = .close then .after else .idle)
      messages := s.messages ++ [⟨j₀, p, type⟩] } where
  maps := hs.maps
  phase q := by
    by_cases hq : q = p
    · subst hq
      have hold := hs.phase q
      rw [hp] at hold
      simp only [Function.update_self]
      cases type with
      | «open» => exact ⟨j₀, hold⟩
      | close => exact hold.2
      | _ => exact hold.1
    · simp only [Function.update_of_ne hq]
      exact hs.phase q
  closing := hs.closing_update fun j => by split_ifs <;> simp
  follows j hj := by
    obtain ⟨c, hc, hiff⟩ := hs.follows j hj
    by_cases hjj : j₀ = j
    · subst hjj
      obtain ⟨c', hc', hiff'⟩ := hs.follow_append hp hj hiff
      refine ⟨c', ?_, hiff'⟩
      have hcons : State.ofId { s with
          phase := Function.update s.phase p (if type = .close then .after else .idle)
          messages := s.messages ++ [⟨j₀, p, type⟩] } j₀ = s.ofId j₀ ++ [⟨j₀, p, type⟩] := by
        simp [State.ofId]
      rw [hcons, follows_concat, hc]
      exact hc'
    · -- the message has another id, and `p` is current under `j` as before
      refine ⟨c, ?_, fun q => (hiff q).trans ?_⟩
      · have hsame : State.ofId { s with
            phase := Function.update s.phase p (if type = .close then .after else .idle)
            messages := s.messages ++ [⟨j₀, p, type⟩] } j = s.ofId j := by
          simp [State.ofId, hjj]
        rw [hsame, hc]
      · by_cases hq : q = p
        · subst hq
          simp only [State.Current, hp, Function.update_self]
          split_ifs <;> simp [hjj]
        · refine (current_congr (Function.update_of_ne hq _ _) (fun i => ?_) j).symm
          rfl

/-! ## Runs -/

theorem Phase.takes_open {ph : Phase} (h : ph.takes .open = true) : ph = .before := by
  cases ph <;> simp_all [Phase.takes]

theorem Phase.takes_other {ph : Phase} {type : MessageType} (h : ph.takes type = true)
    (htype : type ≠ .open) : ph = .idle := by
  cases ph <;> cases type <;> simp_all [Phase.takes]

theorem Inv.step (hs : Inv s) (hok : Released s a) (h : step s a = some t) : Inv t := by
  cases a with
  | look p type =>
    simp only [Handlers.step] at h
    split_ifs at h with htakes
    simp only [Option.some.injEq] at h
    subst h
    by_cases hopen : type = .open
    · subst hopen
      exact hs.register (Phase.takes_open htakes) fun q => hok p q rfl
    · have hidle := Phase.takes_other htakes hopen
      by_cases hclose : type = .close
      · subst hclose
        exact hs.unregister hidle
      · have hfind : lookOf type s.ref p = (s.ref, s.ref.findClient p) := by
          cases type <;> first | rfl | exact absurd rfl hopen | exact absurd rfl hclose
        rw [hfind]
        exact hs.find hidle hopen hclose
  | append p =>
    simp only [Handlers.step] at h
    split at h
    · rename_i type j hp
      simp only [Option.some.injEq] at h
      subst h
      exact hs.append hp
    · cases h
  | hold conns =>
    simp only [Handlers.step, Option.some.injEq] at h
    subst h
    refine hs.of_messages rfl ⟨hs.maps.pos, hs.maps.iff⟩ (fun p => ?_) hs.closing
      fun _ _ _ => Iff.rfl
    exact (hs.phase p).congr (fun _ => Iff.rfl) fun j hclose => by
      have := hs.phase p
      rw [hclose] at this
      exact this.1

/-- In every run in which no id is handed out while the close message of its last connection is
still to come, the messages of every id can be followed. -/
theorem released_separable {server : WebSocketServer} {as : List Act}
    (h : Runs.Steps step Released (init server) as s) : Separable s := by
  have hs : Inv s := h.invariant (fun _ _ _ hok hstep hs => hs.step hok hstep) (.init server)
  intro j hj
  obtain ⟨c, hc, -⟩ := hs.follows j hj
  rw [hc]
  rfl

def server : WebSocketServer := Host.plain.serverDefaults

def openAndClose : List Act := [.look 7 .open, .append 7, .look 7 .close, .append 7]

theorem openAndClose_separable : ∃ s, Runs.Run step (init server) openAndClose s
    ∧ s.messages.length = 2 ∧ Separable s := by
  have hrun : Runs.Steps step Released (init server) openAndClose _ :=
    .cons (fun _ _ _ => nofun) rfl <| .cons (fun _ _ => nofun) rfl <|
      .cons (fun _ _ => nofun) rfl <| .cons (fun _ _ => nofun) rfl <| .nil _
  exact ⟨_, hrun.run, rfl, released_separable hrun⟩

/-- Connection 7 gives its id back, 8 takes it, and 8 is the first of the two to append. -/
def overtaken : State :=
  (Runs.exec step (init server) [.look 7 .open, .append 7, .look 7 .close, .look 8 .open,
    .append 8, .append 7]).getD (init server)

/-- Between the open message of 8 and the next close message with its id, which is of 7. -/
theorem overtaken_not_separable :
    Runs.Reachable step (init server) overtaken
      ∧ overtaken.ofId 1 = [⟨1, 7, .open⟩, ⟨1, 8, .open⟩, ⟨1, 7, .close⟩]
      ∧ ¬ Separable overtaken := by
  have hmessages : overtaken.ofId 1 = [⟨1, 7, .open⟩, ⟨1, 8, .open⟩, ⟨1, 7, .close⟩] := by
    decide +kernel
  refine ⟨Runs.reachable_of_exec [.look 7 .open, .append 7, .look 7 .close, .look 8 .open,
    .append 8, .append 7] rfl, hmessages, fun h => ?_⟩
  have h1 := h 1 le_rfl
  rw [hmessages] at h1
  simp [follows, follow] at h1

end Handlers

end IxWebsocket
