import IxWebsocket.Proofs.Settings

/-!
# Parameters of another kind

`setParams` asks whether a key is there, and the reader it then calls whether the value is of the
kind it reads. A text of another kind is left alone by the reader, but for the url, where the reader
starts from an empty text. A number or a boolean of another kind is read as 0 or false, and that is
set. So a parameter of another kind is as good as absent only where it finds its setting at that
(`setParams_typed_iff`).
-/

namespace IxWebsocket

variable (H : Host)

/-- `key` is there with a value of another kind. -/
def Mistyped (params : Option PAObject) (key : String) (kind : Kind) : Prop :=
  ∃ v, obGet params key = some v ∧ ¬ v.HasKind kind

/-! ## What the values of the expected kinds say -/

def numberIn (params : Option PAObject) (key : String) : Option ℤ :=
  match obGet params key with
  | some (.real x) => some (H.toInt x)
  | _ => none

def flagIn (params : Option PAObject) (key : String) : Option Bool :=
  match obGet params key with
  | some (.boolean b) => some b
  | _ => none

def urlTextIn (params : Option PAObject) : Option Bytes :=
  match obGet params "url" with
  | some (.unistring s) => some ((H.toUtf8 s).getD [])
  | _ => none

def typedDeflateIn (params : Option PAObject) : Option DeflateOptions :=
  match obGet params "perMessageDeflate" with
  | some (.object o) => some (optionsIn H o)
  | _ => (flagIn params "disablePerMessageDeflate").map (disabledIn H)

/-- What `params` say when a value of another kind counts as absent. -/
def RoutingSettings.typed (params : Option PAObject) : RoutingSettings where
  method := textIn params "method"
  worker := textIn params "worker"
  window := numberIn H params "window"
  process := numberIn H params "process"

def ClientSettings.typed (params : Option PAObject) : ClientSettings where
  toRoutingSettings := .typed H params
  url := urlTextIn H params
  automaticReconnection := flagIn params "enableAutomaticReconnection"
  pong := flagIn params "enablePong"
  deflate := typedDeflateIn H params

/-! ## Where a parameter of another kind does no harm -/

/-- Each parameter of another kind finds its setting at what it sets. -/
structure ServerRef.AlreadyReset (ref : ServerRef) (params : Option PAObject) : Prop where
  window : Mistyped params "window" .number → ref.window = 0
  process : Mistyped params "process" .number → ref.process = 0

structure ClientRef.AlreadyReset (ref : ClientRef) (params : Option PAObject) : Prop where
  window : Mistyped params "window" .number → ref.window = 0
  process : Mistyped params "process" .number → ref.process = 0
  url : Mistyped params "url" .text → ref.client.url = []
  automaticReconnection : Mistyped params "enableAutomaticReconnection" .boolean →
    ref.client.automaticReconnection = false
  pong : Mistyped params "enablePong" .boolean → ref.client.pong = false
  /-- `disablePerMessageDeflate` is not looked at then. -/
  perMessageDeflate : Mistyped params "perMessageDeflate" .object →
    ∀ b, obGet params "disablePerMessageDeflate" = some (.boolean b) →
      ref.client.perMessageDeflateOptions = disabledIn H b
  disablePerMessageDeflate : obGet params "perMessageDeflate" = none →
    Mistyped params "disablePerMessageDeflate" .boolean →
      ref.client.perMessageDeflateOptions = H.deflateDefaults

variable {H} {params : Option PAObject} {key : String}

/-! ## One setting -/

theorem number_iff (old : ℤ) :
    (intIn H params key).getD old = (numberIn H params key).getD old
      ↔ (Mistyped params key .number → old = 0) := by
  have hzero : H.toInt (.finite 0) = 0 := by simp [Host.toInt]
  unfold intIn numberIn Mistyped obGetN
  rcases obGet params key with _ | v
  · simp
  · cases v <;> simp [PAVariable.HasKind, eq_comm, hzero]

theorem flag_iff (old : Bool) :
    (boolIn params key).getD old = (flagIn params key).getD old
      ↔ (Mistyped params key .boolean → old = false) := by
  unfold boolIn flagIn Mistyped obGetB
  rcases obGet params key with _ | v
  · simp
  · cases v <;> simp [PAVariable.HasKind, eq_comm]

theorem url_iff (old : Bytes) :
    (urlIn H params).getD old = (urlTextIn H params).getD old
      ↔ (Mistyped params "url" .text → old = []) := by
  unfold urlIn urlTextIn Mistyped obGetS
  rcases obGet params "url" with _ | v
  · simp
  · cases v <;> simp [PAVariable.HasKind, eq_comm]

theorem deflate_iff (old : DeflateOptions) :
    (deflateIn H params).getD old = (typedDeflateIn H params).getD old
      ↔ (Mistyped params "perMessageDeflate" .object →
          ∀ b, obGet params "disablePerMessageDeflate" = some (.boolean b) → old = disabledIn H b)
        ∧ (obGet params "perMessageDeflate" = none →
          Mistyped params "disablePerMessageDeflate" .boolean → old = H.deflateDefaults) := by
  rcases hv : obGet params "perMessageDeflate" with _ | v
  · -- only `disablePerMessageDeflate` is left to say something
    unfold deflateIn typedDeflateIn boolIn flagIn Mistyped obGetB
    rw [hv]
    rcases obGet params "disablePerMessageDeflate" with _ | w
    · simp
    · cases w <;> simp [PAVariable.HasKind, disabledIn, eq_comm]
  · by_cases hkind : v.HasKind .object
    · obtain ⟨o, rfl⟩ : ∃ o, v = .object o := by
        cases v <;> simp_all [PAVariable.HasKind]
      simp [deflateIn, typedDeflateIn, Mistyped, hv, PAVariable.HasKind]
    · have hread : deflateIn H params = none := by
        unfold deflateIn
        rw [hv]
        cases v <;> first | rfl | exact absurd trivial hkind
      have htyped : typedDeflateIn H params
          = (flagIn params "disablePerMessageDeflate").map (disabledIn H) := by
        unfold typedDeflateIn
        rw [hv]
        cases v <;> first | rfl | exact absurd trivial hkind
      rw [hread, htyped]
      unfold flagIn Mistyped
      rcases obGet params "disablePerMessageDeflate" with _ | w
      · simp [hv]
      · cases w <;> simp [hv, hkind]

/-! ## All of them -/

theorem ServerRef.typed_iff (ref : ServerRef) :
    ref.setParams H params = ref.put (.typed H params) ↔ ref.AlreadyReset params := by
  rw [ServerRef.setParams_eq]
  constructor
  · intro h
    exact ⟨(number_iff _).1 (congrArg ServerRef.window h),
      (number_iff _).1 (congrArg ServerRef.process h)⟩
  · intro h
    have hwindow := (number_iff (H := H) ref.window).2 h.window
    have hprocess := (number_iff (H := H) ref.process).2 h.process
    simp only [ServerRef.put, RoutingSettings.read, RoutingSettings.typed, hwindow, hprocess]

theorem ClientRef.typed_iff (ref : ClientRef) :
    ref.setParams H params = ref.put (.typed H params) ↔ ref.AlreadyReset H params := by
  rw [ClientRef.setParams_eq]
  constructor
  · intro h
    have hclient := congrArg ClientRef.client h
    have hdeflate := (deflate_iff _).1 (congrArg WebSocket.perMessageDeflateOptions hclient)
    exact {
      window := (number_iff _).1 (congrArg ClientRef.window h)
      process := (number_iff _).1 (congrArg ClientRef.process h)
      url := (url_iff _).1 (congrArg WebSocket.url hclient)
      automaticReconnection := (flag_iff _).1 (congrArg WebSocket.automaticReconnection hclient)
      pong := (flag_iff _).1 (congrArg WebSocket.pong hclient)
      perMessageDeflate := hdeflate.1
      disablePerMessageDeflate := hdeflate.2 }
  · intro h
    have hwindow := (number_iff (H := H) ref.window).2 h.window
    have hprocess := (number_iff (H := H) ref.process).2 h.process
    have hurl := (url_iff (H := H) ref.client.url).2 h.url
    have hreconnection := (flag_iff ref.client.automaticReconnection).2 h.automaticReconnection
    have hpong := (flag_iff ref.client.pong).2 h.pong
    have hdeflate := (deflate_iff (H := H) ref.client.perMessageDeflateOptions).2
      ⟨h.perMessageDeflate, h.disablePerMessageDeflate⟩
    simp only [ClientRef.put, ClientSettings.read, ClientSettings.typed, RoutingSettings.read,
      RoutingSettings.typed, hwindow, hprocess, hurl, hreconnection, hpong, hdeflate]

/-- Parameters set exactly what those of the expected kinds say, and leave the other settings alone,
where each of another kind finds its setting at what it sets. -/
theorem setParams_typed_iff (H : Host) (params : Option PAObject) :
    (∀ ref : ClientRef,
        ref.setParams H params = ref.put (.typed H params) ↔ ref.AlreadyReset H params)
      ∧ ∀ ref : ServerRef,
        ref.setParams H params = ref.put (.typed H params) ↔ ref.AlreadyReset params :=
  ⟨fun ref => ref.typed_iff, fun ref => ref.typed_iff⟩

/-- One null takes the url of a client away. -/
theorem nullUrl_resets :
    Mistyped (some [("url", .null)]) "url" .text
      ∧ (compressing.setParams .plain (some [("url", .null)])).client.url ≠ compressing.client.url
      ∧ compressing.setParams .plain (some [("url", .null)])
        ≠ compressing.put (.typed .plain (some [("url", .null)])) :=
  ⟨⟨.null, rfl, id⟩, by decide +kernel, by decide +kernel⟩

end IxWebsocket
