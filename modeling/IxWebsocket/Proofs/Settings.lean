import IxWebsocket.Refs

/-!
# Settings laid over settings

For each setting, an object of parameters gives a value or leaves the one there is. `setParams` does
nothing else (`ClientRef.setParams_eq`, `ServerRef.setParams_eq`), so what was set before matters
only where the later object is silent (`ClientRef.put_put`). Compression is one setting under two
keys: `disablePerMessageDeflate` counts only where `perMessageDeflate` is not there at all, so a
`perMessageDeflate` of another kind silences both.
-/

namespace IxWebsocket

variable (H : Host)

/-! ## What the parameters say -/

def textIn (params : Option PAObject) (key : String) : Option CUTF16String :=
  match obGet params key with
  | some (.unistring s) => some s
  | _ => none

def intIn (params : Option PAObject) (key : String) : Option ℤ :=
  (obGet params key).map fun _ => H.toInt (obGetN params key)

def boolIn (params : Option PAObject) (key : String) : Option Bool :=
  (obGet params key).map fun _ => obGetB params key

def urlIn (params : Option PAObject) : Option Bytes :=
  (obGet params "url").map fun _ => (obGetS H params "url" []).2

/-- The options made of the object under `perMessageDeflate`. -/
def optionsIn (o : PAObject) : DeflateOptions :=
  ⟨obGetB o "enabled", obGetB o "clientNoContextTakeover", obGetB o "serverNoContextTakeover",
    H.toUInt8 (obGetN o "serverMaxWindowBits"), H.toUInt8 (obGetN o "clientMaxWindowBits")⟩

/-- The options `disablePerMessageDeflate` stands for. -/
def disabledIn (b : Bool) : DeflateOptions := if b then H.deflateDisabled else H.deflateDefaults

def deflateIn (params : Option PAObject) : Option DeflateOptions :=
  match obGet params "perMessageDeflate" with
  | some (.object o) => some (optionsIn H o)
  | some _ => none
  | none => (boolIn params "disablePerMessageDeflate").map (disabledIn H)

structure RoutingSettings where
  method : Option CUTF16String
  worker : Option CUTF16String
  window : Option ℤ
  process : Option ℤ

structure ClientSettings extends RoutingSettings where
  url : Option Bytes
  automaticReconnection : Option Bool
  pong : Option Bool
  deflate : Option DeflateOptions

def RoutingSettings.read (params : Option PAObject) : RoutingSettings where
  method := textIn params "method"
  worker := textIn params "worker"
  window := intIn H params "window"
  process := intIn H params "process"

def ClientSettings.read (params : Option PAObject) : ClientSettings where
  toRoutingSettings := .read H params
  url := urlIn H params
  automaticReconnection := boolIn params "enableAutomaticReconnection"
  pong := boolIn params "enablePong"
  deflate := deflateIn H params

def ClientRef.put (ref : ClientRef) (x : ClientSettings) : ClientRef :=
  { ref with
    method := x.method.getD ref.method
    worker := x.worker.getD ref.worker
    window := x.window.getD ref.window
    process := x.process.getD ref.process
    client := { ref.client with
      url := x.url.getD ref.client.url
      automaticReconnection := x.automaticReconnection.getD ref.client.automaticReconnection
      pong := x.pong.getD ref.client.pong
      perMessageDeflateOptions := x.deflate.getD ref.client.perMessageDeflateOptions } }

def ServerRef.put (ref : ServerRef) (x : RoutingSettings) : ServerRef :=
  { ref with
    method := x.method.getD ref.method
    worker := x.worker.getD ref.worker
    window := x.window.getD ref.window
    process := x.process.getD ref.process }

variable {H} {params : Option PAObject} {client : WebSocket}

theorem setText_eq (key : String) (value : CUTF16String) :
    setText params key value = (textIn params key).getD value := by
  unfold setText textIn obIsDefined obGetA
  rcases obGet params key with _ | v
  · rfl
  · cases v <;> rfl

theorem setInt_eq (key : String) (value : ℤ) :
    setInt H params key value = (intIn H params key).getD value := by
  unfold setInt intIn obIsDefined
  rcases obGet params key with _ | v <;> rfl

theorem setUrl_eq :
    ClientRef.setUrl H client params
      = { client with url := (urlIn H params).getD client.url } := by
  unfold ClientRef.setUrl urlIn obGetS
  rcases obGet params "url" with _ | v
  · rfl
  · cases v <;> rfl

theorem setReconnection_eq :
    ClientRef.setReconnection client params = { client with
      automaticReconnection :=
        (boolIn params "enableAutomaticReconnection").getD client.automaticReconnection } := by
  unfold ClientRef.setReconnection boolIn obIsDefined
  rcases obGet params "enableAutomaticReconnection" with _ | v <;> rfl

theorem setPong_eq :
    ClientRef.setPong client params
      = { client with pong := (boolIn params "enablePong").getD client.pong } := by
  unfold ClientRef.setPong boolIn obIsDefined
  rcases obGet params "enablePong" with _ | v <;> rfl

theorem setDeflate_eq :
    ClientRef.setDeflate H client params = { client with
      perMessageDeflateOptions :=
        (deflateIn H params).getD client.perMessageDeflateOptions } := by
  unfold ClientRef.setDeflate deflateIn obIsDefined obGetO boolIn disabledIn
  rcases obGet params "perMessageDeflate" with _ | v
  · rcases obGet params "disablePerMessageDeflate" with _ | w
    · rfl
    · by_cases h : obGetB params "disablePerMessageDeflate" <;> simp [h]
  · cases v <;> rfl

theorem ClientRef.setParams_eq (ref : ClientRef) (params : Option PAObject) :
    ref.setParams H params = ref.put (.read H params) := by
  simp only [ClientRef.setParams, setText_eq, setInt_eq, setUrl_eq, setReconnection_eq,
    setPong_eq, setDeflate_eq]
  rfl

theorem ServerRef.setParams_eq (ref : ServerRef) (params : Option PAObject) :
    ref.setParams H params = ref.put (.read H params) := by
  simp only [ServerRef.setParams, setText_eq, setInt_eq]
  rfl

/-! ## What is laid over what -/

/-- `y` gives every setting that `x` gives. -/
structure RoutingSettings.Below (x y : RoutingSettings) : Prop where
  method : x.method.isSome → y.method.isSome
  worker : x.worker.isSome → y.worker.isSome
  window : x.window.isSome → y.window.isSome
  process : x.process.isSome → y.process.isSome

structure ClientSettings.Below (x y : ClientSettings) : Prop
    extends x.toRoutingSettings.Below y.toRoutingSettings where
  url : x.url.isSome → y.url.isSome
  automaticReconnection : x.automaticReconnection.isSome → y.automaticReconnection.isSome
  pong : x.pong.isSome → y.pong.isSome
  deflate : x.deflate.isSome → y.deflate.isSome

theorem getD_getD {α : Type*} {x y : Option α} (h : x.isSome → y.isSome) (a : α) :
    y.getD (x.getD a) = y.getD a := by
  cases x with
  | none => rfl
  | some b =>
    obtain ⟨c, rfl⟩ := Option.isSome_iff_exists.1 (h rfl)
    rfl

theorem ClientRef.put_put (ref : ClientRef) {x y : ClientSettings} (h : x.Below y) :
    (ref.put x).put y = ref.put y := by
  simp only [ClientRef.put, getD_getD h.method, getD_getD h.worker, getD_getD h.window,
    getD_getD h.process, getD_getD h.url, getD_getD h.automaticReconnection, getD_getD h.pong,
    getD_getD h.deflate]

theorem ServerRef.put_put (ref : ServerRef) {x y : RoutingSettings} (h : x.Below y) :
    (ref.put x).put y = ref.put y := by
  simp only [ServerRef.put, getD_getD h.method, getD_getD h.worker, getD_getD h.window,
    getD_getD h.process]

theorem RoutingSettings.Below.refl (x : RoutingSettings) : x.Below x := ⟨id, id, id, id⟩

theorem ClientSettings.Below.refl (x : ClientSettings) : x.Below x :=
  ⟨.refl _, id, id, id, id⟩

/-! ## The keys and their kinds -/

inductive Kind
  | text
  | number
  | boolean
  | object

def PAVariable.HasKind : PAVariable → Kind → Prop
  | .unistring _, .text | .real _, .number | .boolean _, .boolean | .object _, .object => True
  | _, _ => False

/-- The keys `websocket_server_ref::setParams` reads. -/
def serverKeys : List (String × Kind) :=
  [("method", .text), ("worker", .text), ("window", .number), ("process", .number)]

/-- The keys `websocket_client_ref::setParams` reads. -/
def clientKeys : List (String × Kind) :=
  serverKeys ++ [("url", .text), ("enableAutomaticReconnection", .boolean),
    ("enablePong", .boolean), ("perMessageDeflate", .object),
    ("disablePerMessageDeflate", .boolean)]

/-- `q` has each of the keys that `p` has, with a value of the expected kind. -/
def Covers (keys : List (String × Kind)) (p q : Option PAObject) : Prop :=
  ∀ key kind, (key, kind) ∈ keys → (obGet p key).isSome →
    ∃ v, obGet q key = some v ∧ v.HasKind kind

variable {p q : Option PAObject} {keys : List (String × Kind)} {key : String}

theorem Covers.text (h : Covers keys p q) (hkey : (key, .text) ∈ keys)
    (hp : (textIn p key).isSome) : (textIn q key).isSome := by
  have hp' : (obGet p key).isSome := by
    unfold textIn at hp
    split at hp <;> simp_all
  obtain ⟨v, hv, hkind⟩ := h key .text hkey hp'
  cases v <;> simp_all [PAVariable.HasKind, textIn]

theorem Covers.isSome (h : Covers keys p q) (kind : Kind) (hkey : (key, kind) ∈ keys)
    (hp : (obGet p key).isSome) : (obGet q key).isSome := by
  obtain ⟨v, hv, -⟩ := h key kind hkey hp
  simp [hv]

theorem Covers.routing (h : Covers keys p q) (hkeys : serverKeys ⊆ keys) :
    (RoutingSettings.read H p).Below (.read H q) where
  method := h.text (hkeys (by simp [serverKeys]))
  worker := h.text (hkeys (by simp [serverKeys]))
  window hp := by
    simp only [RoutingSettings.read, intIn, Option.isSome_map] at hp ⊢
    exact h.isSome .number (hkeys (by simp [serverKeys])) hp
  process hp := by
    simp only [RoutingSettings.read, intIn, Option.isSome_map] at hp ⊢
    exact h.isSome .number (hkeys (by simp [serverKeys])) hp

/-- Where `p` has `disablePerMessageDeflate`, `q` has no `perMessageDeflate` of another kind. -/
def Heeds (p q : Option PAObject) : Prop :=
  (obGet p "disablePerMessageDeflate").isSome →
    ∀ v, obGet q "perMessageDeflate" = some v → v.HasKind .object

theorem Covers.deflate (h : Covers clientKeys p q) (hheeds : Heeds p q)
    (hp : (deflateIn H p).isSome) : (deflateIn H q).isSome := by
  have hkey : ("perMessageDeflate", Kind.object) ∈ clientKeys := by simp [clientKeys]
  have hdisable : ("disablePerMessageDeflate", Kind.boolean) ∈ clientKeys := by simp [clientKeys]
  have hpkeys : (obGet p "perMessageDeflate").isSome
      ∨ (obGet p "disablePerMessageDeflate").isSome := by
    unfold deflateIn boolIn at hp
    split at hp <;> simp_all
  rcases hq : obGet q "perMessageDeflate" with _ | v
  · have hp' := hpkeys.resolve_left fun hp' => by simpa [hq] using h.isSome .object hkey hp'
    simpa [deflateIn, hq, boolIn] using h.isSome .boolean hdisable hp'
  · have hv : v.HasKind .object := by
      rcases hpkeys with hp' | hp'
      · obtain ⟨w, hw, hkind⟩ := h _ _ hkey hp'
        cases hq.symm.trans hw
        exact hkind
      · exact hheeds hp' v hq
    cases v with
    | object o => simp [deflateIn, hq]
    | _ => exact hv.elim

theorem Covers.settings (h : Covers clientKeys p q) (hheeds : Heeds p q) :
    (ClientSettings.read H p).Below (.read H q) where
  toBelow := h.routing (by simp [clientKeys])
  url hp := by
    simp only [ClientSettings.read, urlIn, Option.isSome_map] at hp ⊢
    exact h.isSome .text (by simp [clientKeys]) hp
  automaticReconnection hp := by
    simp only [ClientSettings.read, boolIn, Option.isSome_map] at hp ⊢
    exact h.isSome .boolean (by simp [clientKeys]) hp
  pong hp := by
    simp only [ClientSettings.read, boolIn, Option.isSome_map] at hp ⊢
    exact h.isSome .boolean (by simp [clientKeys]) hp
  deflate := h.deflate hheeds

/-! ## The handle -/

/-- The platform converts `b` to `u` and back, and neither holds a NUL. -/
structure ExactText (H : Host) (b : Bytes) (u : CUTF16String) : Prop where
  fromUtf8 : H.fromUtf8 b = some u
  toUtf8 : H.toUtf8 u = some b
  bytes : 0 ∉ b
  units : 0 ∉ u

structure ClientRef.WellFormed (H : Host) (ref : ClientRef) : Prop where
  method : 0 ∉ ref.method
  worker : 0 ∉ ref.worker
  url : ∃ u, ExactText H ref.client.url u

structure ServerRef.WellFormed (ref : ServerRef) : Prop where
  method : 0 ∉ ref.method
  worker : 0 ∉ ref.worker

theorem ExactText.convert {b : Bytes} {u : CUTF16String} (h : ExactText H b u) :
    convert H b = u := by
  simp [IxWebsocket.convert, cstr_eq h.bytes, h.fromUtf8, cstr_eq h.units]

/-- The object that a command returns. -/
def optionsObject (options : DeflateOptions) : PAObject :=
  [("enabled", .boolean options.enabled),
    ("clientNoContextTakeover", .boolean options.clientNoContextTakeover),
    ("serverNoContextTakeover", .boolean options.serverNoContextTakeover),
    ("serverMaxWindowBits", .real ((options.serverMaxWindowBits.toNat : ℤ) : Double)),
    ("clientMaxWindowBits", .real ((options.clientMaxWindowBits.toNat : ℤ) : Double))]

theorem ClientRef.getParams_eq (ref : ClientRef) :
    ref.getParams H [] =
      [("ref", .real (ref.id : Double)), ("url", .unistring (convert H ref.client.url)),
        ("pingInterval", .real (ref.client.pingInterval : Double)),
        ("isAutomaticReconnectionEnabled", .boolean ref.client.automaticReconnection),
        ("perMessageDeflateOptions",
          .object (optionsObject ref.client.perMessageDeflateOptions)),
        ("method", .unistring (cstr ref.method)), ("worker", .unistring (cstr ref.worker)),
        ("window", .real (ref.window : Double)), ("process", .real (ref.process : Double))] := by
  simp [ClientRef.getParams, optionsObject, obSetI, obSetS, obSetB, obSetO, obSetA, PAObject.set]

theorem ServerRef.getParams_eq (ref : ServerRef) :
    ref.getParams H [] =
      [("ref", .real (ref.id : Double)), ("port", .real (ref.server.port : Double)),
        ("host", .unistring (convert H ref.server.host)),
        ("backlog", .real (ref.server.backlog : Double)),
        ("maxConnections", .real (lowInt ref.server.maxConnections : Double)),
        ("method", .unistring (cstr ref.method)), ("worker", .unistring (cstr ref.worker)),
        ("window", .real (ref.window : Double)), ("process", .real (ref.process : Double))] := by
  simp [ServerRef.getParams, obSetI, obSetS, obSetA, PAObject.set]

/-- What a ref reports says nothing about reconnection, pongs and compression to `setParams`. -/
theorem ClientRef.WellFormed.read {ref : ClientRef} (h : ref.WellFormed H) :
    ClientSettings.read H (some (ref.getParams H [])) =
      { method := some ref.method, worker := some ref.worker, window := some ref.window
        process := some ref.process, url := some ref.client.url
        automaticReconnection := none, pong := none, deflate := none } := by
  obtain ⟨u, hu⟩ := h.url
  simp [ClientSettings.read, RoutingSettings.read, ClientRef.getParams_eq, textIn, intIn, urlIn,
    boolIn, deflateIn, obGet, obGetN, obGetS, PAObject.get?, cstr_eq h.method, cstr_eq h.worker,
    hu.convert, hu.toUtf8]

theorem ServerRef.WellFormed.read {ref : ServerRef} (h : ref.WellFormed) :
    RoutingSettings.read H (some (ref.getParams H [])) =
      ⟨some ref.method, some ref.worker, some ref.window, some ref.process⟩ := by
  simp [RoutingSettings.read, ServerRef.getParams_eq, textIn, intIn, obGet, obGetN, PAObject.get?,
    cstr_eq h.method, cstr_eq h.worker]

/-- A handle passed back changes nothing, parameters given twice do no more than once, and
parameters that cover earlier ones undo them, unless they hide `disablePerMessageDeflate` behind a
`perMessageDeflate` that is no object. -/
theorem settings_laws (H : Host) :
    (∀ ref : ClientRef, ref.WellFormed H → ref.setParams H (some (ref.getParams H [])) = ref)
      ∧ (∀ ref : ServerRef, ref.WellFormed → ref.setParams H (some (ref.getParams H [])) = ref)
      ∧ (∀ (ref : ClientRef) (p : Option PAObject),
        (ref.setParams H p).setParams H p = ref.setParams H p)
      ∧ (∀ (ref : ServerRef) (p : Option PAObject),
        (ref.setParams H p).setParams H p = ref.setParams H p)
      ∧ (∀ (ref : ClientRef) (p q : Option PAObject), Covers clientKeys p q → Heeds p q →
        (ref.setParams H p).setParams H q = ref.setParams H q)
      ∧ ∀ (ref : ServerRef) (p q : Option PAObject), Covers serverKeys p q →
        (ref.setParams H p).setParams H q = ref.setParams H q := by
  simp only [ClientRef.setParams_eq, ServerRef.setParams_eq]
  refine ⟨fun ref h => ?_, fun ref h => ?_, fun ref p => ref.put_put (.refl _),
    fun ref p => ref.put_put (.refl _), fun ref p q h hheeds => ref.put_put (h.settings hheeds),
    fun ref p q h => ref.put_put (h.routing (List.Subset.refl _))⟩
  · rw [h.read]
    rfl
  · rw [h.read]
    rfl

/-- ASCII text, where the host converts nothing else. -/
theorem exactText_ascii {b : Bytes} (h : ∀ c ∈ b, c < 128) (h0 : 0 ∉ b) :
    ExactText .plain b (b.map UInt8.toUInt16) where
  fromUtf8 := Host.plain.fromUtf8_ascii b h
  toUtf8 := by
    have hback : (b.map UInt8.toUInt16).map UInt16.toUInt8 = b := by
      rw [List.map_map]
      exact List.map_id'' (fun c => UInt8.toUInt8_toUInt16 c) b
    have hlt : ∀ c ∈ b.map UInt8.toUInt16, c < 128 := by
      intro c hc
      obtain ⟨d, hd, rfl⟩ := List.mem_map.1 hc
      have := UInt8.lt_iff_toNat_lt.1 (h d hd)
      rw [UInt16.lt_iff_toNat_lt, UInt8.toNat_toUInt16]
      exact this
    simp only [Host.plain]
    rw [if_pos hlt, hback]
  bytes := h0
  units hu := by
    obtain ⟨c, hc, hc0⟩ := List.mem_map.1 hu
    have : c.toUInt16.toNat = 0 := by rw [hc0]; rfl
    rw [UInt8.toNat_toUInt16] at this
    have hc' : c = 0 := UInt8.toNat_inj.1 (by rw [this]; rfl)
    exact h0 (hc' ▸ hc)

def disable : PAObject := [("disablePerMessageDeflate", .boolean true)]

/-- A client that compresses. -/
def compressing : ClientRef where
  obj := 0
  client := ⟨[119, 115], -1, true, true, ⟨true, false, false, 0, 0⟩⟩
  method := [109]

example :
    compressing = .create .plain 0 (some [("method", .unistring [109]),
      ("url", .unistring [119, 115]),
      ("perMessageDeflate", .object [("enabled", .boolean true)])]) := by
  simp [compressing, ClientRef.create, ClientRef.setParams_eq, ClientRef.put, ClientSettings.read,
    RoutingSettings.read, textIn, intIn, urlIn, boolIn, deflateIn, optionsIn, obGet, obGetS, obGetB,
    obGetN, PAObject.get?, Host.plain, Host.toUInt8, Host.toInt]

theorem disable_covered (b : Bool) (h : obGet q "disablePerMessageDeflate" = some (.boolean b)) :
    Covers clientKeys (some disable) q := by
  intro key kind hkey hp
  have hkey' : key = "disablePerMessageDeflate" := by
    by_contra hne
    simp [disable, obGet, PAObject.get?, Ne.symm hne] at hp
  subst hkey'
  simp only [clientKeys, serverKeys, List.cons_append, List.nil_append, List.mem_cons,
    Prod.mk.injEq, String.reduceEq, false_and, true_and, false_or, List.not_mem_nil, or_false]
    at hkey
  subst hkey
  exact ⟨_, h, trivial⟩

theorem compressing_settings_laws :
    compressing.setParams .plain (some (compressing.getParams .plain [])) = compressing
      ∧ (compressing.setParams .plain (some disable)).setParams .plain (some disable)
        = compressing.setParams .plain (some disable)
      ∧ (ServerRef.create .plain 1 none).setParams .plain
          (some ((ServerRef.create .plain 1 none).getParams .plain []))
        = ServerRef.create .plain 1 none := by
  obtain ⟨hclient, hserver, -, -, hcovers, -⟩ := settings_laws .plain
  have hurl : ExactText .plain compressing.client.url _ :=
    exactText_ascii (by simp [compressing]) (by simp [compressing])
  refine ⟨hclient _ ⟨by decide, by decide, _, hurl⟩,
    hcovers _ _ _ (disable_covered true rfl) fun _ v hv => ?_,
    hserver _ ⟨by decide +kernel, by decide +kernel⟩⟩
  simp [obGet, PAObject.get?, disable] at hv

/-- `disablePerMessageDeflate` beside a `perMessageDeflate` that is no object. -/
def hidden : PAObject :=
  [("disablePerMessageDeflate", .boolean true), ("perMessageDeflate", .null)]

theorem hidden_keeps_compression :
    Covers clientKeys (some disable) (some hidden)
      ∧ (compressing.setParams .plain (some disable)).setParams .plain (some hidden)
        ≠ compressing.setParams .plain (some hidden) :=
  ⟨disable_covered true rfl, by decide +kernel⟩

end IxWebsocket
