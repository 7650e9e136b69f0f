import IxWebsocket.Proofs.Settings

/-!
# What is put is what is got

`getParams` reports every setting that `setParams` was given as it was given, and every other as it
was before, but for the two numbers of window bits: the options are built with each of them in the
place of the other. So they are reported as given exactly when they are the same (`putGot_iff`).
-/

namespace IxWebsocket

variable (H : Host)

/-! ## Parameters of the expected kinds -/

def IsText (v : PAVariable) : Prop := ∃ s, v = .unistring s ∧ 0 ∉ s

def IsWhole (v : PAVariable) : Prop := ∃ i : ℤ, v = .real i

def IsBoolean (v : PAVariable) : Prop := ∃ b, v = .boolean b

def IsUrl (v : PAVariable) : Prop := ∃ b u, v = .unistring u ∧ ExactText H b u

def IsBits (v : PAVariable) : Prop := ∃ n : ℕ, 9 ≤ n ∧ n ≤ 15 ∧ v = .real ((n : ℤ) : Double)

/-- The value of `key`, where there is one, is as `P` says. -/
def Present (o : PAObject) (key : String) (P : PAVariable → Prop) : Prop :=
  ∀ v, o.get? key = some v → P v

/-- An object under `perMessageDeflate` with all five fields. -/
structure Options (o : PAObject) : Prop where
  enabled : ∃ v, o.get? "enabled" = some v ∧ IsBoolean v
  clientNoContextTakeover : ∃ v, o.get? "clientNoContextTakeover" = some v ∧ IsBoolean v
  serverNoContextTakeover : ∃ v, o.get? "serverNoContextTakeover" = some v ∧ IsBoolean v
  serverMaxWindowBits : ∃ v, o.get? "serverMaxWindowBits" = some v ∧ IsBits v
  clientMaxWindowBits : ∃ v, o.get? "clientMaxWindowBits" = some v ∧ IsBits v

structure Expected (params : PAObject) : Prop where
  method : Present params "method" IsText
  worker : Present params "worker" IsText
  window : Present params "window" IsWhole
  process : Present params "process" IsWhole
  url : Present params "url" (IsUrl H)
  enableAutomaticReconnection : Present params "enableAutomaticReconnection" IsBoolean
  enablePong : Present params "enablePong" IsBoolean
  perMessageDeflate : Present params "perMessageDeflate" fun v => ∃ o, v = .object o ∧ Options o
  disablePerMessageDeflate : Present params "disablePerMessageDeflate" IsBoolean

/-! ## What is reported -/

def ClientRef.reported (ref : ClientRef) (key : String) : Option PAVariable :=
  (ref.getParams H []).get? key

def ClientRef.reportedOption (ref : ClientRef) (key : String) : Option PAVariable :=
  obGet (obGetO (some (ref.getParams H [])) "perMessageDeflateOptions") key

def optionKeys : List String :=
  ["enabled", "clientNoContextTakeover", "serverNoContextTakeover", "serverMaxWindowBits",
    "clientMaxWindowBits"]

/-- The compression setting under `key`, supplied with `perMessageDeflate`, or else with the options
that `disablePerMessageDeflate` stands for. -/
def suppliedOption (params : PAObject) (key : String) : Option PAVariable :=
  match params.get? "perMessageDeflate" with
  | some (.object o) => PAObject.get? o key
  | some _ => none
  | none => match params.get? "disablePerMessageDeflate" with
    | some (.boolean b) => (optionsObject (disabledIn H b)).get? key
    | _ => none

/-- After `setParams(params)` each setting is reported as supplied, or as before. -/
structure PutGot (ref : ClientRef) (params : PAObject) : Prop where
  same : ∀ key ∈ ["method", "worker", "window", "process", "url"],
    (ref.setParams H (some params)).reported H key = (params.get? key).or (ref.reported H key)
  reconnection :
    (ref.setParams H (some params)).reported H "isAutomaticReconnectionEnabled"
      = (params.get? "enableAutomaticReconnection").or
        (ref.reported H "isAutomaticReconnectionEnabled")
  deflate : ∀ key ∈ optionKeys,
    (ref.setParams H (some params)).reportedOption H key
      = (suppliedOption H params key).or (ref.reportedOption H key)

/-- The window bits of the two sides are the same. -/
def BitsAgree (params : PAObject) : Prop :=
  ∀ o : PAObject, params.get? "perMessageDeflate" = some (.object o) →
    o.get? "clientMaxWindowBits" = o.get? "serverMaxWindowBits"

variable {H} {ref : ClientRef} {params o : PAObject} {key : String}

theorem Options.given (ho : Options o) (hkey : key ∈ optionKeys) : ∃ v, o.get? key = some v := by
  simp only [optionKeys, List.mem_cons, List.not_mem_nil, or_false] at hkey
  rcases hkey with rfl | rfl | rfl | rfl | rfl
  · exact ho.enabled.imp fun _ => And.left
  · exact ho.clientNoContextTakeover.imp fun _ => And.left
  · exact ho.serverNoContextTakeover.imp fun _ => And.left
  · exact ho.serverMaxWindowBits.imp fun _ => And.left
  · exact ho.clientMaxWindowBits.imp fun _ => And.left

/-! ## One setting -/

theorem text_put (h : Present params key IsText) (old : CUTF16String) :
    some (.unistring (cstr ((textIn (some params) key).getD old)))
      = (params.get? key).or (some (.unistring (cstr old))) := by
  rcases hv : params.get? key with _ | v
  · simp [textIn, obGet, hv]
  · obtain ⟨s, rfl, hs⟩ := h v hv
    simp [textIn, obGet, hv, cstr_eq hs]

theorem int_put (h : Present params key IsWhole) (old : ℤ) :
    some (.real (((intIn H (some params) key).getD old : ℤ) : Double))
      = (params.get? key).or (some (.real (old : Double))) := by
  rcases hv : params.get? key with _ | v
  · simp [intIn, obGet, hv]
  · obtain ⟨i, rfl⟩ := h v hv
    simp [intIn, obGet, obGetN, hv]

theorem bool_put (h : Present params key IsBoolean) (old : Bool) :
    some (.boolean ((boolIn (some params) key).getD old))
      = (params.get? key).or (some (.boolean old)) := by
  rcases hv : params.get? key with _ | v
  · simp [boolIn, obGet, hv]
  · obtain ⟨b, rfl⟩ := h v hv
    simp [boolIn, obGet, obGetB, hv]

theorem url_put (h : Present params "url" (IsUrl H)) (old : Bytes) :
    some (.unistring (convert H ((urlIn H (some params)).getD old)))
      = (params.get? "url").or (some (.unistring (convert H old))) := by
  rcases hv : params.get? "url" with _ | v
  · simp [urlIn, obGet, hv]
  · obtain ⟨b, u, rfl, hu⟩ := h v hv
    simp [urlIn, obGet, obGetS, hv, hu.toUtf8, hu.convert]

/-! ## The compression settings -/

theorem toUInt8_natCast {n : ℕ} (hn : n < 256) :
    (H.toUInt8 ((n : ℤ) : Double)).toNat = n := by
  rw [Host.toUInt8, Host.toInt_intCast]
  have : ((n : ℤ) % 256).toNat = n := by omega
  rw [this, UInt8.toNat_ofNat']
  omega

theorem bool_field (h : ∃ v, o.get? key = some v ∧ IsBoolean v) :
    some (.boolean (obGetB (some o) key)) = o.get? key := by
  obtain ⟨v, hv, b, rfl⟩ := h
  simp [obGetB, obGet, hv]

theorem bits_field (h : ∃ v, o.get? key = some v ∧ IsBits v) :
    some (.real (((H.toUInt8 (obGetN (some o) key)).toNat : ℤ) : Double)) = o.get? key := by
  obtain ⟨v, hv, n, -, hn, rfl⟩ := h
  rw [hv]
  simp only [obGetN, obGet, Option.bind_some, hv]
  rw [toUInt8_natCast (by omega)]

/-- The options made of an object report its fields, but the window bits of each side as those of
the other. -/
theorem options_put (ho : Options o) :
    (∀ key ∈ optionKeys, (optionsObject (optionsIn H o)).get? key = o.get? key)
      ↔ o.get? "clientMaxWindowBits" = o.get? "serverMaxWindowBits" := by
  have henabled := bool_field ho.enabled
  have hclient := bool_field ho.clientNoContextTakeover
  have hserver := bool_field ho.serverNoContextTakeover
  have hserverBits : (optionsObject (optionsIn H o)).get? "serverMaxWindowBits"
      = o.get? "clientMaxWindowBits" := bits_field ho.clientMaxWindowBits
  have hclientBits : (optionsObject (optionsIn H o)).get? "clientMaxWindowBits"
      = o.get? "serverMaxWindowBits" := bits_field ho.serverMaxWindowBits
  constructor
  · intro h
    exact hserverBits.symm.trans (h _ (by simp [optionKeys]))
  · intro h key hkey
    simp only [optionKeys, List.mem_cons, List.not_mem_nil, or_false] at hkey
    rcases hkey with rfl | rfl | rfl | rfl | rfl
    · exact henabled
    · exact hclient
    · exact hserver
    · exact hserverBits.trans h
    · exact hclientBits.trans h.symm

theorem reportedOption_eq (key : String) :
    ref.reportedOption H key
      = (optionsObject ref.client.perMessageDeflateOptions).get? key := by
  simp [ClientRef.reportedOption, ClientRef.getParams_eq, obGetO, obGet, PAObject.get?]

theorem optionsObject_isSome (options : DeflateOptions) (hkey : key ∈ optionKeys) :
    ((optionsObject options).get? key).isSome := by
  simp only [optionKeys, List.mem_cons, List.not_mem_nil, or_false] at hkey
  rcases hkey with rfl | rfl | rfl | rfl | rfl <;> simp [optionsObject, PAObject.get?]

/-- The compression settings, after they were given or not. -/
theorem deflate_put (h : Expected H params) (options : DeflateOptions) :
    (∀ key ∈ optionKeys, (optionsObject ((deflateIn H (some params)).getD options)).get? key
        = (suppliedOption H params key).or ((optionsObject options).get? key))
      ↔ BitsAgree params := by
  have hor : ∀ (options' : DeflateOptions), ∀ key ∈ optionKeys,
      (optionsObject options').get? key
        = ((optionsObject options').get? key).or ((optionsObject options).get? key) := by
    intro options' key hkey
    obtain ⟨v, hv⟩ := Option.isSome_iff_exists.1 (optionsObject_isSome options' hkey)
    rw [hv, Option.some_or]
  rcases hv : params.get? "perMessageDeflate" with _ | v
  · refine iff_of_true (fun key hkey => ?_) fun o ho => by simp [hv] at ho
    rcases hw : params.get? "disablePerMessageDeflate" with _ | w
    · simp [deflateIn, boolIn, obGet, suppliedOption, hv, hw]
    · obtain ⟨b, rfl⟩ := h.disablePerMessageDeflate w hw
      simpa [deflateIn, boolIn, obGet, obGetB, suppliedOption, hv, hw] using hor _ key hkey
  · obtain ⟨o, rfl, ho⟩ := h.perMessageDeflate v hv
    have hagree : BitsAgree params ↔ PAObject.get? o "clientMaxWindowBits"
        = PAObject.get? o "serverMaxWindowBits" := by
      simp [BitsAgree, hv]
    rw [hagree, ← options_put (H := H) ho]
    refine forall₂_congr fun key hkey => ?_
    obtain ⟨w, hw⟩ := ho.given hkey
    simp [deflateIn, obGet, suppliedOption, hv, hw]

theorem PutGot.bitsAgree (h : Expected H params) (hput : PutGot H ref params) :
    BitsAgree params := by
  refine (deflate_put h ref.client.perMessageDeflateOptions).1 fun key hkey => ?_
  have := hput.deflate key hkey
  rwa [reportedOption_eq, reportedOption_eq, ClientRef.setParams_eq] at this

/-- What is put is what is got, exactly when no parameters for compression are given, or the window
bits of both sides are the same. -/
theorem putGot_iff (h : Expected H params) (ref : ClientRef) :
    PutGot H ref params ↔ BitsAgree params := by
  refine ⟨fun hput => hput.bitsAgree h, fun hagree => ⟨fun key hkey => ?_, ?_, fun key hkey => ?_⟩⟩
  · simp only [ClientRef.reported, ClientRef.setParams_eq, ClientRef.getParams_eq]
    simp only [List.mem_cons, List.not_mem_nil, or_false] at hkey
    rcases hkey with rfl | rfl | rfl | rfl | rfl
    · exact text_put h.method ref.method
    · exact text_put h.worker ref.worker
    · exact int_put h.window ref.window
    · exact int_put h.process ref.process
    · exact url_put h.url ref.client.url
  · simp only [ClientRef.reported, ClientRef.setParams_eq, ClientRef.getParams_eq]
    exact bool_put h.enableAutomaticReconnection ref.client.automaticReconnection
  · rw [reportedOption_eq, reportedOption_eq, ClientRef.setParams_eq]
    exact (deflate_put h _).2 hagree key hkey

/-- Parameters that turn compression on, with these window bits. -/
def windowBits (client server : ℕ) : PAObject :=
  [("perMessageDeflate", .object
    [("enabled", .boolean true), ("clientNoContextTakeover", .boolean false),
      ("serverNoContextTakeover", .boolean false),
      ("serverMaxWindowBits", .real ((server : ℤ) : Double)),
      ("clientMaxWindowBits", .real ((client : ℤ) : Double))])]

theorem windowBits_expected {client server : ℕ} (hc : 9 ≤ client ∧ client ≤ 15)
    (hs : 9 ≤ server ∧ server ≤ 15) : Expected H (windowBits client server) := by
  constructor
  case perMessageDeflate =>
    intro v hv
    simp only [windowBits, PAObject.get?, if_true, Option.some.injEq] at hv
    subst hv
    exact ⟨_, rfl, ⟨_, rfl, _, rfl⟩, ⟨_, rfl, _, rfl⟩, ⟨_, rfl, _, rfl⟩,
      ⟨_, rfl, server, hs.1, hs.2, rfl⟩, ⟨_, rfl, client, hc.1, hc.2, rfl⟩⟩
  all_goals
    intro v hv
    simp [windowBits, PAObject.get?] at hv

theorem windowBits_putGot : PutGot .plain compressing (windowBits 12 12) := by
  refine (putGot_iff (windowBits_expected (by decide) (by decide)) compressing).2 fun o ho => ?_
  simp only [windowBits, PAObject.get?, if_true, Option.some.injEq, PAVariable.object.injEq] at ho
  subst ho
  rfl

/-- The bits given for the client are reported for the server. -/
theorem windowBits_swapped :
    Expected .plain (windowBits 15 9) ∧ ¬ PutGot .plain compressing (windowBits 15 9) := by
  have hexpected : Expected .plain (windowBits 15 9) := windowBits_expected (by decide) (by decide)
  refine ⟨hexpected, fun hput => ?_⟩
  have := hput.bitsAgree hexpected _ rfl
  simp [PAObject.get?] at this

end IxWebsocket
