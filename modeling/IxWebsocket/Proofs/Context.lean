import IxWebsocket.Events
import IxWebsocket.Lib.Maps

/-!
# What the context of an event keeps

Two events of one type have the same context exactly when they agree in what the context keeps. Of
a wire size that is the low 32 bits. Of the headers of an opening it is what a NUL does not cut off,
the last of those whose names are cut to the same, and nothing of one whose name is cut to `uri`:
the uri is written over it. The rest is kept as it is, so openings whose headers hold no NUL and are
not named `uri` are told apart (`toldApart_of_plain`).
-/

namespace IxWebsocket

/-! ## Fields -/

/-- One of the headers has this name, in whatever case, and this value. -/
def HttpHeaders.Has (h : HttpHeaders) (e : Bytes × Bytes) : Prop :=
  ∃ e' ∈ h.entries, nocase e'.1 = nocase e.1 ∧ e'.2 = e.2

/-- The same names with the same values. -/
def HttpHeaders.Same (h h' : HttpHeaders) : Prop :=
  (∀ e ∈ h.entries, h'.Has e) ∧ ∀ e ∈ h'.entries, h.Has e

namespace WebSocketMessage

/-- The fields that an event of this type is about are equal. -/
def SameFields (a b : WebSocketMessage) : Prop :=
  match a.type with
  | .message | .ping | .pong | .fragment =>
    a.wireSize = b.wireSize ∧ a.binary = b.binary ∧ a.str = b.str
  | .close => a.closeInfo = b.closeInfo
  | .error => a.errorInfo = b.errorInfo
  | .open => a.openInfo.uri = b.openInfo.uri ∧ a.openInfo.headers.Same b.openInfo.headers

/-- The contexts are the same map from names to values. -/
def SameInfo (a b : WebSocketMessage) : Prop := ∀ name : Bytes, a.info[name]? = b.info[name]?

end WebSocketMessage

/-- What is kept of the value of the last header whose name is cut to `name`. -/
def HttpHeaders.kept (h : HttpHeaders) (name : Bytes) : Option Bytes :=
  (h.entries.reverse.find? fun e => cstr e.1 = name).map fun e => cstr e.2

/-- The two are told apart by what is kept, or they are the same. -/
def WebSocketMessage.ToldApart (a b : WebSocketMessage) : Prop :=
  match a.type with
  | .message | .ping | .pong | .fragment =>
    a.binary = b.binary → a.str = b.str →
      a.wireSize.toNat % 2 ^ 32 = b.wireSize.toNat % 2 ^ 32 → a.wireSize = b.wireSize
  | .close | .error => True
  | .open =>
    a.openInfo.uri = b.openInfo.uri →
      (∀ name, name ≠ ascii "uri" → a.openInfo.headers.kept name = b.openInfo.headers.kept name) →
      a.openInfo.headers.Same b.openInfo.headers

/-- Nothing of the headers is cut off or written over. -/
def HttpHeaders.Plain (h : HttpHeaders) : Prop :=
  ∀ e ∈ h.entries, 0 ∉ e.1 ∧ 0 ∉ e.2 ∧ e.1 ≠ ascii "uri"

/-! ## Contexts -/

theorem jsonInt_eq_iff {m n : UInt64} :
    jsonInt m = jsonInt n ↔ m.toNat % 2 ^ 32 = n.toNat % 2 ^ 32 := by
  unfold jsonInt lowInt
  rw [BitVec.toInt_inj, ← BitVec.toNat_inj, BitVec.toNat_ofNat, BitVec.toNat_ofNat]

theorem payloadInfo_same_iff {a b : WebSocketMessage} :
    (∀ name : Bytes, (payloadInfo a)[name]? = (payloadInfo b)[name]?)
      ↔ a.wireSize.toNat % 2 ^ 32 = b.wireSize.toNat % 2 ^ 32 ∧ a.binary = b.binary
        ∧ a.str = b.str := by
  constructor
  · intro h
    have hsize := h (ascii "wireSize")
    have hbinary := h (ascii "binary")
    have hdata := h (ascii "data")
    simp +decide only [payloadInfo, Std.TreeMap.getElem?_insert, if_true, if_false,
      Option.some.injEq, JsonValue.int.injEq, JsonValue.bool.injEq, JsonValue.string.injEq]
      at hsize hbinary hdata
    exact ⟨jsonInt_eq_iff.1 hsize, hbinary, hdata⟩
  · rintro ⟨hsize, hbinary, hdata⟩ name
    unfold payloadInfo
    rw [jsonInt_eq_iff.2 hsize, hbinary, hdata]

theorem closeInfo_injective {a b : CloseInfo}
    (h : ∀ name : Bytes, (closeInfo a)[name]? = (closeInfo b)[name]?) : a = b := by
  have hcode := h (ascii "code")
  have hreason := h (ascii "reason")
  have hremote := h (ascii "remote")
  simp +decide only [closeInfo, Std.TreeMap.getElem?_insert, if_true, if_false, Option.some.injEq,
    JsonValue.int.injEq, JsonValue.bool.injEq, JsonValue.string.injEq] at hcode hreason hremote
  have hcode' : a.code = b.code := UInt16.toNat_inj.1 (by exact_mod_cast hcode)
  cases a
  cases b
  simp_all

theorem errorInfo_injective {a b : ErrorInfo}
    (h : ∀ name : Bytes, (errorInfo a)[name]? = (errorInfo b)[name]?) : a = b := by
  have hdecompression := h (ascii "decompressionError")
  have hreason := h (ascii "reason")
  have hstatus := h (ascii "http_status")
  have hwait := h (ascii "wait_time")
  have hretries := h (ascii "retries")
  simp +decide only [errorInfo, Std.TreeMap.getElem?_insert, if_true, if_false, Option.some.injEq,
    JsonValue.int.injEq, JsonValue.uint.injEq, JsonValue.real.injEq, JsonValue.bool.injEq,
    JsonValue.string.injEq] at hdecompression hreason hstatus hwait hretries
  have hretries' : a.retries = b.retries := UInt32.toNat_inj.1 hretries
  cases a
  cases b
  simp_all

theorem openInfo_getElem? (info : OpenInfo) (name : Bytes) :
    (openInfo info)[name]? = if name = ascii "uri" then some (.string info.uri)
      else (info.headers.kept name).map .string := by
  unfold openInfo
  split_ifs with huri
  · rw [huri, Std.TreeMap.getElem?_insert_self]
  · rw [Maps.getElem?_insert_of_ne (Ne.symm huri), Maps.getElem?_foldl_insert]
    simp [HttpHeaders.kept, Function.comp_def]

theorem openInfo_same_iff {a b : OpenInfo} :
    (∀ name : Bytes, (openInfo a)[name]? = (openInfo b)[name]?)
      ↔ a.uri = b.uri ∧ ∀ name, name ≠ ascii "uri" → a.headers.kept name = b.headers.kept name := by
  simp only [openInfo_getElem?]
  constructor
  · intro h
    refine ⟨by simpa using h (ascii "uri"), fun name hname => ?_⟩
    have := h name
    rw [if_neg hname, if_neg hname] at this
    exact Option.map_injective (fun _ _ => JsonValue.string.inj) this
  · rintro ⟨huri, hkept⟩ name
    by_cases hname : name = ascii "uri"
    · rw [if_pos hname, if_pos hname, huri]
    · rw [if_neg hname, if_neg hname, hkept name hname]

/-! ## Headers of which everything is kept -/

namespace HttpHeaders

theorem names_apart (h : HttpHeaders) :
    h.entries.Pairwise fun a b => nocase a.1 ≠ nocase b.1 := by
  refine h.sorted.imp fun hlt hsame => ?_
  rw [((h.keyComp.incomparable _ _).2 hsame).1] at hlt
  cases hlt

theorem names_nodup (h : HttpHeaders) : (h.entries.map Prod.fst).Nodup :=
  List.pairwise_map.2 (h.names_apart.imp fun hne heq => hne (congrArg nocase heq))

variable {h h' : HttpHeaders}

theorem Plain.mem_iff_kept (hplain : h.Plain) {name value : Bytes} :
    (name, value) ∈ h.entries ↔ h.kept name = some value := by
  unfold kept
  constructor
  · intro hmem
    cases hfind : h.entries.reverse.find? fun e => cstr e.1 = name with
    | none =>
      have hother := List.find?_eq_none.1 hfind (name, value) (List.mem_reverse.2 hmem)
      simp [cstr_eq (hplain _ hmem).1] at hother
    | some e =>
      have he := List.mem_reverse.1 (List.mem_of_find?_eq_some hfind)
      have hname : cstr e.1 = name := by simpa using List.find?_some hfind
      rw [cstr_eq (hplain e he).1] at hname
      have heq : e = (name, value) := List.inj_on_of_nodup_map h.names_nodup he hmem hname
      rw [Option.map_some, cstr_eq (hplain e he).2.1, heq]
  · intro hkept
    obtain ⟨e, hfind, hvalue⟩ := Option.map_eq_some_iff.1 hkept
    have he := List.mem_reverse.1 (List.mem_of_find?_eq_some hfind)
    have hname : cstr e.1 = name := by simpa using List.find?_some hfind
    rw [cstr_eq (hplain e he).1] at hname
    rw [cstr_eq (hplain e he).2.1] at hvalue
    rwa [← hname, ← hvalue]

theorem Plain.same (hplain : h.Plain) (hplain' : h'.Plain)
    (hkept : ∀ name, name ≠ ascii "uri" → h.kept name = h'.kept name) : h.Same h' := by
  have hmem : ∀ e, e ∈ h.entries ↔ e ∈ h'.entries := by
    rintro ⟨name, value⟩
    constructor
    · intro he
      rw [hplain'.mem_iff_kept, ← hkept name (hplain _ he).2.2, ← hplain.mem_iff_kept]
      exact he
    · intro he
      rw [hplain.mem_iff_kept, hkept name (hplain' _ he).2.2, ← hplain'.mem_iff_kept]
      exact he
  exact ⟨fun e he => ⟨e, (hmem e).1 he, rfl, rfl⟩, fun e he => ⟨e, (hmem e).2 he, rfl, rfl⟩⟩

end HttpHeaders

theorem cstr_uri : cstr (ascii "uri") = ascii "uri" := by decide

namespace WebSocketMessage

/-- Two events of one type that have the same context have the same fields, exactly when they are
told apart by what the context keeps, or are the same. -/
theorem sameFields_iff (a b : WebSocketMessage) (htype : a.type = b.type) :
    (a.SameInfo b → a.SameFields b) ↔ a.ToldApart b := by
  unfold SameInfo SameFields ToldApart info
  rw [← htype]
  cases a.type with
  | close => exact iff_of_true closeInfo_injective trivial
  | error => exact iff_of_true errorInfo_injective trivial
  | «open» =>
    constructor
    · intro h huri hkept
      exact (h (openInfo_same_iff.2 ⟨huri, hkept⟩)).2
    · intro h hsame
      obtain ⟨huri, hkept⟩ := openInfo_same_iff.1 hsame
      exact ⟨huri, h huri hkept⟩
  | _ =>
    constructor
    · intro h hbinary hstr hsize
      exact (h (payloadInfo_same_iff.2 ⟨hsize, hbinary, hstr⟩)).1
    · intro h hsame
      obtain ⟨hsize, hbinary, hstr⟩ := payloadInfo_same_iff.1 hsame
      exact ⟨h hbinary hstr hsize, hbinary, hstr⟩

theorem toldApart_of_plain {a b : WebSocketMessage} (htype : a.type = .open)
    (ha : a.openInfo.headers.Plain) (hb : b.openInfo.headers.Plain) : a.ToldApart b := by
  unfold ToldApart
  rw [htype]
  intro _ hkept
  exact ha.same hb hkept

/-- The opening of a connection with one header. -/
def opened (name value : Bytes) : WebSocketMessage where
  type := .open
  openInfo := ⟨ascii "/", ⟨.plain, [(name, value)], List.pairwise_singleton _ _⟩⟩

theorem opened_type {name value : Bytes} : (opened name value).type = .open := rfl

theorem opened_plain {name value : Bytes} (hname : 0 ∉ name) (hvalue : 0 ∉ value)
    (huri : name ≠ ascii "uri") : (opened name value).openInfo.headers.Plain := by
  intro e he
  cases List.mem_singleton.1 he
  exact ⟨hname, hvalue, huri⟩

theorem opened_sameInfo_iff {name name' value value' : Bytes} :
    (opened name value).SameInfo (opened name' value')
      ↔ ∀ key, key ≠ ascii "uri" → (opened name value).openInfo.headers.kept key
        = (opened name' value').openInfo.headers.kept key :=
  openInfo_same_iff.trans (and_iff_right rfl)

theorem value_of_sameFields {name name' value value' : Bytes}
    (h : (opened name value).SameFields (opened name' value')) : value = value' := by
  obtain ⟨e, he, -, hvalue⟩ := h.2.1 (name, value) List.mem_cons_self
  rw [List.mem_singleton.1 he] at hvalue
  exact hvalue.symm

theorem hosts_toldApart :
    (opened (ascii "Host") (ascii "a")).ToldApart (opened (ascii "Host") (ascii "b")) :=
  toldApart_of_plain opened_type (opened_plain (by decide) (by decide) (by decide))
    (opened_plain (by decide) (by decide) (by decide))

theorem hosts_sameFields :
    ((opened (ascii "Host") (ascii "a")).SameInfo (opened (ascii "Host") (ascii "b"))
        → (opened (ascii "Host") (ascii "a")).SameFields (opened (ascii "Host") (ascii "b")))
      ∧ ¬ (opened (ascii "Host") (ascii "a")).SameInfo (opened (ascii "Host") (ascii "b")) := by
  have hsame := (sameFields_iff (opened (ascii "Host") (ascii "a"))
    (opened (ascii "Host") (ascii "b")) (opened_type.trans opened_type.symm)).2 hosts_toldApart
  refine ⟨hsame, fun h => ?_⟩
  exact absurd (value_of_sameFields (hsame h)) (by decide)

/-- A header `uri` is written over, whatever its value is. -/
theorem uriHeader_lost :
    (opened (ascii "uri") (ascii "a")).SameInfo (opened (ascii "uri") (ascii "b"))
      ∧ ¬ (opened (ascii "uri") (ascii "a")).SameFields (opened (ascii "uri") (ascii "b")) := by
  refine ⟨opened_sameInfo_iff.2 fun name hname => ?_, fun h => ?_⟩
  · have hcut : cstr (ascii "uri") ≠ name := cstr_uri ▸ hname.symm
    simp [HttpHeaders.kept, opened, hcut]
  · exact absurd (value_of_sameFields h) (by decide)

end WebSocketMessage

/-! ## Events that share their context -/

/-- A size 2^32 larger has the same low bits. -/
theorem size_add (n : UInt64) :
    n.toNat % 2 ^ 32 = (n + 4294967296).toNat % 2 ^ 32 ∧ n ≠ n + 4294967296 := by
  have hlt := n.toNat_lt
  have hadd : (n + 4294967296).toNat = (n.toNat + 2 ^ 32) % 2 ^ 64 := UInt64.toNat_add ..
  refine ⟨by omega, fun h => ?_⟩
  have heq := congrArg UInt64.toNat h
  omega

def otherEntries : List (Bytes × Bytes) → List (Bytes × Bytes)
  | [] => [(ascii "uri", [])]
  | e :: l => (e.1, e.2 ++ [0]) :: l

/-- Other headers of which the same is kept: one more byte, cut off, in the first value. -/
def HttpHeaders.other (h : HttpHeaders) : HttpHeaders where
  keyComp := h.keyComp
  entries := otherEntries h.entries
  sorted := by
    obtain ⟨_, _ | ⟨e, l⟩, hsorted⟩ := h
    · exact List.pairwise_singleton _ _
    · exact List.pairwise_cons.2 (List.pairwise_cons.1 hsorted)

theorem HttpHeaders.kept_other (h : HttpHeaders) {name : Bytes} (hname : name ≠ ascii "uri") :
    h.kept name = h.other.kept name := by
  obtain ⟨_, _ | ⟨e, l⟩, hsorted⟩ := h
  · have hcut : cstr (ascii "uri") ≠ name := cstr_uri ▸ hname.symm
    simp [kept, other, otherEntries, hcut]
  · simp only [kept, other, otherEntries, List.reverse_cons, List.find?_append, Option.map_or]
    by_cases he : cstr e.1 = name <;> simp [he, cstr_concat_zero]

theorem HttpHeaders.not_same_other (h : HttpHeaders) : ¬ h.Same h.other := by
  rintro ⟨hthere, hback⟩
  have hapart := h.names_apart
  obtain ⟨_, _ | ⟨e, l⟩, hsorted⟩ := h
  · obtain ⟨e', he', -⟩ := hback _ List.mem_cons_self
    cases he'
  · obtain ⟨e', he', hname, hvalue⟩ := hthere e List.mem_cons_self
    rcases List.mem_cons.1 he' with rfl | he'
    · simp at hvalue
    · exact (List.pairwise_cons.1 hapart).1 e' he' hname.symm

namespace WebSocketMessage

/-- An event is the only one of its type with its context when it is a `close` or an `error`. -/
theorem onlyOne_iff (a : WebSocketMessage) :
    (∀ b : WebSocketMessage, a.type = b.type → a.SameInfo b → a.SameFields b)
      ↔ a.type = .close ∨ a.type = .error := by
  constructor
  · intro h
    unfold SameInfo SameFields info at h
    cases htype : a.type with
    | close => exact .inl rfl
    | error => exact .inr rfl
    | «open» =>
      have hother := h
        { a with openInfo := { a.openInfo with headers := a.openInfo.headers.other } }
      simp only [htype, forall_const] at hother
      refine absurd (hother (openInfo_same_iff.2 ⟨rfl, fun name hname => ?_⟩)).2
        a.openInfo.headers.not_same_other
      exact a.openInfo.headers.kept_other hname
    | _ =>
      obtain ⟨hsame, hne⟩ := size_add a.wireSize
      have hother := h { a with wireSize := a.wireSize + 4294967296 }
      simp only [htype, forall_const] at hother
      exact absurd (hother (payloadInfo_same_iff.2 ⟨hsame, rfl, rfl⟩)).1 hne
  · intro htype b hb hsame
    unfold SameInfo info at hsame
    unfold SameFields
    rw [← hb] at hsame
    rcases htype with htype | htype
    · rw [htype] at hsame ⊢
      exact closeInfo_injective hsame
    · rw [htype] at hsame ⊢
      exact errorInfo_injective hsame

end WebSocketMessage

end IxWebsocket
