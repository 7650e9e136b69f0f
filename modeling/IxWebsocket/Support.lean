import IxWebsocket.Values

/-!
# Reading and writing host objects

The `ob_*` functions of `support/4DPlugin-JSON.cpp`. An object may be missing (`NULL`): then
nothing is defined in it. Each reader checks the kind of the value it finds, and each answers in
its own way when the kind is another.
-/

namespace IxWebsocket

/-- `PA_GetObjectProperty` of an object that may be `NULL`. -/
def obGet (obj : Option PAObject) (key : String) : Option PAVariable := obj.bind (·.get? key)

def obIsDefined (obj : Option PAObject) (key : String) : Bool := (obGet obj key).isSome

/-- The text of `key`, or `value` when the kind is another; whether the key is defined at all. -/
def obGetA (obj : Option PAObject) (key : String) (value : CUTF16String) : Bool × CUTF16String :=
  match obGet obj key with
  | none => (false, value)
  | some (.unistring s) => (true, s)
  | some _ => (true, value)

/-- As `obGetA`, converted to UTF-8. -/
def obGetS (H : Host) (obj : Option PAObject) (key : String) (value : Bytes) : Bool × Bytes :=
  match obGet obj key with
  | none => (false, value)
  | some (.unistring s) => (true, (H.toUtf8 s).getD value)
  | some _ => (true, value)

def obGetB (obj : Option PAObject) (key : String) : Bool :=
  match obGet obj key with
  | some (.boolean b) => b
  | _ => false

def obGetN (obj : Option PAObject) (key : String) : Double :=
  match obGet obj key with
  | some (.real x) => x
  | _ => (0 : ℤ)

def obGetO (obj : Option PAObject) (key : String) : Option PAObject :=
  match obGet obj key with
  | some (.object o) => some o
  | _ => none

def obGetC (obj : Option PAObject) (key : String) : Option PACollection :=
  match obGet obj key with
  | some (.collection c) => some c
  | _ => none

def obSetA (obj : PAObject) (key : String) (value : CUTF16String) : PAObject :=
  obj.set key (.unistring (cstr value))

def obSetS (H : Host) (obj : PAObject) (key : String) (value : Bytes) : PAObject :=
  obj.set key (.unistring (convert H value))

def obSetB (obj : PAObject) (key : String) (value : Bool) : PAObject := obj.set key (.boolean value)

/-- A longint, read back as a real. -/
def obSetI (obj : PAObject) (key : String) (value : ℤ) : PAObject :=
  obj.set key (.real (value : Double))

def obSetN (obj : PAObject) (key : String) (value : Double) : PAObject := obj.set key (.real value)

def obSetO (obj : PAObject) (key : String) (value : PAObject) : PAObject :=
  obj.set key (.object value)

/-- `if(ob_is_defined(obj, key)) ob_get_a(obj, key, value);` -/
def setText (obj : Option PAObject) (key : String) (value : CUTF16String) : CUTF16String :=
  if obIsDefined obj key then (obGetA obj key value).2 else value

/-- `if(ob_is_defined(obj, key)) value = ob_get_n(obj, key);` -/
def setInt (H : Host) (obj : Option PAObject) (key : String) (value : ℤ) : ℤ :=
  if obIsDefined obj key then H.toInt (obGetN obj key) else value

/-- As `setInt`, for a `size_t`. -/
def setSize (H : Host) (obj : Option PAObject) (key : String) (value : UInt64) : UInt64 :=
  if obIsDefined obj key then H.toSize (obGetN obj key) else value

@[simp] theorem obGetN_set_self (obj : PAObject) (key : String) (x : Double) :
    obGetN (some (obj.set key (.real x))) key = x := by
  simp [obGetN, obGet]

theorem obGetN_set_of_ne (obj : PAObject) {key key' : String} (v : PAVariable)
    (h : key' ≠ key) : obGetN (some (obj.set key v)) key' = obGetN (some obj) key' := by
  simp [obGetN, obGet, PAObject.get?_set_of_ne obj v h]

end IxWebsocket
