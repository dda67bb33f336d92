import Mcps.Core.CanonicalDomain

/-!
# Python values

The values that Python's `json` module makes of a document, and the functions of the
interpreter and of the `mcp` package that the transport adapter calls.  On documents with
safe integers and distinct keys `json.loads` is the in-house parser; what it makes of any
other bytes is left open, as is the text of a float, a list or a dict.
-/

namespace Mcps.Sdk

/-- A Python number: an integer of any size, or a double given by its bits. -/
inductive PyNumber where
  | int (value : Int)
  | float (bits : UInt64)
  deriving DecidableEq, Repr

/-- A value of `json.loads`.  A dict is given by its members in key order; nothing here
depends on the order they were inserted in. -/
abbrev PyValue := Json PyNumber

inductive PyException where
  | typeError
  | attributeError
  | valueError
  deriving DecidableEq, Repr

/-- What the adapter calls in the interpreter and in `mcp`. -/
class Python where
  /-- `json.loads` of bytes outside the JCS-safe language. -/
  loadsOther : Bytes → Except PyException PyValue
  /-- `str` of a float, a list or a dict. -/
  strOther : PyValue → String
  /-- `json.dumps`, encoded. -/
  dumps : PyValue → Bytes
  /-- `JSONRPCMessage.model_validate_json` of a value's text. -/
  validateMessage : PyValue → Except PyException Unit
  /-- `model_dump_json` of a message, encoded. -/
  dumpMessage : PyValue → Bytes

/-- `datetime.fromtimestamp(unix, tz=timezone.utc)` as an RFC 3339 text; it raises for
years outside 1 to 9999. -/
def rfc3339 (unix : Int) : Except PyException String :=
  if -62135596800 ≤ unix ∧ unix < 253402300800 then .ok (unixToRfc3339Utc unix)
  else .error .valueError

section

variable [Python]

/-- `json.loads`. -/
def loads (line : Bytes) : Except PyException PyValue :=
  match parse line with
  | .ok tree => .ok (tree.intoMaps.mapNumbers .int)
  | .error _ => Python.loadsOther line

/-- `str`. -/
def str : PyValue → String
  | .string text => text
  | .number (.int value) => toString value
  | .bool true => "True"
  | .bool false => "False"
  | .null => "None"
  | other => Python.strOther other

end

/-! ## The values of `serde_json` in Python -/

def pyNumber : Number → PyNumber
  | .posInt value _ => .int value
  | .negInt value _ => .int value
  | .float bits => .float bits

/-- The Python value of the same JSON value. -/
def pyValue (value : Value) : PyValue := value.mapNumbers pyNumber

theorem pyNumber_numberOfInteger {i : Int} (safe : SafeInteger i) :
    pyNumber (numberOfInteger i) = .int i := by
  unfold SafeInteger maxSafeInteger at safe
  unfold numberOfInteger
  split
  next nonneg => simp [pyNumber, Int.toNat_of_nonneg nonneg.1]
  next outside =>
    have negative : -2 ^ 63 ≤ i ∧ i < 0 := by omega
    rw [dif_pos negative]
    rfl

theorem pyValue_of_fromSerdeValue {value : Value} {jcs : JcsValue}
    (converted : fromSerdeValue value = .ok jcs) : pyValue value = jcs.mapNumbers .int := by
  obtain ⟨same, safe⟩ := fromSerdeValueAt_eq_ok converted
  rw [← same]
  apply Json.mapNumbers_mapNumbers
  apply Json.everywhere_mono _ safe
  rintro node nodeSafe i rfl
  exact pyNumber_numberOfInteger nodeSafe

/-! ## Dicts -/

/-- The members of a dict.  The adapter asks for `"method" in obj` and then calls
`obj.get`; a list or a string has no `get`, any other value is not a container. -/
def dictMembers : PyValue → Except PyException (List (String × PyValue))
  | .object members => .ok members
  | .array _ | .string _ => .error .attributeError
  | .null | .bool _ | .number _ => .error .typeError

end Mcps.Sdk
