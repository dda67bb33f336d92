import Mcps.ClientCore.Audience
import Mcps.Sdk.Python

/-!
# The audience of the Python driver

The driver and the command line of the Rust client take the audience as six fields
separated by commas.  The Rust client makes a tuple of them and escapes each field in its
text; the driver puts the fields into the text as they are.
-/

namespace Mcps.Sdk

open ClientCore List

/-- The fields of the `--audience` value. -/
def audienceFields (value : String) : List String :=
  ((textChars value).splitOn ',').map String.ofList

/-- `_canonical_audience` of the driver. -/
def canonicalAudience (sixField : String) : Except PyException String :=
  match audienceFields sixField with
  | [scheme, host, port, tenant, route, realm] =>
    .ok ("mcps-audience:v1:scheme=" ++ scheme ++ ";host=" ++ host ++ ";port=" ++ port ++
      ";tenant=" ++ tenant ++ ";route=" ++ route ++ ";realm=" ++ realm)
  | _ => .error .valueError

/-- `parse_audience` of the client's command line. -/
def parseAudience (value : String) : Except String AudienceTuple :=
  match audienceFields value with
  | [scheme, host, port, tenant, route, realm] => do
    let port ← (Numeral.parseUnsigned (2 ^ 16) (textChars port)).okOr "audience port must be u16"
    (AudienceTuple.new scheme host (.ofNat port) tenant route realm).mapError fun e =>
      "invalid --audience: " ++ e.wireCode
  | fields => .error ("--audience must be scheme,host,port,tenant,route,realm (got " ++
      toString fields.length ++ " fields)")

/-! ## Six fields -/

/-- Six fields that no comma splits, with a tenant and a route. -/
structure SixFields where
  scheme : String
  host : String
  port : UInt16
  tenant : String
  route : String
  realm : String
  separated : ∀ field ∈ [scheme, host, tenant, route, realm], ',' ∉ field.toList
  discriminated : tenant.isEmpty = false ∧ route.isEmpty = false

namespace SixFields

variable (fields : SixFields)

/-- The fields that are texts. -/
def texts : List String := [fields.scheme, fields.host, fields.tenant, fields.route, fields.realm]

/-- The fields in their order, the port in decimal. -/
def all : List String :=
  [fields.scheme, fields.host, fields.port.toNat.repr, fields.tenant, fields.route, fields.realm]

/-- The value of `--audience`. -/
def text : String := ",".intercalate fields.all

def tuple : AudienceTuple :=
  ⟨fields.scheme, fields.host, fields.port, fields.tenant, fields.route, fields.realm,
    fields.discriminated⟩

theorem new_eq_tuple : AudienceTuple.new fields.scheme fields.host fields.port fields.tenant
    fields.route fields.realm = .ok fields.tuple := by
  have empty : ¬ (fields.tenant.isEmpty || fields.route.isEmpty) = true := by
    simp [fields.discriminated]
  rw [AudienceTuple.new, dif_neg empty]
  rfl

theorem comma_notMem_repr (n : Nat) : ',' ∉ n.repr.toList := by
  rw [Nat.toList_repr]
  intro member
  have digit := Numeral.isDigit_of_mem_toDigits member
  revert digit
  decide

theorem comma_notMem {field : String} (member : field ∈ fields.all) : ',' ∉ field.toList := by
  have separated := fields.separated
  simp only [all, mem_cons, not_mem_nil, or_false] at member
  obtain rfl | rfl | rfl | rfl | rfl | rfl := member
  · exact separated _ (by simp)
  · exact separated _ (by simp)
  · exact comma_notMem_repr _
  · exact separated _ (by simp)
  · exact separated _ (by simp)
  · exact separated _ (by simp)

theorem audienceFields_text : audienceFields fields.text = fields.all := by
  have unsplit : ∀ field ∈ fields.all.map String.toList, ',' ∉ field := by
    intro field member
    obtain ⟨_, inside, same⟩ := mem_map.mp member
    rw [← same]
    exact fields.comma_notMem inside
  have cut := splitOn_intercalate ',' unsplit (by simp [all])
  rw [audienceFields, text, textChars_eq, String.toList_intercalate]
  change (splitOn ',' (intercalate [','] _)).map _ = _
  rw [cut]
  simp [Function.comp_def]

theorem parseAudience_text : parseAudience fields.text = .ok fields.tuple := by
  have port : Numeral.parseUnsigned (2 ^ 16) (textChars fields.port.toNat.repr) =
      some fields.port.toNat := by
    rw [textChars_eq, Nat.toList_repr]
    exact Numeral.parseUnsigned_toDigits fields.port.toNat_lt
  rw [parseAudience, fields.audienceFields_text]
  simp only [all, port, Option.okOr_some, Except.bind_ok, UInt16.ofNat_toNat, new_eq_tuple]
  rfl

/-! ## The two texts -/

/-- A field without delimiters and percent signs. -/
def Plain (field : String) : Prop := ∀ c ∈ field.toList, Unescaped c

instance : DecidablePred Plain := fun field => inferInstanceAs (Decidable (∀ c ∈ field.toList, _))

theorem escapeField_of_plain {field : String} (plain : Plain field) :
    escapeField field = field := by
  apply String.toList_inj.mp
  rw [toList_escapeField]
  calc
    field.toList.flatMap ClientCore.escapeChar = field.toList.flatMap fun c => [c] :=
      flatMap_congr fun c member => escapeChar_of_unescaped (plain c member)
    _ = field.toList := flatMap_singleton' _

theorem length_flatMap_escapeChar (text : List Char) :
    (text.flatMap ClientCore.escapeChar).length =
      text.length + 2 * text.countP fun c => ¬ Unescaped c := by
  induction text with
  | nil => rfl
  | cons c text ih =>
    rw [flatMap_cons, length_append, ih]
    obtain rfl | rfl | rfl | plain := escapeChar_cases c
    · simp [ClientCore.escapeChar, Unescaped]
      omega
    · simp [ClientCore.escapeChar, Unescaped]
      omega
    · simp [ClientCore.escapeChar, Unescaped]
      omega
    · simp [escapeChar_of_unescaped plain, plain]
      omega

/-- How many characters of a field are escaped. -/
def escapedCount (field : String) : Nat := field.toList.countP fun c => ¬ Unescaped c

theorem length_escapeField (field : String) :
    (escapeField field).length = field.length + 2 * escapedCount field := by
  rw [← String.length_toList, toList_escapeField, length_flatMap_escapeChar]
  rfl

theorem escapedCount_eq_zero {field : String} : escapedCount field = 0 ↔ Plain field := by
  simp [escapedCount, Plain]

/-- The text of an audience around its six fields. -/
def around (scheme host port tenant route realm : String) : String :=
  "mcps-audience:v1:scheme=" ++ scheme ++ ";host=" ++ host ++ ";port=" ++ port ++ ";tenant=" ++
    tenant ++ ";route=" ++ route ++ ";realm=" ++ realm

theorem length_fields_of_around {scheme host port tenant route realm scheme' host' tenant' route'
    realm' : String}
    (same : around scheme host port tenant route realm =
      around scheme' host' port tenant' route' realm') :
    scheme.length + host.length + tenant.length + route.length + realm.length =
      scheme'.length + host'.length + tenant'.length + route'.length + realm'.length := by
  have lengths := congrArg String.length same
  unfold around at lengths
  repeat rw [String.length_append] at lengths
  omega

theorem toAudienceString_tuple : fields.tuple.toAudienceString =
    around (escapeField fields.scheme) (escapeField fields.host) fields.port.toNat.repr
      (escapeField fields.tenant) (escapeField fields.route) (escapeField fields.realm) := rfl

theorem canonicalAudience_text : canonicalAudience fields.text =
    .ok (around fields.scheme fields.host fields.port.toNat.repr fields.tenant fields.route
      fields.realm) := by
  rw [canonicalAudience, fields.audienceFields_text]
  rfl

end SixFields

/-- The Rust client makes a tuple of six fields, on its command line too.  The driver gives it
the same text exactly if no field has a character that is escaped. -/
theorem canonicalAudience_eq_iff (fields : SixFields) :
    AudienceTuple.new fields.scheme fields.host fields.port fields.tenant fields.route
        fields.realm = .ok fields.tuple ∧
      parseAudience fields.text = .ok fields.tuple ∧
      (canonicalAudience fields.text = .ok fields.tuple.toAudienceString ↔
        ∀ field ∈ fields.texts, SixFields.Plain field) := by
  refine ⟨fields.new_eq_tuple, fields.parseAudience_text, ?_⟩
  rw [fields.canonicalAudience_text, fields.toAudienceString_tuple, Except.ok.injEq]
  constructor
  · intro same
    have lengths := SixFields.length_fields_of_around same
    simp only [SixFields.length_escapeField] at lengths
    simp only [SixFields.texts, List.forall_mem_cons, ← SixFields.escapedCount_eq_zero]
    refine ⟨by omega, by omega, by omega, by omega, by omega, nofun⟩
  · intro plain
    simp only [SixFields.texts, List.forall_mem_cons] at plain
    obtain ⟨scheme, host, tenant, route, realm, _⟩ := plain
    rw [SixFields.escapeField_of_plain scheme, SixFields.escapeField_of_plain host,
      SixFields.escapeField_of_plain tenant, SixFields.escapeField_of_plain route,
      SixFields.escapeField_of_plain realm]

/-- A tenant with a delimiter. -/
def delimitedTenant : SixFields :=
  ⟨"https", "host", 443, "a;b", "route", "realm", by decide +kernel, by decide +kernel⟩

/-- The driver signs another audience than the Rust client for it. -/
theorem canonicalAudience_delimited :
    canonicalAudience "https,host,443,a;b,route,realm" =
        .ok "mcps-audience:v1:scheme=https;host=host;port=443;tenant=a;b;route=route;realm=realm" ∧
      delimitedTenant.text = "https,host,443,a;b,route,realm" ∧
      delimitedTenant.tuple.toAudienceString =
        "mcps-audience:v1:scheme=https;host=host;port=443;tenant=a%3Bb;route=route;realm=realm" ∧
      canonicalAudience delimitedTenant.text ≠ .ok delimitedTenant.tuple.toAudienceString := by
  refine ⟨?_, ?_, ?_, ?_⟩
  · decide +kernel
  · decide +kernel
  · decide +kernel
  · decide +kernel

end Mcps.Sdk
