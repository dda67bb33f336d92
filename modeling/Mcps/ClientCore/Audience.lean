import Mcps.ClientCore.Request
import Mcps.Lib.Framing
import Mcps.Lib.Numeral

/-!
# Audiences as texts

An audience is signed as one text, in which the delimiters inside a field are escaped.  The
three replacements one after the other are a code that maps every character by itself: the
first escapes the percent sign, and the later ones find nothing of their own in what it
wrote.  No delimiter is left in an escaped field, so the text is split in one way only.
-/

namespace Mcps.ClientCore

open List

/-! ## Escaped fields -/

/-- What the three replacements make of one character. -/
def escapeChar (c : Char) : List Char :=
  if c = '%' then ['%', '2', '5']
  else if c = ';' then ['%', '3', 'B']
  else if c = '=' then ['%', '3', 'D']
  else [c]

/-- A character that stands for itself. -/
def Unescaped (c : Char) : Prop := c ≠ '%' ∧ c ≠ ';' ∧ c ≠ '='

instance : DecidablePred Unescaped := fun _ => inferInstanceAs (Decidable (_ ∧ _))

theorem escapeChar_of_unescaped {c : Char} (plain : Unescaped c) : escapeChar c = [c] := by
  simp [escapeChar, plain.1, plain.2.1, plain.2.2]

theorem escapeChar_cases (c : Char) :
    c = '%' ∨ c = ';' ∨ c = '=' ∨ Unescaped c := by
  tauto

theorem toList_escapeField (value : String) :
    (escapeField value).toList = value.toList.flatMap escapeChar := by
  simp only [escapeField, replaceChar, textChars_eq, String.toList_ofList, flatMap_assoc]
  apply flatMap_congr
  intro c _
  obtain rfl | rfl | rfl | plain := escapeChar_cases c
  · rfl
  · rfl
  · rfl
  · simp [escapeChar_of_unescaped plain, plain.1, plain.2.1, plain.2.2]

/-- Read an escaped field back. -/
def unescape : List Char → List Char
  | [] => []
  | '%' :: '2' :: '5' :: rest => '%' :: unescape rest
  | '%' :: '3' :: 'B' :: rest => ';' :: unescape rest
  | '%' :: '3' :: 'D' :: rest => '=' :: unescape rest
  | c :: rest => c :: unescape rest

theorem unescape_escapeChar (c : Char) (rest : List Char) :
    unescape (escapeChar c ++ rest) = c :: unescape rest := by
  obtain rfl | rfl | rfl | plain := escapeChar_cases c
  · rfl
  · rfl
  · rfl
  · rw [escapeChar_of_unescaped plain, singleton_append, unescape]
    all_goals
      intro _ percent
      exact absurd percent plain.1

theorem unescape_flatMap (text : List Char) : unescape (text.flatMap escapeChar) = text := by
  induction text with
  | nil => rfl
  | cons c text ih => rw [flatMap_cons, unescape_escapeChar, ih]

theorem escapeField_injective : Function.Injective escapeField := by
  intro left right same
  have codes := congrArg (fun value => unescape value.toList) same
  simp only [toList_escapeField, unescape_flatMap] at codes
  exact String.toList_inj.mp codes

theorem semicolon_notMem_escapeField (value : String) : ';' ∉ (escapeField value).toList := by
  rw [toList_escapeField]
  intro member
  obtain ⟨c, _, inCode⟩ := mem_flatMap.mp member
  obtain rfl | rfl | rfl | plain := escapeChar_cases c
  · revert inCode; decide
  · revert inCode; decide
  · revert inCode; decide
  · rw [escapeChar_of_unescaped plain, mem_singleton] at inCode
    exact plain.2.1 inCode.symm

/-! ## The whole text -/

theorem delimited_inj {left right leftRest rightRest name : List Char} (notLeft : ';' ∉ left)
    (notRight : ';' ∉ right)
    (same : left ++ ';' :: (name ++ leftRest) = right ++ ';' :: (name ++ rightRest)) :
    left = right ∧ leftRest = rightRest := by
  obtain ⟨fields, rests⟩ := Framing.append_cons_inj notLeft notRight same
  exact ⟨fields, append_cancel_left rests⟩

theorem semicolon_notMem_repr (n : Nat) : ';' ∉ n.repr.toList := by
  rw [Nat.toList_repr]
  intro member
  have digit := Numeral.isDigit_of_mem_toDigits member
  revert digit
  decide

theorem toList_toAudienceString (tuple : AudienceTuple) :
    tuple.toAudienceString.toList = "mcps-audience:v1:scheme=".toList ++
      ((escapeField tuple.scheme).toList ++ ';' :: ("host=".toList ++
      ((escapeField tuple.host).toList ++ ';' :: ("port=".toList ++
      (tuple.port.toNat.repr.toList ++ ';' :: ("tenant=".toList ++
      ((escapeField tuple.tenantId).toList ++ ';' :: ("route=".toList ++
      ((escapeField tuple.routeId).toList ++ ';' :: ("realm=".toList ++
      (escapeField tuple.realm).toList)))))))))) := by
  have host : ";host=".toList = ';' :: "host=".toList := by decide
  have port : ";port=".toList = ';' :: "port=".toList := by decide
  have tenant : ";tenant=".toList = ';' :: "tenant=".toList := by decide
  have route : ";route=".toList = ';' :: "route=".toList := by decide
  have realm : ";realm=".toList = ';' :: "realm=".toList := by decide
  unfold AudienceTuple.toAudienceString
  simp only [String.toList_append, host, port, tenant, route, realm, append_assoc, cons_append]

/-- Audiences have the same text only if all their fields are the same. -/
theorem toAudienceString_eq_iff (left right : AudienceTuple) :
    left.toAudienceString = right.toAudienceString ↔
      left.scheme = right.scheme ∧ left.host = right.host ∧ left.port = right.port ∧
        left.tenantId = right.tenantId ∧ left.routeId = right.routeId ∧
        left.realm = right.realm := by
  constructor
  · intro same
    have texts := congrArg String.toList same
    rw [toList_toAudienceString, toList_toAudienceString] at texts
    obtain ⟨schemes, texts⟩ := delimited_inj (semicolon_notMem_escapeField _)
      (semicolon_notMem_escapeField _) (List.append_cancel_left texts)
    obtain ⟨hosts, texts⟩ := delimited_inj (semicolon_notMem_escapeField _)
      (semicolon_notMem_escapeField _) texts
    obtain ⟨ports, texts⟩ := delimited_inj (semicolon_notMem_repr _) (semicolon_notMem_repr _)
      texts
    obtain ⟨tenants, texts⟩ := delimited_inj (semicolon_notMem_escapeField _)
      (semicolon_notMem_escapeField _) texts
    obtain ⟨routes, realms⟩ := delimited_inj (semicolon_notMem_escapeField _)
      (semicolon_notMem_escapeField _) texts
    have unescaped : ∀ {one other : String},
        (escapeField one).toList = (escapeField other).toList → one = other :=
      fun escaped => escapeField_injective (String.toList_inj.mp escaped)
    have port : left.port = right.port := UInt16.toNat_inj.mp
      (Framing.decimal_injective (congrArg textBytes (String.toList_inj.mp ports)))
    exact ⟨unescaped schemes, unescaped hosts, port, unescaped tenants, unescaped routes,
      unescaped realms⟩
  · intro fields
    have same : left = right := by
      cases left
      cases right
      simpa only [AudienceTuple.mk.injEq] using fields
    rw [same]

end Mcps.ClientCore
