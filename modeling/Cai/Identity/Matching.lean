/-
  Cai.Identity.Matching — which companies a contact may belong to.

  `match_identity` and `is_brazilian_mobile_variant` of
  `src/core/identity_resolution.py`.  A fingerprint is the digest of a
  text; it is kept as that text, since it is only compared.
-/
import Cai.Directory.Tables

namespace Cai.Identity

open Cai.Lib
open Cai.Directory

/-! ## §1. Fingerprints. -/

/-- `_fingerprint`: the text whose digest is stored. -/
structure Fingerprint where
  text : String
  deriving DecidableEq, Repr

/-- `_fingerprint` -/
def fingerprint (value : String) : Fingerprint := ⟨value⟩

/-- `_variant_fingerprint` -/
def variantFingerprint (left right : String) : Fingerprint :=
  fingerprint (if right < left then right ++ "\x1f" ++ left else left ++ "\x1f" ++ right)

/-! ## §2. Phone numbers. -/

/-- `_is_ascii_digits` -/
def isAsciiDigits (value : List Char) : Bool := !value.isEmpty && value.all Char.isDigit

def digit (c : Char) : Nat := c.toNat - '0'.toNat

/-- The comparison of a number of 12 digits with one of 13. -/
def isMobileVariant (short long : List Char) : Bool :=
  match short, long with
  | _ :: _ :: s₁ :: s₂ :: shortLocal, _ :: _ :: l₁ :: l₂ :: longLocal =>
      let ddd := 10 * digit s₁ + digit s₂
      s₁ == l₁ && s₂ == l₂ && 11 ≤ ddd && ddd ≤ 99
        && shortLocal.head?.any (· ∈ ['6', '7', '8', '9'])
        && longLocal == '9' :: shortLocal
  | _, _ => false

/-- `is_brazilian_mobile_variant` -/
def isBrazilianMobileVariant (left right : String) : Bool :=
  let l := left.toList
  let r := right.toList
  isAsciiDigits l && isAsciiDigits r && l.take 2 == ['5', '5'] && r.take 2 == ['5', '5']
    && (l.length == 12 && r.length == 13 && isMobileVariant l r
      || l.length == 13 && r.length == 12 && isMobileVariant r l)

example : isBrazilianMobileVariant "556188887777" "5561988887777" = true := by decide +kernel

/-! ## §3. Matches. -/

/-- `DigiSacMatchInput` -/
structure DigisacMatchInput where
  normalizedNumber : Option String
  normalizedEmail : Option String
  isGroup : Option Bool
  deriving DecidableEq, Repr

/-- `AcessoriasMatchInput` -/
structure AcessoriasMatchInput where
  contactId : Nat
  companyId : Nat
  normalizedMobile : Option String
  normalizedEmail : Option String
  contactIsPresent : Bool
  contactIsActive : Bool
  companyIsPresent : Bool
  companyIsActive : Option Bool
  deriving DecidableEq, Repr

inductive EvidenceType
  | exactPhone
  | exactEmail
  | brazilMobileVariant
  deriving DecidableEq, Repr

/-- `MatchEvidence` -/
structure MatchEvidence where
  acessoriasContactId : Nat
  acessoriasCompanyId : Nat
  evidenceType : EvidenceType
  valueFingerprint : Fingerprint
  deriving DecidableEq, Repr

/-- The row is current. -/
def AcessoriasMatchInput.current (contact : AcessoriasMatchInput) : Bool :=
  contact.contactIsPresent && contact.contactIsActive && contact.companyIsPresent
    && contact.companyIsActive != some false

/-- A value that is neither `None` nor empty. -/
def nonempty (value : Option String) : Option String := value.filter (· ≠ "")

/-- The matches of one directory row. -/
def matchContact (digisac : DigisacMatchInput) (contact : AcessoriasMatchInput) :
    List MatchEvidence :=
  let evidence (type : EvidenceType) (fp : Fingerprint) : MatchEvidence :=
    ⟨contact.contactId, contact.companyId, type, fp⟩
  if !contact.current then []
  else
    ((nonempty digisac.normalizedNumber).filter (contact.normalizedMobile == some ·)).toList.map
        (fun number => evidence .exactPhone (fingerprint number))
      ++ ((nonempty digisac.normalizedEmail).filter (contact.normalizedEmail == some ·)).toList.map
        (fun email => evidence .exactEmail (fingerprint email))
      ++ match nonempty digisac.normalizedNumber, nonempty contact.normalizedMobile with
        | some number, some mobile =>
            if isBrazilianMobileVariant number mobile then
              [evidence .brazilMobileVariant (variantFingerprint number mobile)]
            else []
        | _, _ => []

/-- `match_identity` -/
def matchIdentity (digisac : DigisacMatchInput) (directoryContacts : List AcessoriasMatchInput) :
    List MatchEvidence :=
  if digisac.isGroup ≠ some false then [] else directoryContacts.flatMap (matchContact digisac)

/-- `_load_directory_contacts`, in the order of the table. -/
def loadDirectoryContacts (directory : DirectoryTables) : List AcessoriasMatchInput :=
  directory.contacts.rows.filterMap fun contact =>
    if contact.value.fields.normalizedMobile.isSome || contact.value.fields.normalizedEmail.isSome then
      (directory.companies.byId? contact.key.1).map fun company =>
        { contactId := contact.id, companyId := company.id
          normalizedMobile := contact.value.fields.normalizedMobile
          normalizedEmail := contact.value.fields.normalizedEmail
          contactIsPresent := contact.value.isPresent
          contactIsActive := contact.value.isActive == some true
          companyIsPresent := company.value.isPresent
          companyIsActive := company.value.isActive }
    else none

/-- A match of a row is about its contact and its company, and the row is current. -/
theorem of_mem_matchContact {digisac : DigisacMatchInput} {contact : AcessoriasMatchInput}
    {evidence : MatchEvidence} (h : evidence ∈ matchContact digisac contact) :
    evidence.acessoriasContactId = contact.contactId
      ∧ evidence.acessoriasCompanyId = contact.companyId ∧ contact.current = true := by
  unfold matchContact at h
  simp only at h
  split at h
  next => exact absurd h List.not_mem_nil
  next hcurrent =>
    have hids : evidence.acessoriasContactId = contact.contactId
        ∧ evidence.acessoriasCompanyId = contact.companyId := by
      rcases List.mem_append.mp h with hexact | hvariant
      · rcases List.mem_append.mp hexact with hphone | hemail
        · obtain ⟨_, -, rfl⟩ := List.mem_map.mp hphone
          exact ⟨rfl, rfl⟩
        · obtain ⟨_, -, rfl⟩ := List.mem_map.mp hemail
          exact ⟨rfl, rfl⟩
      · split at hvariant
        next =>
          split at hvariant
          next =>
            rw [List.mem_singleton.mp hvariant]
            exact ⟨rfl, rfl⟩
          next => exact absurd hvariant List.not_mem_nil
        next => exact absurd hvariant List.not_mem_nil
    exact ⟨hids.1, hids.2, by simpa using hcurrent⟩

/-- A match is about a row that was read. -/
theorem matchIdentity_row {digisac : DigisacMatchInput} {rows : List AcessoriasMatchInput}
    {evidence : MatchEvidence} (h : evidence ∈ matchIdentity digisac rows) :
    ∃ contact ∈ rows, evidence.acessoriasContactId = contact.contactId
      ∧ evidence.acessoriasCompanyId = contact.companyId ∧ contact.current = true := by
  unfold matchIdentity at h
  split at h
  next => exact absurd h List.not_mem_nil
  next =>
    obtain ⟨contact, hcontact, hmatch⟩ := List.mem_flatMap.mp h
    exact ⟨contact, hcontact, of_mem_matchContact hmatch⟩

/-- A match names a company of the directory that is present and not inactive. -/
theorem matchIdentity_company {digisac : DigisacMatchInput} {directory : DirectoryTables}
    {evidence : MatchEvidence}
    (h : evidence ∈ matchIdentity digisac (loadDirectoryContacts directory)) :
    ∃ company ∈ directory.companies.rows, company.id = evidence.acessoriasCompanyId
      ∧ company.value.isPresent = true ∧ company.value.isActive ≠ some false := by
  obtain ⟨contact, hcontact, -, hid, hcurrent⟩ := matchIdentity_row h
  obtain ⟨row, -, hrow⟩ := List.mem_filterMap.mp hcontact
  simp only [Option.ite_none_right_eq_some, Option.map_eq_some_iff] at hrow
  obtain ⟨-, company, hcompany, rfl⟩ := hrow
  simp only [AcessoriasMatchInput.current, Bool.and_eq_true, bne_iff_ne] at hcurrent
  exact ⟨company, Keyed.mem_of_byId? hcompany, hid.symm, hcurrent.1.2, hcurrent.2⟩

end Cai.Identity
