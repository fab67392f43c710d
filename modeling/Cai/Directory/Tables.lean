/-
  Cai.Directory.Tables — the directory tables.

  The four Acessórias tables of `alembic/versions/0015_acessorias_directory.py`
  and `digisac_contacts`, each keyed by its natural key.  A row of one of
  the four has the columns of its provider and a presence.  What a
  publication writes to `synced_at` and `updated_at` is in
  `Cai.Reconciliation.Stamps`; `created_at` and the columns that no function
  writes (`source_updated_at`, `provider_status` of a department) are left
  out.
-/
import Cai.Lib.Keyed
import Cai.Mapping.Evaluation

namespace Cai.Directory

open Cai.Lib
open Cai.Cycle (Timestamp pgBlank)
open Cai.Mapping (Presence)

/-! ## §1. Rows. -/

/-- A row: what the provider says, and whether it still says so. -/
structure DirectoryRow (φ : Type) extends Presence where
  fields : φ
  deriving DecidableEq, Repr

structure DepartmentFields where
  name : String
  responsibleName : Option String := none
  responsibleEmail : Option String := none
  deriving DecidableEq, Repr

structure CompanyFields where
  providerId : String
  legalName : String
  tradeName : String
  providerStatus : Option String := none
  phone : Option String := none
  uf : Option String := none
  clientSince : Option String := none
  clientUntil : Option String := none
  registeredAt : Option String := none
  deriving DecidableEq, Repr

structure ContactFields where
  name : String
  rawMobile : Option String := none
  normalizedMobile : Option String := none
  rawEmail : Option String := none
  normalizedEmail : Option String := none
  deriving DecidableEq, Repr

/-- `~ '^[0-9]+$'` -/
def pgDigits (text : String) : Bool :=
  text ≠ "" && text.toList.all fun c => '0' ≤ c && c ≤ '9'

/-- `_CONTACT_PROVIDER_FIELDS` -/
structure ProviderFields where
  name : Option String := none
  alternativeName : Option String := none
  internalName : Option String := none
  rawNumber : Option String := none
  normalizedNumber : Option String := none
  rawEmail : Option String := none
  normalizedEmail : Option String := none
  isGroup : Option Bool := none
  accountId : Option String := none
  serviceId : Option String := none
  providerCreatedAt : Option Timestamp := none
  providerUpdatedAt : Option Timestamp := none
  providerDeletedAt : Option Timestamp := none
  deriving DecidableEq, Repr

/-- A row of `digisac_contacts`, but for its id and its `external_id`. -/
structure DigisacRow where
  fields : ProviderFields
  lastSeenAt : Timestamp
  lastSource : String
  deriving DecidableEq, Repr

/-! ## §2. Tables. -/

/-- The four Acessórias tables. -/
structure DirectoryTables where
  departments : Keyed String (DirectoryRow DepartmentFields) := .empty
  companies : Keyed String (DirectoryRow CompanyFields) := .empty
  /-- Keyed by `company_id` and `external_key`. -/
  contacts : Keyed (Nat × String) (DirectoryRow ContactFields) := .empty
  /-- `acessorias_company_departments`, keyed by `company_id` and `department_id`. -/
  relationships : Keyed (Nat × Nat) (DirectoryRow Unit) := .empty
  deriving DecidableEq

abbrev DigisacContacts := Keyed String DigisacRow

/-- No row of any of the four tables is lost. -/
structure DirectoryTables.Kept (before after : DirectoryTables) : Prop where
  departments : Keyed.Kept before.departments after.departments
  companies : Keyed.Kept before.companies after.companies
  contacts : Keyed.Kept before.contacts after.contacts
  relationships : Keyed.Kept before.relationships after.relationships

instance (before after : DirectoryTables) : Decidable (DirectoryTables.Kept before after) :=
  decidable_of_iff (Keyed.Kept before.departments after.departments
      ∧ Keyed.Kept before.companies after.companies ∧ Keyed.Kept before.contacts after.contacts
      ∧ Keyed.Kept before.relationships after.relationships)
    ⟨fun ⟨h₁, h₂, h₃, h₄⟩ => ⟨h₁, h₂, h₃, h₄⟩, fun ⟨h₁, h₂, h₃, h₄⟩ => ⟨h₁, h₂, h₃, h₄⟩⟩

theorem DirectoryTables.Kept.refl (db : DirectoryTables) : DirectoryTables.Kept db db :=
  ⟨.refl _, .refl _, .refl _, .refl _⟩

theorem DirectoryTables.Kept.trans {a b c : DirectoryTables} (h : DirectoryTables.Kept a b)
    (h' : DirectoryTables.Kept b c) : DirectoryTables.Kept a c :=
  ⟨h.departments.trans h'.departments, h.companies.trans h'.companies,
    h.contacts.trans h'.contacts, h.relationships.trans h'.relationships⟩

end Cai.Directory
