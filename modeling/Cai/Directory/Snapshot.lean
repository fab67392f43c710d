/-
  Cai.Directory.Snapshot — a complete view of the Acessórias directory.

  The dataclasses of `src/core/acessorias_directory.py` with
  `_validate_snapshot`, and the directory as its readers see it: by external
  ids only.  `DirectoryView.publish` says what a publication of a snapshot is
  for: its rows are present, every other row is retained as absent.
-/
import Cai.Directory.Tables
import Cai.Lib.Fallible
import Cai.Lib.Replacement

namespace Cai.Directory

open Cai.Lib
open Cai.Cycle (pgBlank)

/-! ## §1. Snapshots. -/

structure AcessoriasContact extends ContactFields where
  externalKey : String
  deriving DecidableEq, Repr

structure AcessoriasDepartment extends DepartmentFields where
  externalId : String
  deriving DecidableEq, Repr

structure AcessoriasCompany extends CompanyFields where
  externalId : String
  contacts : List AcessoriasContact
  departmentIds : List String
  isActive : Option Bool
  deriving DecidableEq, Repr

structure AcessoriasSnapshot where
  departments : List AcessoriasDepartment
  companies : List AcessoriasCompany
  deriving DecidableEq, Repr

/-- The statements of the two publications. -/
inductive Statement
  /-- `pg_try_advisory_xact_lock`; it raises also where the lock is held. -/
  | lock
  /-- A SELECT of whole tables. -/
  | read
  /-- The UPDATE of every row of the `n`-th table. -/
  | markAbsent (n : Nat)
  | department (externalId : String)
  | company (externalId : String)
  | contact (companyId : Nat) (externalKey : String)
  | relationship (companyId departmentId : Nat)
  /-- The UPDATE of one row of the `n`-th table. -/
  | absent (n id : Nat)
  /-- The statements about the row of the execution. -/
  | execution
  deriving DecidableEq, Repr

/-- What a publication raises. -/
inductive DirectoryError
  /-- `AcessoriasDirectoryError` -/
  | directory (category message : String)
  /-- `ManualReconciliationError` -/
  | reconciliation (category message : String)
  /-- An upsert that returns no row, or a dictionary without the key. -/
  | missing (message : String)
  /-- The statement fails, or a constraint refuses its row. -/
  | database (statement : Statement)
  deriving DecidableEq, Repr

/-- One company of `_validate_snapshot`. -/
def validateCompany (departmentIds : List String) (company : AcessoriasCompany) :
    Except DirectoryError Unit := do
  require (∀ d ∈ company.departmentIds, d ∈ departmentIds)
    (.directory "invalid_parent" "company department has no parent")
  require (company.contacts.map (·.externalKey)).Nodup
    (.directory "invalid_payload" "duplicate company contact")

/-- `_validate_snapshot`; `len(set(values)) == len(values)` is `Nodup`. -/
def validateSnapshot (snapshot : AcessoriasSnapshot) : Except DirectoryError Unit := do
  let departmentIds := snapshot.departments.map (·.externalId)
  require departmentIds.Nodup (.directory "invalid_payload" "duplicate department identity")
  require ((snapshot.companies.map (·.externalId)).Nodup
      ∧ (snapshot.companies.map (·.providerId)).Nodup)
    (.directory "invalid_payload" "duplicate company identity")
  snapshot.companies.forM (validateCompany departmentIds)

/-- What `_validate_snapshot` has checked. -/
structure Validated (snapshot : AcessoriasSnapshot) : Prop where
  departments : (snapshot.departments.map (·.externalId)).Nodup
  companies : (snapshot.companies.map (·.externalId)).Nodup
  providers : (snapshot.companies.map (·.providerId)).Nodup
  parents : ∀ company ∈ snapshot.companies, ∀ d ∈ company.departmentIds,
    d ∈ snapshot.departments.map (·.externalId)
  contacts : ∀ company ∈ snapshot.companies, (company.contacts.map (·.externalKey)).Nodup

theorem validateSnapshot_ok_iff {snapshot : AcessoriasSnapshot} :
    validateSnapshot snapshot = .ok () ↔ Validated snapshot := by
  unfold validateSnapshot
  simp only [bind_eq_ok_iff, require_eq_ok_iff, forM_eq_ok_iff]
  unfold validateCompany
  simp only [bind_eq_ok_iff, require_eq_ok_iff]
  constructor
  · rintro ⟨-, hdepartments, -, ⟨hcompanies, hproviders⟩, hall⟩
    refine ⟨hdepartments, hcompanies, hproviders, fun company hcompany => ?_,
      fun company hcompany => ?_⟩
    · obtain ⟨-, hparents, -⟩ := hall company hcompany
      exact hparents
    · obtain ⟨-, -, hcontacts⟩ := hall company hcompany
      exact hcontacts
  · intro h
    exact ⟨(), h.departments, (), ⟨h.companies, h.providers⟩, fun company hcompany =>
      ⟨(), h.parents company hcompany, h.contacts company hcompany⟩⟩

/-! ## §2. The rows of a snapshot. -/

variable {φ : Type}

/-- A row that the provider has. -/
def presentRow (isActive : Option Bool) (fields : φ) : DirectoryRow φ :=
  { isPresent := true, isActive, fields }

/-- `is_present IS TRUE OR is_active IS TRUE` -/
def DirectoryRow.current (row : DirectoryRow φ) : Bool :=
  row.isPresent || row.isActive == some true

/-- `SET is_present = FALSE, is_active = FALSE` -/
def DirectoryRow.cleared (row : DirectoryRow φ) : DirectoryRow φ :=
  { row with isPresent := false, isActive := some false }

/-- What becomes of a row that the provider no longer has. -/
def DirectoryRow.absent (row : DirectoryRow φ) : DirectoryRow φ :=
  if row.current then row.cleared else row

def AcessoriasDepartment.row (department : AcessoriasDepartment) : DirectoryRow DepartmentFields :=
  presentRow (some true) department.toDepartmentFields

def AcessoriasCompany.row (company : AcessoriasCompany) : DirectoryRow CompanyFields :=
  presentRow company.isActive company.toCompanyFields

def AcessoriasContact.row (contact : AcessoriasContact) : DirectoryRow ContactFields :=
  presentRow (some true) contact.toContactFields

/-- A row of `acessorias_company_departments`. -/
def relationshipRow : DirectoryRow Unit := presentRow (some true) ()

/-- An absent row is neither present nor active, and keeps its fields. -/
theorem DirectoryRow.absent_spec (row : DirectoryRow φ) :
    row.absent.isPresent = false ∧ row.absent.isActive ≠ some true
      ∧ row.absent.fields = row.fields := by
  unfold DirectoryRow.absent
  split
  next => exact ⟨rfl, nofun, rfl⟩
  next hcurrent =>
    have hnot : row.current = false := by simpa using hcurrent
    obtain ⟨hpresent, hactive⟩ := Bool.or_eq_false_iff.mp hnot
    refine ⟨hpresent, fun heq => ?_, rfl⟩
    rw [heq] at hactive
    cases hactive

namespace AcessoriasSnapshot

variable (snapshot : AcessoriasSnapshot)

def departmentRows : List (String × DirectoryRow DepartmentFields) :=
  snapshot.departments.map fun department => (department.externalId, department.row)

def companyRows : List (String × DirectoryRow CompanyFields) :=
  snapshot.companies.map fun company => (company.externalId, company.row)

def contactRows : List ((String × String) × DirectoryRow ContactFields) :=
  snapshot.companies.flatMap fun company =>
    company.contacts.map fun contact => ((company.externalId, contact.externalKey), contact.row)

def relationshipRows : List ((String × String) × DirectoryRow Unit) :=
  snapshot.companies.flatMap fun company =>
    company.departmentIds.map fun d => ((company.externalId, d), relationshipRow)

end AcessoriasSnapshot

/-! ## §3. The directory, by external ids. -/

/-- The four tables as their readers see them. -/
structure DirectoryView where
  departments : String → Option (DirectoryRow DepartmentFields)
  companies : String → Option (DirectoryRow CompanyFields)
  /-- By company and `external_key`. -/
  contacts : String × String → Option (DirectoryRow ContactFields)
  /-- By company and department. -/
  relationships : String × String → Option (DirectoryRow Unit)

/-- **What a publication is for.** -/
def DirectoryView.publish (view : DirectoryView) (snapshot : AcessoriasSnapshot) : DirectoryView where
  departments := Keyed.replaced DirectoryRow.absent snapshot.departmentRows view.departments
  companies := Keyed.replaced DirectoryRow.absent snapshot.companyRows view.companies
  contacts := Keyed.replaced DirectoryRow.absent snapshot.contactRows view.contacts
  relationships :=
    Keyed.replaced DirectoryRow.absent snapshot.relationshipRows view.relationships

namespace DirectoryTables

variable (db : DirectoryTables)

/-- The key of the contact `external_key` of a company. -/
def contactRef (n : String × String) : Option (Nat × String) :=
  (db.companies.idOf n.1).map fun companyId => (companyId, n.2)

/-- The key of the relationship of a company and a department. -/
def relationshipRef (n : String × String) : Option (Nat × Nat) :=
  (db.companies.idOf n.1).bind fun companyId =>
    (db.departments.idOf n.2).map fun departmentId => (companyId, departmentId)

def view : DirectoryView where
  departments := db.departments.get?
  companies := db.companies.get?
  contacts := db.contacts.seen db.contactRef
  relationships := db.relationships.seen db.relationshipRef

/-- The foreign keys of contacts and relationships. -/
structure Owned : Prop where
  contacts : db.contacts.Referenced db.contactRef
  relationships : db.relationships.Referenced db.relationshipRef

end DirectoryTables

end Cai.Directory
