/-
  Cai.Directory.Publication — the two publishers of the Acessórias directory.

  `_publish_snapshot` of `src/core/acessorias_directory.py` marks every row
  absent and then upserts the snapshot; `_apply_directory_delta` of
  `src/core/digisac_acessorias_reconciliation.py` upserts the snapshot in
  sorted order and then marks the rows it has not seen.  Each runs in one
  transaction.

  `raises` says which statements fail: a lock that is held, a lost
  connection.  The constraints of the tables are part of the statements.
-/
import Mathlib.Data.List.Sort
import Mathlib.Data.String.Basic
import Cai.Directory.Snapshot

namespace Cai.Directory

open Cai.Lib
open Cai.Cycle (pgBlank)

/-! ## §1. The constraints of the tables. -/

/-- `ck_acessorias_departments_external_id_nonblank`, `…_name_nonblank` -/
def AcessoriasDepartment.storable (department : AcessoriasDepartment) : Bool :=
  !pgBlank department.externalId && !pgBlank department.name

/-- `ck_acessorias_companies_external_id_nonblank`, `…_provider_id_nonblank` -/
def AcessoriasCompany.storable (company : AcessoriasCompany) : Bool :=
  !pgBlank company.externalId && !pgBlank company.providerId

/-- `ck_acessorias_company_contacts_external_key_nonblank`, `…_mobile_digits` -/
def AcessoriasContact.storable (contact : AcessoriasContact) : Bool :=
  !pgBlank contact.externalKey && contact.normalizedMobile.all pgDigits

/-! ## §2. The statements both publishers use. -/

section Statements

variable (raises : Statement → Bool)

/-- One statement, whose row the constraints accept or refuse. -/
def execute (statement : Statement) (accepted : Bool) : Except DirectoryError Unit :=
  require (raises statement = false ∧ accepted = true) (.database statement)

/-- The upsert of a department, `RETURNING id`; in the delta, `_upsert_department`. -/
def upsertDepartment (db : DirectoryTables) (department : AcessoriasDepartment) :
    Except DirectoryError (DirectoryTables × Nat) := do
  execute raises (.department department.externalId) department.storable
  let departments := db.departments.upsert department.externalId department.row
    fun _ => department.row
  match departments.idOf department.externalId with
  | some id => return ({ db with departments }, id)
  | none => throw (.missing "department upsert returned no row")

/-- The upsert of a company, `RETURNING id`; in the delta, `_upsert_company`. -/
def upsertCompany (db : DirectoryTables) (company : AcessoriasCompany) :
    Except DirectoryError (DirectoryTables × Nat) := do
  execute raises (.company company.externalId) company.storable
  let companies := db.companies.upsert company.externalId company.row fun _ => company.row
  match companies.idOf company.externalId with
  | some id => return ({ db with companies }, id)
  | none => throw (.missing "company upsert returned no row")

/-- The upsert of a contact. -/
def upsertContact (companyId : Nat) (db : DirectoryTables) (contact : AcessoriasContact) :
    Except DirectoryError DirectoryTables := do
  execute raises (.contact companyId contact.externalKey) contact.storable
  return { db with
    contacts := db.contacts.upsert (companyId, contact.externalKey) contact.row
      fun _ => contact.row }

/-- The upsert of a relationship. -/
def upsertRelationship (companyId departmentId : Nat) (db : DirectoryTables) :
    Except DirectoryError DirectoryTables := do
  execute raises (.relationship companyId departmentId) true
  return { db with
    relationships := db.relationships.upsert (companyId, departmentId) relationshipRow
      fun _ => relationshipRow }

/-- `department_db_ids`, `company_db_ids`: a dictionary, the newest entry first. -/
abbrev Ids := List (String × Nat)

/-- The loop over the departments. -/
def loadDepartments (departments : List AcessoriasDepartment) (db : DirectoryTables) :
    Except DirectoryError (DirectoryTables × Ids) :=
  departments.foldlM (fun (db, ids) department => do
    let (db, id) ← upsertDepartment raises db department
    return (db, (department.externalId, id) :: ids)) (db, [])

/-- The loop over the companies. -/
def loadCompanies (companies : List AcessoriasCompany) (db : DirectoryTables) :
    Except DirectoryError (DirectoryTables × Ids) :=
  companies.foldlM (fun (db, ids) company => do
    let (db, id) ← upsertCompany raises db company
    return (db, (company.externalId, id) :: ids)) (db, [])

/-! ## §3. `_publish_snapshot`. -/

/-- One department of a company. -/
def publishRelationship (departmentIds : Ids) (companyId : Nat) (db : DirectoryTables)
    (departmentExternalId : String) : Except DirectoryError DirectoryTables :=
  match departmentIds.lookup departmentExternalId with
  | none => .error (.directory "invalid_parent" "company department has no parent")
  | some departmentId => upsertRelationship raises companyId departmentId db

/-- The contacts and the relationships of one company. -/
def publishChildren (departmentIds companyIds : Ids) (db : DirectoryTables)
    (company : AcessoriasCompany) : Except DirectoryError DirectoryTables :=
  match companyIds.lookup company.externalId with
  | none => .error (.missing "KeyError")
  | some companyId => do
      let db ← company.contacts.foldlM (upsertContact raises companyId) db
      company.departmentIds.foldlM (publishRelationship raises departmentIds companyId) db

/-- The four UPDATEs that mark every row absent. -/
def markAllAbsent (db : DirectoryTables) : Except DirectoryError DirectoryTables := do
  execute raises (.markAbsent 0) true
  execute raises (.markAbsent 1) true
  execute raises (.markAbsent 2) true
  execute raises (.markAbsent 3) true
  return { contacts := db.contacts.mapRows fun e => e.value.absent
           relationships := db.relationships.mapRows fun e => e.value.absent
           companies := db.companies.mapRows fun e => e.value.absent
           departments := db.departments.mapRows fun e => e.value.absent }

/-- The transaction of `_publish_snapshot`, after the validation. -/
def publishSnapshot (snapshot : AcessoriasSnapshot) (db : DirectoryTables) :
    Except DirectoryError DirectoryTables := do
  validateSnapshot snapshot
  execute raises .lock true
  let db ← markAllAbsent raises db
  let (db, departmentIds) ← loadDepartments raises snapshot.departments db
  let (db, companyIds) ← loadCompanies raises snapshot.companies db
  let db ← snapshot.companies.foldlM (publishChildren raises departmentIds companyIds) db
  execute raises .execution true
  return db

/-! ## §4. `_apply_directory_delta`. -/

/-- What the loop over the companies carries. -/
structure Delta where
  db : DirectoryTables
  incomingContacts : List (Nat × String) := []
  incomingRelationships : List (Nat × Nat) := []

def deltaContact (companyId : Nat) (delta : Delta) (contact : AcessoriasContact) :
    Except DirectoryError Delta := do
  let db ← upsertContact raises companyId delta.db contact
  return { delta with
    db, incomingContacts := (companyId, contact.externalKey) :: delta.incomingContacts }

def deltaRelationship (departmentIds : Ids) (companyId : Nat) (delta : Delta)
    (departmentExternalId : String) : Except DirectoryError Delta :=
  match departmentIds.lookup departmentExternalId with
  | none => .error (.reconciliation "invalid_parent" "company department has no parent")
  | some departmentId => do
      let db ← upsertRelationship raises companyId departmentId delta.db
      return { delta with
        db, incomingRelationships := (companyId, departmentId) :: delta.incomingRelationships }

/-- The contacts and the relationships of one company. -/
def deltaChildren (departmentIds companyIds : Ids) (delta : Delta) (company : AcessoriasCompany) :
    Except DirectoryError Delta :=
  match companyIds.lookup company.externalId with
  | none => .error (.missing "KeyError")
  | some companyId => do
      let delta ← (company.contacts.insertionSort (·.externalKey ≤ ·.externalKey)).foldlM
        (deltaContact raises companyId) delta
      (company.departmentIds.insertionSort (· ≤ ·)).foldlM
        (deltaRelationship raises departmentIds companyId) delta

/-- The row has not come in, and is not marked yet. -/
def stale {κ φ : Type} (incoming : Entry κ (DirectoryRow φ) → Bool)
    (row : Entry κ (DirectoryRow φ)) : Bool :=
  !incoming row && row.value.current

/-- The UPDATEs of the `n`-th table, for the rows that were read. -/
def retireRows {κ φ : Type} (n : Nat) (incoming : Entry κ (DirectoryRow φ) → Bool)
    (table : Keyed κ (DirectoryRow φ)) : Except DirectoryError (Keyed κ (DirectoryRow φ)) :=
  table.rows.foldlM (fun table row =>
    if stale incoming row then do
      execute raises (.absent n row.id) true
      return table.modifyId row.id DirectoryRow.cleared
    else return table) table

/-- `_apply_directory_delta` -/
def applyDirectoryDelta (snapshot : AcessoriasSnapshot) (db : DirectoryTables) :
    Except DirectoryError DirectoryTables := do
  let sortedCompanies := snapshot.companies.insertionSort (·.externalId ≤ ·.externalId)
  let (db, departmentIds) ← loadDepartments raises
    (snapshot.departments.insertionSort (·.externalId ≤ ·.externalId)) db
  let (db, companyIds) ← loadCompanies raises sortedCompanies db
  let delta ← sortedCompanies.foldlM (deltaChildren raises departmentIds companyIds) { db }
  execute raises .read true
  let companies ← retireRows raises 2 (fun row => row.id ∈ companyIds.map (·.2)) delta.db.companies
  let departments ← retireRows raises 3 (fun row => row.id ∈ departmentIds.map (·.2))
    delta.db.departments
  let contacts ← retireRows raises 0 (fun row => row.key ∈ delta.incomingContacts)
    delta.db.contacts
  let relationships ← retireRows raises 1 (fun row => row.key ∈ delta.incomingRelationships)
    delta.db.relationships
  return { companies, departments, contacts, relationships }

end Statements

end Cai.Directory
