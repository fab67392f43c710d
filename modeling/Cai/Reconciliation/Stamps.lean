/-
  Cai.Reconciliation.Stamps — when the rows of the directory were written.

  An upsert of `_apply_directory_delta` writes `synced_at` and `updated_at`
  also where no other column changes, and the UPDATE that marks a row
  absent writes `updated_at`.  `_upsert_digisac_contact_cursor` writes
  `updated_at = now()`.  The columns are kept beside the tables, under the
  external ids of the rows, as in `DirectoryView`.

  Main results: `NothingWritten.stamps_stand` and, once the clocks are later
  than the columns, `upserts_of_stamps_stand`.
-/
import Cai.Reconciliation.Plan

namespace Cai.Reconciliation

open Cai.Lib
open Cai.Cycle (Timestamp)
open Cai.Directory
open Cai.Identity (IdentityTables)

/-! ## §1. The columns. -/

/-- `synced_at` and `updated_at` of a row. -/
structure RowStamps where
  syncedAt : Timestamp
  updatedAt : Timestamp
  deriving DecidableEq, Repr

/-- The two columns of the four tables. -/
structure DirectoryStamps where
  departments : String → Option RowStamps
  companies : String → Option RowStamps
  /-- By company and `external_key`. -/
  contacts : String × String → Option RowStamps
  /-- By company and department. -/
  relationships : String × String → Option RowStamps

/-- The columns of all the tables of a reconciliation. -/
structure Stamps where
  directory : DirectoryStamps
  /-- `updated_at` of `digisac_contacts`. -/
  digisacContacts : String → Option Timestamp

/-! ## §2. What the deltas write. -/

section Write

variable {η φ : Type} [DecidableEq η]

/-- One table: the rows that come in are upserted at `now`, the current ones
    that do not are marked absent. -/
def stampTable (now : Timestamp) (incoming : List η) (rows : η → Option (DirectoryRow φ))
    (stamps : η → Option RowStamps) (name : η) : Option RowStamps :=
  if name ∈ incoming then some { syncedAt := now, updatedAt := now }
  else if (rows name).any (·.current) then (stamps name).map fun st => { st with updatedAt := now }
  else stamps name

end Write

/-- `_apply_directory_delta` -/
def DirectoryStamps.publish (now : Timestamp) (snapshot : AcessoriasSnapshot) (view : DirectoryView)
    (stamps : DirectoryStamps) : DirectoryStamps where
  departments :=
    stampTable now (snapshot.departmentRows.map (·.1)) view.departments stamps.departments
  companies := stampTable now (snapshot.companyRows.map (·.1)) view.companies stamps.companies
  contacts := stampTable now (snapshot.contactRows.map (·.1)) view.contacts stamps.contacts
  relationships :=
    stampTable now (snapshot.relationshipRows.map (·.1)) view.relationships stamps.relationships

/-- Both deltas; `publishedAt` is `now()` of the database in their transaction. -/
def Stamps.publish (now publishedAt : Timestamp) (snapshot : AcessoriasSnapshot)
    (digisac : DigisacContactBackfillSnapshot) (db : IdentityTables) (stamps : Stamps) : Stamps where
  directory := stamps.directory.publish now snapshot db.directory.view
  digisacContacts := fun externalId =>
    if externalId ∈ digisac.contacts.map (·.externalId) then some publishedAt
    else stamps.digisacContacts externalId

/-! ## §3. When the columns stand. -/

/-- The clocks of the deltas are later than the columns. -/
structure Stamps.Before (stamps : Stamps) (now publishedAt : Timestamp) : Prop where
  departments : ∀ name st, stamps.directory.departments name = some st → st.updatedAt < now
  companies : ∀ name st, stamps.directory.companies name = some st → st.updatedAt < now
  contacts : ∀ name st, stamps.directory.contacts name = some st → st.updatedAt < now
  relationships : ∀ name st, stamps.directory.relationships name = some st → st.updatedAt < now
  digisacContacts : ∀ externalId at', stamps.digisacContacts externalId = some at' → at' < publishedAt

/-- No row of a table is present or active. -/
def Retired {κ φ : Type} (table : Keyed κ (DirectoryRow φ)) : Prop :=
  ∀ e ∈ table.rows, e.value.current = false

/-- No row is upserted, and none is marked absent. -/
structure NothingWritten (snapshot : AcessoriasSnapshot) (digisac : DigisacContactBackfillSnapshot)
    (db : IdentityTables) : Prop where
  noDepartments : snapshot.departments = []
  noCompanies : snapshot.companies = []
  noContacts : digisac.contacts = []
  departments : Retired db.directory.departments
  companies : Retired db.directory.companies
  contacts : Retired db.directory.contacts
  relationships : Retired db.directory.relationships

section Stand

variable {η φ : Type} [DecidableEq η] {now : Timestamp} {incoming : List η}
  {rows : η → Option (DirectoryRow φ)} {stamps : η → Option RowStamps}

/-- A row that comes in shows the clock. -/
theorem stampTable_of_mem {name : η} (h : name ∈ incoming) :
    stampTable now incoming rows stamps name = some { syncedAt := now, updatedAt := now } := by
  unfold stampTable
  rw [if_pos h]

/-- A table of which nothing is written keeps its columns. -/
theorem stampTable_of_quiet (hincoming : incoming = [])
    (hretired : ∀ name row, rows name = some row → row.current = false) :
    stampTable now incoming rows stamps = stamps := by
  funext name
  unfold stampTable
  rw [hincoming, if_neg List.not_mem_nil]
  have hcurrent : (rows name).any (·.current) = false := by
    cases hrow : rows name with
    | none => rfl
    | some row => exact hretired name row hrow
  rw [hcurrent]
  rfl

/-- Columns that stand tell that no row has come in. -/
theorem incoming_of_stampTable (hbefore : ∀ name st, stamps name = some st → st.updatedAt < now)
    (h : stampTable now incoming rows stamps = stamps) : incoming = [] := by
  refine List.eq_nil_iff_forall_not_mem.mpr fun name hname => ?_
  have hstamp := congrFun h name
  rw [stampTable_of_mem hname] at hstamp
  exact lt_irrefl now (hbefore name _ hstamp.symm)

end Stand

variable {snapshot : AcessoriasSnapshot} {digisac : DigisacContactBackfillSnapshot}
  {db : IdentityTables} {stamps : Stamps} {now publishedAt : Timestamp}

theorem Retired.get? {κ φ : Type} [DecidableEq κ] {table : Keyed κ (DirectoryRow φ)}
    (h : Retired table) (k : κ) (row : DirectoryRow φ) (hrow : table.get? k = some row) :
    row.current = false := by
  obtain ⟨e, he, -, rfl⟩ := Keyed.get?_eq_some_iff.mp hrow
  exact h e he

theorem Retired.seen {κ η φ : Type} [DecidableEq κ] {table : Keyed κ (DirectoryRow φ)}
    (h : Retired table) (ref : η → Option κ) (name : η) (row : DirectoryRow φ)
    (hrow : table.seen ref name = some row) : row.current = false := by
  obtain ⟨k, -, hk⟩ := Option.bind_eq_some_iff.mp hrow
  exact h.get? k row hk

/-- **Where nothing is written, every column stands.** -/
theorem NothingWritten.stamps_stand (h : NothingWritten snapshot digisac db) :
    stamps.publish now publishedAt snapshot digisac db = stamps := by
  have hdepartments : snapshot.departmentRows.map (·.1) = [] := by
    unfold AcessoriasSnapshot.departmentRows
    rw [h.noDepartments]
    rfl
  have hcompanies : snapshot.companyRows.map (·.1) = [] := by
    unfold AcessoriasSnapshot.companyRows
    rw [h.noCompanies]
    rfl
  have hcontacts : snapshot.contactRows.map (·.1) = [] := by
    unfold AcessoriasSnapshot.contactRows
    rw [h.noCompanies]
    rfl
  have hrelationships : snapshot.relationshipRows.map (·.1) = [] := by
    unfold AcessoriasSnapshot.relationshipRows
    rw [h.noCompanies]
    rfl
  have hdirectory : stamps.directory.publish now snapshot db.directory.view = stamps.directory := by
    unfold DirectoryStamps.publish DirectoryTables.view
    simp only
    rw [stampTable_of_quiet hdepartments h.departments.get?,
      stampTable_of_quiet hcompanies h.companies.get?,
      stampTable_of_quiet hcontacts (h.contacts.seen db.directory.contactRef),
      stampTable_of_quiet hrelationships (h.relationships.seen db.directory.relationshipRef)]
  unfold Stamps.publish
  rw [hdirectory, h.noContacts]
  rfl

/-- Columns that stand tell that no row was upserted. -/
theorem upserts_of_stamps_stand (hbefore : stamps.Before now publishedAt)
    (h : stamps.publish now publishedAt snapshot digisac db = stamps) :
    snapshot.departments = [] ∧ snapshot.companies = [] ∧ digisac.contacts = [] := by
  have hdirectory := congrArg Stamps.directory h
  refine ⟨?_, ?_, ?_⟩
  · have hnone := incoming_of_stampTable hbefore.departments
      (congrArg DirectoryStamps.departments hdirectory)
    exact List.map_eq_nil_iff.mp (List.map_eq_nil_iff.mp hnone)
  · have hnone := incoming_of_stampTable hbefore.companies
      (congrArg DirectoryStamps.companies hdirectory)
    exact List.map_eq_nil_iff.mp (List.map_eq_nil_iff.mp hnone)
  · refine List.eq_nil_iff_forall_not_mem.mpr fun contact hcontact => ?_
    have hmem : contact.externalId ∈ digisac.contacts.map (·.externalId) :=
      List.mem_map_of_mem hcontact
    have hstamp := congrFun (congrArg Stamps.digisacContacts h) contact.externalId
    simp only [Stamps.publish, if_pos hmem] at hstamp
    exact lt_irrefl publishedAt (hbefore.digisacContacts _ _ hstamp.symm)

end Cai.Reconciliation
