/-
  Cai.Reconciliation.Plan — what a manual reconciliation says it would do.

  `build_reconciliation_plan` of `src/core/digisac_acessorias_reconciliation.py`
  compares the rows of two complete snapshots with the rows of the tables.
  It compares by itself: nothing of the upserts is called, and the merge of
  a DigiSac contact is written a second time in `_contact_change_kind`.
  The two hashes of the plan are left out.

  Main result: `buildReconciliationPlan_ok_iff`.
-/
import Mathlib.Data.List.Sort
import Mathlib.Data.Prod.Lex
import Mathlib.Data.String.Basic
import Cai.Lib.Dictionary
import Cai.Directory.Contacts
import Cai.Directory.Refinement
import Cai.Identity.Links

namespace Cai.Reconciliation

open Cai.Lib
open Cai.Cycle (Timestamp)
open Cai.Directory
open Cai.Identity (IdentityTables LinkState)

/-! ## §1. The DigiSac snapshot. -/

/-- `DigisacContactBackfillSnapshot`: complete and deduplicated. -/
structure DigisacContactBackfillSnapshot where
  contacts : List DigisacContact
  duplicateCount : Nat := 0
  unique : (contacts.map (·.externalId)).Nodup
  deriving DecidableEq

/-- `preferred` and `fallback`: the newer of two duplicates comes first. -/
def preferDuplicate (existing incoming : DigisacContact) : DigisacContact × DigisacContact :=
  match existing.providerUpdatedAt, incoming.providerUpdatedAt with
  | some old, some new => if old < new then (incoming, existing) else (existing, incoming)
  | none, some _ => (incoming, existing)
  | _, none => (existing, incoming)

/-- `_merge_duplicate_contacts` -/
def mergeDuplicateContacts (existing incoming : DigisacContact) : DigisacContact :=
  let preferred := (preferDuplicate existing incoming).1
  let fallback := (preferDuplicate existing incoming).2
  { preferred with
    toProviderFields := ProviderFields.build fun f => (preferred.get f).or (fallback.get f) }

/-- One contact of the loop over the pages: `contacts_by_id` and `duplicate_count`. -/
def collectContact (s : List (String × DigisacContact) × Nat) (contact : DigisacContact) :
    List (String × DigisacContact) × Nat :=
  match s.1.lookup contact.externalId with
  | some existing =>
      (assign s.1 (contact.externalId, mergeDuplicateContacts existing contact), s.2 + 1)
  | none => (assign s.1 (contact.externalId, contact), s.2)

/-- The items of `contacts_by_id`: no key twice, each value under its own id. -/
structure ById (items : List (String × DigisacContact)) : Prop where
  keys : (items.map (·.1)).Nodup
  own : ∀ item ∈ items, item.2.externalId = item.1

theorem externalId_mergeDuplicateContacts {existing incoming : DigisacContact}
    (h : existing.externalId = incoming.externalId) :
    (mergeDuplicateContacts existing incoming).externalId = incoming.externalId := by
  show (preferDuplicate existing incoming).1.externalId = incoming.externalId
  unfold preferDuplicate
  split
  next =>
    split
    next => rfl
    next => exact h
  next => rfl
  next => exact h

theorem ById.assign {items : List (String × DigisacContact)} (h : ById items)
    {contact : DigisacContact} : ById (assign items (contact.externalId, contact)) := by
  refine ⟨nodup_assign h.keys _, fun item hitem => ?_⟩
  rcases mem_assign hitem with rfl | hold
  · rfl
  · exact h.own item hold

/-- One round keeps the dictionary by id. -/
theorem ById.collectContact {s : List (String × DigisacContact) × Nat} (h : ById s.1)
    (contact : DigisacContact) : ById (collectContact s contact).1 := by
  unfold Reconciliation.collectContact
  split
  next existing hfind =>
    have hid : existing.externalId = contact.externalId := h.own _ (mem_of_lookup hfind)
    have hmerged := externalId_mergeDuplicateContacts hid
    show ById (Lib.assign s.1 (contact.externalId, mergeDuplicateContacts existing contact))
    rw [← hmerged]
    exact h.assign
  next => exact h.assign

theorem ById.collect {contacts : List DigisacContact} {s : List (String × DigisacContact) × Nat}
    (h : ById s.1) : ById (contacts.foldl Reconciliation.collectContact s).1 := by
  induction contacts generalizing s with
  | nil => exact h
  | cons contact contacts ih => exact ih (h.collectContact contact)

/-- What `acquire_contact_backfill` makes of the contacts of its pages. -/
def collectContacts (contacts : List DigisacContact) : DigisacContactBackfillSnapshot where
  contacts := (contacts.foldl collectContact ([], 0)).1.map (·.2)
  duplicateCount := (contacts.foldl collectContact ([], 0)).2
  unique := by
    have hcollected : ById (contacts.foldl collectContact ([], 0)).1 :=
      ById.collect ⟨List.nodup_nil, fun item hitem => absurd hitem List.not_mem_nil⟩
    rw [List.map_map, List.map_congr_left (g := (·.1)) hcollected.own]
    exact hcollected.keys

/-! ## §2. Counts. -/

/-- The keys of `resource_counts[…]`. -/
inductive ChangeKind
  | new
  | changed
  | unchanged
  /-- A contact that is older than its row. -/
  | older
  /-- A contact without a timestamp that fills gaps of its row. -/
  | unordered
  deriving DecidableEq, Repr

/-- `resource_counts[…]`; a key that it does not have counts zero. -/
structure Counts where
  new : Nat := 0
  changed : Nat := 0
  unchanged : Nat := 0
  older : Nat := 0
  unordered : Nat := 0
  deriving DecidableEq, Repr

namespace Counts

/-- `counts[kind]` -/
def get (counts : Counts) : ChangeKind → Nat
  | .new => counts.new
  | .changed => counts.changed
  | .unchanged => counts.unchanged
  | .older => counts.older
  | .unordered => counts.unordered

/-- `counts[kind] = counts.get(kind, 0) + 1` -/
def increment (counts : Counts) : ChangeKind → Counts
  | .new => { counts with new := counts.new + 1 }
  | .changed => { counts with changed := counts.changed + 1 }
  | .unchanged => { counts with unchanged := counts.unchanged + 1 }
  | .older => { counts with older := counts.older + 1 }
  | .unordered => { counts with unordered := counts.unordered + 1 }

theorem get_increment (counts : Counts) (kind k : ChangeKind) :
    (counts.increment kind).get k = counts.get k + if kind = k then 1 else 0 := by
  cases kind <;> cases k <;> rfl

end Counts

/-- The loop over the items of one resource. -/
def countChanges {β : Type} (kind : β → ChangeKind) (items : List β) : Counts :=
  items.foldl (fun counts item => counts.increment (kind item)) {}

theorem get_countChanges {β : Type} (kind : β → ChangeKind) (items : List β) (k : ChangeKind) :
    (countChanges kind items).get k = (items.map kind).count k := by
  have hloop : ∀ counts : Counts,
      (items.foldl (fun counts item => counts.increment (kind item)) counts).get k
        = counts.get k + (items.map kind).count k := by
    induction items with
    | nil => exact fun counts => rfl
    | cons item items ih =>
        intro counts
        rw [List.foldl_cons, ih, Counts.get_increment, List.map_cons, List.count_cons]
        simp only [beq_iff_eq]
        omega
  have hzero : Counts.get {} k = 0 := by cases k <;> rfl
  unfold countChanges
  rw [hloop, hzero, Nat.zero_add]

/-- Only the items count, not their order. -/
theorem countChanges_perm {β : Type} (kind : β → ChangeKind) {items items' : List β}
    (h : items.Perm items') : countChanges kind items = countChanges kind items' := by
  have hget : ∀ k, (countChanges kind items).get k = (countChanges kind items').get k := by
    intro k
    rw [get_countChanges, get_countChanges]
    exact (h.map kind).count_eq k
  have hext : ∀ counts counts' : Counts, (∀ k, counts.get k = counts'.get k) → counts = counts' := by
    rintro ⟨_, _, _, _, _⟩ ⟨_, _, _, _, _⟩ h
    rw [Counts.mk.injEq]
    exact ⟨h .new, h .changed, h .unchanged, h .older, h .unordered⟩
  exact hext _ _ hget

/-! ## §3. The kind of a row. -/

/-- A row of one of the four tables: `differs` is the condition for a change. -/
def rowKind {φ : Type} (differs : DirectoryRow φ → Bool) : Option (DirectoryRow φ) → ChangeKind
  | none => .new
  | some row => if differs row then .changed else .unchanged

/-- The row is not present, or not active. -/
def unavailable {φ : Type} (row : DirectoryRow φ) : Bool :=
  !row.isPresent || !(row.isActive == some true)

/-- A company; `is_active` is one of `_access_company_fields`. -/
def companyKind (company : AcessoriasCompany) : Option (DirectoryRow CompanyFields) → ChangeKind :=
  rowKind fun row =>
    (company.toCompanyFields, company.isActive) != (row.fields, row.isActive) || !row.isPresent

def departmentKind (department : AcessoriasDepartment) :
    Option (DirectoryRow DepartmentFields) → ChangeKind :=
  rowKind fun row =>
    department.toDepartmentFields != row.fields || unavailable row

def contactKind (contact : AcessoriasContact) : Option (DirectoryRow ContactFields) → ChangeKind :=
  rowKind fun row => contact.toContactFields != row.fields || unavailable row

def relationshipKind : Option (DirectoryRow Unit) → ChangeKind :=
  rowKind unavailable

/-- `value` of a field: what the row would hold. -/
def plannedField {α : Type} (older unordered : Bool) (stored incoming : Option α) : Option α :=
  if incoming.isNone || older || (unordered && stored.isSome) then stored else incoming

/-- `changed`, after the loop over the fields. -/
def fieldsChange (older unordered : Bool) (row contact : ProviderFields) : Bool :=
  ProviderFields.names.foldl (fun changed f =>
    if plannedField older unordered (row.get f) (contact.get f) ≠ row.get f then true
    else changed) false

/-- `_contact_change_kind` -/
def contactChangeKind (contact : DigisacContact) : Option DigisacRow → ChangeKind
  | none => .new
  | some row =>
      let older := older row.fields.providerUpdatedAt contact.providerUpdatedAt
      let unordered := unordered row.fields.providerUpdatedAt contact.providerUpdatedAt
      let changed := fieldsChange older unordered row.fields contact.toProviderFields
      if older then .older
      else if unordered then if changed then .unordered else .unchanged
      else if changed then .changed else .unchanged

/-! ## §4. The plan. -/

/-- The company of a contact and its `external_key`: the columns of the JOIN. -/
def contactName (directory : DirectoryTables) (key : Nat × String) : Option (String × String) :=
  (directory.companies.keyOf key.1).map fun company => (company, key.2)

def relationshipName (directory : DirectoryTables) (key : Nat × Nat) : Option (String × String) :=
  (directory.companies.keyOf key.1).bind fun company =>
    (directory.departments.keyOf key.2).map fun department => (company, department)

/-- What `_load_directory_rows` returns, but for the number of links. -/
structure DirectoryRows where
  companies : List (String × DirectoryRow CompanyFields)
  departments : List (String × DirectoryRow DepartmentFields)
  contacts : List ((String × String) × DirectoryRow ContactFields)
  relationships : List ((String × String) × DirectoryRow Unit)

/-- `_load_directory_rows` -/
def loadDirectoryRows (directory : DirectoryTables) : DirectoryRows where
  companies := dictionary (directory.companies.named some)
  departments := dictionary (directory.departments.named some)
  contacts := dictionary (directory.contacts.named (contactName directory))
  relationships := dictionary (directory.relationships.named (relationshipName directory))

/-- `ReconciliationPlan`; the five counts are its `resources`. -/
structure ReconciliationPlan where
  companies : Counts
  departments : Counts
  contacts : Counts
  relationships : Counts
  digisacContacts : Counts
  historicalRetainedCount : Nat
  confirmedLinkCount : Nat
  deriving DecidableEq, Repr

namespace ReconciliationPlan

variable (plan : ReconciliationPlan)

/-- `resources.values()` -/
def resources : List Counts :=
  [plan.companies, plan.departments, plan.contacts, plan.relationships, plan.digisacContacts]

def newCount : Nat := (plan.resources.map (·.new)).sum

def changedCount : Nat := (plan.resources.map (·.changed)).sum

def unchangedCount : Nat := (plan.resources.map (·.unchanged)).sum

end ReconciliationPlan

/-- `(company.external_id, contact.external_key)` and its contact. -/
def namedContacts (snapshot : AcessoriasSnapshot) : List ((String × String) × AcessoriasContact) :=
  snapshot.companies.flatMap fun company =>
    company.contacts.map fun contact => ((company.externalId, contact.externalKey), contact)

/-- `(company.external_id, department_id)` -/
def namedRelationships (snapshot : AcessoriasSnapshot) : List (String × String) :=
  snapshot.companies.flatMap fun company =>
    company.departmentIds.map fun d => (company.externalId, d)

/-- `build_reconciliation_plan` -/
def buildReconciliationPlan (raises : Statement → Bool) (snapshot : AcessoriasSnapshot)
    (digisac : DigisacContactBackfillSnapshot) (db : IdentityTables) :
    Except DirectoryError ReconciliationPlan := do
  validateSnapshot snapshot
  execute raises .read true
  let rows := loadDirectoryRows db.directory
  let companies := dictionary (snapshot.companies.map fun company => (company.externalId, company))
  let departments :=
    dictionary (snapshot.departments.map fun department => (department.externalId, department))
  let contacts := dictionary (namedContacts snapshot)
  let relationships := (namedRelationships snapshot).dedup
  let digisacRows := dictionary (db.digisacContacts.named some)
  return {
    companies := countChanges (fun item => companyKind item.2 (rowOf rows.companies item.1))
      (companies.insertionSort (·.1 ≤ ·.1))
    departments := countChanges (fun item => departmentKind item.2 (rowOf rows.departments item.1))
      (departments.insertionSort (·.1 ≤ ·.1))
    contacts := countChanges (fun item => contactKind item.2 (rowOf rows.contacts item.1))
      (contacts.insertionSort fun a b => toLex a.1 ≤ toLex b.1)
    relationships := countChanges (fun key => relationshipKind (rowOf rows.relationships key))
      (relationships.insertionSort fun a b => toLex a ≤ toLex b)
    digisacContacts := countChanges
      (fun contact => contactChangeKind contact (rowOf digisacRows contact.externalId))
      (digisac.contacts.insertionSort (·.externalId ≤ ·.externalId))
    historicalRetainedCount :=
      countMissing rows.companies (companies.map (·.1))
        + countMissing rows.departments (departments.map (·.1))
        + countMissing rows.contacts (contacts.map (·.1))
        + countMissing rows.relationships relationships
    confirmedLinkCount := db.links.rows.countP (·.value.status.state = .confirmed) }

/-! ## §5. What the plan counts. -/

section Planned

variable {directory : DirectoryTables} {snapshot : AcessoriasSnapshot}

/-- The JOIN names the keys as the foreign keys refer to them. -/
theorem contactName_eq_some_iff (k : Nat × String) (n : String × String) :
    contactName directory k = some n ↔ directory.contactRef n = some k := by
  unfold contactName DirectoryTables.contactRef
  rw [Option.map_eq_some_iff, Option.map_eq_some_iff]
  constructor
  · rintro ⟨company, hkey, rfl⟩
    exact ⟨k.1, Keyed.keyOf_eq_some_iff.mp hkey, rfl⟩
  · rintro ⟨companyId, hid, rfl⟩
    exact ⟨n.1, Keyed.keyOf_eq_some_iff.mpr hid, rfl⟩

theorem relationshipName_eq_some_iff (k : Nat × Nat) (n : String × String) :
    relationshipName directory k = some n ↔ directory.relationshipRef n = some k := by
  rw [relationshipRef_eq_some_iff]
  unfold relationshipName
  rw [Option.bind_eq_some_iff]
  constructor
  · rintro ⟨company, hcompany, hmap⟩
    obtain ⟨department, hdepartment, rfl⟩ := Option.map_eq_some_iff.mp hmap
    exact ⟨Keyed.keyOf_eq_some_iff.mp hcompany, Keyed.keyOf_eq_some_iff.mp hdepartment⟩
  · rintro ⟨hcompany, hdepartment⟩
    exact ⟨n.1, Keyed.keyOf_eq_some_iff.mpr hcompany,
      Option.map_eq_some_iff.mpr ⟨n.2, Keyed.keyOf_eq_some_iff.mpr hdepartment, rfl⟩⟩

/-- The rows that a SELECT reads into a dictionary: no name twice, each found
    as the table is seen. -/
structure Reads {η ρ : Type} [DecidableEq η] (rows : List (η × ρ)) (seen : η → Option ρ) : Prop where
  nodup : (rows.map (·.1)).Nodup
  rowOf : ∀ n, rowOf rows n = seen n

theorem reads_named {κ η ρ : Type} [DecidableEq κ] [DecidableEq η] {name : κ → Option η}
    {ref : η → Option κ} (table : Keyed κ ρ) (hname : ∀ k n, name k = some n ↔ ref n = some k) :
    Reads (dictionary (table.named name)) (table.seen ref) := by
  have hnodup := Keyed.nodup_named table fun k k' n h h' =>
    Option.some.inj (((hname k n).mp h).symm.trans ((hname k' n).mp h'))
  rw [dictionary_of_nodup hnodup]
  exact ⟨hnodup, fun _ => Keyed.rowOf_named table hname⟩

theorem reads_keys {κ ρ : Type} [DecidableEq κ] (table : Keyed κ ρ) :
    Reads (dictionary (table.named some)) table.get? :=
  reads_named table fun _ _ => ⟨fun h => congrArg some (Option.some.inj h).symm,
    fun h => congrArg some (Option.some.inj h).symm⟩

theorem reads_contacts (directory : DirectoryTables) :
    Reads (loadDirectoryRows directory).contacts directory.view.contacts :=
  reads_named directory.contacts contactName_eq_some_iff

theorem reads_relationships (directory : DirectoryTables) :
    Reads (loadDirectoryRows directory).relationships directory.view.relationships :=
  reads_named directory.relationships relationshipName_eq_some_iff

/-- A validated snapshot names no contact twice. -/
theorem nodup_namedContacts (h : Validated snapshot) :
    ((namedContacts snapshot).map (·.1)).Nodup := by
  unfold namedContacts
  rw [List.map_flatMap, List.nodup_flatMap]
  constructor
  · intro company hcompany
    rw [List.map_map]
    refine List.Nodup.of_map (·.2) ?_
    rw [List.map_map]
    exact h.contacts company hcompany
  · refine (List.pairwise_map.mp h.companies).imp fun hne => ?_
    intro n hn hn'
    simp only [List.map_map] at hn hn'
    obtain ⟨_, -, rfl⟩ := List.mem_map.mp hn
    obtain ⟨_, -, heq⟩ := List.mem_map.mp hn'
    exact hne (Prod.mk.inj heq).1.symm

/-- The names of a dictionary that a snapshot lacks. -/
theorem Reads.countMissing {η ρ : Type} [DecidableEq η] {rows : List (η × ρ)}
    {seen : η → Option ρ} (h : Reads rows seen) (names : List η) :
    Lib.countMissing rows names = {n | seen n ≠ none ∧ n ∉ names}.ncard := by
  rw [countMissing_eq_ncard h.nodup]
  simp only [h.rowOf]

/-- The rows of the directory that a snapshot lacks. -/
noncomputable def retained (view : DirectoryView) (snapshot : AcessoriasSnapshot) : Nat :=
  {n | view.companies n ≠ none ∧ n ∉ snapshot.companies.map (·.externalId)}.ncard
    + {n | view.departments n ≠ none ∧ n ∉ snapshot.departments.map (·.externalId)}.ncard
    + {n | view.contacts n ≠ none ∧ n ∉ (namedContacts snapshot).map (·.1)}.ncard
    + {n | view.relationships n ≠ none ∧ n ∉ namedRelationships snapshot}.ncard

/-- The kind of every row that the two snapshots name. -/
structure Kinds where
  companies : List (String × ChangeKind)
  departments : List (String × ChangeKind)
  contacts : List ((String × String) × ChangeKind)
  relationships : List ((String × String) × ChangeKind)
  digisacContacts : List (String × ChangeKind)

/-- The kinds that the plan finds. -/
def plannedKinds (snapshot : AcessoriasSnapshot) (digisac : DigisacContactBackfillSnapshot)
    (db : IdentityTables) : Kinds where
  companies := snapshot.companies.map fun company =>
    (company.externalId, companyKind company (db.directory.view.companies company.externalId))
  departments := snapshot.departments.map fun department =>
    (department.externalId,
      departmentKind department (db.directory.view.departments department.externalId))
  contacts := (namedContacts snapshot).map fun item =>
    (item.1, contactKind item.2 (db.directory.view.contacts item.1))
  relationships := (namedRelationships snapshot).dedup.map fun n =>
    (n, relationshipKind (db.directory.view.relationships n))
  digisacContacts := digisac.contacts.map fun contact =>
    (contact.externalId,
      contactChangeKind contact (db.digisacContacts.get? contact.externalId))

/-- The counts are those of the kinds. -/
def Counts.Of {η : Type} (counts : Counts) (kinds : List (η × ChangeKind)) : Prop :=
  ∀ k, counts.get k = (kinds.map (·.2)).count k

theorem counts_of {η β : Type} {kind : β → ChangeKind} {items sorted : List β}
    {kinds : List (η × ChangeKind)} (hsorted : sorted.Perm items)
    (hkinds : kinds.map (·.2) = items.map kind) : (countChanges kind sorted).Of kinds := by
  intro k
  rw [countChanges_perm kind hsorted, get_countChanges, hkinds]

/-- **What a plan counts**: each row that the snapshots name under its kind,
    and the rows of the directory that they lack. -/
structure Planned (snapshot : AcessoriasSnapshot) (digisac : DigisacContactBackfillSnapshot)
    (db : IdentityTables) (plan : ReconciliationPlan) : Prop where
  companies : plan.companies.Of (plannedKinds snapshot digisac db).companies
  departments : plan.departments.Of (plannedKinds snapshot digisac db).departments
  contacts : plan.contacts.Of (plannedKinds snapshot digisac db).contacts
  relationships : plan.relationships.Of (plannedKinds snapshot digisac db).relationships
  digisacContacts : plan.digisacContacts.Of (plannedKinds snapshot digisac db).digisacContacts
  retained : plan.historicalRetainedCount = retained db.directory.view snapshot

variable {raises : Statement → Bool} {digisac : DigisacContactBackfillSnapshot}
  {db : IdentityTables} {plan : ReconciliationPlan}

/-- A plan is built from validated snapshots, and counts their rows. -/
theorem buildReconciliationPlan_ok
    (h : buildReconciliationPlan raises snapshot digisac db = .ok plan) :
    Validated snapshot ∧ Planned snapshot digisac db plan := by
  unfold buildReconciliationPlan at h
  obtain ⟨_, hvalidate, h⟩ := bind_eq_ok_iff.mp h
  obtain ⟨_, -, h⟩ := bind_eq_ok_iff.mp h
  have hvalid : Validated snapshot := validateSnapshot_ok_iff.mp hvalidate
  refine ⟨hvalid, ?_⟩
  -- the dictionaries of the snapshot have its items
  have hcompanies : dictionary (snapshot.companies.map fun company => (company.externalId, company))
      = snapshot.companies.map fun company => (company.externalId, company) := by
    apply dictionary_of_nodup
    rw [List.map_map]
    exact hvalid.companies
  have hdepartments :
      dictionary (snapshot.departments.map fun department => (department.externalId, department))
        = snapshot.departments.map fun department => (department.externalId, department) := by
    apply dictionary_of_nodup
    rw [List.map_map]
    exact hvalid.departments
  have hcontacts := dictionary_of_nodup (nodup_namedContacts hvalid)
  have hreadCompanies : Reads (loadDirectoryRows db.directory).companies
      db.directory.view.companies := reads_keys db.directory.companies
  have hreadDepartments : Reads (loadDirectoryRows db.directory).departments
      db.directory.view.departments := reads_keys db.directory.departments
  have hreadContacts := reads_contacts db.directory
  have hreadRelationships := reads_relationships db.directory
  have hreadDigisac := reads_keys db.digisacContacts
  rw [← pure_eq_ok_iff.mp h, hcompanies, hdepartments, hcontacts]
  constructor
  · refine counts_of (List.perm_insertionSort _ _) ?_
    simp only [plannedKinds, List.map_map, Function.comp_def, hreadCompanies.rowOf]
  · refine counts_of (List.perm_insertionSort _ _) ?_
    simp only [plannedKinds, List.map_map, Function.comp_def, hreadDepartments.rowOf]
  · refine counts_of (List.perm_insertionSort _ _) ?_
    simp only [plannedKinds, List.map_map, Function.comp_def, hreadContacts.rowOf]
  · refine counts_of (List.perm_insertionSort _ _) ?_
    simp only [plannedKinds, List.map_map, Function.comp_def, hreadRelationships.rowOf]
  · refine counts_of (List.perm_insertionSort _ _) ?_
    simp only [plannedKinds, List.map_map, Function.comp_def, hreadDigisac.rowOf]
  · unfold Reconciliation.retained
    simp only [hreadCompanies.countMissing, hreadDepartments.countMissing,
      hreadContacts.countMissing, hreadRelationships.countMissing, List.map_map,
      List.mem_dedup, Function.comp_def]

/-- Unless a SELECT fails, a validated snapshot has a plan. -/
theorem exists_plan (hvalid : Validated snapshot) (hread : raises .read = false) :
    ∃ plan, buildReconciliationPlan raises snapshot digisac db = .ok plan := by
  unfold buildReconciliationPlan
  simp only [bind_eq_ok_iff, pure_eq_ok_iff, execute_eq_ok_iff, and_true]
  exact ⟨_, (), validateSnapshot_ok_iff.mpr hvalid, (), hread, rfl⟩

end Planned

end Cai.Reconciliation
