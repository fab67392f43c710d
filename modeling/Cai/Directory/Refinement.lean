/-
  Cai.Directory.Refinement — both publishers publish the snapshot.

  The tables that `_publish_snapshot` and `_apply_directory_delta` leave
  are those that the rows of the snapshot have taken over
  (`TablesTaken`), and their view is `DirectoryView.publish`.  The ids of
  the two may differ: a view has none.

  Main results: `publishSnapshot_published`, `applyDirectoryDelta_published`.
-/
import Cai.Lib.Lists
import Cai.Directory.Loading

namespace Cai.Directory

open Cai.Lib
open Cai.Lib.Keyed (TakenOver)

variable {raises : Statement → Bool} {db after : DirectoryTables} {snapshot : AcessoriasSnapshot}

/-! ## §1. The rows of a validated snapshot. -/

section Rows

theorem mem_departmentRows {a : String × DirectoryRow DepartmentFields} :
    a ∈ snapshot.departmentRows ↔ ∃ department ∈ snapshot.departments, keyedDepartment department = a :=
  List.mem_map

theorem mem_companyRows {a : String × DirectoryRow CompanyFields} :
    a ∈ snapshot.companyRows ↔ ∃ company ∈ snapshot.companies, keyedCompany company = a :=
  List.mem_map

theorem mem_contactRows {a : (String × String) × DirectoryRow ContactFields} :
    a ∈ snapshot.contactRows ↔ ∃ company ∈ snapshot.companies, ∃ contact ∈ company.contacts,
      ((company.externalId, contact.externalKey), contact.row) = a := by
  unfold AcessoriasSnapshot.contactRows
  simp only [List.mem_flatMap, List.mem_map]

theorem mem_relationshipRows {a : (String × String) × DirectoryRow Unit} :
    a ∈ snapshot.relationshipRows ↔ ∃ company ∈ snapshot.companies, ∃ d ∈ company.departmentIds,
      ((company.externalId, d), relationshipRow) = a := by
  unfold AcessoriasSnapshot.relationshipRows
  simp only [List.mem_flatMap, List.mem_map]

theorem mem_keyedContacts {companyIds : Ids} {a : (Nat × String) × DirectoryRow ContactFields} :
    a ∈ snapshot.keyedContacts companyIds ↔ ∃ company ∈ snapshot.companies,
      ∃ contact ∈ company.contacts, contactRow (companyIds.get company.externalId) contact = a := by
  unfold AcessoriasSnapshot.keyedContacts keyedContacts
  simp only [List.mem_flatMap, List.mem_map]

theorem mem_keyedRelationships {departmentIds companyIds : Ids}
    {a : (Nat × Nat) × DirectoryRow Unit} :
    a ∈ snapshot.keyedRelationships departmentIds companyIds ↔ ∃ company ∈ snapshot.companies,
      ∃ d ∈ company.departmentIds,
        keyedRelationship departmentIds (companyIds.get company.externalId) d = a := by
  unfold AcessoriasSnapshot.keyedRelationships keyedRelationships
  simp only [List.mem_flatMap, List.mem_map]

theorem Validated.departmentRows (h : Validated snapshot) : Consistent snapshot.departmentRows := by
  apply consistent_of_nodup
  unfold AcessoriasSnapshot.departmentRows
  rw [List.map_map]
  exact h.departments

theorem Validated.companyRows (h : Validated snapshot) : Consistent snapshot.companyRows := by
  apply consistent_of_nodup
  unfold AcessoriasSnapshot.companyRows
  rw [List.map_map]
  exact h.companies

theorem Validated.contactRows (h : Validated snapshot) : Consistent snapshot.contactRows := by
  intro a ha b hb hkey
  obtain ⟨company, hcompany, contact, hcontact, rfl⟩ := mem_contactRows.mp ha
  obtain ⟨company', hcompany', contact', hcontact', rfl⟩ := mem_contactRows.mp hb
  obtain ⟨hid, hexternal⟩ := Prod.mk.inj hkey
  -- the company of a key, and then its contact
  obtain rfl : company = company' := List.inj_on_of_nodup_map h.companies hcompany hcompany' hid
  obtain rfl : contact = contact' :=
    List.inj_on_of_nodup_map (h.contacts company hcompany) hcontact hcontact' hexternal
  rfl

/-- A relationship may be named twice: it has no columns. -/
theorem consistent_relationshipRows (snapshot : AcessoriasSnapshot) :
    Consistent snapshot.relationshipRows := by
  intro a ha b hb _
  obtain ⟨_, _, _, _, rfl⟩ := mem_relationshipRows.mp ha
  obtain ⟨_, _, _, _, rfl⟩ := mem_relationshipRows.mp hb
  rfl

/-! ## §2. The order of the snapshot. -/

theorem mem_sorted_companies {company : AcessoriasCompany} :
    company ∈ snapshot.sorted.companies ↔ ∃ c ∈ snapshot.companies, c.sorted = company := by
  unfold AcessoriasSnapshot.sorted
  simp only [List.mem_map, List.mem_insertionSort]

theorem mem_sorted_contacts {company : AcessoriasCompany} {contact : AcessoriasContact} :
    contact ∈ company.sorted.contacts ↔ contact ∈ company.contacts :=
  List.mem_insertionSort _

theorem mem_sorted_departmentIds {company : AcessoriasCompany} {d : String} :
    d ∈ company.sorted.departmentIds ↔ d ∈ company.departmentIds :=
  List.mem_insertionSort _

theorem mem_sorted_departmentRows {a : String × DirectoryRow DepartmentFields} :
    a ∈ snapshot.sorted.departmentRows ↔ a ∈ snapshot.departmentRows := by
  rw [mem_departmentRows, mem_departmentRows]
  unfold AcessoriasSnapshot.sorted
  simp only [List.mem_insertionSort]

theorem mem_sorted_companyRows {a : String × DirectoryRow CompanyFields} :
    a ∈ snapshot.sorted.companyRows ↔ a ∈ snapshot.companyRows := by
  rw [mem_companyRows, mem_companyRows]
  constructor
  · rintro ⟨company, hcompany, rfl⟩
    obtain ⟨c, hc, rfl⟩ := mem_sorted_companies.mp hcompany
    exact ⟨c, hc, rfl⟩
  · rintro ⟨c, hc, rfl⟩
    exact ⟨c.sorted, mem_sorted_companies.mpr ⟨c, hc, rfl⟩, rfl⟩

theorem mem_sorted_contactRows {a : (String × String) × DirectoryRow ContactFields} :
    a ∈ snapshot.sorted.contactRows ↔ a ∈ snapshot.contactRows := by
  rw [mem_contactRows, mem_contactRows]
  constructor
  · rintro ⟨company, hcompany, contact, hcontact, rfl⟩
    obtain ⟨c, hc, rfl⟩ := mem_sorted_companies.mp hcompany
    exact ⟨c, hc, contact, mem_sorted_contacts.mp hcontact, rfl⟩
  · rintro ⟨c, hc, contact, hcontact, rfl⟩
    exact ⟨c.sorted, mem_sorted_companies.mpr ⟨c, hc, rfl⟩, contact,
      mem_sorted_contacts.mpr hcontact, rfl⟩

theorem mem_sorted_relationshipRows {a : (String × String) × DirectoryRow Unit} :
    a ∈ snapshot.sorted.relationshipRows ↔ a ∈ snapshot.relationshipRows := by
  rw [mem_relationshipRows, mem_relationshipRows]
  constructor
  · rintro ⟨company, hcompany, d, hd, rfl⟩
    obtain ⟨c, hc, rfl⟩ := mem_sorted_companies.mp hcompany
    exact ⟨c, hc, d, mem_sorted_departmentIds.mp hd, rfl⟩
  · rintro ⟨c, hc, d, hd, rfl⟩
    exact ⟨c.sorted, mem_sorted_companies.mpr ⟨c, hc, rfl⟩, d, mem_sorted_departmentIds.mpr hd, rfl⟩

theorem Validated.sorted (h : Validated snapshot) : Validated snapshot.sorted where
  departments := nodup_map_insertionSort h.departments
  companies := by
    unfold AcessoriasSnapshot.sorted
    rw [List.map_map]
    exact nodup_map_insertionSort (f := fun company : AcessoriasCompany => company.externalId) h.companies
  providers := by
    unfold AcessoriasSnapshot.sorted
    rw [List.map_map]
    exact nodup_map_insertionSort (f := fun company : AcessoriasCompany => company.providerId) h.providers
  parents := by
    intro company hcompany d hd
    obtain ⟨c, hc, rfl⟩ := mem_sorted_companies.mp hcompany
    obtain ⟨department, hdepartment, hid⟩ :=
      List.mem_map.mp (h.parents c hc d (mem_sorted_departmentIds.mp hd))
    exact List.mem_map.mpr ⟨department, (List.mem_insertionSort _).mpr hdepartment, hid⟩
  contacts := by
    intro company hcompany
    obtain ⟨c, hc, rfl⟩ := mem_sorted_companies.mp hcompany
    exact nodup_map_insertionSort (h.contacts c hc)

/-- Only the rows of a snapshot count, not their order. -/
theorem publish_sorted (h : Validated snapshot) (view : DirectoryView) :
    view.publish snapshot.sorted = view.publish snapshot := by
  have hdepartments := lookup_congr h.sorted.departmentRows h.departmentRows
    fun _ => mem_sorted_departmentRows
  have hcompanies := lookup_congr h.sorted.companyRows h.companyRows fun _ => mem_sorted_companyRows
  have hcontacts := lookup_congr h.sorted.contactRows h.contactRows fun _ => mem_sorted_contactRows
  have hrelationships := lookup_congr (consistent_relationshipRows snapshot.sorted)
    (consistent_relationshipRows snapshot) fun _ => mem_sorted_relationshipRows
  unfold DirectoryView.publish Keyed.replaced
  simp only [hdepartments, hcompanies, hcontacts, hrelationships]

end Rows

/-! ## §3. Tables that a snapshot has taken over. -/

/-- The rows of the snapshot have taken over the four tables; `departmentIds`
    and `companyIds` are the ids of its departments and companies. -/
structure TablesTaken (snapshot : AcessoriasSnapshot) (departmentIds companyIds : Ids)
    (db after : DirectoryTables) : Prop where
  departments :
    TakenOver DirectoryRow.absent snapshot.departmentRows db.departments after.departments
  companies : TakenOver DirectoryRow.absent snapshot.companyRows db.companies after.companies
  contacts : TakenOver DirectoryRow.absent (snapshot.keyedContacts companyIds) db.contacts
    after.contacts
  relationships : TakenOver DirectoryRow.absent
    (snapshot.keyedRelationships departmentIds companyIds) db.relationships after.relationships

/-- The dictionaries of ids are right. -/
structure IdsKnown (snapshot : AcessoriasSnapshot) (departmentIds companyIds : Ids)
    (after : DirectoryTables) : Prop where
  companies : ∀ company ∈ snapshot.companies,
    after.companies.idOf company.externalId = some (companyIds.get company.externalId)
  departments : ∀ d ∈ snapshot.departments.map (·.externalId),
    after.departments.idOf d = some (departmentIds.get d)

section Taken

variable {departmentIds companyIds : Ids}

/-- A contact is written under the key that its names refer to. -/
theorem IdsKnown.contacts (h : IdsKnown snapshot departmentIds companyIds after)
    (k : Nat × String) (v : DirectoryRow ContactFields) :
    (k, v) ∈ snapshot.keyedContacts companyIds
      ↔ ∃ n, after.contactRef n = some k ∧ (n, v) ∈ snapshot.contactRows := by
  have href : ∀ company ∈ snapshot.companies, ∀ externalKey,
      after.contactRef (company.externalId, externalKey)
        = some (companyIds.get company.externalId, externalKey) := by
    intro company hcompany externalKey
    unfold DirectoryTables.contactRef
    rw [h.companies company hcompany]
    rfl
  rw [mem_keyedContacts]
  constructor
  · rintro ⟨company, hcompany, contact, hcontact, heq⟩
    obtain ⟨rfl, rfl⟩ := Prod.mk.inj heq
    exact ⟨(company.externalId, contact.externalKey), href company hcompany _,
      mem_contactRows.mpr ⟨company, hcompany, contact, hcontact, rfl⟩⟩
  · rintro ⟨n, hn, hmem⟩
    obtain ⟨company, hcompany, contact, hcontact, heq⟩ := mem_contactRows.mp hmem
    obtain ⟨rfl, rfl⟩ := Prod.mk.inj heq
    obtain rfl := Option.some.inj ((href company hcompany _).symm.trans hn)
    exact ⟨company, hcompany, contact, hcontact, rfl⟩

theorem IdsKnown.relationships (h : IdsKnown snapshot departmentIds companyIds after)
    (hvalid : Validated snapshot) (k : Nat × Nat) (v : DirectoryRow Unit) :
    (k, v) ∈ snapshot.keyedRelationships departmentIds companyIds
      ↔ ∃ n, after.relationshipRef n = some k ∧ (n, v) ∈ snapshot.relationshipRows := by
  have href : ∀ company ∈ snapshot.companies, ∀ d ∈ company.departmentIds,
      after.relationshipRef (company.externalId, d)
        = some (companyIds.get company.externalId, departmentIds.get d) := by
    intro company hcompany d hd
    unfold DirectoryTables.relationshipRef
    rw [h.companies company hcompany, h.departments d (hvalid.parents company hcompany d hd)]
    rfl
  rw [mem_keyedRelationships]
  constructor
  · rintro ⟨company, hcompany, d, hd, heq⟩
    obtain ⟨rfl, rfl⟩ := Prod.mk.inj heq
    exact ⟨(company.externalId, d), href company hcompany d hd,
      mem_relationshipRows.mpr ⟨company, hcompany, d, hd, rfl⟩⟩
  · rintro ⟨n, hn, hmem⟩
    obtain ⟨company, hcompany, d, hd, heq⟩ := mem_relationshipRows.mp hmem
    obtain ⟨rfl, rfl⟩ := Prod.mk.inj heq
    obtain rfl := Option.some.inj ((href company hcompany d hd).symm.trans hn)
    exact ⟨company, hcompany, d, hd, rfl⟩

/-- Two names never refer to one contact. -/
theorem contactRef_injective (db : DirectoryTables) (n n' : String × String) (k : Nat × String)
    (h : db.contactRef n = some k) (h' : db.contactRef n' = some k) : n = n' := by
  obtain ⟨i, hi, rfl⟩ := Option.map_eq_some_iff.mp h
  obtain ⟨i', hi', heq⟩ := Option.map_eq_some_iff.mp h'
  obtain ⟨rfl, hkey⟩ := Prod.mk.inj heq
  exact Prod.ext (Keyed.idOf_injective hi hi') hkey.symm

theorem relationshipRef_eq_some_iff {n : String × String} {k : Nat × Nat} :
    db.relationshipRef n = some k
      ↔ db.companies.idOf n.1 = some k.1 ∧ db.departments.idOf n.2 = some k.2 := by
  unfold DirectoryTables.relationshipRef
  rw [Option.bind_eq_some_iff]
  constructor
  · rintro ⟨i, hi, hmap⟩
    obtain ⟨j, hj, rfl⟩ := Option.map_eq_some_iff.mp hmap
    exact ⟨hi, hj⟩
  · rintro ⟨hi, hj⟩
    exact ⟨k.1, hi, Option.map_eq_some_iff.mpr ⟨k.2, hj, rfl⟩⟩

theorem relationshipRef_injective (db : DirectoryTables) (n n' : String × String) (k : Nat × Nat)
    (h : db.relationshipRef n = some k) (h' : db.relationshipRef n' = some k) : n = n' := by
  obtain ⟨hc, hd⟩ := relationshipRef_eq_some_iff.mp h
  obtain ⟨hc', hd'⟩ := relationshipRef_eq_some_iff.mp h'
  exact Prod.ext (Keyed.idOf_injective hc hc') (Keyed.idOf_injective hd hd')

/-- References are kept with the rows. -/
theorem contactRef_kept (h : Keyed.Kept db.companies after.companies) (n : String × String)
    (k : Nat × String) (hn : db.contactRef n = some k) : after.contactRef n = some k := by
  obtain ⟨i, hi, rfl⟩ := Option.map_eq_some_iff.mp hn
  exact Option.map_eq_some_iff.mpr ⟨i, h.idOf hi, rfl⟩

theorem relationshipRef_kept (hc : Keyed.Kept db.companies after.companies)
    (hd : Keyed.Kept db.departments after.departments) (n : String × String) (k : Nat × Nat)
    (hn : db.relationshipRef n = some k) : after.relationshipRef n = some k := by
  obtain ⟨hi, hj⟩ := relationshipRef_eq_some_iff.mp hn
  exact relationshipRef_eq_some_iff.mpr ⟨hc.idOf hi, hd.idOf hj⟩

/-- The keyed rows are those of the snapshot, under other names. -/
theorem IdsKnown.keyedContacts_consistent (h : IdsKnown snapshot departmentIds companyIds after)
    (hvalid : Validated snapshot) : Consistent (snapshot.keyedContacts companyIds) :=
  Keyed.consistent_of_references (contactRef_injective after) hvalid.contactRows h.contacts

theorem IdsKnown.keyedRelationships_consistent
    (h : IdsKnown snapshot departmentIds companyIds after) (hvalid : Validated snapshot) :
    Consistent (snapshot.keyedRelationships departmentIds companyIds) :=
  Keyed.consistent_of_references (relationshipRef_injective after)
    (consistent_relationshipRows snapshot)
    (h.relationships hvalid)

/-- What a publication leaves. -/
structure Published (snapshot : AcessoriasSnapshot) (db after : DirectoryTables) : Prop where
  view : after.view = db.view.publish snapshot
  owned : after.Owned
  kept : DirectoryTables.Kept db after

/-- **Tables that a snapshot has taken over show it.** -/
theorem TablesTaken.published (h : TablesTaken snapshot departmentIds companyIds db after)
    (hids : IdsKnown snapshot departmentIds companyIds after) (hvalid : Validated snapshot)
    (hdb : db.Owned) : Published snapshot db after := by
  have hcontactRef : ∀ n k, db.contactRef n = some k → after.contactRef n = some k :=
    contactRef_kept h.companies.kept
  have hrelationshipRef := relationshipRef_kept h.companies.kept h.departments.kept
  have hcontacts : after.contacts.seen after.contactRef
      = Keyed.replaced DirectoryRow.absent snapshot.contactRows
        (db.contacts.seen db.contactRef) := by
    refine h.contacts.seen hcontactRef (contactRef_injective after) hdb.contacts hvalid.contactRows
      (fun a ha hnone => ?_) hids.contacts
    obtain ⟨company, hcompany, contact, -, rfl⟩ := mem_contactRows.mp ha
    unfold DirectoryTables.contactRef at hnone
    rw [hids.companies company hcompany] at hnone
    cases hnone
  have hrelationships : after.relationships.seen after.relationshipRef
      = Keyed.replaced DirectoryRow.absent snapshot.relationshipRows
        (db.relationships.seen db.relationshipRef) := by
    refine h.relationships.seen hrelationshipRef (relationshipRef_injective after)
      hdb.relationships (consistent_relationshipRows snapshot) (fun a ha hnone => ?_)
      (hids.relationships hvalid)
    obtain ⟨company, hcompany, d, hd, rfl⟩ := mem_relationshipRows.mp ha
    unfold DirectoryTables.relationshipRef at hnone
    rw [hids.companies company hcompany,
      hids.departments d (hvalid.parents company hcompany d hd)] at hnone
    cases hnone
  refine ⟨?_, ⟨?_, ?_⟩, ⟨h.departments.kept, h.companies.kept, h.contacts.kept,
    h.relationships.kept⟩⟩
  · unfold DirectoryTables.view DirectoryView.publish
    rw [hcontacts, hrelationships, funext h.departments.columns, funext h.companies.columns]
  · exact h.contacts.referenced hcontactRef hdb.contacts hids.contacts
  · exact h.relationships.referenced hrelationshipRef hdb.relationships
      (hids.relationships hvalid)

end Taken

/-! ## §4. The two publishers. -/

theorem department_named {d : String} (h : d ∈ snapshot.departments.map (·.externalId)) :
    ∃ a ∈ snapshot.departmentRows, a.1 = d := by
  obtain ⟨department, hdepartment, rfl⟩ := List.mem_map.mp h
  exact ⟨keyedDepartment department, mem_departmentRows.mpr ⟨department, hdepartment, rfl⟩, rfl⟩

theorem company_named {company : AcessoriasCompany} (h : company ∈ snapshot.companies) :
    ∃ a ∈ snapshot.companyRows, a.1 = company.externalId :=
  ⟨keyedCompany company, mem_companyRows.mpr ⟨company, h, rfl⟩, rfl⟩

/-- The dictionaries that the loops leave are right, and stay right when
    columns are updated. -/
theorem idsKnown_putSnapshot (hvalid : Validated snapshot) (db : DirectoryTables) :
    IdsKnown snapshot (db.departmentIds snapshot) (db.companyIds snapshot)
      (db.putSnapshot snapshot) where
  companies := fun _ hcompany => Keyed.idOf_putAll hvalid.companyRows (company_named hcompany)
  departments := fun _ hd => Keyed.idOf_putAll hvalid.departmentRows (department_named hd)

theorem idsKnown_retireMissing (hvalid : Validated snapshot) (db : DirectoryTables) :
    IdsKnown snapshot (db.departmentIds snapshot) (db.companyIds snapshot)
      (db.retireMissing snapshot (db.putSnapshot snapshot)) := by
  have hids := idsKnown_putSnapshot hvalid db
  constructor
  · intro company hcompany
    show (Keyed.retire _ _ _).idOf _ = _
    unfold Keyed.retire
    rw [Keyed.idOf_mapRows]
    exact hids.companies company hcompany
  · intro d hd
    show (Keyed.retire _ _ _).idOf _ = _
    unfold Keyed.retire
    rw [Keyed.idOf_mapRows]
    exact hids.departments d hd

theorem tablesTaken_publish (hvalid : Validated snapshot) (db : DirectoryTables) :
    TablesTaken snapshot (db.absentAll.departmentIds snapshot) (db.absentAll.companyIds snapshot)
      db (db.absentAll.putSnapshot snapshot) := by
  have hids := idsKnown_putSnapshot hvalid db.absentAll
  exact ⟨Keyed.takenOver_putAll hvalid.departmentRows, Keyed.takenOver_putAll hvalid.companyRows,
    Keyed.takenOver_putAll (hids.keyedContacts_consistent hvalid),
    Keyed.takenOver_putAll (hids.keyedRelationships_consistent hvalid)⟩

theorem mem_keys_iff {κ ν : Type} {l : List (κ × ν)} {k : κ} :
    k ∈ (l.map (·.1)).reverse ↔ ∃ a ∈ l, a.1 = k := by
  rw [List.mem_reverse, List.mem_map]

theorem tablesTaken_delta (hvalid : Validated snapshot) (db : DirectoryTables) :
    TablesTaken snapshot (db.departmentIds snapshot) (db.companyIds snapshot)
      db (db.retireMissing snapshot (db.putSnapshot snapshot)) := by
  have hids := idsKnown_putSnapshot hvalid db
  exact ⟨
    Keyed.takenOver_retire hvalid.departmentRows fun _ he =>
      decide_eq_true_iff.trans (Keyed.mem_ids_iff he),
    Keyed.takenOver_retire hvalid.companyRows fun _ he =>
      decide_eq_true_iff.trans (Keyed.mem_ids_iff he),
    Keyed.takenOver_retire (hids.keyedContacts_consistent hvalid) fun _ _ =>
      decide_eq_true_iff.trans mem_keys_iff,
    Keyed.takenOver_retire (hids.keyedRelationships_consistent hvalid) fun _ _ =>
      decide_eq_true_iff.trans mem_keys_iff⟩

/-- **`_publish_snapshot` publishes the snapshot.** -/
theorem publishSnapshot_published (hdb : db.Owned)
    (h : publishSnapshot raises snapshot db = .ok after) : Published snapshot db after := by
  obtain ⟨hvalid, -, -, rfl⟩ := publishSnapshot_ok_iff.mp h
  exact (tablesTaken_publish hvalid db).published (idsKnown_putSnapshot hvalid db.absentAll) hvalid
    hdb

/-- **`_apply_directory_delta` publishes the snapshot.** -/
theorem applyDirectoryDelta_published (hdb : db.Owned) (hvalid : Validated snapshot)
    (h : applyDirectoryDelta raises snapshot db = .ok after) : Published snapshot db after := by
  obtain ⟨-, -, rfl⟩ := applyDirectoryDelta_ok_iff.mp h
  have hsorted := (tablesTaken_delta hvalid.sorted db).published
    (idsKnown_retireMissing hvalid.sorted db) hvalid.sorted hdb
  exact ⟨hsorted.view.trans (publish_sorted hvalid db.view), hsorted.owned, hsorted.kept⟩

end Cai.Directory
