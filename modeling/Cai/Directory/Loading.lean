/-
  Cai.Directory.Loading — what the statements of the two publishers write.

  Each loop returns exactly when its statements do, and then it has put
  the rows of the snapshot into its table (`Keyed.putAll`), under the ids
  that the loops before it were told.

  Main results: `publishSnapshot_ok_iff`, `applyDirectoryDelta_ok_iff`.
-/
import Cai.Directory.Publication

namespace Cai.Directory

open Cai.Lib

variable {raises : Statement → Bool} {db after : DirectoryTables} {snapshot : AcessoriasSnapshot}

/-! ## §1. Departments and companies. -/

theorem execute_eq_ok_iff {statement : Statement} {accepted : Bool} {u : Unit} :
    execute raises statement accepted = .ok u ↔ raises statement = false ∧ accepted = true :=
  require_eq_ok_iff

/-- The statement of a department returns. -/
def DepartmentStored (raises : Statement → Bool) (department : AcessoriasDepartment) : Prop :=
  raises (.department department.externalId) = false ∧ department.storable = true

def CompanyStored (raises : Statement → Bool) (company : AcessoriasCompany) : Prop :=
  raises (.company company.externalId) = false ∧ company.storable = true

theorem upsertDepartment_ok_iff {department : AcessoriasDepartment}
    {result : DirectoryTables × Nat} :
    upsertDepartment raises db department = .ok result
      ↔ DepartmentStored raises department ∧
        let departments := db.departments.upsert department.externalId department.row
          fun _ => department.row
        result = ({ db with departments }, (departments.idOf department.externalId).getD 0) := by
  unfold upsertDepartment
  obtain ⟨i, hi⟩ := Keyed.idOf_upsert_self db.departments department.externalId department.row
    fun _ => department.row
  simp only [bind_eq_ok_iff, execute_eq_ok_iff, hi, pure_eq_ok_iff, Option.getD_some]
  exact ⟨fun ⟨_, hstored, hresult⟩ => ⟨hstored, hresult.symm⟩,
    fun ⟨hstored, hresult⟩ => ⟨(), hstored, hresult.symm⟩⟩

theorem upsertCompany_ok_iff {company : AcessoriasCompany} {result : DirectoryTables × Nat} :
    upsertCompany raises db company = .ok result
      ↔ CompanyStored raises company ∧
        let companies := db.companies.upsert company.externalId company.row fun _ => company.row
        result = ({ db with companies }, (companies.idOf company.externalId).getD 0) := by
  unfold upsertCompany
  obtain ⟨i, hi⟩ := Keyed.idOf_upsert_self db.companies company.externalId company.row
    fun _ => company.row
  simp only [bind_eq_ok_iff, execute_eq_ok_iff, hi, pure_eq_ok_iff, Option.getD_some]
  exact ⟨fun ⟨_, hstored, hresult⟩ => ⟨hstored, hresult.symm⟩,
    fun ⟨hstored, hresult⟩ => ⟨(), hstored, hresult.symm⟩⟩

/-- The row of a department, under its key. -/
def keyedDepartment (department : AcessoriasDepartment) :
    String × DirectoryRow DepartmentFields :=
  (department.externalId, department.row)

def keyedCompany (company : AcessoriasCompany) : String × DirectoryRow CompanyFields :=
  (company.externalId, company.row)

/-- The entry that a loop over such rows leaves. -/
def idsOf {ν : Type} (table : Keyed String ν) (rows : List (String × ν)) : Ids :=
  (rows.foldl Keyed.putId (table, [])).2

/-- A loop that puts rows into one table and keeps their ids. -/
theorem foldl_load {β ν : Type} (row : β → String × ν) (set : Keyed String ν → DirectoryTables)
    (step : DirectoryTables × Ids → β → DirectoryTables × Ids)
    (hstep : ∀ t ids b, step (set t, ids) b
      = (set (Keyed.putId (t, ids) (row b)).1, (Keyed.putId (t, ids) (row b)).2))
    (bs : List β) (t : Keyed String ν) (ids : Ids) :
    bs.foldl step (set t, ids)
      = (set (((bs.map row).foldl Keyed.putId (t, ids)).1),
          ((bs.map row).foldl Keyed.putId (t, ids)).2) := by
  induction bs generalizing t ids with
  | nil => rfl
  | cons b bs ih =>
      rw [List.foldl_cons, hstep, ih]
      rfl

theorem loadDepartments_ok_iff {departments : List AcessoriasDepartment} {ids : Ids} :
    loadDepartments raises departments db = .ok (after, ids)
      ↔ (∀ department ∈ departments, DepartmentStored raises department)
        ∧ after = { db with
            departments := db.departments.putAll (departments.map keyedDepartment) }
        ∧ ids = idsOf db.departments (departments.map keyedDepartment) := by
  unfold loadDepartments
  rw [foldlM_eq_ok_iff (P := DepartmentStored raises)
    (g := fun s department =>
      let put := Keyed.putId (s.1.departments, s.2) (department.externalId, department.row)
      ({ s.1 with departments := put.1 }, put.2))]
  · have heq := foldl_load (fun department : AcessoriasDepartment =>
        (department.externalId, department.row)) (fun departments => { db with departments })
      (fun s department =>
        let put := Keyed.putId (s.1.departments, s.2) (department.externalId, department.row)
        ({ s.1 with departments := put.1 }, put.2)) (fun _ _ _ => rfl) departments db.departments []
    rw [Keyed.foldl_putId_fst] at heq
    rw [heq, Prod.mk.injEq]
    rfl
  · intro department _ s s'
    simp only [bind_eq_ok_iff, upsertDepartment_ok_iff, pure_eq_ok_iff]
    constructor
    · rintro ⟨⟨table', id⟩, ⟨hstored, hresult⟩, heq⟩
      obtain ⟨rfl, rfl⟩ := Prod.mk.inj hresult
      exact ⟨hstored, heq.symm⟩
    · rintro ⟨hstored, rfl⟩
      exact ⟨_, ⟨hstored, rfl⟩, rfl⟩

theorem loadCompanies_ok_iff {companies : List AcessoriasCompany} {ids : Ids} :
    loadCompanies raises companies db = .ok (after, ids)
      ↔ (∀ company ∈ companies, CompanyStored raises company)
        ∧ after = { db with companies := db.companies.putAll (companies.map keyedCompany) }
        ∧ ids = idsOf db.companies (companies.map keyedCompany) := by
  unfold loadCompanies
  rw [foldlM_eq_ok_iff (P := CompanyStored raises)
    (g := fun s company =>
      let put := Keyed.putId (s.1.companies, s.2) (company.externalId, company.row)
      ({ s.1 with companies := put.1 }, put.2))]
  · have heq := foldl_load (fun company : AcessoriasCompany => (company.externalId, company.row))
      (fun companies => { db with companies })
      (fun s company =>
        let put := Keyed.putId (s.1.companies, s.2) (company.externalId, company.row)
        ({ s.1 with companies := put.1 }, put.2)) (fun _ _ _ => rfl) companies db.companies []
    rw [Keyed.foldl_putId_fst] at heq
    rw [heq, Prod.mk.injEq]
    rfl
  · intro company _ s s'
    simp only [bind_eq_ok_iff, upsertCompany_ok_iff, pure_eq_ok_iff]
    constructor
    · rintro ⟨⟨table', id⟩, ⟨hstored, hresult⟩, heq⟩
      obtain ⟨rfl, rfl⟩ := Prod.mk.inj hresult
      exact ⟨hstored, heq.symm⟩
    · rintro ⟨hstored, rfl⟩
      exact ⟨_, ⟨hstored, rfl⟩, rfl⟩

/-! ## §2. Contacts and relationships. -/

/-- The id that a dictionary has for a key. -/
def Ids.get (ids : Ids) (externalId : String) : Nat := (List.lookup externalId ids).getD 0

theorem Ids.get_of_lookup {ids : Ids} {externalId : String} {i : Nat}
    (h : List.lookup externalId ids = some i) : ids.get externalId = i := by
  unfold Ids.get
  rw [h]
  rfl

/-- The statement of a contact returns. -/
def ContactStored (raises : Statement → Bool) (companyId : Nat) (contact : AcessoriasContact) :
    Prop :=
  raises (.contact companyId contact.externalKey) = false ∧ contact.storable = true

/-- The department has an id, and the statement of the relationship returns. -/
def RelationshipStored (raises : Statement → Bool) (departmentIds : Ids) (companyId : Nat)
    (d : String) : Prop :=
  (∃ departmentId, List.lookup d departmentIds = some departmentId)
    ∧ raises (.relationship companyId (departmentIds.get d)) = false

/-- The statements of the children of a company return. -/
structure ChildrenStored (raises : Statement → Bool) (departmentIds companyIds : Ids)
    (company : AcessoriasCompany) : Prop where
  known : ∃ companyId, List.lookup company.externalId companyIds = some companyId
  contacts : ∀ contact ∈ company.contacts,
    ContactStored raises (companyIds.get company.externalId) contact
  relationships : ∀ d ∈ company.departmentIds,
    RelationshipStored raises departmentIds (companyIds.get company.externalId) d

def contactRow (companyId : Nat) (contact : AcessoriasContact) :
    (Nat × String) × DirectoryRow ContactFields :=
  ((companyId, contact.externalKey), contact.row)

def keyedRelationship (departmentIds : Ids) (companyId : Nat) (d : String) :
    (Nat × Nat) × DirectoryRow Unit :=
  ((companyId, departmentIds.get d), relationshipRow)

/-- The rows of the contacts of a company, under their keys. -/
def keyedContacts (companyIds : Ids) (company : AcessoriasCompany) :
    List ((Nat × String) × DirectoryRow ContactFields) :=
  company.contacts.map (contactRow (companyIds.get company.externalId))

def keyedRelationships (departmentIds companyIds : Ids) (company : AcessoriasCompany) :
    List ((Nat × Nat) × DirectoryRow Unit) :=
  company.departmentIds.map (keyedRelationship departmentIds (companyIds.get company.externalId))

theorem upsertContact_ok_iff {companyId : Nat} {contact : AcessoriasContact} :
    upsertContact raises companyId db contact = .ok after
      ↔ ContactStored raises companyId contact
        ∧ after = { db with
            contacts := db.contacts.upsert (companyId, contact.externalKey) contact.row
              fun _ => contact.row } := by
  unfold upsertContact
  simp only [bind_eq_ok_iff, execute_eq_ok_iff, pure_eq_ok_iff]
  exact ⟨fun ⟨_, hstored, hresult⟩ => ⟨hstored, hresult.symm⟩,
    fun ⟨hstored, hresult⟩ => ⟨(), hstored, hresult.symm⟩⟩

theorem upsertRelationship_ok_iff {companyId departmentId : Nat} :
    upsertRelationship raises companyId departmentId db = .ok after
      ↔ raises (.relationship companyId departmentId) = false
        ∧ after = { db with
            relationships := db.relationships.upsert (companyId, departmentId) relationshipRow
              fun _ => relationshipRow } := by
  unfold upsertRelationship
  simp only [bind_eq_ok_iff, execute_eq_ok_iff, pure_eq_ok_iff, and_true]
  exact ⟨fun ⟨_, hstored, hresult⟩ => ⟨hstored, hresult.symm⟩,
    fun ⟨hstored, hresult⟩ => ⟨(), hstored, hresult.symm⟩⟩

theorem publishRelationship_ok_iff {departmentIds : Ids} {companyId : Nat} {d : String} :
    publishRelationship raises departmentIds companyId db d = .ok after
      ↔ RelationshipStored raises departmentIds companyId d
        ∧ after = { db with
            relationships := db.relationships.upsert (companyId, departmentIds.get d)
              relationshipRow fun _ => relationshipRow } := by
  unfold publishRelationship RelationshipStored
  cases hlook : List.lookup d departmentIds with
  | none =>
      constructor
      · intro h
        cases h
      · rintro ⟨⟨⟨_, h⟩, _⟩, _⟩
        cases h
  | some departmentId =>
      rw [Ids.get_of_lookup hlook]
      show upsertRelationship raises companyId departmentId db = .ok after ↔ _
      rw [upsertRelationship_ok_iff]
      exact ⟨fun ⟨hreturns, hafter⟩ => ⟨⟨⟨departmentId, rfl⟩, hreturns⟩, hafter⟩,
        fun ⟨⟨_, hreturns⟩, hafter⟩ => ⟨hreturns, hafter⟩⟩

theorem deltaContact_ok_iff {companyId : Nat} {contact : AcessoriasContact} {delta result : Delta} :
    deltaContact raises companyId delta contact = .ok result
      ↔ ContactStored raises companyId contact
        ∧ result = { delta with
            db := { delta.db with
              contacts := delta.db.contacts.upsert (companyId, contact.externalKey) contact.row
                fun _ => contact.row }
            incomingContacts := (companyId, contact.externalKey) :: delta.incomingContacts } := by
  unfold deltaContact
  simp only [bind_eq_ok_iff, upsertContact_ok_iff, pure_eq_ok_iff]
  constructor
  · rintro ⟨_, ⟨hstored, rfl⟩, hresult⟩
    exact ⟨hstored, hresult.symm⟩
  · rintro ⟨hstored, rfl⟩
    exact ⟨_, ⟨hstored, rfl⟩, rfl⟩

theorem deltaRelationship_ok_iff {departmentIds : Ids} {companyId : Nat} {d : String}
    {delta result : Delta} :
    deltaRelationship raises departmentIds companyId delta d = .ok result
      ↔ RelationshipStored raises departmentIds companyId d
        ∧ result = { delta with
            db := { delta.db with
              relationships := delta.db.relationships.upsert (companyId, departmentIds.get d)
                relationshipRow fun _ => relationshipRow }
            incomingRelationships :=
              (companyId, departmentIds.get d) :: delta.incomingRelationships } := by
  unfold deltaRelationship RelationshipStored
  cases hlook : List.lookup d departmentIds with
  | none =>
      constructor
      · intro h
        cases h
      · rintro ⟨⟨⟨_, h⟩, _⟩, _⟩
        cases h
  | some departmentId =>
      rw [Ids.get_of_lookup hlook]
      simp only [bind_eq_ok_iff, upsertRelationship_ok_iff, pure_eq_ok_iff]
      constructor
      · rintro ⟨_, ⟨hreturns, rfl⟩, hresult⟩
        exact ⟨⟨⟨departmentId, rfl⟩, hreturns⟩, hresult.symm⟩
      · rintro ⟨⟨_, hreturns⟩, rfl⟩
        exact ⟨_, ⟨hreturns, rfl⟩, rfl⟩

/-- The two loops over the children of a company, for either publisher; `set`
    builds the state of the loops. -/
theorem children_ok_iff {σ : Type} {departmentIds companyIds : Ids} (company : AcessoriasCompany)
    (contactStep : Nat → σ → AcessoriasContact → Except DirectoryError σ)
    {relationshipStep : Nat → σ → String → Except DirectoryError σ} {e : DirectoryError}
    (set : Keyed (Nat × String) (DirectoryRow ContactFields) → List (Nat × String) →
      Keyed (Nat × Nat) (DirectoryRow Unit) → List (Nat × Nat) → σ)
    (hcontact : ∀ companyId tc kc tr kr contact s,
      contactStep companyId (set tc kc tr kr) contact = .ok s ↔
        ContactStored raises companyId contact
          ∧ s = set (tc.upsert (companyId, contact.externalKey) contact.row fun _ => contact.row)
            ((companyId, contact.externalKey) :: kc) tr kr)
    (hrelationship : ∀ companyId tc kc tr kr d s,
      relationshipStep companyId (set tc kc tr kr) d = .ok s ↔
        RelationshipStored raises departmentIds companyId d
          ∧ s = set tc kc
            (tr.upsert (companyId, departmentIds.get d) relationshipRow fun _ => relationshipRow)
            ((companyId, departmentIds.get d) :: kr))
    (tc : Keyed (Nat × String) (DirectoryRow ContactFields)) (kc : List (Nat × String))
    (tr : Keyed (Nat × Nat) (DirectoryRow Unit)) (kr : List (Nat × Nat)) {s : σ} :
    (match List.lookup company.externalId companyIds with
      | none => Except.error e
      | some companyId =>
          company.contacts.foldlM (contactStep companyId) (set tc kc tr kr) >>=
            company.departmentIds.foldlM (relationshipStep companyId)) = .ok s
      ↔ ChildrenStored raises departmentIds companyIds company
        ∧ s = set (tc.putAll (keyedContacts companyIds company))
            (((keyedContacts companyIds company).map (·.1)).reverse ++ kc)
            (tr.putAll (keyedRelationships departmentIds companyIds company))
            (((keyedRelationships departmentIds companyIds company).map (·.1)).reverse ++ kr) := by
  cases hid : List.lookup company.externalId companyIds with
  | none =>
      constructor
      · intro h
        cases h
      · rintro ⟨⟨⟨_, h⟩, _, _⟩, _⟩
        rw [hid] at h
        cases h
  | some companyId =>
      have hget : companyIds.get company.externalId = companyId := Ids.get_of_lookup hid
      have hcontacts := Keyed.foldlM_putAll (f := contactStep companyId) (contactRow companyId)
        (fun tc kc => set tc kc tr kr) (fun tc kc => hcontact companyId tc kc tr kr)
        company.contacts tc kc
      have hrelationships := fun tc kc => Keyed.foldlM_putAll (f := relationshipStep companyId)
        (keyedRelationship departmentIds companyId) (fun tr kr => set tc kc tr kr)
        (fun tr kr => hrelationship companyId tc kc tr kr) company.departmentIds tr kr
      unfold keyedContacts keyedRelationships
      rw [hget]
      show _ >>= _ = _ ↔ _
      rw [bind_eq_ok_iff]
      constructor
      · rintro ⟨mid, hfirst, hsecond⟩
        obtain ⟨hstored, rfl⟩ := (hcontacts mid).mp hfirst
        obtain ⟨hlinked, rfl⟩ := (hrelationships _ _ s).mp hsecond
        exact ⟨⟨⟨companyId, hid⟩, hget.symm ▸ hstored, hget.symm ▸ hlinked⟩, rfl⟩
      · rintro ⟨hstored, rfl⟩
        exact ⟨_, (hcontacts _).mpr ⟨hget ▸ hstored.contacts, rfl⟩,
          (hrelationships _ _ _).mpr ⟨hget ▸ hstored.relationships, rfl⟩⟩

/-! ## §3. The loop over the companies. -/

/-- The children are put into their tables. -/
def putChildren (db : DirectoryTables)
    (contacts : List ((Nat × String) × DirectoryRow ContactFields))
    (relationships : List ((Nat × Nat) × DirectoryRow Unit)) : DirectoryTables :=
  { db with
    contacts := db.contacts.putAll contacts
    relationships := db.relationships.putAll relationships }

/-- The children are put into their tables, and their keys have come in. -/
def Delta.put (delta : Delta) (contacts : List ((Nat × String) × DirectoryRow ContactFields))
    (relationships : List ((Nat × Nat) × DirectoryRow Unit)) : Delta where
  db := putChildren delta.db contacts relationships
  incomingContacts := (contacts.map (·.1)).reverse ++ delta.incomingContacts
  incomingRelationships := (relationships.map (·.1)).reverse ++ delta.incomingRelationships

theorem putChildren_append {contacts contacts' : List ((Nat × String) × DirectoryRow ContactFields)}
    {relationships relationships' : List ((Nat × Nat) × DirectoryRow Unit)} :
    putChildren (putChildren db contacts relationships) contacts' relationships'
      = putChildren db (contacts ++ contacts') (relationships ++ relationships') := by
  unfold putChildren
  rw [Keyed.putAll_append, Keyed.putAll_append]

theorem Delta.put_append (delta : Delta)
    {contacts contacts' : List ((Nat × String) × DirectoryRow ContactFields)}
    {relationships relationships' : List ((Nat × Nat) × DirectoryRow Unit)} :
    (delta.put contacts relationships).put contacts' relationships'
      = delta.put (contacts ++ contacts') (relationships ++ relationships') := by
  unfold Delta.put
  rw [putChildren_append]
  simp only [List.map_append, List.reverse_append, List.append_assoc]

theorem publishChildren_ok_iff {departmentIds companyIds : Ids} {company : AcessoriasCompany} :
    publishChildren raises departmentIds companyIds db company = .ok after
      ↔ ChildrenStored raises departmentIds companyIds company
        ∧ after = putChildren db (keyedContacts companyIds company)
            (keyedRelationships departmentIds companyIds company) :=
  children_ok_iff company (upsertContact raises)
    (fun contacts _ relationships _ => { db with contacts, relationships })
    (fun _ _ _ _ _ _ _ => upsertContact_ok_iff)
    (fun _ _ _ _ _ _ _ => publishRelationship_ok_iff) db.contacts [] db.relationships []

/-- A company, its children in the order of the delta. -/
def AcessoriasCompany.sorted (company : AcessoriasCompany) : AcessoriasCompany :=
  { company with
    contacts := company.contacts.insertionSort (·.externalKey ≤ ·.externalKey)
    departmentIds := company.departmentIds.insertionSort (· ≤ ·) }

theorem deltaChildren_ok_iff {departmentIds companyIds : Ids} {company : AcessoriasCompany}
    {delta result : Delta} :
    deltaChildren raises departmentIds companyIds delta company = .ok result
      ↔ ChildrenStored raises departmentIds companyIds company.sorted
        ∧ result = delta.put (keyedContacts companyIds company.sorted)
            (keyedRelationships departmentIds companyIds company.sorted) :=
  children_ok_iff company.sorted (deltaContact raises)
    (fun contacts incomingContacts relationships incomingRelationships =>
      { db := { delta.db with contacts, relationships }, incomingContacts, incomingRelationships })
    (fun _ _ _ _ _ _ _ => deltaContact_ok_iff) (fun _ _ _ _ _ _ _ => deltaRelationship_ok_iff)
    delta.db.contacts delta.incomingContacts delta.db.relationships delta.incomingRelationships

/-! ## §4. The rows that have not come in. -/

/-- An UPDATE after another, each of which may raise. -/
theorem retireRows_ok_iff {κ φ : Type} {n : Nat} {incoming : Entry κ (DirectoryRow φ) → Bool}
    {table result : Keyed κ (DirectoryRow φ)} :
    retireRows raises n incoming table = .ok result
      ↔ (∀ row ∈ table.rows, stale incoming row = true → raises (.absent n row.id) = false)
        ∧ result = table.retire DirectoryRow.absent incoming := by
  have hloop : table.rows.foldlM (fun table row =>
        if stale incoming row then do
          execute raises (.absent n row.id) true
          return table.modifyId row.id DirectoryRow.cleared
        else return table) table = .ok result
      ↔ (∀ row ∈ table.rows, stale incoming row = true → raises (.absent n row.id) = false)
        ∧ result = table.updateEach DirectoryRow.cleared (stale incoming) table.rows := by
    refine foldlM_eq_ok_iff fun row _ t t' => ?_
    cases hstale : stale incoming row with
    | false =>
        simp only [Bool.false_eq_true, if_false, pure_eq_ok_iff, false_implies, true_and]
        exact eq_comm
    | true =>
        simp only [if_true, bind_eq_ok_iff, execute_eq_ok_iff, pure_eq_ok_iff, and_true,
          forall_const]
        exact ⟨fun ⟨_, hreturns, heq⟩ => ⟨hreturns, heq.symm⟩,
          fun ⟨hreturns, heq⟩ => ⟨(), hreturns, heq.symm⟩⟩
  have hretire : table.updateEach DirectoryRow.cleared (stale incoming) table.rows
      = table.retire DirectoryRow.absent incoming := by
    rw [Keyed.updateEach_rows]
    unfold Keyed.retire stale DirectoryRow.absent
    refine Keyed.mapRows_congr fun row _ => ?_
    cases incoming row with
    | true => rfl
    | false => rfl
  rw [← hretire]
  exact hloop

/-! ## §5. The two transactions. -/

namespace AcessoriasSnapshot

/-- The rows of the contacts, under the ids of their companies. -/
def keyedContacts (snapshot : AcessoriasSnapshot) (companyIds : Ids) :
    List ((Nat × String) × DirectoryRow ContactFields) :=
  snapshot.companies.flatMap (Directory.keyedContacts companyIds)

def keyedRelationships (snapshot : AcessoriasSnapshot) (departmentIds companyIds : Ids) :
    List ((Nat × Nat) × DirectoryRow Unit) :=
  snapshot.companies.flatMap (Directory.keyedRelationships departmentIds companyIds)

/-- A snapshot in the order of the delta. -/
def sorted (snapshot : AcessoriasSnapshot) : AcessoriasSnapshot where
  departments := snapshot.departments.insertionSort (·.externalId ≤ ·.externalId)
  companies := (snapshot.companies.insertionSort (·.externalId ≤ ·.externalId)).map
    AcessoriasCompany.sorted

end AcessoriasSnapshot

namespace DirectoryTables

variable (db)

/-- `department_db_ids`, once the departments are loaded. -/
def departmentIds (snapshot : AcessoriasSnapshot) : Ids :=
  idsOf db.departments snapshot.departmentRows

def companyIds (snapshot : AcessoriasSnapshot) : Ids := idsOf db.companies snapshot.companyRows

/-- Every row is marked absent. -/
def absentAll : DirectoryTables where
  contacts := db.contacts.mapRows fun e => e.value.absent
  relationships := db.relationships.mapRows fun e => e.value.absent
  companies := db.companies.mapRows fun e => e.value.absent
  departments := db.departments.mapRows fun e => e.value.absent

/-- A snapshot is put into the four tables. -/
def putSnapshot (snapshot : AcessoriasSnapshot) : DirectoryTables where
  departments := db.departments.putAll snapshot.departmentRows
  companies := db.companies.putAll snapshot.companyRows
  contacts := db.contacts.putAll (snapshot.keyedContacts (db.companyIds snapshot))
  relationships := db.relationships.putAll
    (snapshot.keyedRelationships (db.departmentIds snapshot) (db.companyIds snapshot))

local instance lawfulContactKey : LawfulBEq (Nat × String) := inferInstance

local instance lawfulRelationshipKey : LawfulBEq (Nat × Nat) := inferInstance

/-- The rows that a snapshot, put into `db`, has not written are marked absent. -/
def retireMissing (snapshot : AcessoriasSnapshot) (after : DirectoryTables) : DirectoryTables where
  departments := after.departments.retire DirectoryRow.absent
    fun row => row.id ∈ (db.departmentIds snapshot).map (·.2)
  companies := after.companies.retire DirectoryRow.absent
    fun row => row.id ∈ (db.companyIds snapshot).map (·.2)
  contacts := after.contacts.retire DirectoryRow.absent
    fun row => row.key ∈ ((snapshot.keyedContacts (db.companyIds snapshot)).map (·.1)).reverse
  relationships := after.relationships.retire DirectoryRow.absent
    fun row => row.key ∈ ((snapshot.keyedRelationships (db.departmentIds snapshot)
      (db.companyIds snapshot)).map (·.1)).reverse

end DirectoryTables

/-- The statements that put a snapshot into `db` return. -/
structure Stored (raises : Statement → Bool) (db : DirectoryTables)
    (snapshot : AcessoriasSnapshot) : Prop where
  departments : ∀ department ∈ snapshot.departments, DepartmentStored raises department
  companies : ∀ company ∈ snapshot.companies, CompanyStored raises company
  children : ∀ company ∈ snapshot.companies,
    ChildrenStored raises (db.departmentIds snapshot) (db.companyIds snapshot) company

/-- The other statements of `_publish_snapshot` return. -/
structure Granted (raises : Statement → Bool) : Prop where
  lock : raises .lock = false
  marks : ∀ n < 4, raises (.markAbsent n) = false
  execution : raises .execution = false

theorem markAllAbsent_ok_iff :
    markAllAbsent raises db = .ok after
      ↔ (∀ n < 4, raises (.markAbsent n) = false) ∧ after = db.absentAll := by
  unfold markAllAbsent
  simp only [bind_eq_ok_iff, execute_eq_ok_iff, pure_eq_ok_iff, and_true]
  constructor
  · rintro ⟨_, h₀, _, h₁, _, h₂, _, h₃, heq⟩
    refine ⟨fun n hn => ?_, heq.symm⟩
    have hcases : n = 0 ∨ n = 1 ∨ n = 2 ∨ n = 3 := by omega
    rcases hcases with rfl | rfl | rfl | rfl
    · exact h₀
    · exact h₁
    · exact h₂
    · exact h₃
  · rintro ⟨h, rfl⟩
    exact ⟨(), h 0 (by omega), (), h 1 (by omega), (), h 2 (by omega), (), h 3 (by omega), rfl⟩

theorem foldl_putChildren {f : AcessoriasCompany → List ((Nat × String) × DirectoryRow ContactFields)}
    {g : AcessoriasCompany → List ((Nat × Nat) × DirectoryRow Unit)}
    (companies : List AcessoriasCompany) :
    companies.foldl (fun db company => putChildren db (f company) (g company)) db
      = putChildren db (companies.flatMap f) (companies.flatMap g) := by
  induction companies generalizing db with
  | nil => rfl
  | cons company companies ih =>
      rw [List.foldl_cons, ih, putChildren_append]
      rfl

theorem foldl_put {f : AcessoriasCompany → List ((Nat × String) × DirectoryRow ContactFields)}
    {g : AcessoriasCompany → List ((Nat × Nat) × DirectoryRow Unit)}
    (companies : List AcessoriasCompany) (delta : Delta) :
    companies.foldl (fun delta company => delta.put (f company) (g company)) delta
      = delta.put (companies.flatMap f) (companies.flatMap g) := by
  induction companies generalizing delta with
  | nil => rfl
  | cons company companies ih =>
      rw [List.foldl_cons, ih, Delta.put_append]
      rfl

/-- The loop over the companies of `_publish_snapshot`. -/
theorem publishLoop_ok_iff {departmentIds companyIds : Ids} {companies : List AcessoriasCompany} :
    companies.foldlM (publishChildren raises departmentIds companyIds) db = .ok after
      ↔ (∀ company ∈ companies, ChildrenStored raises departmentIds companyIds company)
        ∧ after = putChildren db (companies.flatMap (keyedContacts companyIds))
            (companies.flatMap (keyedRelationships departmentIds companyIds)) := by
  rw [foldlM_eq_ok_iff (f := publishChildren raises departmentIds companyIds)
    fun _ _ _ _ => publishChildren_ok_iff, foldl_putChildren]

/-- **`_publish_snapshot` returns when its statements do.** -/
theorem publishSnapshot_ok_iff :
    publishSnapshot raises snapshot db = .ok after
      ↔ Validated snapshot ∧ Granted raises ∧ Stored raises db.absentAll snapshot
        ∧ after = db.absentAll.putSnapshot snapshot := by
  unfold publishSnapshot
  simp only [bind_eq_ok_iff, execute_eq_ok_iff, markAllAbsent_ok_iff, pure_eq_ok_iff, and_true]
  constructor
  · rintro ⟨_, hvalid, _, hlock, _, ⟨hmarks, rfl⟩, ⟨db₁, departmentIds⟩, hload,
      ⟨db₂, companyIds⟩, hload', db₃, hloop, _, hexecution, rfl⟩
    obtain ⟨hdepartments, rfl, rfl⟩ := loadDepartments_ok_iff.mp hload
    obtain ⟨hcompanies, rfl, rfl⟩ := loadCompanies_ok_iff.mp hload'
    obtain ⟨hchildren, rfl⟩ := publishLoop_ok_iff.mp hloop
    exact ⟨validateSnapshot_ok_iff.mp hvalid, ⟨hlock, hmarks, hexecution⟩,
      ⟨hdepartments, hcompanies, hchildren⟩, rfl⟩
  · rintro ⟨hvalid, hgranted, hstored, rfl⟩
    exact ⟨(), validateSnapshot_ok_iff.mpr hvalid, (), hgranted.lock, _, ⟨hgranted.marks, rfl⟩,
      _, loadDepartments_ok_iff.mpr ⟨hstored.departments, rfl, rfl⟩,
      _, loadCompanies_ok_iff.mpr ⟨hstored.companies, rfl, rfl⟩,
      _, publishLoop_ok_iff.mpr ⟨hstored.children, rfl⟩, (), hgranted.execution, rfl⟩

/-- The loop over the companies of `_apply_directory_delta`. -/
theorem deltaLoop_ok_iff {departmentIds companyIds : Ids} {companies : List AcessoriasCompany}
    {delta result : Delta} :
    companies.foldlM (deltaChildren raises departmentIds companyIds) delta = .ok result
      ↔ (∀ company ∈ companies.map AcessoriasCompany.sorted,
          ChildrenStored raises departmentIds companyIds company)
        ∧ result = delta.put
          ((companies.map AcessoriasCompany.sorted).flatMap (keyedContacts companyIds))
          ((companies.map AcessoriasCompany.sorted).flatMap
            (keyedRelationships departmentIds companyIds)) := by
  rw [foldlM_eq_ok_iff (f := deltaChildren raises departmentIds companyIds)
    fun _ _ _ _ => deltaChildren_ok_iff, foldl_put, List.forall_mem_map, List.flatMap_map,
    List.flatMap_map]

/-- The statements that mark the missing rows return. -/
structure MissingRetired (raises : Statement → Bool) (db : DirectoryTables)
    (snapshot : AcessoriasSnapshot) (after : DirectoryTables) : Prop where
  read : raises .read = false
  companies : ∀ row ∈ after.companies.rows,
    stale (fun row => row.id ∈ (db.companyIds snapshot).map (·.2)) row = true →
      raises (.absent 2 row.id) = false
  departments : ∀ row ∈ after.departments.rows,
    stale (fun row => row.id ∈ (db.departmentIds snapshot).map (·.2)) row = true →
      raises (.absent 3 row.id) = false
  contacts : ∀ row ∈ after.contacts.rows,
    stale (fun row => row.key ∈
        ((snapshot.keyedContacts (db.companyIds snapshot)).map (·.1)).reverse) row = true →
      raises (.absent 0 row.id) = false
  relationships : ∀ row ∈ after.relationships.rows,
    stale (fun row => row.key ∈ ((snapshot.keyedRelationships (db.departmentIds snapshot)
        (db.companyIds snapshot)).map (·.1)).reverse) row = true →
      raises (.absent 1 row.id) = false

/-- The order of the children is not that of the loop over the companies. -/
theorem sorted_companyRows :
    (snapshot.companies.insertionSort (·.externalId ≤ ·.externalId)).map keyedCompany
      = snapshot.sorted.companyRows := by
  unfold AcessoriasSnapshot.companyRows AcessoriasSnapshot.sorted
  rw [List.map_map]
  rfl

/-- **`_apply_directory_delta` returns when its statements do.** -/
theorem applyDirectoryDelta_ok_iff :
    applyDirectoryDelta raises snapshot db = .ok after
      ↔ Stored raises db snapshot.sorted
        ∧ MissingRetired raises db snapshot.sorted (db.putSnapshot snapshot.sorted)
        ∧ after = db.retireMissing snapshot.sorted (db.putSnapshot snapshot.sorted) := by
  have hstoredCompanies : (∀ company ∈ snapshot.sorted.companies, CompanyStored raises company)
      ↔ ∀ company ∈ snapshot.companies.insertionSort (·.externalId ≤ ·.externalId),
        CompanyStored raises company := List.forall_mem_map
  unfold applyDirectoryDelta
  simp only [bind_eq_ok_iff, execute_eq_ok_iff, pure_eq_ok_iff, and_true]
  constructor
  · rintro ⟨⟨db₁, departmentIds⟩, hload, ⟨db₂, companyIds⟩, hload', delta, hloop,
      _, hread, companies, hc, departments, hd, contacts, hk, relationships, hr, rfl⟩
    obtain ⟨hdepartments, rfl, rfl⟩ := loadDepartments_ok_iff.mp hload
    obtain ⟨hcompanies, rfl, rfl⟩ := loadCompanies_ok_iff.mp hload'
    obtain ⟨hchildren, rfl⟩ := deltaLoop_ok_iff.mp hloop
    simp only [sorted_companyRows, Delta.put, List.append_nil] at hchildren hc hd hk hr
    obtain ⟨hcompaniesRetired, rfl⟩ := retireRows_ok_iff.mp hc
    obtain ⟨hdepartmentsRetired, rfl⟩ := retireRows_ok_iff.mp hd
    obtain ⟨hcontactsRetired, rfl⟩ := retireRows_ok_iff.mp hk
    obtain ⟨hrelationshipsRetired, rfl⟩ := retireRows_ok_iff.mp hr
    exact ⟨⟨hdepartments, hstoredCompanies.mpr hcompanies, hchildren⟩,
      ⟨hread, hcompaniesRetired, hdepartmentsRetired, hcontactsRetired, hrelationshipsRetired⟩,
      rfl⟩
  · rintro ⟨hstored, hretired, rfl⟩
    refine ⟨_, loadDepartments_ok_iff.mpr ⟨hstored.departments, rfl, rfl⟩,
      _, loadCompanies_ok_iff.mpr ⟨hstoredCompanies.mp hstored.companies, rfl, rfl⟩, ?_⟩
    simp only [sorted_companyRows]
    refine ⟨_, deltaLoop_ok_iff.mpr ⟨hstored.children, rfl⟩, (), hretired.read, ?_⟩
    simp only [Delta.put, List.append_nil]
    exact ⟨_, retireRows_ok_iff.mpr ⟨hretired.companies, rfl⟩,
      _, retireRows_ok_iff.mpr ⟨hretired.departments, rfl⟩,
      _, retireRows_ok_iff.mpr ⟨hretired.contacts, rfl⟩,
      _, retireRows_ok_iff.mpr ⟨hretired.relationships, rfl⟩, rfl⟩

end Cai.Directory
