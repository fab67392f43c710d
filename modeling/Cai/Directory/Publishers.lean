/-
  Cai.Directory.Publishers — the directory under its two publishers.

  Both publishers hold the lock `cai:acessorias-directory` for the whole of
  their transaction, so a call is one step (`directoryMachine`); a call
  that raises leaves the tables as they were.  From every state that such
  steps reach, the two leave the same view, and they return on the same
  snapshots unless a statement fails.
-/
import Cai.Directory.Refinement
import Cai.Lib.Transition

namespace Cai.Directory

open Cai.Lib

/-! ## §1. Calls. -/

/-- Who publishes. -/
inductive Publisher
  /-- `refresh_acessorias_directory` -/
  | refresh
  /-- `run_manual_reconciliation` -/
  | reconciliation
  deriving DecidableEq, Repr

/-- The block of the transaction, as far as the four tables go;
    `build_reconciliation_plan` validates before the delta is applied. -/
def Publisher.publish (publisher : Publisher) (raises : Statement → Bool)
    (snapshot : AcessoriasSnapshot) (db : DirectoryTables) :
    Except DirectoryError DirectoryTables :=
  match publisher with
  | .refresh => publishSnapshot raises snapshot db
  | .reconciliation => do
      validateSnapshot snapshot
      applyDirectoryDelta raises snapshot db

/-- A call: its publisher, its snapshot and the statements that fail. -/
structure Publication where
  publisher : Publisher
  snapshot : AcessoriasSnapshot
  raises : Statement → Bool

/-- The tables after a call. -/
def Publication.commit (publication : Publication) (db : DirectoryTables) : DirectoryTables :=
  committed db (publication.publisher.publish publication.raises publication.snapshot db)

/-- Any calls, from empty tables. -/
def directoryMachine : Machine DirectoryTables Publication where
  init db := db = {}
  step db publication := some (publication.commit db)

variable {raises : Statement → Bool} {db after : DirectoryTables} {snapshot : AcessoriasSnapshot}

theorem Publisher.published {publisher : Publisher} (hdb : db.Owned)
    (h : publisher.publish raises snapshot db = .ok after) : Published snapshot db after := by
  cases publisher with
  | refresh => exact publishSnapshot_published hdb h
  | reconciliation =>
      unfold Publisher.publish at h
      obtain ⟨_, hvalid, h⟩ := bind_eq_ok_iff.mp h
      exact applyDirectoryDelta_published hdb (validateSnapshot_ok_iff.mp hvalid) h

/-- One call keeps the foreign keys. -/
theorem Publication.owned (publication : Publication) (hdb : db.Owned) :
    (publication.commit db).Owned := by
  unfold Publication.commit
  cases h : publication.publisher.publish publication.raises publication.snapshot db with
  | error e => exact hdb
  | ok after => exact (Publisher.published hdb h).owned

theorem reachable_owned (h : directoryMachine.Reachable db) : db.Owned := by
  refine h.invariant (I := DirectoryTables.Owned) ?_ ?_
  · rintro _ rfl
    exact ⟨fun e he => absurd he List.not_mem_nil, fun e he => absurd he List.not_mem_nil⟩
  · intro s publication t hs _ hstep
    rw [← Option.some.inj hstep]
    exact publication.owned hs

/-! ## §2. What a publication leaves. -/

/-- One table, by the names of its rows, before and after a publication. -/
structure TableReplaced {η φ : Type} (rows : List (η × DirectoryRow φ))
    (before after : η → Option (DirectoryRow φ)) : Prop where
  /-- The rows of the snapshot are there, with all their columns. -/
  written : ∀ n row, (n, row) ∈ rows → after n = some row
  /-- No other row is present. -/
  present : ∀ n, (∃ row, after n = some row ∧ row.isPresent = true) ↔ ∃ row, (n, row) ∈ rows
  /-- Every other row is retained. -/
  retained : ∀ n old, before n = some old → (∀ row, (n, row) ∉ rows) →
    ∃ row, after n = some row ∧ row.isPresent = false ∧ row.isActive ≠ some true
      ∧ row.fields = old.fields
  /-- No other row appears. -/
  known : ∀ n row, after n = some row → (n, row) ∈ rows ∨ ∃ old, before n = some old

section Replaced

variable {η φ : Type} [DecidableEq η] {rows : List (η × DirectoryRow φ)}
  {before : η → Option (DirectoryRow φ)}

/-- A name that the rows do not have. -/
theorem replaced_of_not_mem {n : η} (h : ∀ row, (n, row) ∉ rows) :
    Keyed.replaced DirectoryRow.absent rows before n = (before n).map DirectoryRow.absent := by
  have hlook : rows.lookup n = none :=
    lookup_eq_none_iff.mpr fun a ha heq => h a.2 (heq ▸ ha)
  unfold Keyed.replaced
  rw [hlook, Option.none_or]

theorem replaced_of_mem (hrows : Consistent rows) {n : η} {row : DirectoryRow φ}
    (h : (n, row) ∈ rows) : Keyed.replaced DirectoryRow.absent rows before n = some row := by
  unfold Keyed.replaced
  rw [(lookup_eq_some_iff hrows).mpr h, Option.some_or]

theorem tableReplaced (hrows : Consistent rows) (hpresent : ∀ a ∈ rows, a.2.isPresent = true)
    {after : η → Option (DirectoryRow φ)}
    (h : after = Keyed.replaced DirectoryRow.absent rows before) :
    TableReplaced rows before after := by
  subst h
  refine ⟨fun n row hmem => replaced_of_mem hrows hmem, fun n => ⟨?_, ?_⟩, ?_, ?_⟩
  · rintro ⟨row, hafter, hrow⟩
    -- a row that is not written has been marked absent
    by_contra hnone
    rw [replaced_of_not_mem fun row hmem => hnone ⟨row, hmem⟩] at hafter
    obtain ⟨old, -, rfl⟩ := Option.map_eq_some_iff.mp hafter
    rw [old.absent_spec.1] at hrow
    cases hrow
  · rintro ⟨row, hmem⟩
    exact ⟨row, replaced_of_mem hrows hmem, hpresent _ hmem⟩
  · intro n old hold hnot
    rw [replaced_of_not_mem hnot, hold]
    exact ⟨old.absent, rfl, old.absent_spec⟩
  · intro n row hafter
    by_cases hmem : ∃ row, (n, row) ∈ rows
    · obtain ⟨row', hmem⟩ := hmem
      rw [replaced_of_mem hrows hmem] at hafter
      exact .inl (Option.some.inj hafter ▸ hmem)
    · rw [replaced_of_not_mem fun row h => hmem ⟨row, h⟩] at hafter
      obtain ⟨old, hold, -⟩ := Option.map_eq_some_iff.mp hafter
      exact .inr ⟨old, hold⟩

end Replaced

/-- The directory after a publication of a snapshot. -/
structure DirectoryReplaced (snapshot : AcessoriasSnapshot) (db after : DirectoryTables) : Prop where
  departments :
    TableReplaced snapshot.departmentRows db.view.departments after.view.departments
  companies : TableReplaced snapshot.companyRows db.view.companies after.view.companies
  contacts : TableReplaced snapshot.contactRows db.view.contacts after.view.contacts
  relationships :
    TableReplaced snapshot.relationshipRows db.view.relationships after.view.relationships
  /-- No row is outside of the view. -/
  owned : after.Owned
  /-- No id is deleted or changed. -/
  kept : DirectoryTables.Kept db after

theorem Published.replaced (h : Published snapshot db after) (hvalid : Validated snapshot) :
    DirectoryReplaced snapshot db after where
  departments := by
    refine tableReplaced hvalid.departmentRows (fun a ha => ?_) (by rw [h.view]; rfl)
    obtain ⟨_, _, rfl⟩ := mem_departmentRows.mp ha
    rfl
  companies := by
    refine tableReplaced hvalid.companyRows (fun a ha => ?_) (by rw [h.view]; rfl)
    obtain ⟨_, _, rfl⟩ := mem_companyRows.mp ha
    rfl
  contacts := by
    refine tableReplaced hvalid.contactRows (fun a ha => ?_) (by rw [h.view]; rfl)
    obtain ⟨_, _, _, _, rfl⟩ := mem_contactRows.mp ha
    rfl
  relationships := by
    refine tableReplaced (consistent_relationshipRows snapshot) (fun a ha => ?_) (by rw [h.view]; rfl)
    obtain ⟨_, _, _, _, rfl⟩ := mem_relationshipRows.mp ha
    rfl
  owned := h.owned
  kept := h.kept

/-- There is a row; it is present, active as given, and has these columns of the provider. -/
def ShownRow {φ : Type} (found : Option (DirectoryRow φ)) (isActive : Option Bool) (fields : φ) :
    Prop :=
  ∃ row, found = some row ∧ row.isPresent = true ∧ row.isActive = isActive ∧ row.fields = fields

/-- What each row of the snapshot says is stored; companies carry their own `is_active`. -/
structure SnapshotShown (snapshot : AcessoriasSnapshot) (after : DirectoryTables) : Prop where
  departments : ∀ department ∈ snapshot.departments,
    ShownRow (after.view.departments department.externalId) (some true)
      department.toDepartmentFields
  companies : ∀ company ∈ snapshot.companies,
    ShownRow (after.view.companies company.externalId) company.isActive company.toCompanyFields
  contacts : ∀ company ∈ snapshot.companies, ∀ contact ∈ company.contacts,
    ShownRow (after.view.contacts (company.externalId, contact.externalKey)) (some true)
      contact.toContactFields
  relationships : ∀ company ∈ snapshot.companies, ∀ d ∈ company.departmentIds,
    ShownRow (after.view.relationships (company.externalId, d)) (some true) ()

theorem shownRow_of_eq {φ : Type} {found : Option (DirectoryRow φ)} {isActive : Option Bool}
    {fields : φ} (h : found = some (presentRow isActive fields)) : ShownRow found isActive fields :=
  ⟨_, h, rfl, rfl, rfl⟩

/-- **A publication stores what the snapshot says.** -/
theorem DirectoryReplaced.shown (h : DirectoryReplaced snapshot db after) :
    SnapshotShown snapshot after where
  departments := fun department hdepartment => shownRow_of_eq
    (h.departments.written _ _ (mem_departmentRows.mpr ⟨department, hdepartment, rfl⟩))
  companies := fun company hcompany => shownRow_of_eq
    (h.companies.written _ _ (mem_companyRows.mpr ⟨company, hcompany, rfl⟩))
  contacts := fun company hcompany contact hcontact => shownRow_of_eq
    (h.contacts.written _ _ (mem_contactRows.mpr ⟨company, hcompany, contact, hcontact, rfl⟩))
  relationships := fun company hcompany d hd => shownRow_of_eq
    (h.relationships.written _ _ (mem_relationshipRows.mpr ⟨company, hcompany, d, hd, rfl⟩))

/-! ## §3. What the constraints accept. -/

/-- The constraints accept every row of the snapshot. -/
structure Storable (snapshot : AcessoriasSnapshot) : Prop where
  departments : ∀ department ∈ snapshot.departments, department.storable = true
  companies : ∀ company ∈ snapshot.companies, company.storable = true
  contacts : ∀ company ∈ snapshot.companies, ∀ contact ∈ company.contacts, contact.storable = true

/-- No statement fails of itself. -/
def quiet : Statement → Bool := fun _ => false

theorem storable_sorted_iff : Storable snapshot.sorted ↔ Storable snapshot := by
  constructor
  · intro h
    refine ⟨fun department hd => ?_, fun company hc => ?_, fun company hc contact hk => ?_⟩
    · exact h.departments department ((List.mem_insertionSort _).mpr hd)
    · exact h.companies company.sorted (mem_sorted_companies.mpr ⟨company, hc, rfl⟩)
    · exact h.contacts company.sorted (mem_sorted_companies.mpr ⟨company, hc, rfl⟩) contact
        (mem_sorted_contacts.mpr hk)
  · intro h
    refine ⟨fun department hd => ?_, fun company hcompany => ?_, fun company hcompany contact hk => ?_⟩
    · exact h.departments department ((List.mem_insertionSort _).mp hd)
    · obtain ⟨c, hc, rfl⟩ := mem_sorted_companies.mp hcompany
      exact h.companies c hc
    · obtain ⟨c, hc, rfl⟩ := mem_sorted_companies.mp hcompany
      exact h.contacts c hc contact (mem_sorted_contacts.mp hk)

/-- The statements of either publisher fail on a row that is not storable only. -/
theorem stored_quiet_iff (hvalid : Validated snapshot) :
    Stored quiet db snapshot ↔ Storable snapshot := by
  constructor
  · intro h
    exact ⟨fun department hd => (h.departments department hd).2,
      fun company hc => (h.companies company hc).2,
      fun company hc contact hk => ((h.children company hc).contacts contact hk).2⟩
  · intro h
    refine ⟨fun department hd => ⟨rfl, h.departments department hd⟩,
      fun company hc => ⟨rfl, h.companies company hc⟩, fun company hc => ⟨?_, ?_, ?_⟩⟩
    · exact Keyed.exists_lookup_putId hvalid.companyRows (company_named hc)
    · exact fun contact hk => ⟨rfl, h.contacts company hc contact hk⟩
    · exact fun d hd => ⟨Keyed.exists_lookup_putId hvalid.departmentRows
        (department_named (hvalid.parents company hc d hd)), rfl⟩

/-- Unless a statement fails, a publisher returns exactly on the validated
    snapshots whose rows the constraints accept. -/
theorem Publisher.returns_iff (publisher : Publisher) :
    (∃ after, publisher.publish quiet snapshot db = .ok after)
      ↔ Validated snapshot ∧ Storable snapshot := by
  cases publisher with
  | refresh =>
      unfold Publisher.publish
      simp only [publishSnapshot_ok_iff]
      constructor
      · rintro ⟨_, hvalid, -, hstored, -⟩
        exact ⟨hvalid, (stored_quiet_iff hvalid).mp hstored⟩
      · rintro ⟨hvalid, hstorable⟩
        exact ⟨_, hvalid, ⟨rfl, fun _ _ => rfl, rfl⟩, (stored_quiet_iff hvalid).mpr hstorable, rfl⟩
  | reconciliation =>
      unfold Publisher.publish
      simp only [bind_eq_ok_iff, applyDirectoryDelta_ok_iff]
      constructor
      · rintro ⟨_, _, h, hstored, -, -⟩
        have hvalid : Validated snapshot := validateSnapshot_ok_iff.mp h
        exact ⟨hvalid, storable_sorted_iff.mp ((stored_quiet_iff hvalid.sorted).mp hstored)⟩
      · rintro ⟨hvalid, hstorable⟩
        exact ⟨_, (), validateSnapshot_ok_iff.mpr hvalid,
          (stored_quiet_iff hvalid.sorted).mpr (storable_sorted_iff.mpr hstorable),
          ⟨rfl, fun _ _ _ => rfl, fun _ _ _ => rfl, fun _ _ _ => rfl, fun _ _ _ => rfl⟩, rfl⟩

/-! ## §4. The two publishers agree. -/

/-- **Both publishers compute the same directory**, from every reachable state
    and for every validated snapshot, whichever statements fail: two calls
    that return leave one view, in which the snapshot has replaced what was
    there and each of its rows is present with its columns; a call that raises leaves the four tables as they were; and
    unless a statement fails, one returns when the other does. -/
theorem publishers_agree (hdb : directoryMachine.Reachable db)
    (hsnapshot : validateSnapshot snapshot = .ok ()) :
    (∀ raises raises' published applied,
        publishSnapshot raises snapshot db = .ok published →
        applyDirectoryDelta raises' snapshot db = .ok applied → published.view = applied.view)
      ∧ (∀ publisher : Publisher, ∀ raises after,
          publisher.publish raises snapshot db = .ok after →
          DirectoryReplaced snapshot db after ∧ SnapshotShown snapshot after)
      ∧ (∀ publisher : Publisher, ∀ raises e, publisher.publish raises snapshot db = .error e →
          (Publication.mk publisher snapshot raises).commit db = db)
      ∧ ((∃ published, publishSnapshot quiet snapshot db = .ok published)
          ↔ ∃ applied, applyDirectoryDelta quiet snapshot db = .ok applied) := by
  have howned : db.Owned := reachable_owned hdb
  have hvalid : Validated snapshot := validateSnapshot_ok_iff.mp hsnapshot
  refine ⟨?_, ?_, ?_, ?_⟩
  · intro raises raises' published applied hpublished happlied
    rw [(publishSnapshot_published howned hpublished).view,
      (applyDirectoryDelta_published howned hvalid happlied).view]
  · intro publisher raises after h
    have hreplaced := (publisher.published howned h).replaced hvalid
    exact ⟨hreplaced, hreplaced.shown⟩
  · intro publisher raises e h
    unfold Publication.commit
    rw [h]
    rfl
  · have hrefresh : (∃ after, publishSnapshot quiet snapshot db = .ok after) ↔ _ :=
      Publisher.returns_iff .refresh
    have hreconciliation : (∃ after, (validateSnapshot snapshot >>= fun _ =>
        applyDirectoryDelta quiet snapshot db) = .ok after) ↔ _ :=
      Publisher.returns_iff .reconciliation
    rw [hsnapshot] at hreconciliation
    exact hrefresh.trans hreconciliation.symm

/-- Two departments and a company, then a company less and one more. -/
def earlierSnapshot : AcessoriasSnapshot where
  departments := [{ externalId := "d1", name := "Fiscal" }, { externalId := "d2", name := "RH" }]
  companies := [
    { externalId := "c1", providerId := "p1", legalName := "Um", tradeName := "",
      contacts := [{ externalKey := "k1", name := "Ana" }], departmentIds := ["d1", "d2"],
      isActive := some true }]

def laterSnapshot : AcessoriasSnapshot where
  departments := [{ externalId := "d2", name := "RH" }, { externalId := "d1", name := "Fiscal" }]
  companies := [
    { externalId := "c3", providerId := "p3", legalName := "Tres", tradeName := "",
      contacts := [{ externalKey := "k2", name := "Bia" }], departmentIds := ["d1"],
      isActive := none },
    { externalId := "c2", providerId := "p2", legalName := "Dois", tradeName := "",
      contacts := [], departmentIds := ["d2"], isActive := some false }]

/-- The two give the new companies different ids, and leave one view. -/
theorem publishers_agree_later :
    ∃ db published applied, publishSnapshot quiet laterSnapshot db = .ok published
      ∧ applyDirectoryDelta quiet laterSnapshot db = .ok applied
      ∧ published.companies.idOf "c2" = some 3 ∧ applied.companies.idOf "c2" = some 2
      ∧ published.view = applied.view := by
  have hexec : directoryMachine.exec {} [⟨.refresh, earlierSnapshot, quiet⟩]
      = some ((Publication.mk .refresh earlierSnapshot quiet).commit {}) := rfl
  have hdb := Machine.reachable_of_exec rfl hexec
  have hsnapshot : validateSnapshot laterSnapshot = .ok () := by decide +kernel
  obtain ⟨published, hpublished, hid⟩ := exists_ok_of_toOption (c := some 3)
    (show (publishSnapshot quiet laterSnapshot
        ((Publication.mk .refresh earlierSnapshot quiet).commit {})).toOption.map
      (fun after => after.companies.idOf "c2") = some (some 3) by decide +kernel)
  obtain ⟨applied, happlied, hid'⟩ := exists_ok_of_toOption (c := some 2)
    (show (applyDirectoryDelta quiet laterSnapshot
        ((Publication.mk .refresh earlierSnapshot quiet).commit {})).toOption.map
      (fun after => after.companies.idOf "c2") = some (some 2) by decide +kernel)
  have hview := (publishers_agree hdb hsnapshot).1 quiet quiet published applied hpublished happlied
  exact ⟨_, published, applied, hpublished, happlied, hid, hid', hview⟩

end Cai.Directory
