/-
  Cai.Reconciliation.Convergence — the plan tells what an apply does.

  The plan compares and the upserts write: the two agree on every row
  that the snapshots name (`KindsTrue`), and a plan that is built after
  an apply finds every row as the snapshots have it.

  Main result: `plan_converges`.
-/
import Cai.Directory.Publishers
import Cai.Reconciliation.Run

namespace Cai.Reconciliation

open Cai.Lib
open Cai.Cycle (Timestamp)
open Cai.Directory
open Cai.Identity (IdentityTables)

variable {env : Environment} {snapshot : AcessoriasSnapshot}
  {digisac : DigisacContactBackfillSnapshot} {db after : IdentityTables}

/-! ## §1. What the transaction leaves. -/

/-- The upsert of a contact by the reconciliation. -/
def observationOf (now : Timestamp) (contact : DigisacContact) : Observation :=
  { contact, source := "manual_reconciliation", observed := now }

/-- The contacts of the snapshot are upserted, and no other row changes. -/
structure ContactsUpserted (now : Timestamp) (contacts : List DigisacContact)
    (before after : DigisacContacts) : Prop where
  named : ∀ contact ∈ contacts, after.get? contact.externalId
    = some ((observationOf now contact).rowAfter (before.get? contact.externalId))
  others : ∀ externalId, externalId ∉ contacts.map (·.externalId) →
    after.get? externalId = before.get? externalId

/-- Contacts with different ids are upserted one beside the other. -/
theorem contactsUpserted_foldl (now : Timestamp) {contacts : List DigisacContact}
    (hunique : (contacts.map (·.externalId)).Nodup) (before : DigisacContacts) :
    ContactsUpserted now contacts before
      (contacts.foldl (fun table contact => (observationOf now contact).apply table) before) := by
  induction contacts generalizing before with
  | nil => exact ⟨fun contact h => absurd h List.not_mem_nil, fun _ _ => rfl⟩
  | cons contact contacts ih =>
      obtain ⟨hnew, hrest⟩ := List.nodup_cons.mp hunique
      have htail := ih hrest ((observationOf now contact).apply before)
      rw [List.foldl_cons]
      constructor
      · intro c hc
        rcases List.mem_cons.mp hc with rfl | hc
        · -- the contacts after it have other ids
          rw [htail.others c.externalId hnew]
          exact get?_apply_self (observationOf now c) before
        · have hne : c.externalId ≠ contact.externalId := by
            intro heq
            exact hnew (List.mem_map.mpr ⟨c, hc, heq⟩)
          rw [htail.named c hc]
          congr 2
          exact get?_apply_ne hne
      · intro externalId hnot
        rw [List.map_cons, List.mem_cons, not_or] at hnot
        rw [htail.others externalId hnot.2]
        exact get?_apply_ne hnot.1

/-- The order of the contacts does not matter. -/
theorem ContactsUpserted.congr {now : Timestamp} {contacts contacts' : List DigisacContact}
    {before after : DigisacContacts} (h : ContactsUpserted now contacts before after)
    (hmem : ∀ contact, contact ∈ contacts' ↔ contact ∈ contacts) :
    ContactsUpserted now contacts' before after := by
  refine ⟨fun contact hcontact => h.named contact ((hmem contact).mp hcontact),
    fun externalId hnot => h.others externalId fun hold => hnot ?_⟩
  obtain ⟨contact, hcontact, rfl⟩ := List.mem_map.mp hold
  exact List.mem_map_of_mem ((hmem contact).mpr hcontact)

/-- A block of which another error is told returns when it did. -/
theorem mapError_eq_ok_iff {ε ε' α : Type} {f : ε → ε'} {x : Except ε α} {a : α} :
    x.mapError f = .ok a ↔ x = .ok a := by
  cases x with
  | error e => exact ⟨nofun, nofun⟩
  | ok b =>
      show Except.ok b = Except.ok a ↔ Except.ok b = Except.ok a
      rw [Except.ok.injEq, Except.ok.injEq]

/-- One contact that was published. -/
theorem publishContact_ok {contacts contacts' : DigisacContacts} {contact : DigisacContact}
    (h : publishContact env contacts contact = .ok contacts') :
    contacts' = (observationOf env.now contact).apply contacts := by
  unfold publishContact at h
  obtain ⟨_, -, h⟩ := bind_eq_ok_iff.mp h
  exact (upsertDigisacContactCursor_ok_iff.mp (mapError_eq_ok_iff.mp h)).2

/-- What a publication of both snapshots leaves. -/
structure Deltas (now : Timestamp) (snapshot : AcessoriasSnapshot)
    (digisac : DigisacContactBackfillSnapshot) (before after : IdentityTables) : Prop where
  directory : Published snapshot before.directory after.directory
  contacts : ContactsUpserted now digisac.contacts before.digisacContacts after.digisacContacts

theorem applyDeltas_ok (hdb : db.directory.Owned) (hvalid : Validated snapshot)
    (h : applyDeltas env snapshot digisac db = .ok after) :
    Deltas env.now snapshot digisac db after := by
  unfold applyDeltas at h
  obtain ⟨directory, hdirectory, h⟩ := bind_eq_ok_iff.mp h
  obtain ⟨contacts, hcontacts, h⟩ := bind_eq_ok_iff.mp h
  rw [← pure_eq_ok_iff.mp h]
  refine ⟨applyDirectoryDelta_published hdb hvalid (mapError_eq_ok_iff.mp hdirectory), ?_⟩
  have hsorted : ((digisac.contacts.insertionSort (·.externalId ≤ ·.externalId)).map
      (·.externalId)).Nodup := nodup_map_insertionSort digisac.unique
  show ContactsUpserted env.now digisac.contacts db.digisacContacts contacts
  rw [foldlM_ok_foldl (fun _ _ _ => publishContact_ok) hcontacts]
  exact (contactsUpserted_foldl env.now hsorted db.digisacContacts).congr
    fun contact => (List.mem_insertionSort _).symm

/-! ## §2. The kinds are true. -/

/-- A row appears. -/
def Created {ρ : Type} (before after : Option ρ) : Prop := before = none ∧ after ≠ none

/-- A row changes. -/
def Altered {ρ : Type} (before after : Option ρ) : Prop :=
  ∃ old new, before = some old ∧ after = some new ∧ old ≠ new

/-- The kind of a row is true of what became of it. -/
structure KindTrue {ρ : Type} (kind : ChangeKind) (before after : Option ρ) : Prop where
  created : kind = .new ↔ Created before after
  altered : kind = .changed ∨ kind = .unordered ↔ Altered before after

/-- Each row is named once, and its kind is true. -/
structure KindsTrue {η ρ : Type} (kinds : List (η × ChangeKind)) (before after : η → Option ρ) :
    Prop where
  distinct : (kinds.map (·.1)).Nodup
  each : ∀ a ∈ kinds, KindTrue a.2 (before a.1) (after a.1)

/-- A row that is there and keeps its columns is neither created nor changed. -/
theorem kindTrue_of_same {ρ : Type} {kind : ChangeKind} {row : ρ} (hnew : kind ≠ .new)
    (hchanged : kind ≠ .changed) (hunordered : kind ≠ .unordered) :
    KindTrue kind (some row) (some row) where
  created := ⟨fun h => absurd h hnew, fun h => nomatch h.1⟩
  altered := by
    constructor
    · rintro (h | h)
      · exact absurd h hchanged
      · exact absurd h hunordered
    · rintro ⟨_, _, hold, hnew', hne⟩
      exact absurd ((Option.some.inj hold).symm.trans (Option.some.inj hnew')) hne

theorem kindTrue_of_changed {ρ : Type} {kind : ChangeKind} {old new : ρ}
    (hkind : kind = .changed ∨ kind = .unordered) (hne : old ≠ new) :
    KindTrue kind (some old) (some new) where
  created := by
    refine ⟨fun h => ?_, fun h => nomatch h.1⟩
    rcases hkind with rfl | rfl <;> cases h
  altered := ⟨fun _ => ⟨old, new, rfl, rfl, hne⟩, fun _ => hkind⟩

theorem kindTrue_of_new {ρ : Type} {new : ρ} : KindTrue .new none (some new) where
  created := ⟨fun _ => ⟨rfl, nofun⟩, fun _ => rfl⟩
  altered := by
    refine ⟨fun h => ?_, fun ⟨_, _, h, _⟩ => nomatch h⟩
    rcases h with h | h <;> cases h

/-- A row that is overwritten. -/
theorem rowKind_true {φ : Type} {differs : DirectoryRow φ → Bool} {new : DirectoryRow φ}
    (hdiffers : ∀ row, differs row = true ↔ row ≠ new) (before : Option (DirectoryRow φ)) :
    KindTrue (rowKind differs before) before (some new) := by
  cases before with
  | none => exact kindTrue_of_new
  | some row =>
      unfold rowKind
      simp only
      by_cases hrow : row = new
      · have hsame : differs row = false := Bool.eq_false_iff.mpr fun h => (hdiffers row).mp h hrow
        rw [hsame, hrow]
        exact kindTrue_of_same nofun nofun nofun
      · rw [(hdiffers row).mpr hrow]
        exact kindTrue_of_changed (.inl rfl) hrow

/-- A row that is as the snapshot has it. -/
theorem rowKind_unchanged {φ : Type} {differs : DirectoryRow φ → Bool} {row : DirectoryRow φ}
    (hdiffers : ∀ old, differs old = true ↔ old ≠ row) :
    rowKind differs (some row) = .unchanged := by
  have hsame : differs row = false := Bool.eq_false_iff.mpr fun h => (hdiffers row).mp h rfl
  unfold rowKind
  simp only
  rw [hsame]
  rfl

theorem eq_presentRow_iff {φ : Type} {row : DirectoryRow φ} {isActive : Option Bool} {fields : φ} :
    row = presentRow isActive fields
      ↔ row.isPresent = true ∧ row.isActive = isActive ∧ row.fields = fields := by
  obtain ⟨⟨isPresent, active⟩, columns⟩ := row
  unfold presentRow
  simp [and_assoc]

theorem company_differs (company : AcessoriasCompany) (row : DirectoryRow CompanyFields) :
    ((company.toCompanyFields, company.isActive) != (row.fields, row.isActive)
      || !row.isPresent) = true ↔ row ≠ company.row := by
  unfold AcessoriasCompany.row
  rw [ne_eq, eq_presentRow_iff, Bool.or_eq_true, bne_iff_ne, ne_eq, Prod.mk.injEq,
    Bool.not_eq_true']
  grind

/-- The comparison of the departments and of the contacts. -/
theorem fields_differ {φ : Type} [DecidableEq φ] (fields : φ) (row : DirectoryRow φ) :
    (fields != row.fields || unavailable row) = true ↔ row ≠ presentRow (some true) fields := by
  unfold unavailable
  rw [ne_eq, eq_presentRow_iff]
  simp only [Bool.or_eq_true, bne_iff_ne, Bool.not_eq_true', beq_eq_false_iff_ne]
  grind

theorem relationship_differs (row : DirectoryRow Unit) :
    unavailable row = true ↔ row ≠ relationshipRow := by
  unfold unavailable relationshipRow
  rw [ne_eq, eq_presentRow_iff]
  simp only [Bool.or_eq_true, Bool.not_eq_true', beq_eq_false_iff_ne]
  grind

/-! ## §3. The second copy of the merge. -/

section Merge

variable {row contact : ProviderFields}

/-- The plan and the upsert compute one value. -/
theorem plannedField_eq {α : Type} (older unordered : Bool) (stored incoming : Option α) :
    plannedField older unordered stored incoming = mergedField older unordered stored incoming := rfl

/-- The loop of the plan notices exactly a merge that changes a field. -/
theorem fieldsChange_iff (row contact : ProviderFields) :
    fieldsChange (older row.providerUpdatedAt contact.providerUpdatedAt)
        (unordered row.providerUpdatedAt contact.providerUpdatedAt) row contact = true
      ↔ mergedFields row contact ≠ row := by
  have hloop : ∀ names : List ProviderField, ∀ changed,
      names.foldl (fun changed f =>
        if plannedField (older row.providerUpdatedAt contact.providerUpdatedAt)
            (unordered row.providerUpdatedAt contact.providerUpdatedAt) (row.get f) (contact.get f)
          ≠ row.get f then true else changed) changed = true
        ↔ changed = true ∨ ∃ f ∈ names, (mergedFields row contact).get f ≠ row.get f := by
    intro names
    induction names with
    | nil => simp
    | cons f names ih =>
        intro changed
        rw [List.foldl_cons, ih, plannedField_eq, ← get_mergedFields, List.exists_mem_cons_iff]
        by_cases hf : (mergedFields row contact).get f = row.get f
        · simp [hf]
        · simp [hf]
  unfold fieldsChange
  rw [hloop]
  constructor
  · rintro (h | ⟨f, -, hf⟩) heq
    · cases h
    · exact hf (congrArg (fun fields => fields.get f) heq)
  · intro hne
    by_contra hnone
    refine hne (ProviderFields.ext_get fun f => ?_)
    by_contra hf
    exact hnone (.inr ⟨f, ProviderFields.mem_names f, hf⟩)

/-- A contact that is merged once more changes nothing. -/
theorem mergedFields_idem (row contact : ProviderFields) :
    mergedFields (mergedFields row contact) contact = mergedFields row contact := by
  have hupdated : (mergedFields row contact).providerUpdatedAt
      = mergedField (older row.providerUpdatedAt contact.providerUpdatedAt)
        (unordered row.providerUpdatedAt contact.providerUpdatedAt) row.providerUpdatedAt
        contact.providerUpdatedAt := get_mergedFields row contact .providerUpdatedAt
  by_cases hold : older row.providerUpdatedAt contact.providerUpdatedAt = true
  · rw [mergedFields_of_older hold, mergedFields_of_older hold]
  have hnot : older row.providerUpdatedAt contact.providerUpdatedAt = false :=
    Bool.eq_false_iff.mpr hold
  refine ProviderFields.ext_get fun f => ?_
  cases hun : unordered row.providerUpdatedAt contact.providerUpdatedAt with
  | true =>
      -- the row keeps its timestamp, and the gaps are filled
      have hnone : contact.providerUpdatedAt = none := by
        unfold unordered at hun
        exact Option.isNone_iff_eq_none.mp (Bool.and_eq_true_iff.mp hun).2
      have hkept : (mergedFields row contact).providerUpdatedAt = row.providerUpdatedAt := by
        rw [hupdated, hnone]
        rfl
      rw [get_mergedFields (mergedFields row contact), hkept, hnot, hun, get_mergedFields row, hnot,
        hun]
      unfold mergedField keeps
      cases row.get f <;> cases contact.get f <;> rfl
  | false =>
      have hsame : older (mergedFields row contact).providerUpdatedAt contact.providerUpdatedAt = false
          ∧ unordered (mergedFields row contact).providerUpdatedAt contact.providerUpdatedAt
            = false := by
        rw [hupdated, hnot, hun]
        unfold mergedField keeps
        cases hcontact : contact.providerUpdatedAt with
        | none =>
            rw [hcontact] at hun
            unfold unordered at hun ⊢
            unfold older
            cases hrow : row.providerUpdatedAt with
            | none => exact ⟨rfl, rfl⟩
            | some t => rw [hrow] at hun; cases hun
        | some t =>
            unfold older unordered
            simp
      rw [get_mergedFields_of_newer hsame.1 hsame.2, get_mergedFields_of_newer hnot hun]
      cases contact.get f with
      | none => rfl
      | some v => rfl

/-- A contact that was inserted is its own merge. -/
theorem mergedFields_self (contact : ProviderFields) : mergedFields contact contact = contact := by
  have hordered : older contact.providerUpdatedAt contact.providerUpdatedAt = false
      ∧ unordered contact.providerUpdatedAt contact.providerUpdatedAt = false := by
    unfold older unordered
    cases contact.providerUpdatedAt with
    | none => exact ⟨rfl, rfl⟩
    | some t => simp
  refine ProviderFields.ext_get fun f => ?_
  rw [get_mergedFields_of_newer hordered.1 hordered.2]
  cases contact.get f with
  | none => rfl
  | some v => rfl

end Merge

/-- The fields that the plan compares. -/
def comparedFields (contacts : DigisacContacts) (externalId : String) : Option ProviderFields :=
  (contacts.get? externalId).map (·.fields)

/-- **The kind of a contact is true of its upsert.** -/
theorem contactChangeKind_true (now : Timestamp) (contact : DigisacContact)
    (before : Option DigisacRow) :
    KindTrue (contactChangeKind contact before) (before.map (·.fields))
      (some ((observationOf now contact).rowAfter before).fields) := by
  cases before with
  | none => exact kindTrue_of_new
  | some row =>
      show KindTrue _ (some row.fields) (some (mergedFields row.fields contact.toProviderFields))
      have hchange := fieldsChange_iff row.fields contact.toProviderFields
      unfold contactChangeKind
      simp only
      split
      next hold =>
        rw [mergedFields_of_older hold]
        exact kindTrue_of_same nofun nofun nofun
      next =>
        by_cases hsame : mergedFields row.fields contact.toProviderFields = row.fields
        · rw [Bool.eq_false_iff.mpr fun h => hchange.mp h hsame, hsame]
          split <;> exact kindTrue_of_same nofun nofun nofun
        · rw [hchange.mpr hsame]
          split
          next => exact kindTrue_of_changed (.inr rfl) (Ne.symm hsame)
          next => exact kindTrue_of_changed (.inl rfl) (Ne.symm hsame)

/-- A contact that was upserted is neither new nor changed. -/
theorem contactChangeKind_after (now : Timestamp) (contact : DigisacContact)
    (before : Option DigisacRow) :
    contactChangeKind contact (some ((observationOf now contact).rowAfter before)) = .older
      ∨ contactChangeKind contact (some ((observationOf now contact).rowAfter before))
        = .unchanged := by
  have hsame : mergedFields ((observationOf now contact).rowAfter before).fields
      contact.toProviderFields = ((observationOf now contact).rowAfter before).fields := by
    cases before with
    | none => exact mergedFields_self contact.toProviderFields
    | some row => exact mergedFields_idem row.fields contact.toProviderFields
  have hchange := fieldsChange_iff ((observationOf now contact).rowAfter before).fields
    contact.toProviderFields
  unfold contactChangeKind
  simp only
  rw [Bool.eq_false_iff.mpr fun h => hchange.mp h hsame]
  split
  next => exact .inl rfl
  next =>
    split
    next => exact .inr rfl
    next => exact .inr rfl

/-! ## §4. Every resource. -/

theorem kindsTrue_map {β η ρ : Type} {items : List β} {name : β → η} {kind : β → ChangeKind}
    {before after : η → Option ρ} (hdistinct : (items.map name).Nodup)
    (htrue : ∀ b ∈ items, KindTrue (kind b) (before (name b)) (after (name b))) :
    KindsTrue (items.map fun b => (name b, kind b)) before after := by
  constructor
  · rw [List.map_map]
    exact hdistinct
  · intro a ha
    obtain ⟨b, hb, rfl⟩ := List.mem_map.mp ha
    exact htrue b hb

/-- The kinds of the plan are true of every row that the snapshots name. -/
structure PlanTrue (snapshot : AcessoriasSnapshot) (digisac : DigisacContactBackfillSnapshot)
    (before after : IdentityTables) : Prop where
  companies : KindsTrue (plannedKinds snapshot digisac before).companies
    before.directory.view.companies after.directory.view.companies
  departments : KindsTrue (plannedKinds snapshot digisac before).departments
    before.directory.view.departments after.directory.view.departments
  contacts : KindsTrue (plannedKinds snapshot digisac before).contacts
    before.directory.view.contacts after.directory.view.contacts
  relationships : KindsTrue (plannedKinds snapshot digisac before).relationships
    before.directory.view.relationships after.directory.view.relationships
  digisacContacts : KindsTrue (plannedKinds snapshot digisac before).digisacContacts
    (comparedFields before.digisacContacts) (comparedFields after.digisacContacts)

/-- The rows that the snapshot names, as they are after a publication. -/
structure Shown (snapshot : AcessoriasSnapshot) (view : DirectoryView) : Prop where
  companies : ∀ company ∈ snapshot.companies, view.companies company.externalId = some company.row
  departments : ∀ department ∈ snapshot.departments,
    view.departments department.externalId = some department.row
  contacts : ∀ item ∈ namedContacts snapshot, view.contacts item.1 = some item.2.row
  relationships : ∀ n ∈ namedRelationships snapshot, view.relationships n = some relationshipRow

theorem shown_of_replaced {before after : DirectoryTables}
    (h : DirectoryReplaced snapshot before after) : Shown snapshot after.view where
  companies := fun company hcompany =>
    h.companies.written _ _ (mem_companyRows.mpr ⟨company, hcompany, rfl⟩)
  departments := fun department hdepartment =>
    h.departments.written _ _ (mem_departmentRows.mpr ⟨department, hdepartment, rfl⟩)
  contacts := by
    intro item hitem
    obtain ⟨company, hcompany, hmem⟩ := List.mem_flatMap.mp hitem
    obtain ⟨contact, hcontact, rfl⟩ := List.mem_map.mp hmem
    exact h.contacts.written _ _ (mem_contactRows.mpr ⟨company, hcompany, contact, hcontact, rfl⟩)
  relationships := by
    intro n hn
    obtain ⟨company, hcompany, hmem⟩ := List.mem_flatMap.mp hn
    obtain ⟨d, hd, rfl⟩ := List.mem_map.mp hmem
    exact h.relationships.written _ _ (mem_relationshipRows.mpr ⟨company, hcompany, d, hd, rfl⟩)

/-- **The plan is true of what the deltas write.** -/
theorem planTrue_of_deltas (hvalid : Validated snapshot) {now : Timestamp}
    (h : Deltas now snapshot digisac db after) : PlanTrue snapshot digisac db after := by
  have hshown := shown_of_replaced (h.directory.replaced hvalid)
  constructor
  · refine kindsTrue_map hvalid.companies fun company hcompany => ?_
    rw [hshown.companies company hcompany]
    exact rowKind_true (company_differs company) _
  · refine kindsTrue_map hvalid.departments fun department hdepartment => ?_
    rw [hshown.departments department hdepartment]
    exact rowKind_true (fields_differ department.toDepartmentFields) _
  · refine kindsTrue_map (nodup_namedContacts hvalid) fun item hitem => ?_
    rw [hshown.contacts item hitem]
    exact rowKind_true (fields_differ item.2.toContactFields) _
  · refine kindsTrue_map ?_ fun n hn => ?_
    · rw [List.map_id']
      exact List.nodup_dedup _
    · rw [hshown.relationships n (List.mem_dedup.mp hn)]
      exact rowKind_true relationship_differs _
  · refine kindsTrue_map digisac.unique fun contact hcontact => ?_
    unfold comparedFields
    rw [h.contacts.named contact hcontact]
    exact contactChangeKind_true now contact _

/-! ## §5. The next plan. -/

/-- A publication retains the rows that the snapshot lacks, and adds none. -/
theorem retained_publish (view : DirectoryView) (snapshot : AcessoriasSnapshot) :
    retained (view.publish snapshot) snapshot = retained view snapshot := by
  have hset : ∀ {η φ : Type} [DecidableEq η] (rows : List (η × DirectoryRow φ)) (names : List η)
      (old : η → Option (DirectoryRow φ)), (∀ a ∈ rows, a.1 ∈ names) →
      {n | Keyed.replaced DirectoryRow.absent rows old n ≠ none ∧ n ∉ names}
        = {n | old n ≠ none ∧ n ∉ names} := by
    intro η φ _ rows names old hnamed
    ext n
    refine and_congr_left fun hnot => ?_
    rw [replaced_of_not_mem fun row hmem => hnot (hnamed _ hmem)]
    simp
  unfold retained DirectoryView.publish
  simp only
  rw [hset, hset, hset, hset]
  · intro a ha
    obtain ⟨company, hcompany, d, hd, rfl⟩ := mem_relationshipRows.mp ha
    exact List.mem_flatMap.mpr ⟨company, hcompany, List.mem_map.mpr ⟨d, hd, rfl⟩⟩
  · intro a ha
    obtain ⟨company, hcompany, contact, hcontact, rfl⟩ := mem_contactRows.mp ha
    refine List.mem_map.mpr ⟨((company.externalId, contact.externalKey), contact), ?_, rfl⟩
    exact List.mem_flatMap.mpr ⟨company, hcompany, List.mem_map.mpr ⟨contact, hcontact, rfl⟩⟩
  · intro a ha
    obtain ⟨department, hdepartment, rfl⟩ := mem_departmentRows.mp ha
    exact List.mem_map.mpr ⟨department, hdepartment, rfl⟩
  · intro a ha
    obtain ⟨company, hcompany, rfl⟩ := mem_companyRows.mp ha
    exact List.mem_map.mpr ⟨company, hcompany, rfl⟩

/-- Nothing is new, and nothing has changed. -/
def Counts.Settled (counts : Counts) : Prop := counts.new = 0 ∧ counts.changed = 0

theorem settled_of_kinds {η β : Type} {counts : Counts} {items : List β} {name : β → η}
    {kind : β → ChangeKind} (h : counts.Of (items.map fun b => (name b, kind b)))
    (hkind : ∀ b ∈ items, kind b = .older ∨ kind b = .unchanged) : counts.Settled := by
  have hzero : ∀ k, k ≠ .older → k ≠ .unchanged → counts.get k = 0 := by
    intro k hold hsame
    rw [h k, List.count_eq_zero, List.map_map]
    intro hmem
    obtain ⟨b, hb, hk⟩ := List.mem_map.mp hmem
    rcases hkind b hb with hb | hb
    · exact hold (hk.symm.trans hb)
    · exact hsame (hk.symm.trans hb)
  exact ⟨hzero .new nofun nofun, hzero .changed nofun nofun⟩

/-- **A plan that is built after the deltas finds nothing to do.** -/
theorem settled_of_deltas (hvalid : Validated snapshot) {now : Timestamp}
    (h : Deltas now snapshot digisac db after) {plan : ReconciliationPlan}
    (hplan : Planned snapshot digisac after plan) : ∀ counts ∈ plan.resources, counts.Settled := by
  have hshown := shown_of_replaced (h.directory.replaced hvalid)
  have hcompanies : plan.companies.Settled := by
    refine settled_of_kinds hplan.companies fun company hcompany => .inr ?_
    rw [hshown.companies company hcompany]
    exact rowKind_unchanged (company_differs company)
  have hdepartments : plan.departments.Settled := by
    refine settled_of_kinds hplan.departments fun department hdepartment => .inr ?_
    rw [hshown.departments department hdepartment]
    exact rowKind_unchanged (fields_differ department.toDepartmentFields)
  have hcontacts : plan.contacts.Settled := by
    refine settled_of_kinds hplan.contacts fun item hitem => .inr ?_
    rw [hshown.contacts item hitem]
    exact rowKind_unchanged (fields_differ item.2.toContactFields)
  have hrelationships : plan.relationships.Settled := by
    refine settled_of_kinds hplan.relationships fun n hn => .inr ?_
    rw [hshown.relationships n (List.mem_dedup.mp hn)]
    exact rowKind_unchanged relationship_differs
  have hdigisac : plan.digisacContacts.Settled := by
    refine settled_of_kinds hplan.digisacContacts fun contact hcontact => ?_
    rw [h.contacts.named contact hcontact]
    exact contactChangeKind_after now contact _
  intro counts hmem
  simp only [ReconciliationPlan.resources, List.mem_cons, List.not_mem_nil, or_false] at hmem
  rcases hmem with rfl | rfl | rfl | rfl | rfl
  · exact hcompanies
  · exact hdepartments
  · exact hcontacts
  · exact hrelationships
  · exact hdigisac

/-! ## §6. The plan and the apply. -/

/-- **Reconciliation converges and its plan is truthful.**  A plan counts each
    row that the two snapshots name under its kind, and the rows of the
    directory that they lack.  The apply creates the rows that are new and
    changes those that are changed, or unordered; the rows that are lacking
    are marked absent, and no other contact is touched.  A plan built again
    finds nothing new, nothing changed and the same rows lacking. -/
theorem plan_converges {raises : Statement → Bool} {plan : ReconciliationPlan}
    (hdb : db.directory.Owned)
    (hplan : buildReconciliationPlan raises snapshot digisac db = .ok plan)
    (happly : applyDeltas env snapshot digisac db = .ok after) :
    Planned snapshot digisac db plan
      ∧ PlanTrue snapshot digisac db after
      ∧ DirectoryReplaced snapshot db.directory after.directory
      ∧ (∀ externalId, externalId ∉ digisac.contacts.map (·.externalId) →
          after.digisacContacts.get? externalId = db.digisacContacts.get? externalId)
      ∧ (∃ again, buildReconciliationPlan quiet snapshot digisac after = .ok again)
      ∧ ∀ raises' again, buildReconciliationPlan raises' snapshot digisac after = .ok again →
          (∀ counts ∈ again.resources, counts.Settled) ∧ again.newCount = 0
            ∧ again.changedCount = 0
            ∧ again.historicalRetainedCount = plan.historicalRetainedCount := by
  obtain ⟨hvalid, hplanned⟩ := buildReconciliationPlan_ok hplan
  have hdeltas := applyDeltas_ok hdb hvalid happly
  refine ⟨hplanned, planTrue_of_deltas hvalid hdeltas, hdeltas.directory.replaced hvalid,
    hdeltas.contacts.others, exists_plan hvalid rfl, ?_⟩
  intro raises' again hagain
  obtain ⟨-, hplanned'⟩ := buildReconciliationPlan_ok hagain
  have hsettled := settled_of_deltas hvalid hdeltas hplanned'
  refine ⟨hsettled, ?_, ?_, ?_⟩
  · unfold ReconciliationPlan.newCount
    rw [List.sum_eq_zero_iff_forall_eq_nat, List.forall_mem_map]
    exact fun counts hmem => (hsettled counts hmem).1
  · unfold ReconciliationPlan.changedCount
    rw [List.sum_eq_zero_iff_forall_eq_nat, List.forall_mem_map]
    exact fun counts hmem => (hsettled counts hmem).2
  · rw [hplanned'.retained, hplanned.retained, hdeltas.directory.view]
    exact retained_publish db.directory.view snapshot

/-- A directory that was refreshed, and two contacts with timestamps. -/
def refreshed : IdentityTables where
  directory := (Publication.mk .refresh earlierSnapshot quiet).commit {}
  digisacContacts := committed .empty (publishBackfill
    [{ externalId := "a", name := some "Ana", providerUpdatedAt := some 5 },
      { externalId := "b", name := some "Bia", providerUpdatedAt := some 5 }] 1 .empty)

theorem refreshed_owned : refreshed.directory.Owned := by
  have hexec : directoryMachine.exec {} [⟨.refresh, earlierSnapshot, quiet⟩]
      = some refreshed.directory := rfl
  exact reachable_owned (Machine.reachable_of_exec rfl hexec)

/-- A new contact, an older one and one without a timestamp. -/
def incomingContacts : DigisacContactBackfillSnapshot :=
  collectContacts [{ externalId := "b", name := some "Beatriz", rawNumber := some "55" },
    { externalId := "c", name := some "Caio" }, { externalId := "a", providerUpdatedAt := some 3 }]

/-- Both providers answer, and no statement raises. -/
def calm (snapshot : AcessoriasSnapshot) (digisac : DigisacContactBackfillSnapshot) : Environment where
  acessorias := .ok snapshot
  digisac := .ok digisac

/-- The contact without a timestamp is counted as unordered once. -/
theorem plan_converges_later :
    ∃ plan after again, buildReconciliationPlan quiet laterSnapshot incomingContacts refreshed = .ok plan
      ∧ applyDeltas (calm laterSnapshot incomingContacts) laterSnapshot incomingContacts refreshed
        = .ok after
      ∧ plan.newCount = 6 ∧ plan.digisacContacts = { new := 1, older := 1, unordered := 1 }
      ∧ plan.historicalRetainedCount = 4
      ∧ buildReconciliationPlan quiet laterSnapshot incomingContacts after = .ok again
      ∧ again.newCount = 0 ∧ again.changedCount = 0 ∧ again.historicalRetainedCount = 4 := by
  have hdb : refreshed.directory.Owned := refreshed_owned
  obtain ⟨plan, hplan, hcounts⟩ := exists_ok_of_toOption
    (show (buildReconciliationPlan quiet laterSnapshot incomingContacts refreshed).toOption.map
      (fun plan => (plan.newCount, plan.digisacContacts, plan.historicalRetainedCount))
        = some (6, ({ new := 1, older := 1, unordered := 1 } : Counts), 4) by decide +kernel)
  obtain ⟨after, happly, -⟩ := exists_ok_of_toOption (c := true)
    (show (applyDeltas (calm laterSnapshot incomingContacts) laterSnapshot incomingContacts
      refreshed).toOption.map (fun _ => true) = some true by decide +kernel)
  obtain ⟨-, -, -, -, ⟨again, hagain⟩, hsettled⟩ := plan_converges hdb hplan happly
  obtain ⟨-, hnew, hchanged, hretained⟩ := hsettled quiet again hagain
  simp only [Prod.mk.injEq] at hcounts
  exact ⟨plan, after, again, hplan, happly, hcounts.1, hcounts.2.1, hcounts.2.2, hagain, hnew,
    hchanged, hretained.trans hcounts.2.2⟩

end Cai.Reconciliation
