/-
  Cai.Directory.Contacts — the timestamp-aware upsert of a DigiSac contact.

  `_upsert_digisac_contact_cursor` of `src/core/digisac_contact_repository.py`
  and its four callers: the webhook and the hydration
  (`_upsert_digisac_contact_sync`), the backfill and the manual
  reconciliation.  The loop over `_CONTACT_PROVIDER_FIELDS` is a function of
  the field, so that what it does is said of all thirteen at once.

  Main results: `get_mergedFields`, `mergedFields_mono`.
-/
import Mathlib.Data.List.Sort
import Mathlib.Data.String.Basic
import Cai.Directory.Tables
import Cai.Lib.Fallible
import Cai.Lib.Text

namespace Cai.Directory

open Cai.Lib
open Cai.Cycle (Timestamp pgBlank)

/-! ## §1. The provider fields. -/

/-- The names in `_CONTACT_PROVIDER_FIELDS`. -/
inductive ProviderField
  | name
  | alternativeName
  | internalName
  | rawNumber
  | normalizedNumber
  | rawEmail
  | normalizedEmail
  | isGroup
  | accountId
  | serviceId
  | providerCreatedAt
  | providerUpdatedAt
  | providerDeletedAt
  deriving DecidableEq, Repr

/-- What a field holds, when it is not NULL. -/
@[reducible] def ProviderField.type : ProviderField → Type
  | .isGroup => Bool
  | .providerCreatedAt | .providerUpdatedAt | .providerDeletedAt => Timestamp
  | .name | .alternativeName | .internalName | .rawNumber | .normalizedNumber | .rawEmail
  | .normalizedEmail | .accountId | .serviceId => String

instance (f : ProviderField) : DecidableEq f.type :=
  match f with
  | .isGroup => inferInstanceAs (DecidableEq Bool)
  | .providerCreatedAt | .providerUpdatedAt | .providerDeletedAt =>
      inferInstanceAs (DecidableEq Timestamp)
  | .name | .alternativeName | .internalName | .rawNumber | .normalizedNumber | .rawEmail
  | .normalizedEmail | .accountId | .serviceId => inferInstanceAs (DecidableEq String)

namespace ProviderFields

/-- `row[field]`, `getattr(contact, field)` -/
def get (fields : ProviderFields) : (f : ProviderField) → Option f.type
  | .name => fields.name
  | .alternativeName => fields.alternativeName
  | .internalName => fields.internalName
  | .rawNumber => fields.rawNumber
  | .normalizedNumber => fields.normalizedNumber
  | .rawEmail => fields.rawEmail
  | .normalizedEmail => fields.normalizedEmail
  | .isGroup => fields.isGroup
  | .accountId => fields.accountId
  | .serviceId => fields.serviceId
  | .providerCreatedAt => fields.providerCreatedAt
  | .providerUpdatedAt => fields.providerUpdatedAt
  | .providerDeletedAt => fields.providerDeletedAt

/-- The fields that a loop over the names computes. -/
def build (g : (f : ProviderField) → Option f.type) : ProviderFields where
  name := g .name
  alternativeName := g .alternativeName
  internalName := g .internalName
  rawNumber := g .rawNumber
  normalizedNumber := g .normalizedNumber
  rawEmail := g .rawEmail
  normalizedEmail := g .normalizedEmail
  isGroup := g .isGroup
  accountId := g .accountId
  serviceId := g .serviceId
  providerCreatedAt := g .providerCreatedAt
  providerUpdatedAt := g .providerUpdatedAt
  providerDeletedAt := g .providerDeletedAt

@[simp] theorem get_build (g : (f : ProviderField) → Option f.type) (f : ProviderField) :
    (build g).get f = g f := by
  cases f <;> rfl

theorem ext_get {fields fields' : ProviderFields} (h : ∀ f, fields.get f = fields'.get f) :
    fields = fields' := by
  have hbuild : ∀ fields : ProviderFields, build fields.get = fields := fun _ => rfl
  rw [← hbuild fields, ← hbuild fields', funext h]

/-- The names, in their order. -/
def names : List ProviderField :=
  [.name, .alternativeName, .internalName, .rawNumber, .normalizedNumber, .rawEmail,
    .normalizedEmail, .isGroup, .accountId, .serviceId, .providerCreatedAt, .providerUpdatedAt,
    .providerDeletedAt]

theorem mem_names (f : ProviderField) : f ∈ names := by
  cases f <;> decide

end ProviderFields

/-- A contact as the provider describes it. -/
structure DigisacContact extends ProviderFields where
  externalId : String
  deriving DecidableEq, Repr

/-! ## §2. The merge. -/

/-- Both have a timestamp, and the incoming one is smaller. -/
def older (oldUpdated newUpdated : Option Timestamp) : Bool :=
  match oldUpdated, newUpdated with
  | some oldUpdated, some newUpdated => newUpdated < oldUpdated
  | _, _ => false

/-- The row has a timestamp, the contact has none. -/
def unordered (oldUpdated newUpdated : Option Timestamp) : Bool :=
  oldUpdated.isSome && newUpdated.isNone

/-- The row keeps its value of a field. -/
def keeps {α : Type} (older unordered : Bool) (stored incoming : Option α) : Bool :=
  incoming.isNone || older || (unordered && stored.isSome)

/-- One round of the loop over the fields. -/
def mergedField {α : Type} (older unordered : Bool) (stored incoming : Option α) : Option α :=
  if keeps older unordered stored incoming then stored else incoming

/-- `merged`, as far as the provider's fields go. -/
def mergedFields (row contact : ProviderFields) : ProviderFields :=
  let older := older row.providerUpdatedAt contact.providerUpdatedAt
  let unordered := unordered row.providerUpdatedAt contact.providerUpdatedAt
  let merged := ProviderFields.build fun f =>
    mergedField older unordered (row.get f) (contact.get f)
  -- the two assignments to `merged["provider_updated_at"]` after the loop
  if row.providerUpdatedAt.isSome && (contact.providerUpdatedAt.isNone || older) then
    { merged with providerUpdatedAt := row.providerUpdatedAt }
  else if contact.providerUpdatedAt.isSome then
    { merged with providerUpdatedAt := contact.providerUpdatedAt }
  else merged

/-- `merged` -/
def mergedRow (source : String) (observed : Timestamp) (contact : DigisacContact)
    (row : DigisacRow) : DigisacRow where
  fields := mergedFields row.fields contact.toProviderFields
  lastSeenAt := max row.lastSeenAt observed
  lastSource :=
    if older row.fields.providerUpdatedAt contact.providerUpdatedAt
        || unordered row.fields.providerUpdatedAt contact.providerUpdatedAt
    then row.lastSource else source

section Merge

variable {row contact : ProviderFields} {f : ProviderField}

/-- **The loop decides about every field**: the two assignments after it
    change nothing. -/
theorem get_mergedFields (row contact : ProviderFields) (f : ProviderField) :
    (mergedFields row contact).get f
      = mergedField (older row.providerUpdatedAt contact.providerUpdatedAt)
        (unordered row.providerUpdatedAt contact.providerUpdatedAt) (row.get f) (contact.get f) := by
  have hupdated : ∀ merged : ProviderFields, ∀ updated : Option Timestamp,
      merged.providerUpdatedAt = updated → { merged with providerUpdatedAt := updated } = merged := by
    rintro merged _ rfl
    rfl
  unfold mergedFields
  simp only
  split
  next hkept =>
    rw [hupdated, ProviderFields.get_build]
    -- the row is newer, or the contact has no timestamp
    show mergedField _ _ row.providerUpdatedAt contact.providerUpdatedAt = row.providerUpdatedAt
    unfold mergedField keeps
    obtain ⟨-, hwhy⟩ := Bool.and_eq_true_iff.mp hkept
    rw [hwhy, Bool.true_or, if_pos rfl]
  next hkept =>
    split
    next hsome =>
      rw [hupdated, ProviderFields.get_build]
      show mergedField _ _ row.providerUpdatedAt contact.providerUpdatedAt
        = contact.providerUpdatedAt
      obtain ⟨t, ht⟩ := Option.isSome_iff_exists.mp hsome
      rw [ht] at hkept ⊢
      unfold mergedField keeps unordered
      cases hrow : row.providerUpdatedAt with
      | none => rfl
      | some u =>
          rw [hrow] at hkept
          have hnot : older (some u) (some t) = false := by simpa using hkept
          rw [hnot]
          rfl
    next => rw [ProviderFields.get_build]

/-- An older contact changes no field. -/
theorem mergedFields_of_older (h : older row.providerUpdatedAt contact.providerUpdatedAt = true) :
    mergedFields row contact = row := by
  refine ProviderFields.ext_get fun f => ?_
  rw [get_mergedFields, h]
  unfold mergedField keeps
  rw [Bool.or_true, Bool.true_or, if_pos rfl]

/-- A contact without timestamp fills gaps only. -/
theorem get_mergedFields_of_unordered
    (h : unordered row.providerUpdatedAt contact.providerUpdatedAt = true)
    (hf : row.get f ≠ none) : (mergedFields row contact).get f = row.get f := by
  have hsome : (row.get f).isSome = true := Option.isSome_iff_ne_none.mpr hf
  rw [get_mergedFields, h]
  unfold mergedField keeps
  rw [hsome, Bool.true_and, Bool.or_true, if_pos rfl]

/-- What the contact supplies is stored, when the two are in order. -/
theorem get_mergedFields_of_newer (h : older row.providerUpdatedAt contact.providerUpdatedAt = false)
    (h' : unordered row.providerUpdatedAt contact.providerUpdatedAt = false) :
    (mergedFields row contact).get f = (contact.get f).or (row.get f) := by
  rw [get_mergedFields, h, h']
  unfold mergedField keeps
  cases contact.get f with
  | none => rfl
  | some v => rfl

/-- A field once non-null never becomes null. -/
theorem mergedFields_ne_none (h : row.get f ≠ none) : (mergedFields row contact).get f ≠ none := by
  rw [get_mergedFields]
  unfold mergedField
  split
  next => exact h
  next hkeeps =>
    intro hnone
    unfold keeps at hkeeps
    rw [hnone] at hkeeps
    exact hkeeps rfl

/-- The order of timestamps, NULL first. -/
def NotBefore (t t' : Option Timestamp) : Prop := ∀ u ∈ t, ∃ u' ∈ t', u ≤ u'

theorem NotBefore.refl (t : Option Timestamp) : NotBefore t t := fun u hu => ⟨u, hu, le_rfl⟩

theorem NotBefore.trans {t t' t'' : Option Timestamp} (h : NotBefore t t') (h' : NotBefore t' t'') :
    NotBefore t t'' := by
  intro u hu
  obtain ⟨u', hu', hle⟩ := h u hu
  obtain ⟨u'', hu'', hle'⟩ := h' u' hu'
  exact ⟨u'', hu'', hle.trans hle'⟩

/-- After a merge the row is at least as new as both. -/
theorem mergedFields_mono (row contact : ProviderFields) :
    NotBefore row.providerUpdatedAt (mergedFields row contact).providerUpdatedAt
      ∧ NotBefore contact.providerUpdatedAt (mergedFields row contact).providerUpdatedAt := by
  have hget := get_mergedFields row contact .providerUpdatedAt
  change (mergedFields row contact).providerUpdatedAt
    = mergedField _ _ row.providerUpdatedAt contact.providerUpdatedAt at hget
  rw [hget]
  unfold mergedField keeps older unordered NotBefore
  cases row.providerUpdatedAt with
  | none =>
      cases contact.providerUpdatedAt with
      | none => simp
      | some t => simp
  | some u =>
      cases contact.providerUpdatedAt with
      | none => simp
      | some t =>
          by_cases hlt : t < u
          · simp [hlt, hlt.le]
          · simp [hlt, not_lt.mp hlt]

end Merge

/-! ## §3. The upsert and its callers. -/

/-- The arguments of one upsert. -/
structure Observation where
  contact : DigisacContact
  source : String
  observed : Timestamp
  deriving DecidableEq, Repr

namespace Observation

variable (o : Observation)

/-- The row that is inserted. -/
def newRow : DigisacRow where
  fields := o.contact.toProviderFields
  lastSeenAt := o.observed
  lastSource := o.source

/-- The row after the upsert of the row of before. -/
def rowAfter (before : Option DigisacRow) : DigisacRow :=
  before.elim o.newRow (mergedRow o.source o.observed o.contact)

/-- The INSERT or the UPDATE of the row. -/
def apply (contacts : DigisacContacts) : DigisacContacts :=
  contacts.upsert o.contact.externalId o.newRow (mergedRow o.source o.observed o.contact)

end Observation

/-- `ck_digisac_contacts_external_id_nonblank`, `…_normalized_number_digits`,
    `…_source_nonblank` -/
def DigisacRow.storable (row : DigisacRow) (externalId : String) : Bool :=
  !pgBlank externalId && row.fields.normalizedNumber.all pgDigits && !pgBlank row.lastSource

inductive ContactError
  /-- `ValueError("contact source must not be blank")` -/
  | blankSource
  /-- A CHECK constraint of the table. -/
  | constraint
  deriving DecidableEq, Repr

/-- `_upsert_digisac_contact_cursor`, but for the hydration of the contact. -/
def upsertDigisacContactCursor (o : Observation) (contacts : DigisacContacts) :
    Except ContactError DigisacContacts := do
  require ((o.rowAfter (contacts.get? o.contact.externalId)).storable o.contact.externalId)
    .constraint
  return o.apply contacts

/-- `_upsert_digisac_contact_sync` -/
def upsertDigisacContact (o : Observation) (contacts : DigisacContacts) :
    Except ContactError DigisacContacts := do
  let normalizedSource := Text.strip o.source
  require (normalizedSource ≠ "") .blankSource
  upsertDigisacContactCursor { o with source := normalizedSource } contacts

/-- One entry of a dictionary: the key keeps its place, the last value stays. -/
def putContact (unique : List DigisacContact) (contact : DigisacContact) : List DigisacContact :=
  if unique.any (·.externalId == contact.externalId) then
    unique.map fun c => if c.externalId == contact.externalId then contact else c
  else unique ++ [contact]

/-- `{contact.external_id: contact for contact in contacts}.values()` -/
def uniqueContacts (contacts : List DigisacContact) : List DigisacContact :=
  contacts.foldl putContact []

/-- The upserts of a batch, one after another, in one transaction. -/
def upsertBatch (batch : List Observation) (contacts : DigisacContacts) :
    Except ContactError DigisacContacts :=
  batch.foldlM (fun contacts o => upsertDigisacContactCursor o contacts) contacts

/-- `_publish_digisac_contact_backfill_sync` -/
def publishBackfill (contacts : List DigisacContact) (observed : Timestamp) :
    DigisacContacts → Except ContactError DigisacContacts :=
  upsertBatch ((uniqueContacts contacts).map fun contact =>
    { contact, source := "contacts_backfill", observed })

/-- `_apply_digisac_delta` -/
def applyDigisacDelta (contacts : List DigisacContact) (now : Timestamp) :
    DigisacContacts → Except ContactError DigisacContacts :=
  upsertBatch ((contacts.insertionSort (·.externalId ≤ ·.externalId)).map fun contact =>
    { contact, source := "manual_reconciliation", observed := now })

/-- The placeholder of `_request_digisac_contact_hydration_sync`. -/
def referenceContact (externalId : String) (requested : Timestamp) (contacts : DigisacContacts) :
    DigisacContacts :=
  let normalizedId := Text.strip externalId
  if normalizedId = "" then contacts
  else contacts.upsert normalizedId
    { fields := {}, lastSeenAt := requested, lastSource := "message_reference" }
    fun row => { row with lastSeenAt := max row.lastSeenAt requested }

theorem upsertDigisacContactCursor_ok_iff {o : Observation} {contacts after : DigisacContacts} :
    upsertDigisacContactCursor o contacts = .ok after
      ↔ (o.rowAfter (contacts.get? o.contact.externalId)).storable o.contact.externalId = true
        ∧ after = o.apply contacts := by
  unfold upsertDigisacContactCursor
  rw [bind_eq_ok_iff]
  simp only [require_eq_ok_iff, pure_eq_ok_iff]
  exact ⟨fun ⟨_, hstorable, heq⟩ => ⟨hstorable, heq.symm⟩,
    fun ⟨hstorable, heq⟩ => ⟨(), hstorable, heq.symm⟩⟩

/-- A batch that returned applied its observations, in their order. -/
theorem upsertBatch_ok {batch : List Observation} {contacts after : DigisacContacts}
    (h : upsertBatch batch contacts = .ok after) :
    after = batch.foldl (fun contacts o => o.apply contacts) contacts :=
  foldlM_ok_foldl (fun _ _ _ hok => (upsertDigisacContactCursor_ok_iff.mp hok).2) h

theorem get?_apply_self (o : Observation) (contacts : DigisacContacts) :
    (o.apply contacts).get? o.contact.externalId
      = some (o.rowAfter (contacts.get? o.contact.externalId)) :=
  Keyed.get?_upsert_self

theorem get?_apply_ne {o : Observation} {contacts : DigisacContacts} {externalId : String}
    (h : externalId ≠ o.contact.externalId) :
    (o.apply contacts).get? externalId = contacts.get? externalId :=
  Keyed.get?_upsert_ne h

end Cai.Directory
