/-
  Cai.Webhook.Restart — a delivery that is cut off and made again.

  The provider delivers an event again when it gets no answer.  A crash
  leaves what was committed until then, and what a capture raises is
  logged, so that an attempt can lose any of its writes.  Every write
  stores the digest or the id of what it is about, and finds it when it
  is made again.

  Main result: `delivery_restarts`.
-/
import Cai.Directory.Attempts
import Cai.Reconciliation.Convergence
import Cai.Webhook.Ingestion

namespace Cai.Webhook

open Cai.Lib
open Cai.Cycle (Timestamp CycleRow CreateArgs CloseArgs CycleResult Fresh TicketCall createOpenCycle
  closeCycle returning openRow closedRow closeRow joinRow insertable)
open Cai.Directory (DigisacContact DigisacContacts DigisacRow HydrationTables HydrationRow Observation
  ContactCall ProviderFields contactHasMetadata requestHydration requestFor referenceContact upsertHydrated
  hydratedByWebhook upsertDigisacContact upsertDigisacContactCursor_ok_iff older unordered
  mergedFields mergedRow)
open Cai.Mapping (AssignmentEvent AssignmentRow AssignmentTables recordTicketAssignment)
open Cai.Finalization.Provider (IsoTime)
open Cai.Media (MediaRow MediaTable reserveContent runStatement)

/-! ## §1. What the clock does not write. -/

/-- The row without the end that a webhook gives a hydration. -/
def forgetHydration (r : HydrationRow) : HydrationRow :=
  { r with completedAt := r.completedAt.map fun _ => 0 }

def forgetAssignment (r : AssignmentRow) : AssignmentRow := { r with createdAt := 0 }

/-- The row without its stamps and without the time of its next attempt. -/
def forgetCycle (r : CycleRow) : CycleRow :=
  { r with createdAt := 0, updatedAt := 0, nextAttemptAt := r.nextAttemptAt.map fun _ => 0 }

def forgetMedia (r : MediaRow) : MediaRow :=
  { r with createdAt := 0, updatedAt := 0, nextAttemptAt := r.nextAttemptAt.map fun _ => 0 }

@[reducible] def Part.View : Part → Type
  | .contacts => DigisacContacts × List HydrationRow
  | .assignments => List String × List AssignmentRow
  | .cycles => List CycleRow
  | .audio | .images => MediaTable
  | .ledger => List String

/-- A table, but for what is read from the clock of the database. -/
def forget : (part : Part) → part.Table → part.View
  | .contacts, t => (t.contacts, t.rows.map forgetHydration)
  | .assignments, tables => (tables.eventKeys, tables.history.map forgetAssignment)
  | .cycles, rows => rows.map forgetCycle
  | .audio, table | .images, table => fun messageId => (table messageId).map forgetMedia
  | .ledger, ledger => ledger.rows.map (·.eventDigest)

def Alike (part : Part) (x y : part.Table) : Prop := forget part x = forget part y

theorem alike_equivalence (part : Part) : Equivalence (Alike part) :=
  ⟨fun _ => rfl, Eq.symm, Eq.trans⟩

/-! ## §2. The contacts. -/

section Contacts

variable {now now' : Timestamp} {o : Observation} {t : HydrationTables}
  {contacts contacts' : DigisacContacts} {externalId : String} {requested : Timestamp}

/-- The row decides against the contact. -/
def stale (row contact : ProviderFields) : Bool :=
  older row.providerUpdatedAt contact.providerUpdatedAt
    || unordered row.providerUpdatedAt contact.providerUpdatedAt

/-- It does so again. -/
theorem stale_mergedFields {row contact : ProviderFields} (h : stale row contact = true) :
    stale (mergedFields row contact) contact = true := by
  unfold stale at h ⊢
  rcases Bool.or_eq_true_iff.mp h with holder | hunordered
  · rw [Directory.mergedFields_of_older holder]
    exact h
  · unfold unordered at hunordered ⊢
    rw [Bool.and_eq_true] at hunordered
    have hkept : (mergedFields row contact).get .providerUpdatedAt ≠ none :=
      Directory.mergedFields_ne_none (Option.isSome_iff_ne_none.mp hunordered.1)
    have hsome : (mergedFields row contact).providerUpdatedAt.isSome = true :=
      Option.isSome_iff_ne_none.mpr hkept
    rw [hsome, hunordered.2, Bool.true_and, Bool.or_true]

/-- A contact that is merged once more changes nothing in its row. -/
theorem mergedRow_mergedRow (source : String) (observed : Timestamp) (contact : DigisacContact)
    (row : DigisacRow) :
    mergedRow source observed contact (mergedRow source observed contact row)
      = mergedRow source observed contact row := by
  have hsource : (mergedRow source observed contact (mergedRow source observed contact row)).lastSource
      = (mergedRow source observed contact row).lastSource := by
    show (if stale (mergedFields row.fields contact.toProviderFields) contact.toProviderFields = true
        then (mergedRow source observed contact row).lastSource else source) = _
    split
    next => rfl
    next hfresh =>
      have hnot : ¬ stale row.fields contact.toProviderFields = true :=
        fun h => hfresh (stale_mergedFields h)
      exact (if_neg hnot).symm
  have hfields := Reconciliation.mergedFields_idem row.fields contact.toProviderFields
  have hseen : max (max row.lastSeenAt observed) observed = max row.lastSeenAt observed :=
    max_eq_left (le_max_right _ _)
  have hrow := congr (congr (congrArg DigisacRow.mk hfields) hseen) hsource
  exact hrow

/-- A contact that was inserted is its own merge. -/
theorem mergedRow_newRow (o : Observation) :
    mergedRow o.source o.observed o.contact o.newRow = o.newRow := by
  have hfields := Reconciliation.mergedFields_self o.contact.toProviderFields
  have hsource : (if stale o.contact.toProviderFields o.contact.toProviderFields = true then o.source
      else o.source) = o.source := ite_self _
  exact congr (congr (congrArg DigisacRow.mk hfields) (max_self o.observed)) hsource

theorem apply_apply (o : Observation) (contacts : DigisacContacts) :
    o.apply (o.apply contacts) = o.apply contacts :=
  Keyed.upsert_upsert (mergedRow_newRow o) fun row => mergedRow_mergedRow _ _ _ row

/-- An upsert that was stored is stored again. -/
theorem upsertDigisacContact_again (h : upsertDigisacContact o contacts = .ok contacts') :
    upsertDigisacContact o contacts' = .ok contacts' := by
  unfold upsertDigisacContact at h ⊢
  obtain ⟨_, hsource, hcursor⟩ := bind_eq_ok_iff.mp h
  obtain ⟨hstorable, rfl⟩ := upsertDigisacContactCursor_ok_iff.mp hcursor
  refine bind_eq_ok_iff.mpr ⟨_, hsource, upsertDigisacContactCursor_ok_iff.mpr ⟨?_, ?_⟩⟩
  · rw [Directory.get?_apply_self]
    -- the row that is found is the row that is stored
    set o' : Observation := { o with source := Text.strip o.source }
    have hrow : o'.rowAfter (some (o'.rowAfter (contacts.get? o.contact.externalId)))
        = o'.rowAfter (contacts.get? o.contact.externalId) := by
      cases contacts.get? o.contact.externalId with
      | none => exact mergedRow_newRow o'
      | some row => exact mergedRow_mergedRow _ _ _ row
    exact hrow.symm ▸ hstorable
  · exact (apply_apply _ _).symm

theorem referenceContact_again (externalId : String) (requested : Timestamp)
    (contacts : DigisacContacts) :
    referenceContact externalId requested (referenceContact externalId requested contacts)
      = referenceContact externalId requested contacts := by
  unfold referenceContact
  by_cases hblank : Text.strip externalId = ""
  · simp only [if_pos hblank]
  · simp only [if_neg hblank]
    refine Keyed.upsert_upsert ?_ fun row => ?_
    · rw [max_self]
    · dsimp only
      rw [max_eq_left (le_max_right _ _)]

/-- What a webhook makes of the hydration of its contact. -/
def endedHydration (now : Timestamp) (r : HydrationRow) : HydrationRow :=
  { r with
    status := .succeeded, nextAttemptAt := none, leaseUntil := none
    completedAt := r.completedAt.or (some now), failureCategory := none, failureMessage := none }

theorem endedHydration_again (r : HydrationRow) :
    endedHydration now' (endedHydration now r) = endedHydration now r := by
  unfold endedHydration
  cases r.completedAt with
  | none => rfl
  | some completedAt => rfl

theorem forget_endedHydration (r : HydrationRow) :
    forgetHydration (endedHydration now r) = forgetHydration (endedHydration now' r) := by
  unfold forgetHydration endedHydration
  cases r.completedAt with
  | none => rfl
  | some completedAt => rfl

theorem hydratedByWebhook_rows :
    (hydratedByWebhook now externalId t).rows
      = t.rows.map fun r => if t.joins externalId r then endedHydration now r else r := rfl

theorem hydratedByWebhook_again :
    (hydratedByWebhook now' externalId (hydratedByWebhook now externalId t)).rows
      = (hydratedByWebhook now externalId t).rows := by
  -- the contacts are joined as before
  have hjoins : (hydratedByWebhook now externalId t).joins externalId = t.joins externalId := rfl
  rw [hydratedByWebhook_rows, hjoins, hydratedByWebhook_rows, List.map_map]
  refine List.map_congr_left fun r _ => ?_
  by_cases hr : t.joins externalId r = true
  · have hended : t.joins externalId (endedHydration now r) = true := hr
    rw [Function.comp_apply, if_pos hr, if_pos hended]
    exact endedHydration_again r
  · rw [Function.comp_apply, if_neg hr, if_neg hr]

theorem forget_hydratedByWebhook :
    forget .contacts (hydratedByWebhook now externalId t)
      = forget .contacts (hydratedByWebhook now' externalId t) := by
  refine Prod.ext rfl ?_
  show List.map forgetHydration _ = List.map forgetHydration _
  rw [hydratedByWebhook_rows, hydratedByWebhook_rows, List.map_map, List.map_map]
  refine List.map_congr_left fun r _ => ?_
  by_cases hr : t.joins externalId r = true
  · rw [Function.comp_apply, Function.comp_apply, if_pos hr, if_pos hr]
    exact forget_endedHydration r
  · rw [Function.comp_apply, Function.comp_apply, if_neg hr, if_neg hr]

theorem upsertHydrated_webhook (h : upsertDigisacContact o t.contacts = .ok contacts)
    (hsource : Text.strip o.source = "ticket_webhook") :
    upsertHydrated now (.upsert o) t
      = hydratedByWebhook now o.contact.externalId { t with contacts } := by
  have hrun : ContactCall.run (.upsert o) t.contacts = .ok contacts := h
  unfold upsertHydrated
  rw [hrun]
  exact if_pos hsource

theorem upsertHydrated_other (h : upsertDigisacContact o t.contacts = .ok contacts)
    (hsource : Text.strip o.source ≠ "ticket_webhook") :
    upsertHydrated now (.upsert o) t = { t with contacts } := by
  have hrun : ContactCall.run (.upsert o) t.contacts = .ok contacts := h
  unfold upsertHydrated
  rw [hrun]
  exact if_neg hsource

theorem upsertHydrated_error {e : Directory.ContactError}
    (h : upsertDigisacContact o t.contacts = .error e) : upsertHydrated now (.upsert o) t = t := by
  have hrun : ContactCall.run (.upsert o) t.contacts = .error e := h
  unfold upsertHydrated
  rw [hrun]

theorem repeatable_contactWrite (o : Observation) : (contactWrite o).Repeatable Alike := by
  constructor
  · intro now now' t
    show forget .contacts (upsertHydrated now (.upsert o) t)
      = forget .contacts (upsertHydrated now' (.upsert o) t)
    cases hupsert : upsertDigisacContact o t.contacts with
    | error e => rw [upsertHydrated_error hupsert, upsertHydrated_error hupsert]
    | ok contacts =>
        by_cases hsource : Text.strip o.source = "ticket_webhook"
        · rw [upsertHydrated_webhook hupsert hsource, upsertHydrated_webhook hupsert hsource]
          exact forget_hydratedByWebhook
        · rw [upsertHydrated_other hupsert hsource, upsertHydrated_other hupsert hsource]
  · intro now now' t
    show forget .contacts (upsertHydrated now' (.upsert o) (upsertHydrated now (.upsert o) t))
      = forget .contacts (upsertHydrated now (.upsert o) t)
    cases hupsert : upsertDigisacContact o t.contacts with
    | error e => rw [upsertHydrated_error hupsert, upsertHydrated_error hupsert]
    | ok contacts =>
        have hagain := upsertDigisacContact_again hupsert
        by_cases hsource : Text.strip o.source = "ticket_webhook"
        · rw [upsertHydrated_webhook hupsert hsource,
            @upsertHydrated_webhook now' o (hydratedByWebhook now o.contact.externalId
              { t with contacts }) contacts hagain hsource]
          have hrows := @hydratedByWebhook_again now now' { t with contacts } o.contact.externalId
          exact Prod.ext rfl (congrArg (List.map forgetHydration) hrows)
        · rw [upsertHydrated_other hupsert hsource,
            @upsertHydrated_other now' o { t with contacts } contacts hagain hsource]

/-- A request whose time is known: it does not read the clock. -/
theorem requestHydration_timeless :
    (requestHydration now externalId (some requested) t).1
      = (requestHydration now' externalId (some requested) t).1 := by
  unfold requestHydration requestFor
  dsimp only [Option.getD_some]
  split
  next => rfl
  next =>
    split
    next => rfl
    next => split <;> [rfl; (split <;> rfl)]

/-- A request for a contact that has a row. -/
theorem requestFor_of_row {contact : Entry String DigisacRow} {r : HydrationRow}
    (h : t.row? contact.id = some r) : (requestFor now requested contact t).1 = t := by
  unfold requestFor
  split
  next => rfl
  next hnone => rw [h] at hnone; cases hnone

/-- After a request its contact has a row, or does not need one. -/
theorem requestFor_again (contact : Entry String DigisacRow) :
    (requestFor now' requested contact (requestFor now requested contact t).1).1
      = (requestFor now requested contact t).1 := by
  cases hrow : t.row? contact.id with
  | some r => rw [requestFor_of_row hrow, requestFor_of_row hrow]
  | none =>
      by_cases hmetadata : contactHasMetadata contact.value = true
      · have hsame : ∀ now, (requestFor now requested contact t).1 = t := by
          intro now
          unfold requestFor
          split
          next => rfl
          next => rw [if_pos hmetadata]
        rw [hsame, hsame]
      · have hinserted : ∃ r, (requestFor now requested contact t).1.row? contact.id = some r := by
          unfold requestFor
          split
          next h => rw [hrow] at h; cases h
          next =>
            rw [if_neg hmetadata]
            exact ⟨_, (HydrationTables.row?_insert hrow contact.id).trans (if_pos rfl)⟩
        obtain ⟨r, hr⟩ := hinserted
        rw [requestFor_of_row hr]

theorem requestFor_contacts (contact : Entry String DigisacRow) :
    (requestFor now requested contact t).1.contacts = t.contacts := by
  unfold requestFor
  split
  next => rfl
  next => split <;> rfl

/-- A request that finds its contact. -/
theorem requestHydration_of_contact {contact : Entry String DigisacRow}
    (hblank : Text.strip externalId ≠ "")
    (hcontact : (referenceContact externalId requested t.contacts).find? (Text.strip externalId)
      = some contact) :
    (requestHydration now externalId (some requested) t).1
      = (requestFor now requested contact
        { t with contacts := referenceContact externalId requested t.contacts }).1 := by
  unfold requestHydration
  rw [if_neg hblank]
  dsimp only [Option.getD_some]
  rw [hcontact]

theorem requestHydration_again :
    (requestHydration now' externalId (some requested)
        (requestHydration now externalId (some requested) t).1).1
      = (requestHydration now externalId (some requested) t).1 := by
  by_cases hblank : Text.strip externalId = ""
  · have hsame : ∀ now t, (requestHydration now externalId (some requested) t).1 = t := by
      intro now t
      unfold requestHydration
      rw [if_pos hblank]
    rw [hsame, hsame]
  -- the placeholder of the contact is found
  obtain ⟨contact, hcontact⟩ : ∃ contact,
      (referenceContact externalId requested t.contacts).find? (Text.strip externalId)
        = some contact := by
    have hget : ∃ row, (referenceContact externalId requested t.contacts).get?
        (Text.strip externalId) = some row := by
      unfold referenceContact
      rw [if_neg hblank]
      exact ⟨_, Keyed.get?_upsert_self⟩
    obtain ⟨row, hrow⟩ := hget
    obtain ⟨contact, hcontact, -⟩ := Option.map_eq_some_iff.mp hrow
    exact ⟨contact, hcontact⟩
  rw [requestHydration_of_contact hblank hcontact]
  have hcontacts := @requestFor_contacts now
    { t with contacts := referenceContact externalId requested t.contacts } requested contact
  have hagain := @requestFor_again now now'
    { t with contacts := referenceContact externalId requested t.contacts } requested contact
  generalize (requestFor now requested contact
    { t with contacts := referenceContact externalId requested t.contacts }).1 = t' at hcontacts hagain
  have hcontacts' : referenceContact externalId requested t'.contacts = t'.contacts := by
    rw [hcontacts]
    exact referenceContact_again externalId requested t.contacts
  have hcontact' : (referenceContact externalId requested t'.contacts).find? (Text.strip externalId)
      = some contact := by
    rw [hcontacts', hcontacts]
    exact hcontact
  rw [requestHydration_of_contact hblank hcontact', hcontacts']
  exact hagain

theorem repeatable_hydrationWrite (externalId : String) (requested : Timestamp) :
    (hydrationWrite externalId (some requested)).Repeatable Alike where
  timeless _ _ _ := congrArg (forget .contacts) requestHydration_timeless
  again _ _ _ := congrArg (forget .contacts) requestHydration_again

end Contacts

/-! ## §3. The other tables. -/

section Others

variable {now now' : Timestamp} {e : AssignmentEvent} {tables : AssignmentTables}

/-- An event that was recorded is found by its key. -/
theorem recordTicketAssignment_again {result : AssignmentTables × Bool}
    (h : recordTicketAssignment now e tables = .ok result) :
    recordTicketAssignment now' e result.1 = .ok (result.1, false) := by
  unfold recordTicketAssignment at h ⊢
  split at h
  next hnone =>
    injection h with h
    rw [← h, if_pos hnone]
  next hnone =>
    rw [if_neg hnone]
    split at h
    next => cases h
    next hblank =>
      rw [if_neg hblank]
      have hkey : e.eventKey ∈ result.1.eventKeys := by
        have hnew : e.eventKey ∈ Table.insert tables.eventKeys e.eventKey :=
          List.mem_append_right _ (List.mem_singleton_self _)
        split at h
        next hmem =>
          injection h with h
          rw [← h]
          exact hmem
        next =>
          dsimp only at h
          split at h
          next =>
            injection h with h
            rw [← h]
            exact hnew
          next =>
            split at h
            next => cases h
            next =>
              injection h with h
              rw [← h]
              exact hnew
      exact if_pos hkey

/-- Whether it raises is no matter of the time. -/
theorem recordTicketAssignment_error {x : Mapping.AssignmentError}
    (h : recordTicketAssignment now e tables = .error x) :
    recordTicketAssignment now' e tables = .error x := by
  unfold recordTicketAssignment at h ⊢
  split at h
  next => cases h
  next hnone =>
    rw [if_neg hnone]
    split at h
    next hblank => rw [if_pos hblank, h]
    next hblank =>
      rw [if_neg hblank]
      split at h
      next => cases h
      next hmem =>
        rw [if_neg hmem]
        dsimp only at h ⊢
        split at h
        next => cases h
        next hrepeats =>
          rw [if_neg hrepeats]
          split at h
          next hcount => rw [if_pos hcount, h]
          next => cases h

theorem recording_again (now now' : Timestamp) (e : AssignmentEvent) (tables : AssignmentTables) :
    tablesAfter (tablesAfter tables (recordTicketAssignment now e tables))
        (recordTicketAssignment now' e (tablesAfter tables (recordTicketAssignment now e tables)))
      = tablesAfter tables (recordTicketAssignment now e tables) := by
  cases hrecord : recordTicketAssignment now e tables with
  | error x => rw [tablesAfter_error, recordTicketAssignment_error hrecord, tablesAfter_error]
  | ok result =>
      obtain ⟨after, stored⟩ := result
      rw [tablesAfter_ok, recordTicketAssignment_again hrecord, tablesAfter_ok]

theorem forget_recording (now now' : Timestamp) (e : AssignmentEvent) (tables : AssignmentTables) :
    forget .assignments (tablesAfter tables (recordTicketAssignment now e tables))
      = forget .assignments (tablesAfter tables (recordTicketAssignment now' e tables)) := by
  unfold recordTicketAssignment
  split
  next => rfl
  next =>
    split
    next => rfl
    next =>
      split
      next => rfl
      next =>
        dsimp only
        split
        next => rfl
        next =>
          split
          next => rfl
          next =>
            split
            next => rfl
            next =>
              refine Prod.ext rfl ?_
              show List.map forgetAssignment (tables.history ++ [_])
                = List.map forgetAssignment (tables.history ++ [_])
              rw [List.map_append, List.map_append]
              rfl

/-- An assignment is recorded under its key, once. -/
theorem repeatable_assignmentWrite (e : AssignmentEvent) :
    (assignmentWrite e).Repeatable Alike where
  timeless now now' tables := forget_recording now now' e tables
  again now now' tables := congrArg (forget .assignments) (recording_again now now' e tables)

/-- A message is reserved once: only a failed row is reserved again. -/
theorem reserveContent_again {conversationId : Option String} {model : String} {row : Option MediaRow}
    {r : MediaRow} (h : reserveContent now conversationId model false row = some r) :
    reserveContent now' conversationId model false (some r) = none := by
  have hpending := (Media.reserveContent_spec h).1
  unfold reserveContent
  exact if_neg fun hfailed => by rw [hpending] at hfailed; cases hfailed

theorem forget_reserveContent {conversationId : Option String} {model : String}
    {row : Option MediaRow} :
    (reserveContent now conversationId model false row).map forgetMedia
      = (reserveContent now' conversationId model false row).map forgetMedia := by
  unfold reserveContent
  cases row with
  | none => rfl
  | some r =>
      dsimp only
      split
      next => rfl
      next => rfl

/-- What a reservation makes of a table. -/
def reserving (messageId conversationId model : String) (now : Timestamp) : MediaTable → MediaTable :=
  runStatement messageId (reserve now conversationId model)

theorem forget_reserving (now now' : Timestamp) (messageId conversationId model : String)
    (table : MediaTable) :
    (fun id => (reserving messageId conversationId model now table id).map forgetMedia)
      = fun id => (reserving messageId conversationId model now' table id).map forgetMedia := by
  funext id
  unfold reserving runStatement
  by_cases hid : id = messageId
  · subst hid
    rw [Function.update_self, Function.update_self, Option.map_or, Option.map_or]
    exact congrArg (Option.or · _) forget_reserveContent
  · rw [Function.update_of_ne hid, Function.update_of_ne hid]

theorem reserving_again (now now' : Timestamp) (messageId conversationId model : String)
    (table : MediaTable) :
    reserving messageId conversationId model now' (reserving messageId conversationId model now table)
      = reserving messageId conversationId model now table := by
  have hrow : (reserve now' conversationId model).perform
      (reserving messageId conversationId model now table messageId) = none := by
    unfold reserving runStatement
    rw [Function.update_self]
    cases hreserve : (reserve now conversationId model).perform (table messageId) with
    | some r => exact reserveContent_again hreserve
    | none =>
        have hforget := @forget_reserveContent now' now (some conversationId) model (table messageId)
        have hnone : reserveContent now (some conversationId) model false (table messageId) = none :=
          hreserve
        rw [hnone] at hforget
        exact Option.map_eq_none_iff.mp hforget
  generalize reserving messageId conversationId model now table = table' at hrow
  unfold reserving runStatement
  rw [hrow, Option.none_or, Function.update_eq_self]

theorem repeatable_audioWrite (messageId conversationId model : String) :
    (audioWrite messageId conversationId model).Repeatable Alike where
  timeless now now' table := forget_reserving now now' messageId conversationId model table
  again now now' table :=
    congrArg (forget .audio) (reserving_again now now' messageId conversationId model table)

theorem repeatable_imageWrite (messageId conversationId model : String) :
    (imageWrite messageId conversationId model).Repeatable Alike where
  timeless now now' table := forget_reserving now now' messageId conversationId model table
  again now now' table :=
    congrArg (forget .images) (reserving_again now now' messageId conversationId model table)

/-- The digests after an upsert. -/
theorem digests_put (row : LedgerRow) (ledger : Ledger) :
    (ledger.put now row).1.rows.map (·.eventDigest)
      = if row.eventDigest ∈ ledger.rows.map (·.eventDigest) then ledger.rows.map (·.eventDigest)
        else ledger.rows.map (·.eventDigest) ++ [row.eventDigest] := by
  unfold Ledger.put
  split
  next h =>
    have hnew : row.eventDigest ∉ ledger.rows.map (·.eventDigest) := by
      intro hmem
      obtain ⟨r, hr, hdigest⟩ := List.mem_map.mp hmem
      exact Ledger.find?_eq_none_iff.mp h r hr hdigest
    rw [if_neg hnew]
    exact List.map_append
  next old h =>
    obtain ⟨hold, hdigest⟩ := Ledger.find?_eq_some_iff.mp h
    rw [if_pos (List.mem_map.mpr ⟨old, hold, hdigest⟩)]
    split
    next =>
      show (ledger.rows.map _).map _ = _
      rw [List.map_map]
      refine List.map_congr_left fun r _ => ?_
      by_cases hr : r.eventDigest = row.eventDigest
      · rw [Function.comp_apply, if_pos hr, hr]
      · rw [Function.comp_apply, if_neg hr]
    next => rfl

/-- The digests after a delivery. -/
theorem forget_recordWebhookEvent (now : Timestamp) (digest : String) (ledger : Ledger) :
    forget .ledger (tablesAfter ledger (recordWebhookEvent now digest ledger))
      = if validDigest digest = true ∧ digest ∉ forget .ledger ledger then
          forget .ledger ledger ++ [digest]
        else forget .ledger ledger := by
  unfold recordWebhookEvent validateEventDigest require
  by_cases hvalid : validDigest digest = true
  · rw [if_pos hvalid]
    show (ledger.put now _).1.rows.map (·.eventDigest) = _
    rw [digests_put]
    by_cases hmem : digest ∈ ledger.rows.map (·.eventDigest)
    · rw [if_pos hmem, if_neg fun h => h.2 hmem]
      rfl
    · rw [if_neg hmem, if_pos ⟨hvalid, hmem⟩]
      rfl
  · rw [if_neg hvalid, if_neg fun h => hvalid h.1]
    rfl

theorem mem_recordWebhookEvent {digest : String} (hvalid : validDigest digest = true)
    (now : Timestamp) (ledger : Ledger) :
    digest ∈ forget .ledger (tablesAfter ledger (recordWebhookEvent now digest ledger)) := by
  rw [forget_recordWebhookEvent]
  by_cases hmem : digest ∈ forget .ledger ledger
  · rw [if_neg fun h => h.2 hmem]
    exact hmem
  · rw [if_pos ⟨hvalid, hmem⟩]
    exact List.mem_append_right _ (List.mem_singleton_self _)

theorem repeatable_ledgerWrite (digest : String) : (ledgerWrite digest).Repeatable Alike where
  timeless now now' ledger := (forget_recordWebhookEvent now digest ledger).trans
    (forget_recordWebhookEvent now' digest ledger).symm
  again now now' ledger := (forget_recordWebhookEvent now' digest _).trans
    (if_neg fun h => h.2 (mem_recordWebhookEvent h.1 now ledger))

end Others

/-! ## §4. The cycles. -/

section Cycles

variable {now now' : Timestamp} {delaySeconds : Nat} {fresh : Fresh} {rows : List CycleRow}
  {args : CreateArgs} {closing : CloseArgs} {contact : Option String} {r x : CycleRow}

/-- The table after the transaction of a ticket event. -/
def rowsAfter (delaySeconds : Nat) (fresh : Fresh) (call : TicketCall) (now : Timestamp)
    (rows : List CycleRow) : List CycleRow :=
  committed rows ((call.perform now delaySeconds fresh rows).map (·.rows))

/-- A call commits where it finds the cycle that it returns. -/
theorem rows_returning {before : List CycleRow} {publicId : Nat} {created : Bool}
    (h : ∃ r ∈ rows, r.publicId = publicId) :
    committed before ((returning rows publicId created).map (·.rows)) = rows := by
  unfold returning
  cases hselect : Table.select (·.publicId == publicId) rows with
  | some cycle => rfl
  | none =>
      obtain ⟨r, hr, hid⟩ := h
      have hnone := Table.select_none hselect r hr
      simp [hid] at hnone

theorem select_update {p q : CycleRow → Bool} {f : CycleRow → CycleRow} (h : ∀ r, q (f r) = q r) :
    Table.select q (Table.update p f rows) = (Table.select q rows).map fun r => if p r then f r else r := by
  unfold Table.select Table.update
  rw [List.find?_map]
  have hcolumn : (q ∘ fun r => if p r then f r else r) = q := by
    funext r
    by_cases hp : p r = true
    · rw [Function.comp_apply, if_pos hp, h]
    · rw [Function.comp_apply, if_neg hp]
  rw [hcolumn]

/-- A key that is there. -/
theorem select_insert {q : CycleRow → Bool} (h : q r = true) :
    ∃ x, Table.select q (Table.insert rows r) = some x := by
  unfold Table.select Table.insert
  rw [List.find?_append, List.find?_singleton, if_pos h]
  cases rows.find? q with
  | none => exact ⟨r, rfl⟩
  | some x => exact ⟨x, rfl⟩

/-- An opening whose key is there changes nothing. -/
theorem rowsAfter_create_of_key
    (h : Table.select (·.openEventKey == some args.openEventKey) rows = some x) :
    rowsAfter delaySeconds fresh (.create args) now rows = rows := by
  show committed rows ((createOpenCycle now fresh args rows).map (·.rows)) = rows
  unfold createOpenCycle
  cases Cycle.normalizeContact args.contactExternalId with
  | error e => rfl
  | ok contact =>
      dsimp only
      rw [h]
      exact rows_returning ⟨x, (Table.select_mem h).1, rfl⟩

/-- An opening that joins the open cycle. -/
theorem rowsAfter_create_join {contact : String}
    (hcontact : Cycle.normalizeContact args.contactExternalId = .ok (some contact))
    (hkey : Table.select (·.openEventKey == some args.openEventKey) rows = none)
    (hopen : Table.select (·.openConversation == some args.conversationId) rows = some x) :
    rowsAfter delaySeconds fresh (.create args) now rows
      = Table.update (·.publicId == x.publicId) (joinRow now (some contact)) rows := by
  show committed rows ((createOpenCycle now fresh args rows).map (·.rows)) = _
  unfold createOpenCycle
  simp only [hcontact, hkey, hopen]
  have hx := Table.mem_update_of_mem (p := (·.publicId == x.publicId))
    (f := joinRow now (some contact)) (Table.select_mem hopen).1
  rw [if_pos (beq_self_eq_true x.publicId)] at hx
  exact rows_returning ⟨_, hx, rfl⟩

theorem forget_joinRow (now now' : Timestamp) (contact : Option String) (r : CycleRow) :
    forgetCycle (joinRow now' contact (joinRow now contact r)) = forgetCycle (joinRow now contact r) := by
  have hcontact : (r.digisacContactExternalId.or contact).or contact
      = r.digisacContactExternalId.or contact := by
    cases r.digisacContactExternalId with
    | none => exact Option.or_self
    | some value => rfl
  show { r with
    digisacContactExternalId := (r.digisacContactExternalId.or contact).or contact
    createdAt := 0, updatedAt := 0, nextAttemptAt := r.nextAttemptAt.map fun _ => 0 } = _
  rw [hcontact]
  rfl

theorem map_update {p : CycleRow → Bool} {f g : CycleRow → CycleRow}
    (h : ∀ r, forgetCycle (f r) = forgetCycle (g r)) :
    (Table.update p f rows).map forgetCycle = (Table.update p g rows).map forgetCycle := by
  unfold Table.update
  rw [List.map_map, List.map_map]
  refine List.map_congr_left fun r _ => ?_
  by_cases hp : p r = true
  · rw [Function.comp_apply, Function.comp_apply, if_pos hp, if_pos hp]
    exact h r
  · rw [Function.comp_apply, Function.comp_apply, if_neg hp, if_neg hp]

/-- A call that is made again on this table. -/
def RepeatedOn (delaySeconds : Nat) (fresh : Fresh) (call : TicketCall) (rows : List CycleRow) : Prop :=
  ∀ now now', Alike .cycles (rowsAfter delaySeconds fresh call now rows)
      (rowsAfter delaySeconds fresh call now' rows)
    ∧ Alike .cycles (rowsAfter delaySeconds fresh call now' (rowsAfter delaySeconds fresh call now rows))
      (rowsAfter delaySeconds fresh call now rows)

variable {call : TicketCall}

theorem repeatedOn_nothing (h : ∀ now, rowsAfter delaySeconds fresh call now rows = rows) :
    RepeatedOn delaySeconds fresh call rows := by
  intro now now'
  rw [h, h]
  exact ⟨rfl, rfl⟩

/-- What a call wrote is the same up to the clock, and it finds it. -/
theorem repeatedOn_found {written : Timestamp → List CycleRow}
    (hwritten : ∀ now, rowsAfter delaySeconds fresh call now rows = written now)
    (htimeless : ∀ now now', (written now).map forgetCycle = (written now').map forgetCycle)
    (hfound : ∀ now now', rowsAfter delaySeconds fresh call now' (written now) = written now) :
    RepeatedOn delaySeconds fresh call rows := by
  intro now now'
  rw [hwritten, hwritten, hfound]
  exact ⟨htimeless now now', rfl⟩

theorem repeatedOn_join {contact : String}
    (hcontact : Cycle.normalizeContact args.contactExternalId = .ok (some contact))
    (hkey : Table.select (·.openEventKey == some args.openEventKey) rows = none)
    (hopen : Table.select (·.openConversation == some args.conversationId) rows = some x) :
    RepeatedOn delaySeconds fresh (.create args) rows := by
  intro now now'
  -- the open cycle is found again, as it was found before
  have hcolumn : ∀ q : CycleRow → Bool, (∀ r, q (joinRow now (some contact) r) = q r) →
      Table.select q (Table.update (·.publicId == x.publicId) (joinRow now (some contact)) rows)
        = (Table.select q rows).map fun r =>
          if r.publicId == x.publicId then joinRow now (some contact) r else r :=
    fun q h => select_update h
  have hkey' : Table.select (·.openEventKey == some args.openEventKey)
      (Table.update (·.publicId == x.publicId) (joinRow now (some contact)) rows) = none := by
    refine (hcolumn (·.openEventKey == some args.openEventKey) fun _ => rfl).trans ?_
    rw [hkey]
    rfl
  have hopen' : Table.select (·.openConversation == some args.conversationId)
      (Table.update (·.publicId == x.publicId) (joinRow now (some contact)) rows)
      = some (joinRow now (some contact) x) := by
    refine (hcolumn (·.openConversation == some args.conversationId) fun _ => rfl).trans ?_
    rw [hopen, Option.map_some, if_pos (beq_self_eq_true x.publicId)]
  rw [rowsAfter_create_join hcontact hkey hopen, rowsAfter_create_join hcontact hkey hopen,
    rowsAfter_create_join hcontact hkey' hopen']
  refine ⟨map_update fun _ => rfl, ?_⟩
  show ((rows.map fun r => _).map fun r => _).map forgetCycle = (rows.map fun r => _).map forgetCycle
  rw [List.map_map, List.map_map, List.map_map]
  refine List.map_congr_left fun r _ => ?_
  by_cases hr : (r.publicId == x.publicId) = true
  · simp only [Function.comp_apply, if_pos hr]
    have hr' : ((joinRow now (some contact) r).publicId == (joinRow now (some contact) x).publicId)
        = true := hr
    rw [if_pos hr']
    exact forget_joinRow now now' (some contact) r
  · simp only [Function.comp_apply, if_neg hr]
    have hr' : ¬ (r.publicId == (joinRow now (some contact) x).publicId) = true := hr
    rw [if_neg hr']

/-- **An opening that is made again.** -/
theorem repeatedOn_create : RepeatedOn delaySeconds fresh (.create args) rows := by
  cases hcontact : Cycle.normalizeContact args.contactExternalId with
  | error e =>
      refine repeatedOn_nothing fun now => ?_
      show committed rows ((createOpenCycle now fresh args rows).map (·.rows)) = rows
      unfold createOpenCycle
      rw [hcontact]
      rfl
  | ok contact =>
  cases hkey : Table.select (·.openEventKey == some args.openEventKey) rows with
  | some x => exact repeatedOn_nothing fun now => rowsAfter_create_of_key hkey
  | none =>
  cases hopen : Table.select (·.openConversation == some args.conversationId) rows with
  | some x =>
      cases contact with
      | none =>
          refine repeatedOn_nothing fun now => ?_
          show committed rows ((createOpenCycle now fresh args rows).map (·.rows)) = rows
          unfold createOpenCycle
          simp only [hcontact, hkey, hopen]
          exact rows_returning ⟨x, (Table.select_mem hopen).1, rfl⟩
      | some contact => exact repeatedOn_join hcontact hkey hopen
  | none =>
  cases hstarted : args.startedAt with
  | none =>
      refine repeatedOn_nothing fun now => ?_
      show committed rows ((createOpenCycle now fresh args rows).map (·.rows)) = rows
      unfold createOpenCycle
      simp only [hcontact, hkey, hopen, hstarted]
      rfl
  | some startedAt =>
      -- no constraint is about the stamps
      have hstamps : ∀ now, insertable rows (openRow now fresh args startedAt contact rows)
          = insertable rows (openRow 0 fresh args startedAt contact rows) := fun _ => rfl
      by_cases hinsertable : insertable rows (openRow 0 fresh args startedAt contact rows) = true
      · have hwritten : ∀ now, rowsAfter delaySeconds fresh (.create args) now rows
            = Table.insert rows (openRow now fresh args startedAt contact rows) := by
          intro now
          show committed rows ((createOpenCycle now fresh args rows).map (·.rows)) = _
          unfold createOpenCycle
          simp only [hcontact, hkey, hopen, hstarted, hstamps, hinsertable, if_true]
          exact rows_returning ⟨_, List.mem_append_right _ (List.mem_singleton_self _), rfl⟩
        refine repeatedOn_found hwritten (fun now now' => ?_) fun now now' => ?_
        · unfold Table.insert
          rw [List.map_append, List.map_append]
          rfl
        · obtain ⟨x, hx⟩ := @select_insert rows (openRow now fresh args startedAt contact rows)
            (·.openEventKey == some args.openEventKey) (beq_self_eq_true _)
          exact rowsAfter_create_of_key hx
      · refine repeatedOn_nothing fun now => ?_
        show committed rows ((createOpenCycle now fresh args rows).map (·.rows)) = rows
        unfold createOpenCycle
        simp only [hcontact, hkey, hopen, hstarted, hstamps, hinsertable]
        rfl

/-- A closing whose key is there changes nothing. -/
theorem rowsAfter_close_of_key
    (h : Table.select (·.closeEventKey == some closing.closeEventKey) rows = some x) :
    rowsAfter delaySeconds fresh (.close closing) now rows = rows := by
  show committed rows ((closeCycle now delaySeconds fresh closing rows).map (·.rows)) = rows
  unfold closeCycle
  cases Cycle.normalizeContact closing.contactExternalId with
  | error e => rfl
  | ok contact =>
      dsimp only
      cases closing.closedAt with
      | none => rfl
      | some closedAt =>
          dsimp only
          rw [h]
          exact rows_returning ⟨x, (Table.select_mem h).1, rfl⟩

theorem forget_closeRow (closedAt : Timestamp) (r : CycleRow) :
    forgetCycle (closeRow now delaySeconds closing closedAt contact r)
      = forgetCycle (closeRow now' delaySeconds closing closedAt contact r) := rfl

/-- **A closing that is made again.** -/
theorem repeatedOn_close : RepeatedOn delaySeconds fresh (.close closing) rows := by
  cases hcontact : Cycle.normalizeContact closing.contactExternalId with
  | error e =>
      refine repeatedOn_nothing fun now => ?_
      show committed rows ((closeCycle now delaySeconds fresh closing rows).map (·.rows)) = rows
      unfold closeCycle
      rw [hcontact]
      rfl
  | ok contact =>
  cases hclosed : closing.closedAt with
  | none =>
      refine repeatedOn_nothing fun now => ?_
      show committed rows ((closeCycle now delaySeconds fresh closing rows).map (·.rows)) = rows
      unfold closeCycle
      simp only [hcontact, hclosed]
      rfl
  | some closedAt =>
  cases hkey : Table.select (·.closeEventKey == some closing.closeEventKey) rows with
  | some x => exact repeatedOn_nothing fun now => rowsAfter_close_of_key hkey
  | none =>
  cases hopen : Table.select (·.openConversation == some closing.conversationId) rows with
  | some x =>
      by_cases hblank : Cycle.pgBlank closing.closeEventKey = true
      · refine repeatedOn_nothing fun now => ?_
        show committed rows ((closeCycle now delaySeconds fresh closing rows).map (·.rows)) = rows
        unfold closeCycle
        simp only [hcontact, hclosed, hkey, hopen, hblank, if_true]
        rfl
      · have hx : ∀ now, closeRow now delaySeconds closing closedAt contact x
            ∈ Table.update (·.id == x.id) (closeRow now delaySeconds closing closedAt contact) rows := by
          intro now
          have hmem := Table.mem_update_of_mem (p := (·.id == x.id))
            (f := closeRow now delaySeconds closing closedAt contact) (Table.select_mem hopen).1
          rw [if_pos (beq_self_eq_true x.id)] at hmem
          exact hmem
        have hwritten : ∀ now, rowsAfter delaySeconds fresh (.close closing) now rows
            = Table.update (·.id == x.id) (closeRow now delaySeconds closing closedAt contact) rows := by
          intro now
          show committed rows ((closeCycle now delaySeconds fresh closing rows).map (·.rows)) = _
          unfold closeCycle
          simp only [hcontact, hclosed, hkey, hopen, hblank]
          exact rows_returning ⟨_, hx now, rfl⟩
        refine repeatedOn_found hwritten (fun now now' => map_update fun r => forget_closeRow closedAt r)
          fun now now' => ?_
        cases hfound : Table.select (·.closeEventKey == some closing.closeEventKey)
            (Table.update (·.id == x.id) (closeRow now delaySeconds closing closedAt contact) rows) with
        | some y => exact rowsAfter_close_of_key hfound
        | none =>
            have hnone := Table.select_none hfound _ (hx now)
            rw [beq_eq_false_iff_ne] at hnone
            exact absurd rfl hnone
  | none =>
      have hstamps : ∀ now, insertable rows (closedRow now delaySeconds fresh closing closedAt contact rows)
          = insertable rows (closedRow 0 delaySeconds fresh closing closedAt contact rows) := fun _ => rfl
      by_cases hinsertable :
          insertable rows (closedRow 0 delaySeconds fresh closing closedAt contact rows) = true
      · have hwritten : ∀ now, rowsAfter delaySeconds fresh (.close closing) now rows
            = Table.insert rows (closedRow now delaySeconds fresh closing closedAt contact rows) := by
          intro now
          show committed rows ((closeCycle now delaySeconds fresh closing rows).map (·.rows)) = _
          unfold closeCycle
          simp only [hcontact, hclosed, hkey, hopen, hstamps, hinsertable, if_true]
          exact rows_returning ⟨_, List.mem_append_right _ (List.mem_singleton_self _), rfl⟩
        refine repeatedOn_found hwritten (fun now now' => ?_) fun now now' => ?_
        · unfold Table.insert
          rw [List.map_append, List.map_append]
          rfl
        · obtain ⟨x, hx⟩ := @select_insert rows
            (closedRow now delaySeconds fresh closing closedAt contact rows)
            (·.closeEventKey == some closing.closeEventKey) (beq_self_eq_true _)
          exact rowsAfter_close_of_key hx
      · refine repeatedOn_nothing fun now => ?_
        show committed rows ((closeCycle now delaySeconds fresh closing rows).map (·.rows)) = rows
        unfold closeCycle
        simp only [hcontact, hclosed, hkey, hopen, hstamps, hinsertable]
        rfl

theorem repeatedOn (call : TicketCall) (rows : List CycleRow) :
    RepeatedOn delaySeconds fresh call rows := by
  cases call with
  | create args => exact repeatedOn_create
  | close closing => exact repeatedOn_close

theorem repeatable_ticketWrite (delaySeconds : Nat) (fresh : Fresh) (call : TicketCall) :
    (ticketWrite delaySeconds fresh call).Repeatable Alike where
  timeless now now' rows := (repeatedOn call rows now now').1
  again now now' rows := (repeatedOn call rows now now').2

end Cycles

/-! ## §5. The delivery. -/

section Delivery

variable {lib : Library} {settings : WebhookSettings} {fresh : Fresh} {now now' : Timestamp}
  {payload data : JsonObject} {event ticketId : String} {body : Json}

/-- The body says when its event happened. -/
def timed (lib : Library) (body : Json) : Bool :=
  match body.asDict with
  | none => true
  | some payload =>
  match (payload.get "data").asDict with
  | none => true
  | some data =>
      match (payload.get "event").asText with
      | some event =>
          if event ∈ ticketEvents then (sourceTime lib payload data).isSome
          else if event ∈ messageEvents then (messageTimestamp lib (data.get "timestamp")).isSome
          else true
      | none => true

theorem ticketEventTimestamp_timed (h : (sourceTime lib payload data).isSome = true) :
    ticketEventTimestamp lib now payload data = ticketEventTimestamp lib now' payload data := by
  obtain ⟨parsed, hparsed⟩ := Option.isSome_iff_exists.mp h
  unfold ticketEventTimestamp
  rw [hparsed]

theorem cycleEventKey_timed (h : (sourceTime lib payload data).isSome = true) :
    cycleEventKey lib now event ticketId payload data
      = cycleEventKey lib now' event ticketId payload data := by
  unfold cycleEventKey
  rw [ticketEventTimestamp_timed h]

theorem ticketCalls_timed (h : (sourceTime lib payload data).isSome = true) :
    ticketCalls lib now event payload data = ticketCalls lib now' event payload data := by
  have htime := @ticketEventTimestamp_timed lib now now' payload data h
  have hkey := fun ticketId => @cycleEventKey_timed lib now now' payload data event ticketId h
  unfold ticketCalls updatedCalls contactObservation createCall closeCall assignmentEvent
  simp only [htime, hkey]

/-- A body with its time says what is called, whenever it arrives. -/
theorem webhookCalls_timed (h : timed lib body = true) :
    webhookCalls lib now body = webhookCalls lib now' body := by
  unfold timed at h
  unfold webhookCalls
  cases hpayload : body.asDict with
  | none => rfl
  | some payload =>
      rw [hpayload] at h
      dsimp only at h ⊢
      cases hdata : (payload.get "data").asDict with
      | none => rfl
      | some data =>
          rw [hdata] at h
          dsimp only at h ⊢
          cases hevent : (payload.get "event").asText with
          | none => rfl
          | some event =>
              rw [hevent] at h
              dsimp only at h ⊢
              by_cases hticket : event ∈ ticketEvents
              · rw [if_pos hticket] at h
                rw [if_pos hticket, if_pos hticket]
                exact ticketCalls_timed h
              · rw [if_neg hticket, if_neg hticket]

/-- The call does not take its time from the clock. -/
def Call.dated : Call → Bool
  | .sender request => request.2.isSome
  | _ => true

theorem repeatable_write {call : Call} (h : call.dated = true) :
    (call.write settings fresh).Repeatable Alike := by
  cases call with
  | contact o => exact repeatable_contactWrite o
  | assignment e => exact repeatable_assignmentWrite e
  | ticket call => exact repeatable_ticketWrite _ fresh call
  | sender request =>
      obtain ⟨requestedAt, hrequested⟩ := Option.isSome_iff_exists.mp h
      show (hydrationWrite request.1 request.2).Repeatable Alike
      rw [hrequested]
      exact repeatable_hydrationWrite request.1 requestedAt
  | audio messageId conversationId => exact repeatable_audioWrite messageId conversationId _
  | image messageId conversationId => exact repeatable_imageWrite messageId conversationId _
  | event digest => exact repeatable_ledgerWrite digest

/-- The calls on other tables than the contacts are dated. -/
theorem dated_optional {α : Type} {f : α → Call} (h : ∀ a, (f a).dated = true) (a : Option α) :
    ∀ call ∈ (a.map f).toList, call.dated = true := by
  intro call hcall
  obtain ⟨b, -, rfl⟩ := Option.map_eq_some_iff.mp (Option.mem_toList.mp hcall)
  exact h b

theorem dated_cycleCalls (call : Except Raised TicketCall) :
    ∀ c ∈ cycleCalls call, c.dated = true := by
  intro c hc
  cases call with
  | error e => exact absurd hc List.not_mem_nil
  | ok call =>
      rw [List.mem_singleton.mp hc]
      rfl

theorem dated_ticketCalls :
    ∀ call ∈ ticketCalls lib now event payload data, call.dated = true := by
  intro call hcall
  unfold ticketCalls at hcall
  split at hcall
  next => exact absurd hcall List.not_mem_nil
  next ticketId _ =>
    rcases List.mem_append.mp hcall with hcall | hcall
    · exact dated_optional (fun _ => rfl) _ call hcall
    · split at hcall
      next => exact dated_cycleCalls _ call hcall
      next =>
        unfold updatedCalls at hcall
        split at hcall
        next => exact absurd hcall List.not_mem_nil
        next e _ =>
          rcases List.mem_append.mp hcall with hcall | hcall
          · exact dated_optional (fun _ => rfl) _ call hcall
          · split at hcall
            next => exact dated_cycleCalls _ call hcall
            next =>
              split at hcall
              next =>
                split at hcall
                next => exact absurd hcall List.not_mem_nil
                next => exact dated_cycleCalls _ call hcall
              next => exact absurd hcall List.not_mem_nil

theorem dated_senderRequest {message : DigisacMessage} (h : message.timestamp.isSome = true)
    {request : String × Option Timestamp} (hrequest : senderRequest message = some request) :
    request.2.isSome = true := by
  unfold senderRequest at hrequest
  split at hrequest
  next => cases hrequest
  next htimestamp =>
    rw [htimestamp] at h
    cases h
  next =>
    split at hrequest
    next =>
      rw [← Option.some.inj hrequest]
      rfl
    next => cases hrequest

theorem dated_mediaCalls {message : DigisacMessage} (h : message.timestamp.isSome = true) :
    ∀ call ∈ mediaCalls lib payload message, call.dated = true := by
  intro call hcall
  unfold mediaCalls at hcall
  rcases List.mem_append.mp hcall with hsender | hcall
  · obtain ⟨request, hrequest, rfl⟩ := Option.map_eq_some_iff.mp (Option.mem_toList.mp hsender)
    exact dated_senderRequest h hrequest
  rcases List.mem_append.mp hcall with haudio | hcall
  · exact dated_optional (fun _ => rfl) _ call haudio
  rcases List.mem_append.mp hcall with himage | hcall
  · exact dated_optional (fun _ => rfl) _ call himage
  · rw [List.mem_singleton.mp hcall]
    rfl

theorem timestamp_adapt {message : DigisacMessage} (h : adapt lib payload data = .ok message) :
    message.timestamp = messageTimestamp lib (data.get "timestamp") := by
  unfold adapt at h
  split at h
  next => cases h
  next =>
    split at h
    next => cases h
    next =>
      dsimp only at h
      split at h
      next => cases h
      next =>
        split at h
        next => cases h
        next =>
          injection h with h
          rw [← h]

theorem dated_messageCalls (h : (messageTimestamp lib (data.get "timestamp")).isSome = true) :
    ∀ call ∈ messageCalls lib payload data, call.dated = true := by
  intro call hcall
  unfold messageCalls at hcall
  split at hcall
  next => exact absurd hcall List.not_mem_nil
  next =>
    split at hcall
    next => exact absurd hcall List.not_mem_nil
    next message hadapt =>
      exact dated_mediaCalls ((timestamp_adapt hadapt).symm ▸ h) call hcall

theorem dated_webhookCalls (h : timed lib body = true) :
    ∀ call ∈ webhookCalls lib now body, call.dated = true := by
  intro call hcall
  unfold timed at h
  unfold webhookCalls at hcall
  cases hpayload : body.asDict with
  | none =>
      rw [hpayload] at hcall
      exact absurd hcall List.not_mem_nil
  | some payload =>
      rw [hpayload] at h hcall
      dsimp only at h hcall
      cases hdata : (payload.get "data").asDict with
      | none =>
          rw [hdata] at hcall
          exact absurd hcall List.not_mem_nil
      | some data =>
          rw [hdata] at h hcall
          dsimp only at h hcall
          cases hevent : (payload.get "event").asText with
          | none =>
              rw [hevent] at hcall
              exact absurd hcall List.not_mem_nil
          | some event =>
              rw [hevent] at h hcall
              dsimp only at h hcall
              by_cases hticket : event ∈ ticketEvents
              · rw [if_pos hticket] at hcall
                exact dated_ticketCalls call hcall
              · rw [if_neg hticket] at h hcall
                by_cases hmessage : event ∈ messageEvents
                · rw [if_pos hmessage] at h hcall
                  exact dated_messageCalls h call hcall
                · rw [if_neg hmessage] at hcall
                  exact absurd hcall List.not_mem_nil

theorem repeatable_webhookWrites (h : timed lib body = true) :
    ∀ w ∈ webhookWrites lib settings fresh now body, w.Repeatable Alike := by
  intro w hw
  obtain ⟨call, hcall, rfl⟩ := List.mem_map.mp hw
  exact repeatable_write (dated_webhookCalls h call hcall)

/-- **A delivery that was cut off and made again.**  Whatever writes each attempt lost, a delivery
    that is made to its end leaves every table as an undisturbed delivery does, up to the clock of
    the database. -/
theorem delivery_restarts (htimed : timed lib body = true)
    {attempts : List (Attempt Timestamp Part.Table)}
    (hattempts : ∀ attempt ∈ attempts,
      attempt.2.Sublist (webhookWrites lib settings fresh attempt.1 body))
    (now now' : Timestamp) (s : Tables) (part : Part) :
    Alike part
      ((digisacWebhook lib settings fresh now' body (runAttempts attempts s)).1 part)
      ((digisacWebhook lib settings fresh now body s).1 part) := by
  have hwrites : ∀ t, webhookWrites lib settings fresh t body
      = webhookWrites lib settings fresh now body := by
    intro t
    unfold webhookWrites
    rw [@webhookCalls_timed lib t now body htimed]
  rw [digisacWebhook_tables, digisacWebhook_tables, hwrites now']
  refine restarts alike_equivalence (webhookWrites_parts body) (repeatable_webhookWrites htimed)
    (fun attempt hattempt => ?_) s now now' part
  -- every attempt would have made the same writes
  rw [← hwrites attempt.1]
  exact hattempts attempt hattempt

/-- A ticket is opened. -/
def ticketBody : Json :=
  .dict [("event", .str "ticket.created"), ("eventId", .str "e1"),
    ("data", .dict [("id", .str "t1"), ("timestamp", .str "2026-01-02T03:04:05Z"),
      ("contact", .dict [("id", .str "c1")])])]

def ticketTime : IsoTime := ⟨63902919845000000, some 0, by decide⟩

def ticketLibrary : Library where
  repr _ := ""
  decimal _ := none
  fromisoformat text := if text = "2026-01-02T03:04:05+00:00" then some ticketTime else none
  fromtimestamp _ := none
  timeText _ := ""
  dumpsAscii _ := ""
  sha256 text := if text = "ticket.created:t1:e1" then
    "d8059ca73ec34fbcbb3c7b27f57529ad78b6ca869ad69e729adc15dde0e3a38b" else ""

def ticketSettings : WebhookSettings := ⟨"audio", "image", 45⟩

def noTables : Tables
  | .contacts => Directory.noContacts.tables
  | .assignments => {}
  | .cycles => []
  | .audio | .images => fun _ => none
  | .ledger => {}

/-- The writes of an attempt to open the ticket. -/
def openingWrites (t : Timestamp) : List TableWrite :=
  webhookWrites ticketLibrary ticketSettings ⟨1, 101⟩ t ticketBody

/-- The first attempt opens no cycle, and the second loses the contact. -/
theorem delivery_restarts_opening :
    (openingWrites 10).length = 2
      ∧ ∀ part, Alike part
        ((digisacWebhook ticketLibrary ticketSettings ⟨1, 101⟩ 30 ticketBody
          (runAttempts [(10, (openingWrites 10).take 1), (20, (openingWrites 20).drop 1)] noTables)).1 part)
        ((digisacWebhook ticketLibrary ticketSettings ⟨1, 101⟩ 10 ticketBody noTables).1 part) := by
  have htimed : timed ticketLibrary ticketBody = true := by decide +kernel
  refine ⟨by decide +kernel, fun part => delivery_restarts htimed ?_ 10 30 noTables part⟩
  intro attempt hattempt
  rcases List.mem_cons.mp hattempt with rfl | hattempt
  · exact List.take_sublist 1 _
  · rw [List.mem_singleton.mp hattempt]
    exact List.drop_sublist 1 _

end Delivery

end Cai.Webhook
