/-
  Cai.Directory.Observations — what a run of contact upserts can change.

  The machine makes any calls of the four callers, in any order, and keeps
  beside the table a log of every upsert with the row it found.  A row is
  never older than an observation it has seen (`Ordered`), so that a stale
  observation finds a newer row and changes nothing.
-/
import Cai.Directory.Contacts
import Cai.Lib.Transition

namespace Cai.Directory

open Cai.Lib
open Cai.Cycle (Timestamp)

/-! ## §1. The machine. -/

/-- One upsert and the row it found. -/
structure Upserted where
  observation : Observation
  before : Option DigisacRow
  deriving DecidableEq

namespace Upserted

variable (u : Upserted)

def externalId : String := u.observation.contact.externalId

/-- The timestamp of the observation. -/
def updatedAt : Option Timestamp := u.observation.contact.providerUpdatedAt

/-- The row it left. -/
def after : DigisacRow := u.observation.rowAfter u.before

end Upserted

/-- The table and, newest first, the upserts of the committed calls. -/
structure ContactState where
  contacts : DigisacContacts
  log : List Upserted := []
  deriving DecidableEq

inductive ContactCall
  /-- The webhook and the hydration. -/
  | upsert (o : Observation)
  | backfill (contacts : List DigisacContact) (observed : Timestamp)
  | reconciliation (contacts : List DigisacContact) (now : Timestamp)
  /-- A message that names the contact only. -/
  | reference (externalId : String) (requested : Timestamp)
  deriving DecidableEq, Repr

/-- The table after the transaction of a call. -/
def ContactCall.run (call : ContactCall) (contacts : DigisacContacts) :
    Except ContactError DigisacContacts :=
  match call with
  | .upsert o => upsertDigisacContact o contacts
  | .backfill incoming observed => publishBackfill incoming observed contacts
  | .reconciliation incoming now => applyDigisacDelta incoming now contacts
  | .reference externalId requested => .ok (referenceContact externalId requested contacts)

/-- The upserts of a call, in their order. -/
def ContactCall.observations (call : ContactCall) : List Observation :=
  match call with
  | .upsert o => [{ o with source := Text.strip o.source }]
  | .backfill incoming observed => (uniqueContacts incoming).map fun contact =>
      { contact, source := "contacts_backfill", observed }
  | .reconciliation incoming now =>
      (incoming.insertionSort (·.externalId ≤ ·.externalId)).map fun contact =>
        { contact, source := "manual_reconciliation", observed := now }
  | .reference _ _ => []

/-- One upsert, logged. -/
def ContactState.observe (s : ContactState) (o : Observation) : ContactState where
  contacts := o.apply s.contacts
  log := { observation := o, before := s.contacts.get? o.contact.externalId } :: s.log

/-- A call that raises changes nothing. -/
def contactStep (s : ContactState) (call : ContactCall) : ContactState :=
  match call.run s.contacts with
  | .ok contacts => { contacts, log := (call.observations.foldl ContactState.observe s).log }
  | .error _ => s

/-- Any calls, on any table. -/
def contactMachine : Machine ContactState ContactCall where
  init s := s.log = []
  step s call := some (contactStep s call)

variable {s t : ContactState} {o : Observation} {call : ContactCall} {externalId : String}
  {row : DigisacRow}

theorem contacts_foldl_observe (os : List Observation) (s : ContactState) :
    (os.foldl ContactState.observe s).contacts
      = os.foldl (fun contacts o => o.apply contacts) s.contacts := by
  induction os generalizing s with
  | nil => rfl
  | cons o os ih => exact ih (s.observe o)

/-- **What a call does**: nothing, a reference, or its upserts in their order. -/
theorem contactStep_cases (s : ContactState) (call : ContactCall) :
    contactStep s call = s
      ∨ (∃ externalId requested,
          contactStep s call = { s with contacts := referenceContact externalId requested s.contacts })
      ∨ contactStep s call = call.observations.foldl ContactState.observe s := by
  have hbatch : ∀ after : DigisacContacts, call.run s.contacts = .ok after →
      after = call.observations.foldl (fun contacts o => o.apply contacts) s.contacts →
      contactStep s call = call.observations.foldl ContactState.observe s := by
    intro after hrun hafter
    rw [← contacts_foldl_observe] at hafter
    unfold contactStep
    rw [hrun, hafter]
  unfold contactStep at hbatch ⊢
  cases hrun : call.run s.contacts with
  | error e => exact .inl rfl
  | ok after =>
      rw [hrun] at hbatch
      cases call with
      | reference externalId requested =>
          injection hrun with hafter
          rw [← hafter]
          exact .inr (.inl ⟨externalId, requested, rfl⟩)
      | upsert o =>
          simp only [ContactCall.run] at hrun
          unfold upsertDigisacContact at hrun
          obtain ⟨_, -, hrun⟩ := bind_eq_ok_iff.mp hrun
          exact .inr (.inr (hbatch after rfl (upsertDigisacContactCursor_ok_iff.mp hrun).2))
      | backfill incoming observed => exact .inr (.inr (hbatch after rfl (upsertBatch_ok hrun)))
      | reconciliation incoming now => exact .inr (.inr (hbatch after rfl (upsertBatch_ok hrun)))

/-! ## §2. Rows advance. -/

/-- What no call takes away from a row. -/
structure RowAdvanced (row row' : DigisacRow) : Prop where
  seen : row.lastSeenAt ≤ row'.lastSeenAt
  updated : NotBefore row.fields.providerUpdatedAt row'.fields.providerUpdatedAt
  fields : ∀ f, row.fields.get f ≠ none → row'.fields.get f ≠ none

theorem RowAdvanced.refl (row : DigisacRow) : RowAdvanced row row :=
  ⟨le_rfl, .refl _, fun _ h => h⟩

theorem RowAdvanced.trans {row row' row'' : DigisacRow} (h : RowAdvanced row row')
    (h' : RowAdvanced row' row'') : RowAdvanced row row'' :=
  ⟨h.seen.trans h'.seen, h.updated.trans h'.updated, fun f hf => h'.fields f (h.fields f hf)⟩

/-- Every row of the one table is still in the other. -/
def TableAdvanced (contacts contacts' : DigisacContacts) : Prop :=
  ∀ externalId row, contacts.get? externalId = some row →
    ∃ row', contacts'.get? externalId = some row' ∧ RowAdvanced row row'

theorem TableAdvanced.refl (contacts : DigisacContacts) : TableAdvanced contacts contacts :=
  fun _ row hrow => ⟨row, hrow, .refl row⟩

theorem TableAdvanced.trans {a b c : DigisacContacts} (h : TableAdvanced a b)
    (h' : TableAdvanced b c) : TableAdvanced a c := by
  intro externalId row hrow
  obtain ⟨row', hrow', hadvanced⟩ := h externalId row hrow
  obtain ⟨row'', hrow'', hadvanced'⟩ := h' externalId row' hrow'
  exact ⟨row'', hrow'', hadvanced.trans hadvanced'⟩

theorem rowAdvanced_merged (o : Observation) (row : DigisacRow) :
    RowAdvanced row (o.rowAfter (some row)) :=
  ⟨le_max_left _ _, (mergedFields_mono row.fields o.contact.toProviderFields).1,
    fun _ h => mergedFields_ne_none h⟩

theorem tableAdvanced_apply (o : Observation) (contacts : DigisacContacts) :
    TableAdvanced contacts (o.apply contacts) := by
  intro externalId row hrow
  by_cases hid : externalId = o.contact.externalId
  · subst hid
    rw [get?_apply_self, hrow]
    exact ⟨_, rfl, rowAdvanced_merged o row⟩
  · rw [get?_apply_ne hid]
    exact ⟨row, hrow, .refl row⟩

theorem tableAdvanced_reference (externalId : String) (requested : Timestamp)
    (contacts : DigisacContacts) :
    TableAdvanced contacts (referenceContact externalId requested contacts) := by
  intro id row hrow
  unfold referenceContact
  simp only
  split
  next => exact ⟨row, hrow, .refl row⟩
  next =>
    by_cases hid : id = Text.strip externalId
    · subst hid
      rw [Keyed.get?_upsert_self, hrow]
      exact ⟨_, rfl, ⟨le_max_left _ _, .refl _, fun _ h => h⟩⟩
    · rw [Keyed.get?_upsert_ne hid]
      exact ⟨row, hrow, .refl row⟩

/-! ## §3. No row is older than an observation it has seen. -/

/-- The invariant of the log. -/
structure Ordered (s : ContactState) : Prop where
  /-- A row is at least as new as the observations of its contact. -/
  rows : ∀ u ∈ s.log, ∃ row, s.contacts.get? u.externalId = some row
    ∧ NotBefore u.updatedAt row.fields.providerUpdatedAt
  /-- So was the row that a later observation found. -/
  found : s.log.Pairwise fun later earlier => later.externalId = earlier.externalId →
    ∃ row, later.before = some row ∧ NotBefore earlier.updatedAt row.fields.providerUpdatedAt

/-- A table that has advanced is as new as before. -/
theorem Ordered.advance {contacts : DigisacContacts} (h : Ordered s)
    (hcontacts : TableAdvanced s.contacts contacts) : Ordered { s with contacts } := by
  refine ⟨fun u hu => ?_, h.found⟩
  obtain ⟨row, hrow, hnew⟩ := h.rows u hu
  obtain ⟨row', hrow', hadvanced⟩ := hcontacts u.externalId row hrow
  exact ⟨row', hrow', hnew.trans hadvanced.updated⟩

/-- One upsert keeps the invariant. -/
theorem Ordered.observe (h : Ordered s) (o : Observation) : Ordered (s.observe o) := by
  have hadvance := h.advance (tableAdvanced_apply o s.contacts)
  constructor
  · intro u hu
    rcases List.mem_cons.mp hu with rfl | hu
    · refine ⟨_, get?_apply_self o s.contacts, ?_⟩
      show NotBefore o.contact.providerUpdatedAt _
      cases s.contacts.get? o.contact.externalId with
      | none => exact .refl _
      | some row => exact (mergedFields_mono row.fields o.contact.toProviderFields).2
    · exact hadvance.rows u hu
  · refine List.Pairwise.cons (fun earlier hearlier hid => ?_) h.found
    -- the row that the new observation found was there
    obtain ⟨row, hrow, hnew⟩ := h.rows earlier hearlier
    rw [← hid] at hrow
    exact ⟨row, hrow, hnew⟩

theorem ordered_foldl (h : Ordered s) (os : List Observation) :
    Ordered (os.foldl ContactState.observe s) := by
  induction os generalizing s with
  | nil => exact h
  | cons o os ih => exact ih (h.observe o)

/-- One call keeps it. -/
theorem Ordered.step (h : Ordered s) (call : ContactCall) : Ordered (contactStep s call) := by
  rcases contactStep_cases s call with hstep | ⟨externalId, requested, hstep⟩ | hstep
  · rw [hstep]
    exact h
  · rw [hstep]
    exact h.advance (tableAdvanced_reference externalId requested s.contacts)
  · rw [hstep]
    exact ordered_foldl h _

theorem tableAdvanced_foldl (os : List Observation) (contacts : DigisacContacts) :
    TableAdvanced contacts (os.foldl (fun contacts o => o.apply contacts) contacts) := by
  induction os generalizing contacts with
  | nil => exact .refl contacts
  | cons o os ih => exact (tableAdvanced_apply o contacts).trans (ih _)

theorem tableAdvanced_step (s : ContactState) (call : ContactCall) :
    TableAdvanced s.contacts (contactStep s call).contacts := by
  rcases contactStep_cases s call with hstep | ⟨externalId, requested, hstep⟩ | hstep
  · rw [hstep]
    exact .refl _
  · rw [hstep]
    exact tableAdvanced_reference externalId requested s.contacts
  · rw [hstep, contacts_foldl_observe]
    exact tableAdvanced_foldl _ _

theorem reachable_ordered (h : contactMachine.Reachable s) : Ordered s := by
  refine h.invariant (I := Ordered) ?_ ?_
  · intro s hs
    have hlog : s.log = [] := hs
    refine ⟨fun u hu => ?_, ?_⟩
    · rw [hlog] at hu
      exact absurd hu List.not_mem_nil
    · rw [hlog]
      exact List.Pairwise.nil
  · intro s call t hs _ hstep
    rw [← Option.some.inj hstep]
    exact hs.step call

theorem run_advanced (h : contactMachine.RunWhere Machine.anyStep s t) :
    TableAdvanced s.contacts t.contacts := by
  induction h with
  | refl => exact .refl _
  | tail _ hlast ih =>
      obtain ⟨call, -, hstep⟩ := hlast
      rw [← Option.some.inj hstep]
      exact ih.trans (tableAdvanced_step _ call)

/-! ## §4. Stale observations. -/

/-- **A stale observation never overwrites a newer one.**  Along every run, no
    row loses a field or goes back in time; a later observation of a contact
    with a smaller timestamp than an earlier one changes no provider field;
    and one without timestamp changes no non-null field of a row that has a
    `provider_updated_at`. -/
theorem stale_observation_ignored (h : contactMachine.Reachable s) :
    (∀ t, contactMachine.RunWhere Machine.anyStep s t → TableAdvanced s.contacts t.contacts)
      ∧ (s.log.Pairwise fun later earlier => later.externalId = earlier.externalId →
          ∀ t ∈ earlier.updatedAt, ∀ t' ∈ later.updatedAt, t' < t →
            ∃ row, later.before = some row ∧ later.after.fields = row.fields)
      ∧ ∀ u ∈ s.log, u.updatedAt = none → ∀ row, u.before = some row →
          row.fields.providerUpdatedAt ≠ none →
          ∀ f, row.fields.get f ≠ none → u.after.fields.get f = row.fields.get f := by
  refine ⟨fun t hrun => run_advanced hrun, ?_, ?_⟩
  · refine (reachable_ordered h).found.imp fun {later earlier} hfound hid t ht t' ht' hlt => ?_
    obtain ⟨row, hbefore, hnew⟩ := hfound hid
    obtain ⟨u, hu, hle⟩ := hnew t ht
    refine ⟨row, hbefore, ?_⟩
    have hupdated : later.observation.contact.providerUpdatedAt = some t' := ht'
    have holder : older row.fields.providerUpdatedAt later.observation.contact.providerUpdatedAt
        = true := by
      rw [hupdated, Option.mem_def.mp hu]
      exact decide_eq_true (hlt.trans_le hle)
    unfold Upserted.after
    rw [hbefore]
    exact mergedFields_of_older holder
  · intro u _ hnone row hbefore hrow f hf
    have hunordered : unordered row.fields.providerUpdatedAt
        u.observation.contact.providerUpdatedAt = true := by
      have hcontact : u.observation.contact.providerUpdatedAt = none := hnone
      rw [hcontact]
      unfold unordered
      rw [Option.isSome_iff_ne_none.mpr hrow]
      rfl
    unfold Upserted.after
    rw [hbefore]
    exact get_mergedFields_of_unordered hunordered hf

/-- A webhook and then an older backfill of the same contact. -/
theorem stale_backfill_ignored :
    ∃ s later earlier row, contactMachine.Reachable s ∧ s.log = [later, earlier]
      ∧ later.updatedAt = some 3 ∧ earlier.updatedAt = some 5 ∧ later.before = some row
      ∧ later.after.fields = row.fields := by
  have hrun : (contactMachine.exec { contacts := .empty }
      [.upsert
        { contact := { externalId := "c", name := some "new", providerUpdatedAt := some 5 }
          source := "ticket_webhook", observed := 6 },
       .backfill [{ externalId := "c", name := some "old", providerUpdatedAt := some 3 }] 7]).map
        (fun s => s.log.map fun u => (u.externalId, u.updatedAt))
      = some [("c", some 3), ("c", some 5)] := by decide +kernel
  obtain ⟨s, hexec, hlog⟩ := Option.map_eq_some_iff.mp hrun
  obtain ⟨later, rest, hs, hlater, hrest⟩ := List.map_eq_cons_iff.mp hlog
  obtain ⟨earlier, rest, rfl, hearlier, hnil⟩ := List.map_eq_cons_iff.mp hrest
  obtain rfl := List.map_eq_nil_iff.mp hnil
  obtain ⟨hid, ht'⟩ := Prod.mk.inj hlater
  obtain ⟨hid', ht⟩ := Prod.mk.inj hearlier
  have hreach := Machine.reachable_of_exec rfl hexec
  have hpairs := (stale_observation_ignored hreach).2.1
  rw [hs] at hpairs
  obtain ⟨row, hbefore, hafter⟩ := (List.pairwise_cons.mp hpairs).1 earlier List.mem_cons_self
    (hid.trans hid'.symm) 5 ht 3 ht' (by decide)
  exact ⟨s, later, earlier, row, hreach, hs, ht', ht, hbefore, hafter⟩

end Cai.Directory
