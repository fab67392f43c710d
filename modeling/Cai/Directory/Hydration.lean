/-
  Cai.Directory.Hydration — the hydration row of a DigiSac contact.

  `digisac_contact_hydrations` holds at most one row per contact.  The
  request of a message, the claim of the poller, the two marks that end a
  claim and the webhook of a ticket are the only writers
  (`src/core/digisac_contact_repository.py`).  What each of them does to
  the row of one contact is said once, in §3.
-/
import Cai.Directory.Observations
import Mathlib.Algebra.Ring.Int.Defs

namespace Cai.Directory

open Cai.Lib
open Cai.Cycle (Timestamp)

/-! ## §1. The tables. -/

inductive HydrationStatus
  | pending
  | running
  | succeeded
  | failed
  deriving DecidableEq, Repr

/-- A row of `digisac_contact_hydrations`. -/
structure HydrationRow where
  contactId : Nat
  status : HydrationStatus
  attemptCount : Nat := 0
  requestedAt : Timestamp
  lastAttemptAt : Option Timestamp := none
  nextAttemptAt : Option Timestamp := none
  leaseUntil : Option Timestamp := none
  completedAt : Option Timestamp := none
  failureCategory : Option String := none
  failureMessage : Option String := none
  deriving DecidableEq, Repr

/-- `digisac_contacts` and `digisac_contact_hydrations`, whose primary key is
    `contact_id`. -/
structure HydrationTables where
  contacts : DigisacContacts
  rows : List HydrationRow := []
  primary : (rows.map (·.contactId)).Nodup := by decide
  deriving DecidableEq

namespace HydrationTables

/-- SELECT … WHERE `contact_id` = `i`. -/
def row? (t : HydrationTables) (i : Nat) : Option HydrationRow := t.rows.find? (·.contactId == i)

/-- The join with `digisac_contacts`, and its `external_id`. -/
def joins (t : HydrationTables) (externalId : String) (r : HydrationRow) : Bool :=
  (t.contacts.byId? r.contactId).any (·.key == externalId)

/-- UPDATE `digisac_contact_hydrations` SET `f` WHERE `p`. -/
def update (t : HydrationTables) (p : HydrationRow → Bool) (f : HydrationRow → HydrationRow)
    (hf : ∀ r, (f r).contactId = r.contactId := by intro r; rfl) : HydrationTables where
  contacts := t.contacts
  rows := t.rows.map fun r => if p r then f r else r
  primary := by
    have hids : (t.rows.map fun r => if p r then f r else r).map (·.contactId)
        = t.rows.map (·.contactId) := by
      rw [List.map_map]
      refine List.map_congr_left fun r _ => ?_
      show (if p r then f r else r).contactId = r.contactId
      by_cases hp : p r = true
      · rw [if_pos hp, hf]
      · rw [if_neg hp]
    rw [hids]
    exact t.primary

/-- INSERT of a row whose contact has none. -/
def insert (t : HydrationTables) (r : HydrationRow) (h : t.row? r.contactId = none) :
    HydrationTables where
  contacts := t.contacts
  rows := t.rows ++ [r]
  primary := by
    rw [List.map_append, List.nodup_append]
    refine ⟨t.primary, List.nodup_singleton _, ?_⟩
    rintro i hi j hj rfl
    obtain ⟨r', hr', hid⟩ := List.mem_map.mp hi
    have hnone := List.find?_eq_none.mp h r' hr'
    rw [List.map_singleton, List.mem_singleton] at hj
    exact hnone (beq_iff_eq.mpr (hid.trans hj))

variable {t : HydrationTables} {i : Nat} {r r' : HydrationRow}

theorem row?_eq_some_iff : t.row? i = some r ↔ r ∈ t.rows ∧ r.contactId = i := by
  constructor
  · intro h
    exact ⟨List.mem_of_find?_eq_some h, by simpa using List.find?_some h⟩
  · rintro ⟨hr, rfl⟩
    cases hfind : t.row? r.contactId with
    | none =>
        have hnone := List.find?_eq_none.mp hfind r hr
        simp at hnone
    | some r' =>
        have hid : r'.contactId = r.contactId := by simpa using List.find?_some hfind
        rw [List.inj_on_of_nodup_map t.primary (List.mem_of_find?_eq_some hfind) hr hid]

/-- An UPDATE, seen from one contact. -/
theorem row?_update {p : HydrationRow → Bool} {f : HydrationRow → HydrationRow}
    (hf : ∀ r, (f r).contactId = r.contactId) (t : HydrationTables) (i : Nat) :
    (t.update p f hf).row? i = (t.row? i).map fun r => if p r then f r else r := by
  unfold update row?
  have hcolumn : ((·.contactId == i) ∘ fun r : HydrationRow => if p r then f r else r)
      = (·.contactId == i) := by
    funext r
    by_cases hp : p r = true
    · simp [hp, hf]
    · simp [hp]
  rw [List.find?_map, hcolumn]

/-- An INSERT, seen from one contact. -/
theorem row?_insert (h : t.row? r.contactId = none) (i : Nat) :
    (t.insert r h).row? i = if r.contactId = i then some r else t.row? i := by
  show (t.rows ++ [r]).find? _ = _
  rw [List.find?_append]
  by_cases hi : r.contactId = i
  · rw [if_pos hi]
    subst hi
    have hnone : t.rows.find? (·.contactId == r.contactId) = none := h
    rw [hnone]
    simp
  · rw [if_neg hi]
    have hnone : [r].find? (·.contactId == i) = none := by simpa using hi
    rw [hnone, Option.or_none]
    rfl

/-- The rows of one external id are one row. -/
theorem eq_of_joins {externalId : String} (hr : r ∈ t.rows) (hr' : r' ∈ t.rows)
    (hj : t.joins externalId r = true) (hj' : t.joins externalId r' = true) : r = r' := by
  obtain ⟨e, he, hkey⟩ := (Option.any_eq_true _ _).mp hj
  obtain ⟨e', he', hkey'⟩ := (Option.any_eq_true _ _).mp hj'
  obtain ⟨hmem, hid⟩ := Keyed.byId?_eq_some_iff.mp he
  obtain ⟨hmem', hid'⟩ := Keyed.byId?_eq_some_iff.mp he'
  have hcontact : e = e' := Keyed.eq_of_key hmem hmem'
    ((beq_iff_eq.mp hkey).trans (beq_iff_eq.mp hkey').symm)
  have hids : r.contactId = r'.contactId := hid.symm.trans (hcontact ▸ hid')
  exact List.inj_on_of_nodup_map t.primary hr hr' hids

end HydrationTables

/-! ## §2. The statements. -/

/-- `ContactHydrationRequestDecision` -/
inductive RequestDecision
  | invalidContact
  | requested
  | pendingDuplicate
  | runningDuplicate
  | failedBackoffPreserved
  | failedDue
  | succeededCurrent
  deriving DecidableEq, Repr

/-- `_contact_has_metadata` -/
def contactHasMetadata (row : DigisacRow) : Bool :=
  row.fields.providerUpdatedAt.isSome || row.fields.providerCreatedAt.isSome

/-- What a request answers about the row it finds. -/
def decisionAbout (now : Timestamp) (r : HydrationRow) : RequestDecision :=
  match r.status with
  | .pending => .pendingDuplicate
  | .running => .runningDuplicate
  | .succeeded => .succeededCurrent
  | .failed =>
      if r.nextAttemptAt.any (now < ·) then .failedBackoffPreserved else .failedDue

/-- The part of a request after the placeholder of the contact. -/
def requestFor (now requested : Timestamp) (contact : Entry String DigisacRow)
    (t : HydrationTables) : HydrationTables × RequestDecision :=
  match h : t.row? contact.id with
  | some r => (t, decisionAbout now r)
  | none =>
      if contactHasMetadata contact.value then (t, .succeededCurrent)
      else
        (t.insert { contactId := contact.id, status := .pending, requestedAt := requested } h,
          .requested)

/-- `_request_digisac_contact_hydration_sync` -/
def requestHydration (now : Timestamp) (externalId : String) (requestedAt : Option Timestamp)
    (t : HydrationTables) : HydrationTables × RequestDecision :=
  let normalizedId := Text.strip externalId
  if normalizedId = "" then (t, .invalidContact)
  else
    let requested := requestedAt.getD now
    let t := { t with contacts := referenceContact externalId requested t.contacts }
    match t.contacts.find? normalizedId with
    | none => (t, .invalidContact)
    | some contact => requestFor now requested contact t

/-- The claim that `_claim_digisac_contact_hydration_sync` returns. -/
structure HydrationClaim where
  contactId : Nat
  externalId : String
  attemptCount : Nat
  leaseUntil : Timestamp
  deriving DecidableEq, Repr

/-- The WHERE clause of the claim.  A NULL schedule counts as due. -/
def HydrationRow.due (now : Timestamp) (r : HydrationRow) : Bool :=
  ((r.status == .pending || r.status == .failed) && r.nextAttemptAt.all (· ≤ now))
    || (r.status == .running && r.leaseUntil.any (· ≤ now))

/-- `ORDER BY h.requested_at ASC, h.contact_id ASC` -/
def requestedBefore (a b : HydrationRow) : Prop :=
  a.requestedAt < b.requestedAt ∨ a.requestedAt = b.requestedAt ∧ a.contactId ≤ b.contactId

instance : DecidableRel requestedBefore := fun a b =>
  inferInstanceAs (Decidable (a.requestedAt < b.requestedAt
    ∨ a.requestedAt = b.requestedAt ∧ a.contactId ≤ b.contactId))

/-- The row the claim selects, and its contact; `locked` are the rows it skips. -/
def selectDue (now : Timestamp) (locked : List Nat) (t : HydrationTables) :
    Option (HydrationRow × String) :=
  ((t.rows.filter fun r => r.due now && r.contactId ∉ locked).insertionSort requestedBefore
    |>.filterMap fun r => (t.contacts.byId? r.contactId).map fun c => (r, c.key)).head?

inductive HydrationError
  /-- `ValueError("contact hydration lease must be positive")` -/
  | lease
  deriving DecidableEq, Repr

/-- `_claim_digisac_contact_hydration_sync` -/
def claimHydration (now : Timestamp) (leaseSeconds : Int) (locked : List Nat) (t : HydrationTables) :
    Except HydrationError (HydrationTables × Option HydrationClaim) :=
  if leaseSeconds ≤ 0 then .error .lease
  else
    let leaseUntil := now + leaseSeconds * 1000000
    match selectDue now locked t with
    | none => .ok (t, none)
    | some (r, externalId) =>
        .ok (t.update (·.contactId == r.contactId) fun r =>
            { r with
              status := .running, attemptCount := r.attemptCount + 1, lastAttemptAt := some now
              nextAttemptAt := none, leaseUntil := some leaseUntil },
          some ⟨r.contactId, externalId, r.attemptCount + 1, leaseUntil⟩)

/-- The guard of the two marks. -/
def HydrationTables.heldBy (t : HydrationTables) (externalId : String) (lease : Timestamp)
    (r : HydrationRow) : Bool :=
  t.joins externalId r && r.status == .running && r.leaseUntil == some lease

/-- `_mark_digisac_contact_hydration_success_sync` -/
def markHydrationSuccess (now : Timestamp) (externalId : String) (expectedLease : Timestamp)
    (t : HydrationTables) : HydrationTables × Bool :=
  (t.update (t.heldBy externalId expectedLease) fun r =>
      { r with
        status := .succeeded, nextAttemptAt := none, leaseUntil := none, completedAt := some now
        failureCategory := none, failureMessage := none },
    t.rows.any (t.heldBy externalId expectedLease))

/-- `_safe_failure_category` -/
def safeFailureCategory (category : String) : String :=
  let safe := Text.slice 80 (String.ofList ((Text.lower category).toList.filter fun c =>
    ('a' ≤ c && c ≤ 'z') || ('0' ≤ c && c ≤ '9') || ('A' ≤ c && c ≤ 'Z')
      || c == '_' || c == ':' || c == '-'))
  if safe = "" then "unknown" else safe

/-- The settings of the poller: `digisac_history_max_attempts` and
    `digisac_history_retry_base_seconds` in microseconds. -/
structure HydrationSettings where
  maxAttempts : Nat
  retryBase : Nat
  positive : 0 < maxAttempts
  deriving DecidableEq, Repr

/-- `min(60.0, base * 2 ** max(0, attempt_count - 1))` -/
def retryDelay (settings : HydrationSettings) (attemptCount : Nat) : Timestamp :=
  min 60000000 (settings.retryBase * 2 ^ (attemptCount - 1))

/-- `should_retry` -/
def shouldRetry (settings : HydrationSettings) (retryable : Bool) (attemptCount : Nat) : Bool :=
  retryable && attemptCount < settings.maxAttempts

/-- `_mark_digisac_contact_hydration_failure_sync`, and the row it found. -/
def markHydrationFailure (settings : HydrationSettings) (now : Timestamp)
    (externalId category : String) (retryable : Bool) (expectedLease : Timestamp)
    (t : HydrationTables) : HydrationTables × Option HydrationRow :=
  match t.rows.find? (t.heldBy externalId expectedLease) with
  | none => (t, none)
  | some found =>
      let safeCategory := safeFailureCategory category
      let schedule := if shouldRetry settings retryable found.attemptCount then
        some (now + retryDelay settings found.attemptCount) else none
      (t.update (fun r => t.joins externalId r && r.leaseUntil == some expectedLease) fun r =>
          { r with
            status := .failed, nextAttemptAt := schedule, leaseUntil := none, completedAt := none
            failureCategory := some safeCategory
            failureMessage := some s!"contact hydration failed: {safeCategory}" },
        some found)

/-- The UPDATE of `_upsert_digisac_contact_cursor` for a `ticket_webhook`. -/
def hydratedByWebhook (now : Timestamp) (externalId : String) (t : HydrationTables) :
    HydrationTables :=
  t.update (t.joins externalId) fun r =>
    { r with
      status := .succeeded, nextAttemptAt := none, leaseUntil := none
      completedAt := r.completedAt.or (some now), failureCategory := none, failureMessage := none }

/-- A call of one of the writers of `digisac_contacts`, with what it does to the
    hydration of its contact. -/
def upsertHydrated (now : Timestamp) (call : ContactCall) (t : HydrationTables) : HydrationTables :=
  match call.run t.contacts with
  | .error _ => t
  | .ok contacts =>
      let t := { t with contacts }
      match call with
      | .upsert o =>
          if Text.strip o.source = "ticket_webhook" then
            hydratedByWebhook now o.contact.externalId t
          else t
      | _ => t

/-! ## §3. What the statements do to the row of one contact. -/

variable {now : Timestamp} {t : HydrationTables} {i : Nat} {r : HydrationRow}
  {externalId category : String} {retryable : Bool} {lease : Timestamp}

theorem row?_requestFor (now requested : Timestamp) (contact : Entry String DigisacRow)
    (t : HydrationTables) (i : Nat) :
    (requestFor now requested contact t).1.row? i = t.row? i
      ∨ (t.row? i = none ∧ ∃ r, (requestFor now requested contact t).1.row? i = some r
        ∧ r.status = .pending ∧ r.attemptCount = 0) := by
  unfold requestFor
  split
  next => exact .inl rfl
  next hnone =>
    split
    next => exact .inl rfl
    next =>
      rw [HydrationTables.row?_insert]
      by_cases hi : contact.id = i
      · rw [if_pos hi]
        exact .inr ⟨hi ▸ hnone, _, rfl, rfl, rfl⟩
      · rw [if_neg hi]
        exact .inl rfl

/-- A request leaves the row alone, or inserts a pending one. -/
theorem row?_requestHydration (now : Timestamp) (externalId : String)
    (requestedAt : Option Timestamp) (t : HydrationTables) (i : Nat) :
    (requestHydration now externalId requestedAt t).1.row? i = t.row? i
      ∨ (t.row? i = none ∧ ∃ r, (requestHydration now externalId requestedAt t).1.row? i = some r
        ∧ r.status = .pending ∧ r.attemptCount = 0) := by
  unfold requestHydration
  by_cases hblank : Text.strip externalId = ""
  · simp only [if_pos hblank]
    exact .inl trivial
  simp only [if_neg hblank]
  split
  next => exact .inl rfl
  next contact _ => exact row?_requestFor now _ contact _ i

/-- The row is as before, or its hydration has ended. -/
def RowEnded (before after : Option HydrationRow) : Prop :=
  after = before ∨ ∃ r r', before = some r ∧ after = some r' ∧ r'.status = .succeeded
    ∧ r'.attemptCount = r.attemptCount

/-- An UPDATE that ends hydrations. -/
theorem rowEnded_update {p : HydrationRow → Bool} {f : HydrationRow → HydrationRow}
    (hf : ∀ r, (f r).contactId = r.contactId)
    (hend : ∀ r, (f r).status = .succeeded ∧ (f r).attemptCount = r.attemptCount)
    (t : HydrationTables) (i : Nat) : RowEnded (t.row? i) ((t.update p f hf).row? i) := by
  rw [HydrationTables.row?_update]
  cases hrow : t.row? i with
  | none => exact .inl rfl
  | some r =>
      rw [Option.map_some]
      by_cases hp : p r = true
      · rw [if_pos hp]
        exact .inr ⟨r, f r, rfl, rfl, hend r⟩
      · rw [if_neg hp]
        exact .inl rfl

theorem rowEnded_markHydrationSuccess (now : Timestamp) (externalId : String) (lease : Timestamp)
    (t : HydrationTables) (i : Nat) :
    RowEnded (t.row? i) ((markHydrationSuccess now externalId lease t).1.row? i) := by
  apply rowEnded_update
  · exact fun _ => rfl
  · exact fun _ => ⟨rfl, rfl⟩

/-- A write of the contacts ends a hydration at most. -/
theorem rowEnded_upsertHydrated (now : Timestamp) (call : ContactCall) (t : HydrationTables)
    (i : Nat) : RowEnded (t.row? i) ((upsertHydrated now call t).row? i) := by
  unfold upsertHydrated
  split
  next => exact .inl rfl
  next contacts _ =>
    simp only
    split
    next o =>
      split
      next =>
        show RowEnded ({ t with contacts }.row? i) _
        apply rowEnded_update
        exact fun _ => ⟨rfl, rfl⟩
      next => exact .inl rfl
    next => exact .inl rfl

/-- The selected row is a due one. -/
theorem selectDue_spec {locked : List Nat} (h : selectDue now locked t = some (r, externalId)) :
    r ∈ t.rows ∧ r.due now = true := by
  unfold selectDue at h
  have hmem := List.mem_of_mem_head? h
  obtain ⟨r', hr', hmap⟩ := List.mem_filterMap.mp hmem
  obtain ⟨c, -, heq⟩ := Option.map_eq_some_iff.mp hmap
  have hfilter := List.mem_filter.mp ((List.mem_insertionSort _).mp hr')
  rw [(Prod.mk.inj heq).1] at hfilter
  exact ⟨hfilter.1, (Bool.and_eq_true_iff.mp hfilter.2).1⟩

/-- What a granted claim does. -/
theorem claimHydration_spec {leaseSeconds : Int} {locked : List Nat} {after : HydrationTables}
    {claim : HydrationClaim}
    (h : claimHydration now leaseSeconds locked t = .ok (after, some claim)) :
    ∃ r externalId, selectDue now locked t = some (r, externalId) ∧ claim.contactId = r.contactId
      ∧ (∀ i, i ≠ r.contactId → after.row? i = t.row? i)
      ∧ ∃ r', after.row? r.contactId = some r' ∧ r'.status = .running
        ∧ r'.attemptCount = r.attemptCount + 1 := by
  unfold claimHydration at h
  split at h
  next => cases h
  next =>
    simp only at h
    split at h
    next => cases h
    next r externalId hselect =>
      injection h with h
      obtain ⟨hafter, hclaim⟩ := Prod.mk.inj h
      have hclaim := Option.some.inj hclaim
      obtain ⟨hr, -⟩ := selectDue_spec hselect
      have hrow : t.row? r.contactId = some r := HydrationTables.row?_eq_some_iff.mpr ⟨hr, rfl⟩
      refine ⟨r, externalId, hselect, by rw [← hclaim], ?_, ?_⟩
      · intro i hi
        rw [← hafter, HydrationTables.row?_update]
        cases hother : t.row? i with
        | none => rfl
        | some r' =>
            have hid := (HydrationTables.row?_eq_some_iff.mp hother).2
            rw [Option.map_some, if_neg]
            rw [beq_iff_eq, hid]
            exact hi
      · rw [← hafter, HydrationTables.row?_update, hrow, Option.map_some,
          if_pos (beq_self_eq_true _)]
        exact ⟨_, rfl, rfl, rfl⟩

/-- What a failure mark that found its row does. -/
theorem markHydrationFailure_spec {settings : HydrationSettings} {after : HydrationTables}
    (h : markHydrationFailure settings now externalId category retryable lease t
      = (after, some r)) :
    t.row? r.contactId = some r ∧ r.status = .running
      ∧ (∀ i, i ≠ r.contactId → after.row? i = t.row? i)
      ∧ ∃ r', after.row? r.contactId = some r' ∧ r'.status = .failed
        ∧ r'.attemptCount = r.attemptCount
        ∧ (r'.nextAttemptAt ≠ none → shouldRetry settings retryable r.attemptCount = true) := by
  unfold markHydrationFailure at h
  split at h
  next => cases congrArg Prod.snd h
  next found hfound =>
    simp only [Prod.mk.injEq, Option.some.injEq] at h
    obtain ⟨hafter, rfl⟩ := h
    have hmem := List.mem_of_find?_eq_some hfound
    have hheld := List.find?_some hfound
    unfold HydrationTables.heldBy at hheld
    rw [Bool.and_eq_true, Bool.and_eq_true] at hheld
    obtain ⟨⟨hjoins, hrunning⟩, hlease⟩ := hheld
    have hrow : t.row? found.contactId = some found :=
      HydrationTables.row?_eq_some_iff.mpr ⟨hmem, rfl⟩
    refine ⟨hrow, by simpa using hrunning, ?_, ?_⟩
    · intro i hi
      rw [← hafter, HydrationTables.row?_update]
      cases hother : t.row? i with
      | none => rfl
      | some r' =>
          obtain ⟨hr', hid⟩ := HydrationTables.row?_eq_some_iff.mp hother
          rw [Option.map_some, if_neg]
          -- the external id is that of one contact
          intro hp
          have hsame := HydrationTables.eq_of_joins hr' hmem (Bool.and_eq_true_iff.mp hp).1 hjoins
          exact hi (hid.symm.trans (congrArg HydrationRow.contactId hsame))
    · rw [← hafter, HydrationTables.row?_update, hrow, Option.map_some,
        if_pos (by rw [hjoins, hlease]; rfl)]
      refine ⟨_, rfl, rfl, rfl, fun hnext => ?_⟩
      by_contra hnot
      exact hnext (if_neg hnot)

/-- A failure mark that found no row changes nothing. -/
theorem markHydrationFailure_none {settings : HydrationSettings} {after : HydrationTables}
    (h : markHydrationFailure settings now externalId category retryable lease t = (after, none)) :
    after = t := by
  unfold markHydrationFailure at h
  split at h
  · exact (congrArg Prod.fst h).symm
  · cases congrArg Prod.snd h

end Cai.Directory
