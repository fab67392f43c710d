/-
  Cai.Webhook.Ledger — the ledger of webhook events.

  `src/core/webhook_event_repository.py` over the table of
  `alembic/versions/0025_webhook_event_keys.py`: a digest has at most one
  row, and a row is active until its `expires_at`.  The three writers are
  one conditional upsert (`Ledger.put`) and one DELETE.

  Of an active row, `live` is all that a later upsert can see.
-/
import Mathlib.Data.List.Sort
import Mathlib.Data.String.Basic
import Cai.Lib.Fallible
import Cai.Lib.Text
import Cai.Cycle.Status

namespace Cai.Webhook

open Cai.Lib
open Cai.Cycle (Timestamp)

/-! ## §1. The table. -/

/-- A row of `webhook_event_keys`. -/
structure LedgerRow where
  eventDigest : String
  firstSeenAt : Timestamp
  expiresAt : Timestamp
  deriving DecidableEq, Repr

/-- The table, with its primary key. -/
structure Ledger where
  rows : List LedgerRow := []
  digests : (rows.map (·.eventDigest)).Nodup := by decide

namespace Ledger

@[ext] theorem ext {ledger ledger' : Ledger} (h : ledger.rows = ledger'.rows) :
    ledger = ledger' := by
  cases ledger
  cases ledger'
  congr

instance : DecidableEq Ledger := fun ledger ledger' =>
  decidable_of_iff (ledger.rows = ledger'.rows) ⟨ext, fun h => h ▸ rfl⟩

/-- SELECT … WHERE event_digest = `digest`. -/
def find? (ledger : Ledger) (digest : String) : Option LedgerRow :=
  ledger.rows.find? (·.eventDigest == digest)

variable {ledger : Ledger} {row : LedgerRow} {digest : String} {now : Timestamp}

theorem find?_eq_some_iff :
    ledger.find? digest = some row ↔ row ∈ ledger.rows ∧ row.eventDigest = digest := by
  constructor
  · intro h
    exact ⟨List.mem_of_find?_eq_some h, by simpa using List.find?_some h⟩
  · rintro ⟨hrow, rfl⟩
    cases hfind : ledger.find? row.eventDigest with
    | none =>
        have hnone := List.find?_eq_none.mp hfind row hrow
        simp at hnone
    | some row' =>
        have hkey : row'.eventDigest = row.eventDigest := by simpa using List.find?_some hfind
        rw [List.inj_on_of_nodup_map ledger.digests (List.mem_of_find?_eq_some hfind) hrow hkey]

theorem find?_eq_none_iff :
    ledger.find? digest = none ↔ ∀ row ∈ ledger.rows, row.eventDigest ≠ digest := by
  unfold find?
  rw [List.find?_eq_none]
  simp

/-- INSERT of a new digest. -/
def insert (ledger : Ledger) (row : LedgerRow) (h : ledger.find? row.eventDigest = none) :
    Ledger where
  rows := ledger.rows ++ [row]
  digests := by
    rw [List.map_append, List.nodup_append]
    refine ⟨ledger.digests, List.nodup_singleton _, fun digest hdigest digest' hdigest' => ?_⟩
    obtain ⟨r, hr, rfl⟩ := List.mem_map.mp hdigest
    rw [List.map_singleton, List.mem_singleton] at hdigest'
    rw [hdigest']
    exact find?_eq_none_iff.mp h r hr

/-- UPDATE of the row of a digest. -/
def replace (ledger : Ledger) (row : LedgerRow) : Ledger where
  rows := ledger.rows.map fun r => if r.eventDigest = row.eventDigest then row else r
  digests := by
    rw [List.map_map]
    have hsame : ((·.eventDigest) ∘ fun r : LedgerRow =>
        if r.eventDigest = row.eventDigest then row else r) = (·.eventDigest) := by
      funext r
      by_cases hr : r.eventDigest = row.eventDigest
      · simp [hr]
      · simp [hr]
    rw [hsame]
    exact ledger.digests

/-- DELETE of the rows with these digests. -/
def delete (ledger : Ledger) (digests : List String) : Ledger where
  rows := ledger.rows.filter fun r => r.eventDigest ∉ digests
  digests := (List.filter_sublist.map _).nodup ledger.digests

/-- INSERT … ON CONFLICT (event_digest) DO UPDATE … WHERE expires_at <= `now`,
    and what it returns: nothing, or whether the row is new. -/
def put (now : Timestamp) (row : LedgerRow) (ledger : Ledger) : Ledger × Option Bool :=
  match h : ledger.find? row.eventDigest with
  | none => (ledger.insert row h, some true)
  | some old => if old.expiresAt ≤ now then (ledger.replace row, some false) else (ledger, none)

/-! ## §2. Active rows. -/

/-- The row of a digest, as long as it is active. -/
def live (now : Timestamp) (ledger : Ledger) (digest : String) : Option LedgerRow :=
  (ledger.find? digest).filter fun row => now < row.expiresAt

theorem live_eq_some_iff :
    live now ledger digest = some row ↔ ledger.find? digest = some row ∧ now < row.expiresAt := by
  unfold live
  rw [Option.filter_eq_some_iff, decide_eq_true_iff]

/-- What has expired does not come back. -/
theorem live_later {now' : Timestamp} (hle : now ≤ now') :
    live now' ledger digest = (live now ledger digest).filter fun row => now' < row.expiresAt := by
  refine Option.ext fun row => ?_
  rw [live_eq_some_iff, Option.filter_eq_some_iff, live_eq_some_iff, decide_eq_true_iff]
  constructor
  · exact fun ⟨hfind, hlt⟩ => ⟨⟨hfind, hle.trans_lt hlt⟩, hlt⟩
  · exact fun ⟨⟨hfind, _⟩, hlt⟩ => ⟨hfind, hlt⟩

theorem find?_insert (h : ledger.find? row.eventDigest = none) (digest : String) :
    (ledger.insert row h).find? digest
      = if digest = row.eventDigest then some row else ledger.find? digest := by
  show (ledger.rows ++ [row]).find? _ = _
  rw [List.find?_append]
  by_cases hd : digest = row.eventDigest
  · subst hd
    have hnone : ledger.rows.find? (·.eventDigest == row.eventDigest) = none := h
    rw [hnone, if_pos rfl]
    simp
  · have hne : row.eventDigest ≠ digest := fun heq => hd heq.symm
    rw [if_neg hd]
    simp [find?, hne]

theorem find?_replace {old : LedgerRow} (h : ledger.find? row.eventDigest = some old)
    (digest : String) :
    (ledger.replace row).find? digest
      = if digest = row.eventDigest then some row else ledger.find? digest := by
  by_cases hd : digest = row.eventDigest
  · subst hd
    rw [if_pos rfl, find?_eq_some_iff]
    obtain ⟨hold, hkey⟩ := find?_eq_some_iff.mp h
    exact ⟨List.mem_map.mpr ⟨old, hold, by rw [if_pos hkey]⟩, rfl⟩
  · rw [if_neg hd]
    refine Option.ext fun r => ?_
    rw [find?_eq_some_iff, find?_eq_some_iff]
    constructor
    · rintro ⟨hr, rfl⟩
      obtain ⟨r₀, hr₀, heq⟩ := List.mem_map.mp hr
      by_cases hkey : r₀.eventDigest = row.eventDigest
      · rw [if_pos hkey] at heq
        exact absurd (congrArg LedgerRow.eventDigest heq.symm) hd
      · rw [if_neg hkey] at heq
        exact ⟨heq ▸ hr₀, rfl⟩
    · rintro ⟨hr, rfl⟩
      exact ⟨List.mem_map.mpr ⟨r, hr, by rw [if_neg hd]⟩, rfl⟩

/-- **An upsert returns a row exactly when the digest has no active one.** -/
theorem put_returns_iff :
    (put now row ledger).2.isSome = true ↔ live now ledger row.eventDigest = none := by
  unfold put
  split
  next h =>
    have hlive : live now ledger row.eventDigest = none := by
      unfold live
      rw [h, Option.filter_none]
    simp [hlive]
  next old h =>
    have hlive : live now ledger row.eventDigest = if now < old.expiresAt then some old else none := by
      unfold live
      rw [h, Option.filter_some]
      simp
    by_cases hle : old.expiresAt ≤ now
    · simp [hlive, hle, not_lt.mpr hle]
    · simp [hlive, hle, not_le.mp hle]

/-- The table after an upsert. -/
theorem find?_put (digest : String) :
    (put now row ledger).1.find? digest
      = if (put now row ledger).2.isSome = true ∧ digest = row.eventDigest then some row
        else ledger.find? digest := by
  unfold put
  split
  next h =>
    rw [find?_insert h]
    simp
  next old h =>
    by_cases hle : old.expiresAt ≤ now
    · simp only [if_pos hle]
      rw [find?_replace h]
      simp
    · simp [if_neg hle]

/-- The active rows after an upsert. -/
theorem live_put (digest : String) :
    live now (put now row ledger).1 digest
      = if live now ledger row.eventDigest = none ∧ digest = row.eventDigest then
          (some row).filter fun row => now < row.expiresAt
        else live now ledger digest := by
  have hreturns : (put now row ledger).2.isSome = true ↔ live now ledger row.eventDigest = none :=
    put_returns_iff
  show (Option.filter _ ((put now row ledger).1.find? digest)) = _
  rw [find?_put]
  by_cases hput : live now ledger row.eventDigest = none ∧ digest = row.eventDigest
  · rw [if_pos hput, if_pos ⟨hreturns.mpr hput.1, hput.2⟩]
  · rw [if_neg hput, if_neg fun h => hput ⟨hreturns.mp h.1, h.2⟩]
    rfl

/-- A DELETE of expired rows leaves the active ones alone. -/
theorem live_delete {digests : List String}
    (h : ∀ row ∈ ledger.rows, row.eventDigest ∈ digests → row.expiresAt ≤ now) :
    live now (ledger.delete digests) digest = live now ledger digest := by
  refine Option.ext fun row => ?_
  rw [live_eq_some_iff, live_eq_some_iff, find?_eq_some_iff, find?_eq_some_iff]
  show (row ∈ ledger.rows.filter _ ∧ _) ∧ _ ↔ _
  rw [List.mem_filter, decide_eq_true_iff]
  constructor
  · exact fun ⟨⟨⟨hrow, _⟩, hkey⟩, hlt⟩ => ⟨⟨hrow, hkey⟩, hlt⟩
  · rintro ⟨⟨hrow, hkey⟩, hlt⟩
    exact ⟨⟨⟨hrow, fun hmem => absurd hlt (not_lt.mpr (h row hrow hmem))⟩, hkey⟩, hlt⟩

end Ledger

/-! ## §3. The three writers. -/

/-- `EVENT_IDEMPOTENCY_TTL_SECONDS`, in microseconds. -/
def eventIdempotencyTtl : Timestamp := 3600 * 1000000

/-- `MAX_CLEANUP_BATCH_SIZE` -/
def maxCleanupBatchSize : Nat := 1000

/-- `^[0-9a-f]{64}$`, the whole text. -/
def validDigest (digest : String) : Bool :=
  Text.fullmatch (fun c => ('0' ≤ c && c ≤ '9') || ('a' ≤ c && c ≤ 'f')) 64 digest
    && digest.length == 64

inductive LedgerError
  /-- `ValueError` -/
  | value (message : String)
  deriving DecidableEq, Repr

/-- `WebhookEventDecision` -/
structure WebhookEventDecision where
  accepted : Bool
  outcome : String
  deriving DecidableEq, Repr

/-- `_validate_event_digest` -/
def validateEventDigest (digest : String) : Except LedgerError Unit :=
  require (validDigest digest) (.value "event_digest must be a lowercase SHA-256 digest")

/-- The decision about the row that the upsert returned. -/
def decisionOf (returned : Option Bool) : WebhookEventDecision :=
  match returned with
  | none => ⟨false, "duplicate"⟩
  | some true => ⟨true, "accepted"⟩
  | some false => ⟨true, "expired_replaced"⟩

theorem accepted_decisionOf (returned : Option Bool) :
    (decisionOf returned).accepted = returned.isSome := by
  cases returned with
  | none => rfl
  | some inserted => cases inserted <;> rfl

/-- `_record_webhook_event_sync` -/
def recordWebhookEvent (now : Timestamp) (digest : String) (ledger : Ledger) :
    Except LedgerError (Ledger × WebhookEventDecision) := do
  validateEventDigest digest
  let put := ledger.put now
    { eventDigest := digest, firstSeenAt := now, expiresAt := now + eventIdempotencyTtl }
  return (put.1, decisionOf put.2)

/-- `WebhookEventCleanupReport` -/
structure CleanupReport where
  beforeCount : Nat
  removedCount : Nat
  afterCount : Nat
  batchSize : Nat
  deriving DecidableEq, Repr

/-- `ORDER BY expires_at, event_digest` -/
def expiresBefore (a b : LedgerRow) : Prop :=
  a.expiresAt < b.expiresAt ∨ a.expiresAt = b.expiresAt ∧ a.eventDigest ≤ b.eventDigest

instance : DecidableRel expiresBefore := fun a b =>
  inferInstanceAs (Decidable (a.expiresAt < b.expiresAt
    ∨ a.expiresAt = b.expiresAt ∧ a.eventDigest ≤ b.eventDigest))

/-- The rows that the CTE `expired` selects; it skips the locked ones. -/
def expired (now : Timestamp) (batchSize : Nat) (locked : List String) (ledger : Ledger) :
    List LedgerRow :=
  ((ledger.rows.filter fun r => r.expiresAt ≤ now && r.eventDigest ∉ locked).insertionSort
    expiresBefore).take batchSize

/-- `SELECT count(*) … WHERE expires_at <= CURRENT_TIMESTAMP` -/
def expiredCount (now : Timestamp) (ledger : Ledger) : Nat :=
  ledger.rows.countP fun r => r.expiresAt ≤ now

/-- `_cleanup_expired_webhook_event_keys_sync` -/
def cleanupExpired (now : Timestamp) (batchSize : Int) (locked : List String) (ledger : Ledger) :
    Except LedgerError (Ledger × CleanupReport) := do
  require (1 ≤ batchSize ∧ batchSize ≤ maxCleanupBatchSize)
    (.value "batch_size must be between 1 and 1000")
  let removed := expired now batchSize.toNat locked ledger
  let after := ledger.delete (removed.map (·.eventDigest))
  return (after,
    { beforeCount := expiredCount now ledger, removedCount := removed.length
      afterCount := expiredCount now after, batchSize := batchSize.toNat })

/-- The row of one entry of an import. -/
def legacyRow (capturedAt : Timestamp) (digest : String) (ttlSeconds : Int) : LedgerRow :=
  let expiresAt := capturedAt + ttlSeconds * 1000000
  { eventDigest := digest, firstSeenAt := expiresAt - eventIdempotencyTtl, expiresAt }

/-- The INSERT of one entry of `_import_legacy_webhook_event_keys_sync`. -/
def importMarker (now capturedAt : Timestamp) (digest : String) (ttlSeconds : Int)
    (ledger : Ledger) : Ledger × Bool :=
  let put := ledger.put now (legacyRow capturedAt digest ttlSeconds)
  (put.1, put.2.isSome)

/-- The checks of one entry. -/
def validateEntry (entry : String × Int) : Except LedgerError Unit := do
  validateEventDigest entry.1
  require (0 < entry.2) (.value "legacy marker TTL must be positive")

/-- One round of the loop over the entries. -/
def importEntry (now capturedAt : Timestamp) (imported : Ledger × Nat) (entry : String × Int) :
    Ledger × Nat :=
  let (ledger, stored) := importMarker now capturedAt entry.1 entry.2 imported.1
  (ledger, if stored then imported.2 + 1 else imported.2)

/-- `_import_legacy_webhook_event_keys_sync`; returns how many it imported. -/
def importLegacy (now capturedAt : Timestamp) (entries : List (String × Int)) (ledger : Ledger) :
    Except LedgerError (Ledger × Nat) := do
  entries.forM validateEntry
  return entries.foldl (importEntry now capturedAt) (ledger, 0)

end Cai.Webhook
