/-
  Cai.Media.Fleet — a media table and all of its workers.

  `AudioTranscriptionWorker` and `ImageExtractionWorker` (`src/workers`)
  poll one table each.  A poll takes the first row that is due, in the
  order of `_claim_content_sync`; a transient failure puts the row off and
  opens a window of the worker (`rate_limited_until`), in which it does
  not poll.

  Delays are exact numbers of seconds; datetimes are counted in microseconds.

  Main result: `fleet_rows_fenced`, each row runs through the protocol of
  one row.
-/
import Mathlib.Algebra.Order.Floor.Ring
import Mathlib.Data.List.Nodup
import Mathlib.Data.Rat.Floor
import Mathlib.Data.String.Basic
import Mathlib.Logic.Function.Basic
import Cai.Lib.Queue
import Cai.Lib.Simulation
import Cai.Media.Fencing
import Cai.Provider.Backoff

namespace Cai.Media

open Cai.Lib
open Cai.Cycle (Timestamp)
open Cai.Provider

/-! ## §1. The table. -/

/-- A row with its primary key. -/
structure ContentRow extends MediaRow where
  messageId : String
  deriving DecidableEq, Repr

/-- `message_transcriptions`, or `message_image_extractions`. -/
structure ContentTable where
  rows : List ContentRow
  primaryKey : (rows.map (·.messageId)).Nodup

namespace ContentTable

def empty : ContentTable := ⟨[], List.nodup_nil⟩

def get? (table : ContentTable) (messageId : String) : Option MediaRow :=
  (table.rows.find? (·.messageId == messageId)).map (·.toMediaRow)

variable {table : ContentTable} {messageId other : String} {r : MediaRow}

theorem get?_of_mem {row : ContentRow} (h : row ∈ table.rows) :
    table.get? row.messageId = some row.toMediaRow := by
  cases hfind : table.rows.find? (·.messageId == row.messageId) with
  | none => simpa using List.find?_eq_none.mp hfind row h
  | some found =>
      have hkey : found.messageId = row.messageId := by simpa using List.find?_some hfind
      have heq : found = row :=
        List.inj_on_of_nodup_map table.primaryKey (List.mem_of_find?_eq_some hfind) h hkey
      unfold get?
      rw [hfind, heq]
      rfl

theorem mem_of_get? (h : table.get? messageId = some r) : ⟨r, messageId⟩ ∈ table.rows := by
  obtain ⟨row, hfind, rfl⟩ := Option.map_eq_some_iff.mp h
  have hkey : row.messageId = messageId := by simpa using List.find?_some hfind
  rw [← hkey]
  exact List.mem_of_find?_eq_some hfind

theorem not_mem_of_get? (h : table.get? messageId = none) :
    messageId ∉ table.rows.map (·.messageId) := by
  intro hmem
  obtain ⟨row, hrow, rfl⟩ := List.mem_map.mp hmem
  rw [get?_of_mem hrow] at h
  cases h

/-- A row with another content. -/
def rewritten (r : MediaRow) (row : ContentRow) : ContentRow := ⟨r, row.messageId⟩

/-- UPDATE … WHERE message_id = `messageId`. -/
def replace (table : ContentTable) (messageId : String) (r : MediaRow) : ContentTable where
  rows := Table.update (·.messageId == messageId) (rewritten r) table.rows
  primaryKey := by
    have hkeys : (Table.update (·.messageId == messageId) (rewritten r) table.rows).map (·.messageId)
        = table.rows.map (·.messageId) := Table.map_update fun _ _ => rfl
    rw [hkeys]
    exact table.primaryKey

/-- INSERT, where the key is new. -/
def insertNew (table : ContentTable) (messageId : String) (r : MediaRow)
    (h : table.get? messageId = none) : ContentTable where
  rows := Table.insert table.rows ⟨r, messageId⟩
  primaryKey := by
    unfold Table.insert
    rw [List.map_append, List.nodup_append]
    refine ⟨table.primaryKey, List.nodup_singleton _, ?_⟩
    intro a ha b hb hab
    rw [List.map_singleton, List.mem_singleton] at hb
    rw [hab, hb] at ha
    exact not_mem_of_get? h ha

/-- The table once the row of `messageId` is `r`. -/
def put (table : ContentTable) (messageId : String) (r : MediaRow) : ContentTable :=
  if h : table.get? messageId = none then table.insertNew messageId r h
  else table.replace messageId r

/-- The rows of a message, found by their key. -/
theorem get?_eq_some_iff : table.get? messageId = some r ↔ ⟨r, messageId⟩ ∈ table.rows :=
  ⟨mem_of_get?, fun h => get?_of_mem h⟩

theorem mem_put {row : ContentRow} :
    row ∈ (table.put messageId r).rows ↔
      (row.messageId = messageId ∧ row.toMediaRow = r)
        ∨ (row.messageId ≠ messageId ∧ row ∈ table.rows) := by
  unfold put
  split
  next h =>
    have hnew := not_mem_of_get? h
    show row ∈ table.rows ++ [⟨r, messageId⟩] ↔ _
    rw [List.mem_append, List.mem_singleton]
    constructor
    · rintro (hrow | rfl)
      · refine .inr ⟨?_, hrow⟩
        rintro rfl
        exact hnew (List.mem_map.mpr ⟨row, hrow, rfl⟩)
      · exact .inl ⟨rfl, rfl⟩
    · rintro (⟨rfl, rfl⟩ | ⟨-, hrow⟩)
      · exact .inr rfl
      · exact .inl hrow
  next h =>
    obtain ⟨r₀, hr₀⟩ := Option.ne_none_iff_exists'.mp h
    constructor
    · intro hrow
      obtain ⟨row₀, hrow₀, ⟨hkey, rfl⟩ | ⟨hkey, rfl⟩⟩ := Table.mem_update hrow
      · exact .inl ⟨beq_iff_eq.mp hkey, rfl⟩
      · exact .inr ⟨by simpa using hkey, hrow₀⟩
    · rintro (⟨rfl, rfl⟩ | ⟨hne, hrow⟩)
      · have hold := Table.mem_update_of_mem (p := (·.messageId == row.messageId))
          (f := rewritten row.toMediaRow) (mem_of_get? hr₀)
        rwa [if_pos (beq_self_eq_true _)] at hold
      · have hold := Table.mem_update_of_mem (p := (·.messageId == messageId)) (f := rewritten r) hrow
        rwa [if_neg (by simpa using hne)] at hold

@[simp] theorem get?_put_self : (table.put messageId r).get? messageId = some r :=
  get?_eq_some_iff.mpr (mem_put.mpr (.inl ⟨rfl, rfl⟩))

@[simp] theorem get?_put_ne (hne : other ≠ messageId) :
    (table.put messageId r).get? other = table.get? other := by
  apply Option.ext
  intro r'
  rw [get?_eq_some_iff, get?_eq_some_iff, mem_put]
  simp [hne]

end ContentTable

/-! ## §2. The statements on a table. -/

/-- The order of code points, as a collation. -/
abbrev codePoints : LinearOrder String := inferInstance

/-- A text, in the order of the database. -/
def Ordered (_ : LinearOrder String) : Type := String

instance (collation : LinearOrder String) : LinearOrder (Ordered collation) := collation

/-- `COALESCE(next_attempt_at, updated_at), message_id` -/
abbrev QueueKey (collation : LinearOrder String) := Timestamp ×ₗ Ordered collation

/-- The first part of the order of a row. -/
def MediaRow.queuedAt (r : MediaRow) : Timestamp := r.nextAttemptAt.getD r.updatedAt

def ContentRow.queueKey (collation : LinearOrder String) (r : ContentRow) : QueueKey collation :=
  toLex (r.queuedAt, r.messageId)

/-- `_reserve_content_sync` -/
def reserveContentSync (now : Timestamp) (messageId : String) (conversationId : Option String)
    (model : String) (legacyPublicationMarker : Bool) (table : ContentTable) :
    ContentTable × Bool :=
  match reserveContent now conversationId model legacyPublicationMarker (table.get? messageId) with
  | none => (table, false)
  | some r => (table.put messageId r, true)

/-- What a worker reads of the row it claimed. -/
structure Claimed where
  messageId : String
  updatedAt : Timestamp
  attemptCount : Nat
  deriving DecidableEq, Repr

/-- What `_claim_content_sync` raises. -/
inductive ClaimError
  | leaseOwnerRequired
  | leaseDurationNotPositive
  deriving DecidableEq, Repr

def ClaimError.message : ClaimError → String
  | .leaseOwnerRequired => "A media lease owner is required"
  | .leaseDurationNotPositive => "Media lease duration must be positive"

/-- The rows that the candidate of a claim is picked from; `locked` are those
    that other transactions hold (SKIP LOCKED). -/
def claimable (now : Timestamp) (locked : List String) (messageId : Option String)
    (r : ContentRow) : Bool :=
  r.due now && messageId.all (· == r.messageId) && !locked.contains r.messageId

/-- The statement of `_claim_content_sync`. -/
def takeFirst (collation : LinearOrder String) (now : Timestamp) (locked : List String)
    (owner : String) (leaseSeconds : Nat) (messageId : Option String) (table : ContentTable) :
    ContentTable × Option Claimed :=
  match Table.first (claimable now locked messageId) (·.queueKey collation) table.rows with
  | none => (table, none)
  | some row =>
      match claimContent now owner leaseSeconds row.toMediaRow with
      | none => (table, none)
      | some r => (table.put row.messageId r, some ⟨row.messageId, r.updatedAt, r.attemptCount⟩)

/-- `_claim_content_sync` -/
def claimContentSync (collation : LinearOrder String) (now : Timestamp) (locked : List String)
    (owner : String) (leaseSeconds : Int) (messageId : Option String) (table : ContentTable) :
    Except ClaimError (ContentTable × Option Claimed) :=
  if Text.strip owner = "" then .error .leaseOwnerRequired
  else if leaseSeconds < 1 then .error .leaseDurationNotPositive
  else .ok (takeFirst collation now locked owner leaseSeconds.toNat messageId table)

/-! ## §3. The workers. -/

/-- The claim a worker works on. -/
structure Claim where
  messageId : String
  held : Held
  attempt : Nat
  deriving DecidableEq, Repr

structure MediaWorker where
  rateLimitedUntil : Timestamp := 0
  claim : Option Claim := none
  deriving DecidableEq, Repr

/-- How `transcribe_message` or `extract_image_message` ended. -/
inductive Outcome
  | text (value : String)
  /-- With the delay that the provider asked for, in seconds. -/
  | transient (error : String) (retryAfterSeconds : Option ℚ)
  | permanent (error : String)
  deriving DecidableEq, Repr

/-- Seconds as microseconds, rounded half to even (`timedelta`). -/
def microseconds (seconds : ℚ) : Int :=
  let lower := ⌊seconds * 1000000⌋
  let rest := seconds * 1000000 - lower
  if rest < 1 / 2 ∨ rest = 1 / 2 ∧ lower % 2 = 0 then lower else lower + 1

/-- The last microsecond of year 9999. -/
def maxDatetime : Timestamp := 253402300799999999

/-- The two workers. -/
inductive ContentKind
  | audio
  | image
  deriving DecidableEq, Repr

/-- What is stored for a blank text. -/
def ContentKind.emptyError : ContentKind → String
  | .audio => audioEmptyError
  | .image => "empty image extraction"

/-- What a worker makes of the delay before a retry. -/
structure Schedule where
  /-- The window to open, if it comes to that. -/
  window : Option Timestamp
  /-- The next attempt; none where the time is no datetime. -/
  nextAttemptAt : Option Timestamp
  deriving DecidableEq, Repr

/-- A delay from `clock` on.  The image worker opens its window before it
    turns the time into a datetime, the audio worker after. -/
def ContentKind.schedule (kind : ContentKind) (clock : Timestamp) (delay : ℚ) : Schedule :=
  let retryAt := clock + microseconds delay
  let nextAttemptAt := if retryAt ≤ maxDatetime then some retryAt else none
  match kind with
  | .audio => ⟨nextAttemptAt, nextAttemptAt⟩
  | .image => ⟨some retryAt, nextAttemptAt⟩

/-- The settings of the workers of a table. -/
structure FleetSettings where
  kind : ContentKind
  owner : WorkerId → String
  retry : RetrySettings ℚ
  /-- `content_recovery_lease_seconds` -/
  leaseSeconds : Int

/-! ## §4. The machine. -/

inductive FleetEvent
  /-- A claim of `messageId`; of a poll, with the clock it compared with its window. -/
  | granted (w : WorkerId) (messageId : String) (polledAt : Option Timestamp)
  /-- A window up to `until_`, opened for the failure of an attempt; the provider
      asked for `retryAfterSeconds`. -/
  | window (w : WorkerId) (failedAt : Timestamp) (attempt : Nat) (retryAfterSeconds : Option ℚ)
      (until_ : Timestamp)
  | stored (w : WorkerId) (messageId : String) (number : Nat) (status : ContentStatus)
  deriving DecidableEq, Repr

/-- What an event is for the row of `messageId`. -/
def FleetEvent.seen (messageId : String) : FleetEvent → Option MediaEvent
  | .granted w id _ => if id = messageId then some (.granted w) else none
  | .window .. => none
  | .stored w id number status => if id = messageId then some (.stored w number status) else none

structure FleetState where
  table : ContentTable
  workers : WorkerId → MediaWorker
  log : History FleetEvent

def FleetState.empty : FleetState := ⟨.empty, fun _ => {}, []⟩

inductive FleetAction
  /-- A webhook or the finalization worker reserves a message. -/
  | reserve (messageId : String) (now : Timestamp) (conversationId : Option String)
      (model : String) (marker : Bool)
  /-- `poll_once` of an idle worker; `clock` is its own, `now` the database's. -/
  | poll (w : WorkerId) (clock now : Timestamp) (locked : List String)
  /-- `process_job`, for one message. -/
  | job (w : WorkerId) (messageId : String) (now : Timestamp) (locked : List String)
  /-- The end of `_process_claim`. -/
  | finish (w : WorkerId) (now clock : Timestamp) (outcome : Outcome)
  /-- A claim that ends without a write. -/
  | abandon (w : WorkerId)
  deriving DecidableEq, Repr

variable (settings : FleetSettings) (collation : LinearOrder String)

/-- The claim of an idle worker. -/
def claimFor (s : FleetState) (w : WorkerId) (now : Timestamp) (locked : List String)
    (messageId : Option String) (polledAt : Option Timestamp) : FleetState :=
  match claimContentSync collation now locked (settings.owner w) settings.leaseSeconds messageId
      s.table with
  -- an error is logged by the loop of the worker
  | .error _ | .ok (_, none) => s
  | .ok (table, some claimed) =>
      let number := grants (s.log.filterMap (FleetEvent.seen claimed.messageId)) + 1
      let claim : Claim := ⟨claimed.messageId, ⟨claimed.updatedAt, number⟩, claimed.attemptCount⟩
      { table
        workers := Function.update s.workers w { s.workers w with claim := some claim }
        log := .granted w claimed.messageId polledAt :: s.log }

/-- The worker has no claim any more. -/
def FleetState.release (s : FleetState) (w : WorkerId) : FleetState :=
  { s with workers := Function.update s.workers w { s.workers w with claim := none } }

/-- `self.rate_limited_until = max(self.rate_limited_until, retry_at)` -/
def FleetState.openWindow (s : FleetState) (w : WorkerId) (failedAt : Timestamp) (attempt : Nat)
    (retryAfterSeconds : Option ℚ) (until_ : Timestamp) : FleetState :=
  { s with
    workers := Function.update s.workers w
      { s.workers w with rateLimitedUntil := max (s.workers w).rateLimitedUntil until_ }
    log := .window w failedAt attempt retryAfterSeconds until_ :: s.log }

/-- The write at the end of `_process_claim` (`_set_content_status_sync`): a
    lost lease leaves the row as it is. -/
def store (s : FleetState) (w : WorkerId) (claim : Claim) (now clock : Timestamp)
    (extraction : Extraction) : FleetState :=
  let write := resultWrite (settings.owner w) claim.held.token settings.kind.emptyError extraction
  match (s.table.get? claim.messageId).bind (setContentStatus now clock write) with
  | none => s.release w
  | some r =>
      { s.release w with
        table := s.table.put claim.messageId r
        log := .stored w claim.messageId claim.held.number r.status :: s.log }

/-- A transient failure, once its delay is known. -/
def putOff (s : FleetState) (w : WorkerId) (claim : Claim) (now clock : Timestamp)
    (error : String) (retryAfterSeconds : Option ℚ) (delay : ℚ) : FleetState :=
  let schedule := settings.kind.schedule clock delay
  let s := schedule.window.elim s (s.openWindow w clock claim.attempt retryAfterSeconds)
  match schedule.nextAttemptAt with
  | none => s.release w
  | some retryAt => store settings s w claim now clock (.transient error retryAt)

/-- A transient failure; without a delay, the error leaves the claim as it is. -/
def retryLater (s : FleetState) (w : WorkerId) (claim : Claim) (now clock : Timestamp)
    (error : String) (retryAfterSeconds : Option ℚ) : FleetState :=
  match retryDelay settings.retry claim.attempt retryAfterSeconds with
  | .error _ => s.release w
  | .ok delay => putOff settings s w claim now clock error retryAfterSeconds delay

/-- `_process_claim`, once the extraction has ended. -/
def processClaim (s : FleetState) (w : WorkerId) (claim : Claim) (now clock : Timestamp) :
    Outcome → FleetState
  | .text value => store settings s w claim now clock (.text value)
  | .permanent error => store settings s w claim now clock (.permanent error)
  | .transient error retryAfterSeconds =>
      retryLater settings s w claim now clock error retryAfterSeconds

/-- One action of a fleet. -/
def fleetStep (s : FleetState) : FleetAction → Option FleetState
  | .reserve messageId now conversationId model marker =>
      some { s with
        table := (reserveContentSync now messageId conversationId model marker s.table).1 }
  | .poll w clock now locked =>
      if (s.workers w).claim.isSome then none
      else if clock < (s.workers w).rateLimitedUntil then some s
      else some (claimFor settings collation s w now locked none (some clock))
  | .job w messageId now locked =>
      if (s.workers w).claim.isSome then none
      else if messageId = "" then some s
      else some (claimFor settings collation s w now locked (some messageId) none)
  | .finish w now clock outcome =>
      (s.workers w).claim.map fun claim => processClaim settings s w claim now clock outcome
  | .abandon w => some (s.release w)

/-- **The machine of a media table.** -/
def fleetMachine : Machine FleetState FleetAction where
  init s := s = FleetState.empty
  step := fleetStep settings collation

/-! ## §5. The row of a message. -/

/-- The fleet, as the protocol of the row of `messageId` sees it. -/
def FleetState.view (messageId : String) (s : FleetState) : MediaState where
  row := s.table.get? messageId
  workers w := ((s.workers w).claim.filter (·.messageId == messageId)).map (·.held)
  log := s.log.filterMap (FleetEvent.seen messageId)

variable {settings collation} {s t : FleetState} {w : WorkerId} {id messageId : String}
  {claim : Claim} {now clock : Timestamp}

theorem view_workers_update (worker : MediaWorker) :
    (fun v => ((Function.update s.workers w worker v).claim.filter (·.messageId == id)).map (·.held))
      = Function.update (s.view id).workers w
          ((worker.claim.filter (·.messageId == id)).map (·.held)) := by
  funext v
  by_cases hv : v = w
  · subst hv
    rw [Function.update_self, Function.update_self]
  · rw [Function.update_of_ne hv, Function.update_of_ne hv]
    rfl

theorem view_release (s : FleetState) (w : WorkerId) :
    (s.release w).view id
      = { s.view id with workers := Function.update (s.view id).workers w none } := by
  unfold FleetState.view FleetState.release
  dsimp only
  rw [view_workers_update]
  rfl

theorem view_openWindow (s : FleetState) (w : WorkerId) (failedAt : Timestamp) (attempt : Nat)
    (asked : Option ℚ) (until_ : Timestamp) :
    (s.openWindow w failedAt attempt asked until_).view id = s.view id := by
  unfold FleetState.view FleetState.openWindow
  dsimp only
  rw [view_workers_update]
  congr 1
  exact Function.update_eq_self w _

/-- A worker of another row. -/
theorem view_workers_other (hclaim : (s.workers w).claim = some claim) (hne : claim.messageId ≠ id) :
    (s.view id).workers w = none := by
  show ((s.workers w).claim.filter _).map _ = none
  rw [hclaim, Option.filter_some, if_neg (by simpa using hne)]
  rfl

theorem view_workers_self (hclaim : (s.workers w).claim = some claim) :
    (s.view claim.messageId).workers w = some claim.held := by
  show ((s.workers w).claim.filter _).map _ = some claim.held
  rw [hclaim, Option.filter_some, if_pos (beq_self_eq_true _)]
  rfl

/-- A worker gives up a claim: nothing for the other rows. -/
theorem run_release (settings : FleetSettings) (s : FleetState) (w : WorkerId) :
    (mediaMachine settings.owner settings.kind.emptyError).RunWhere Machine.anyStep
      (s.view id) ((s.release w).view id) := by
  rw [view_release]
  exact Machine.run_of_step (x := .abandon w) rfl

/-- **A claim** takes the first row that it may take. -/
theorem takeFirst_spec {locked : List String} {owner : String} {leaseSeconds : Nat}
    {only : Option String} {table table' : ContentTable} {claimed : Claimed}
    (h : takeFirst collation now locked owner leaseSeconds only table = (table', some claimed)) :
    ∃ row r, Table.first (claimable now locked only) (·.queueKey collation) table.rows = some row
      ∧ claimContent now owner leaseSeconds row.toMediaRow = some r
      ∧ table' = table.put row.messageId r
      ∧ claimed = ⟨row.messageId, r.updatedAt, r.attemptCount⟩ := by
  unfold takeFirst at h
  split at h
  next => cases h
  next row hfirst =>
    split at h
    next => cases h
    next r hclaim =>
      obtain ⟨htable, hclaimed⟩ := Prod.mk.inj h
      exact ⟨row, r, hfirst, hclaim, htable.symm, (Option.some.inj hclaimed).symm⟩

theorem claimContentSync_spec {locked : List String} {owner : String} {leaseSeconds : Int}
    {only : Option String} {table table' : ContentTable} {claimed : Option Claimed}
    (h : claimContentSync collation now locked owner leaseSeconds only table
      = .ok (table', claimed)) :
    1 ≤ leaseSeconds
      ∧ takeFirst collation now locked owner leaseSeconds.toNat only table = (table', claimed) := by
  unfold claimContentSync at h
  split at h
  next => cases h
  next =>
    split at h
    next => cases h
    next hlease => exact ⟨by omega, Except.ok.inj h⟩

theorem run_claimFor (settings : FleetSettings) (collation : LinearOrder String)
    (hidle : (s.workers w).claim = none) (locked : List String) (only : Option String)
    (polledAt : Option Timestamp) :
    (mediaMachine settings.owner settings.kind.emptyError).RunWhere Machine.anyStep
      (s.view id) ((claimFor settings collation s w now locked only polledAt).view id) := by
  unfold claimFor
  split
  next => exact .refl
  next => exact .refl
  next table claimed hok =>
    obtain ⟨row, r, hfirst, hclaim, rfl, rfl⟩ := takeFirst_spec (claimContentSync_spec hok).2
    have hrow : s.table.get? row.messageId = some row.toMediaRow :=
      ContentTable.get?_of_mem (Table.first_mem hfirst).1
    have hnone : ∀ id, (s.view id).workers w = none := by
      intro id
      show ((s.workers w).claim.filter _).map _ = none
      rw [hidle]
      rfl
    unfold FleetState.view
    dsimp only
    rw [view_workers_update, List.filterMap_cons]
    by_cases hid : row.messageId = id
    · -- the row of the claim sees the claim
      subst hid
      apply Machine.run_of_step (x := .claim w now settings.leaseSeconds.toNat)
      show mediaStep settings.owner settings.kind.emptyError (s.view row.messageId)
        (.claim w now settings.leaseSeconds.toNat) = _
      have hrow' : (s.view row.messageId).row = some row.toMediaRow := hrow
      simp only [mediaStep, hnone, hrow', claimRow, hclaim, FleetEvent.seen, if_true,
        ContentTable.get?_put_self, Option.filter_some, beq_self_eq_true, Option.map_some]
      rfl
    · -- the others see nothing
      apply Machine.run_of_eq
      simp only [FleetEvent.seen, if_neg hid, ContentTable.get?_put_ne (Ne.symm hid),
        Option.filter_some, beq_iff_eq, Option.map_none]
      rw [← hnone id, Function.update_eq_self]
      rfl

theorem run_store (settings : FleetSettings) (hclaim : (s.workers w).claim = some claim)
    (extraction : Extraction) :
    (mediaMachine settings.owner settings.kind.emptyError).RunWhere Machine.anyStep
      (s.view id) ((store settings s w claim now clock extraction).view id) := by
  unfold store
  dsimp only
  split
  next => exact run_release settings s w
  next r hwrite =>
    obtain ⟨r₀, hr₀, hset⟩ := Option.bind_eq_some_iff.mp hwrite
    unfold FleetState.view FleetState.release
    dsimp only
    rw [view_workers_update, List.filterMap_cons]
    by_cases hid : claim.messageId = id
    · subst hid
      apply Machine.run_of_step (x := .finish w now clock extraction)
      show mediaStep settings.owner settings.kind.emptyError (s.view claim.messageId)
        (.finish w now clock extraction) = _
      have hrow : (s.view claim.messageId).row = some r₀ := hr₀
      simp only [mediaStep, view_workers_self hclaim, hrow, finishRow, hset, FleetEvent.seen,
        if_true, ContentTable.get?_put_self]
      rfl
    · apply Machine.run_of_eq
      simp only [FleetEvent.seen, if_neg hid, ContentTable.get?_put_ne (Ne.symm hid)]
      have hother := view_workers_other hclaim hid
      show MediaState.mk _ (Function.update (s.view id).workers w none) _ = _
      rw [← hother, Function.update_eq_self]
      rfl

theorem openWindow_claim (s : FleetState) (w : WorkerId) (failedAt : Timestamp) (attempt : Nat)
    (asked : Option ℚ) (until_ : Timestamp) :
    ((s.openWindow w failedAt attempt asked until_).workers w).claim = (s.workers w).claim := by
  show (Function.update s.workers w _ w).claim = _
  rw [Function.update_self]

/-- A window is nothing to the rows. -/
theorem run_putOff (settings : FleetSettings) (hclaim : (s.workers w).claim = some claim)
    (error : String) (asked : Option ℚ) (delay : ℚ) :
    (mediaMachine settings.owner settings.kind.emptyError).RunWhere Machine.anyStep
      (s.view id) ((putOff settings s w claim now clock error asked delay).view id) := by
  have hwindow : ∀ window : Option Timestamp,
      (window.elim s (s.openWindow w clock claim.attempt asked)).view id = s.view id
        ∧ ((window.elim s (s.openWindow w clock claim.attempt asked)).workers w).claim
          = some claim := by
    intro window
    cases window with
    | none => exact ⟨rfl, hclaim⟩
    | some until_ =>
        exact ⟨view_openWindow s w _ _ _ until_, (openWindow_claim s w _ _ _ until_).trans hclaim⟩
  obtain ⟨hview, hclaim'⟩ := hwindow (settings.kind.schedule clock delay).window
  unfold putOff
  dsimp only
  rw [← hview]
  split
  next => exact run_release settings _ w
  next => exact run_store settings hclaim' _

theorem run_retryLater (settings : FleetSettings) (hclaim : (s.workers w).claim = some claim)
    (error : String) (asked : Option ℚ) :
    (mediaMachine settings.owner settings.kind.emptyError).RunWhere Machine.anyStep
      (s.view id) ((retryLater settings s w claim now clock error asked).view id) := by
  unfold retryLater
  split
  next => exact run_release settings s w
  next delay _ => exact run_putOff settings hclaim error asked delay

theorem run_processClaim (settings : FleetSettings) (hclaim : (s.workers w).claim = some claim)
    (outcome : Outcome) :
    (mediaMachine settings.owner settings.kind.emptyError).RunWhere Machine.anyStep
      (s.view id) ((processClaim settings s w claim now clock outcome).view id) := by
  cases outcome with
  | text value => exact run_store settings hclaim _
  | permanent error => exact run_store settings hclaim _
  | transient error retryAfterSeconds =>
      rw [processClaim]
      exact run_retryLater settings hclaim error retryAfterSeconds

/-- **One step of the fleet**, as a row sees it. -/
theorem fleetStep_view {a : FleetAction} (h : fleetStep settings collation s a = some t) :
    (mediaMachine settings.owner settings.kind.emptyError).RunWhere Machine.anyStep
      (s.view id) (t.view id) := by
  cases a with
  | reserve messageId now conversationId model marker =>
      injection h with h
      subst h
      unfold reserveContentSync
      split
      next => exact .refl
      next r hres =>
        by_cases hid : id = messageId
        · subst hid
          apply Machine.run_of_step (x := .reserve now conversationId model marker)
          have hrow : reserveContent now conversationId model marker (s.view id).row = some r := hres
          show mediaStep settings.owner settings.kind.emptyError (s.view id)
            (.reserve now conversationId model marker) = _
          simp only [mediaStep, hrow, Option.some_or]
          unfold FleetState.view
          rw [ContentTable.get?_put_self]
        · apply Machine.run_of_eq
          unfold FleetState.view
          rw [ContentTable.get?_put_ne hid]
  | poll w clock now locked =>
      simp only [fleetStep] at h
      split at h
      next => cases h
      next hidle =>
        split at h
        next =>
          injection h with h
          subst h
          exact .refl
        next =>
          injection h with h
          subst h
          exact run_claimFor settings collation (by simpa using hidle) locked none _
  | job w messageId now locked =>
      simp only [fleetStep] at h
      split at h
      next => cases h
      next hidle =>
        split at h
        next =>
          injection h with h
          subst h
          exact .refl
        next =>
          injection h with h
          subst h
          exact run_claimFor settings collation (by simpa using hidle) locked _ _
  | finish w now clock outcome =>
      obtain ⟨claim, hclaim, rfl⟩ := Option.map_eq_some_iff.mp h
      exact run_processClaim settings hclaim outcome
  | abandon w =>
      injection h with h
      subst h
      exact run_release settings s w

/-- **Each row of the table runs through the protocol of one row**, whatever
    the workers do with the others. -/
theorem view_reachable (h : (fleetMachine settings collation).Reachable s) (id : String) :
    (mediaMachine settings.owner settings.kind.emptyError).Reachable (s.view id) := by
  refine Machine.Reachable.simulate h ?_ (fun s a t _ hs => fleetStep_view hs)
  rintro s rfl
  rfl

/-- The invariant of one row, in every reachable state. -/
theorem mediaInv_view (hdistinct : ∀ v w, Text.strip (settings.owner v) = Text.strip (settings.owner w)
    → v = w) (h : (fleetMachine settings collation).Reachable s) (id : String) :
    MediaInv settings.owner (s.view id) := by
  refine Machine.ReachableWhere.invariant (view_reachable h id) ?_ ?_
  · rintro s rfl
    exact MediaInv.empty settings.owner
  · intro s a t hs _ hstep
    exact hs.step hdistinct hstep

/-- The write of a worker's claim, as it applies to the row it finds. -/
def canStore (settings : FleetSettings) (s : FleetState) (w : WorkerId) (messageId : String)
    (extraction : Extraction) (now clock : Timestamp) : Prop :=
  ∃ claim r, (s.workers w).claim = some claim ∧ claim.messageId = messageId
    ∧ s.table.get? messageId = some r
    ∧ (setContentStatus now clock (resultWrite (settings.owner w) claim.held.token
        settings.kind.emptyError extraction) r).isSome

/-- The claims of a message, in a log of the fleet. -/
def claimsOf (messageId : String) (log : History FleetEvent) : History MediaEvent :=
  log.filterMap (FleetEvent.seen messageId)

/-- What is known of a table in a reachable state. -/
structure FleetFenced (settings : FleetSettings) (s : FleetState) : Prop where
  /-- Each row runs through the protocol of one row. -/
  refines : ∀ id, (mediaMachine settings.owner settings.kind.emptyError).Reachable (s.view id)
  /-- A result is stored for the latest claim of its message. -/
  stored_by_latest : ∀ newer older w id number status,
    s.log = newer ++ .stored w id number status :: older →
      latestGrant (claimsOf id older) = some w ∧ number = grants (claimsOf id older)
  /-- `attempt_count` counts the claims of the message. -/
  attempts : ∀ row ∈ s.table.rows, row.attemptCount = grants (claimsOf row.messageId s.log)
  /-- At most one worker can still store a result for a message. -/
  one_writer : ∀ id v w extraction extraction' now clock now' clock',
    canStore settings s v id extraction now clock →
      canStore settings s w id extraction' now' clock' → v = w

/-- Who can store a result has the latest claim of the message. -/
theorem latestGrant_of_canStore (hinv : MediaInv settings.owner (s.view id)) {extraction : Extraction}
    (h : canStore settings s w id extraction now clock) :
    latestGrant (claimsOf id s.log) = some w := by
  obtain ⟨claim, r, hclaim, rfl, hr, hset⟩ := h
  obtain ⟨r', hset⟩ := Option.isSome_iff_exists.mp hset
  have hown := (resultWrite_spec hset).2.2.1
  exact (hinv.lease w claim.held r (view_workers_self hclaim) hr hown).1

/-- **The rows of a table are fenced**, whichever rows the workers take. -/
theorem fleet_rows_fenced (settings : FleetSettings) (collation : LinearOrder String)
    (hdistinct : ∀ v w, Text.strip (settings.owner v) = Text.strip (settings.owner w) → v = w)
    (h : (fleetMachine settings collation).Reachable s) : FleetFenced settings s := by
  have hinv := mediaInv_view hdistinct h
  constructor
  · exact view_reachable h
  · intro newer older w id number status hlog
    have hview : (s.view id).log = claimsOf id newer ++ .stored w number status :: claimsOf id older := by
      have hseen : FleetEvent.seen id (.stored w id number status) = some (.stored w number status) :=
        if_pos rfl
      show s.log.filterMap _ = _
      rw [hlog, List.filterMap_append, List.filterMap_cons_some hseen]
      rfl
    exact (hinv id).stored _ _ _ hview
  · intro row hrow
    exact (hinv row.messageId).attempts row.toMediaRow (ContentTable.get?_of_mem hrow)
  · intro id v w extraction extraction' now clock now' clock' hv hw
    have hlatest := latestGrant_of_canStore (hinv id) hv
    rw [latestGrant_of_canStore (hinv id) hw] at hlatest
    exact (Option.some.inj hlatest).symm

/-- The settings of the audio workers. -/
def audioFleet : FleetSettings where
  kind := .audio
  owner := plusOwners
  retry := { Provider.defaultSettings with
    baseSeconds := 30, maxDelaySeconds := 3600, base_pos := by norm_num, max_pos := by norm_num }
  leaseSeconds := 60

/-- Worker 0 is asked to wait, and polls again in its window and after it;
    worker 1 takes the other message. -/
def rateLimitedRun : List FleetAction :=
  [.reserve "audio-1" 0 none "whisper" false, .reserve "audio-2" 0 none "whisper" false,
   .poll 0 1 1 [], .finish 0 2 2 (.transient "transient_audio_failure:http_429" (some 5)),
   .poll 0 3 3 [], .poll 1 3 3 [], .finish 1 4 4 (.text "bom dia"),
   .poll 0 30000002 30000002 []]

def rateLimitedLog : History FleetEvent :=
  [.granted 0 "audio-1" (some 30000002), .stored 1 "audio-2" 1 .completed,
   .granted 1 "audio-2" (some 3), .stored 0 "audio-1" 1 .pending,
   .window 0 2 1 (some 5) 30000002, .granted 0 "audio-1" (some 1)]

theorem rateLimitedRun_log : ((fleetMachine audioFleet codePoints).exec FleetState.empty
    rateLimitedRun).map (·.log) = some rateLimitedLog := by
  decide +kernel

theorem fleet_rows_fenced_rate_limited :
    ∃ s, (fleetMachine audioFleet codePoints).exec FleetState.empty rateLimitedRun = some s
      ∧ s.log = rateLimitedLog ∧ FleetFenced audioFleet s := by
  obtain ⟨s, hs, hlog⟩ := Option.map_eq_some_iff.mp rateLimitedRun_log
  exact ⟨s, hs, hlog, fleet_rows_fenced audioFleet codePoints plusOwners_distinct
    (Machine.reachable_of_exec rfl hs)⟩

end Cai.Media
