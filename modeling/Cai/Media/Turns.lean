/-
  Cai.Media.Turns — which row a media worker takes next.

  `_claim_content_sync` takes due rows in the order of
  `COALESCE(next_attempt_at, updated_at), message_id`.  A row that is
  taken, put off or reserved comes back with a time that is not before the
  clock, so it goes behind every row that was due by then: while a row
  waits, each poll takes one of the rows in front of it, and none of them
  twice.

  Main results:
    * `due_row_served_in_turn` — a due row is passed over by no more polls
      than there are rows in front of it.
    * `metrics_tell` — what the work metrics say of the next claim, and
      what a claim does to them.
-/
import Cai.Media.Fleet

namespace Cai.Media

open Cai.Lib
open Cai.Cycle (Timestamp)
open Cai.Provider

variable {settings : FleetSettings} {collation : LinearOrder String} {s t : FleetState}
  {w : WorkerId} {messageId : String} {claim : Claim} {now clock since : Timestamp}
  {table : ContentTable} {r r' : MediaRow}

/-! ## §1. One row of the table. -/

/-- What one row counts. -/
def ContentTable.count (table : ContentTable) (q : ContentRow → Bool) : Nat := table.rows.countP q

theorem count_replace (h : table.get? messageId = some r) (r' : MediaRow) (q : ContentRow → Bool) :
    (table.put messageId r').count q + (if q ⟨r, messageId⟩ then 1 else 0)
      = table.count q + (if q ⟨r', messageId⟩ then 1 else 0) := by
  have hput : table.put messageId r' = table.replace messageId r' := by
    unfold ContentTable.put
    rw [dif_neg (by simp [h])]
  rw [hput]
  exact Table.countP_update_key (f := ContentTable.rewritten r') table.primaryKey
    (ContentTable.mem_of_get? h) (fun a _ => beq_iff_eq)

theorem count_insert (h : table.get? messageId = none) (r' : MediaRow) (q : ContentRow → Bool) :
    (table.put messageId r').count q = table.count q + (if q ⟨r', messageId⟩ then 1 else 0) := by
  have hput : table.put messageId r' = table.insertNew messageId r' h := by
    unfold ContentTable.put
    rw [dif_pos h]
  rw [hput]
  exact Table.countP_insert

/-- A row that is written out of a count. -/
theorem count_put_le {q : ContentRow → Bool} (hq : q ⟨r', messageId⟩ = false) :
    (table.put messageId r').count q ≤ table.count q := by
  cases h : table.get? messageId with
  | none =>
      have hcount := count_insert h r' q
      rw [hq] at hcount
      simp only [Bool.false_eq_true, if_false] at hcount
      omega
  | some r =>
      have hcount := count_replace h r' q
      rw [hq] at hcount
      simp only [Bool.false_eq_true, if_false] at hcount
      omega

/-! ## §2. Where a written row goes. -/

/-- A row that a worker still has to take to an end. -/
def ContentRow.waits (r : ContentRow) : Bool := r.status == .pending || r.status == .processing

/-- The rows in front of a place. -/
def ContentTable.ahead (collation : LinearOrder String) (place : QueueKey collation)
    (table : ContentTable) : Nat :=
  table.count (Table.before ContentRow.waits (·.queueKey collation) place)

/-- A row goes behind a place: it is finished, or its time is later. -/
structure Behind (time : Timestamp) (r : MediaRow) : Prop where
  behind : r.status = .pending ∨ r.status = .processing → time < r.queuedAt

theorem Behind.not_before {time : Timestamp} {placed : String} (h : Behind time r) :
    Table.before ContentRow.waits (·.queueKey collation) (toLex (time, placed)) ⟨r, messageId⟩
      = false := by
  by_cases hwaits : ContentRow.waits ⟨r, messageId⟩ = true
  · apply Table.before_of_le
    have htime : time < r.queuedAt := by
      apply h.behind
      simpa [ContentRow.waits] using hwaits
    exact le_of_lt (Prod.Lex.toLex_lt_toLex.mpr (.inl htime))
  · exact Table.before_of_not_waits (by simpa using hwaits)

theorem Behind.ahead_put {time : Timestamp} (h : Behind time r) (collation : LinearOrder String) (placed : String) :
    (table.put messageId r).ahead collation (toLex (time, placed))
      ≤ table.ahead collation (toLex (time, placed)) :=
  count_put_le h.not_before

theorem behind_reserve {time : Timestamp} {conversationId : Option String} {model : String}
    {marker : Bool} {row : Option MediaRow} (hlate : time < now)
    (h : reserveContent now conversationId model marker row = some r) : Behind time r := by
  constructor
  intro _
  cases row with
  | none =>
      injection h with h
      subst h
      exact hlate
  | some r₀ =>
      simp only [reserveContent, Option.ite_none_right_eq_some, Option.some.injEq] at h
      obtain ⟨-, rfl⟩ := h
      exact hlate

theorem queuedAt_claim {owner : String} {leaseSeconds : Nat}
    (h : claimContent now owner leaseSeconds r = some r') : r'.queuedAt = now := by
  simp only [claimContent, Option.ite_none_right_eq_some, Option.some.injEq] at h
  obtain ⟨-, rfl⟩ := h
  rfl

/-- A result puts its row off, or finishes it. -/
theorem behind_result {time : Timestamp} {owner : String} {lease : Timestamp} {emptyError : String}
    {extraction : Extraction}
    (hlate : ∀ error retryAt, extraction = .transient error retryAt → time < retryAt)
    (h : setContentStatus now clock (resultWrite owner lease emptyError extraction) r = some r') :
    Behind time r' := by
  simp only [setContentStatus, Option.ite_none_right_eq_some, Option.some.injEq] at h
  obtain ⟨-, rfl⟩ := h
  constructor
  cases extraction with
  | text value =>
      by_cases hblank : Text.isBlank value = true
      · simp [resultWrite, hblank]
      · simp [resultWrite, hblank]
  | transient error retryAt =>
      intro _
      exact hlate error retryAt rfl
  | permanent error => simp [resultWrite]

/-- No delay is negative. -/
theorem retryDelay_nonneg {retry : RetrySettings ℚ} {attempt : Nat} {asked : Option ℚ} {delay : ℚ}
    (h : retryDelay retry attempt asked = .ok delay) : 0 ≤ delay := by
  have hle : attempt ≤ 1024 := by
    by_contra hlate
    rw [retryDelay_raises (by omega)] at h
    cases h
  rw [retryDelay_of_le hle] at h
  have hlocal : 0 ≤ min (retry.baseSeconds * 2 ^ (attempt - 1)) retry.maxDelaySeconds :=
    le_min (mul_nonneg retry.base_pos.le (by positivity)) retry.max_pos.le
  cases asked with
  | none =>
      injection h with h
      rw [← h]
      exact hlocal
  | some p =>
      injection h with h
      rw [← h]
      exact hlocal.trans (le_max_left _ _)

theorem microseconds_nonneg {seconds : ℚ} (h : 0 ≤ seconds) : 0 ≤ microseconds seconds := by
  have hfloor : 0 ≤ ⌊seconds * 1000000⌋ := Int.floor_nonneg.mpr (by positivity)
  unfold microseconds
  dsimp only
  split <;> omega

theorem schedule_next {kind : ContentKind} {delay : ℚ} {retryAt : Timestamp}
    (h : (kind.schedule clock delay).nextAttemptAt = some retryAt) :
    retryAt = clock + microseconds delay := by
  cases kind <;>
    simp only [ContentKind.schedule, Option.ite_none_right_eq_some, Option.some.injEq] at h <;>
    exact h.2.symm

/-! ## §3. Turns. -/

/-- How many rows were taken by polls. -/
def polls : History FleetEvent → Nat
  | [] => 0
  | .granted _ _ (some _) :: log => polls log + 1
  | .granted _ _ none :: log => polls log
  | .window .. :: log => polls log
  | .stored .. :: log => polls log

/-- The clock readings of an action. -/
def FleetAction.readings : FleetAction → List Timestamp
  | .reserve _ now _ _ _ => [now]
  | .poll _ _ now _ => [now]
  | .job _ _ now _ => [now]
  | .finish _ now clock _ => [now, clock]
  | .abandon _ => []

/-- The rows that other transactions hold while an action looks for a row. -/
def FleetAction.locked : FleetAction → List String
  | .poll _ _ _ locked => locked
  | .job _ _ _ locked => locked
  | _ => []

/-- A step during which the row `r` of a message goes on waiting, since `since`. -/
structure Waits (settings : FleetSettings) (collation : LinearOrder String) (messageId : String)
    (r : MediaRow) (since : Timestamp) (s : FleetState) (a : FleetAction) : Prop where
  row : s.table.get? messageId = some r
  kept : ∀ t, fleetStep settings collation s a = some t → t.table.get? messageId = some r
  /-- No clock goes back. -/
  readings : ∀ reading ∈ a.readings, since ≤ reading
  unlocked : messageId ∉ a.locked

/-- Polls and the rows in front of the place of a row: the sum does not grow. -/
def InTurn (collation : LinearOrder String) (place : QueueKey collation) (s t : FleetState) : Prop :=
  polls t.log + t.table.ahead collation place ≤ polls s.log + s.table.ahead collation place

variable {place : QueueKey collation} {time : Timestamp} {placed : String}

theorem InTurn.rfl : InTurn collation place s s := Nat.le_refl _

theorem inTurn_store (hlate : time < clock) {extraction : Extraction}
    (hextraction : ∀ error retryAt, extraction = .transient error retryAt → clock ≤ retryAt) :
    InTurn collation (toLex (time, placed)) s (store settings s w claim now clock extraction) := by
  unfold store
  dsimp only
  split
  next => exact InTurn.rfl
  next r' hwrite =>
    obtain ⟨r, -, hset⟩ := Option.bind_eq_some_iff.mp hwrite
    have hbehind : Behind time r' := by
      apply behind_result _ hset
      intro error retryAt hextraction'
      exact lt_of_lt_of_le hlate (hextraction error retryAt hextraction')
    exact Nat.add_le_add_left (hbehind.ahead_put collation placed) _

theorem inTurn_putOff (hlate : time < clock) {error : String} {asked : Option ℚ} {delay : ℚ}
    (hdelay : 0 ≤ delay) :
    InTurn collation (toLex (time, placed)) s
      (putOff settings s w claim now clock error asked delay) := by
  have hopened : ∀ window : Option Timestamp, ∀ u,
      InTurn collation (toLex (time, placed))
        (window.elim s (s.openWindow w clock claim.attempt asked)) u →
      InTurn collation (toLex (time, placed)) s u := by
    intro window u hu
    cases window with
    | none => exact hu
    | some until_ => exact hu
  apply hopened (settings.kind.schedule clock delay).window
  unfold putOff
  dsimp only
  split
  next => exact InTurn.rfl
  next retryAt hnext =>
    apply inTurn_store hlate
    intro error' retryAt' hextraction
    injection hextraction with _ hretry
    rw [← hretry, schedule_next hnext]
    exact le_add_of_nonneg_right (microseconds_nonneg hdelay)

theorem inTurn_processClaim (hlate : time < clock) (outcome : Outcome) :
    InTurn collation (toLex (time, placed)) s
      (processClaim settings s w claim now clock outcome) := by
  cases outcome with
  | text value =>
      apply inTurn_store hlate
      intro error retryAt hextraction
      cases hextraction
  | permanent error =>
      apply inTurn_store hlate
      intro error retryAt hextraction
      cases hextraction
  | transient error asked =>
      rw [processClaim]
      unfold retryLater
      split
      next => exact InTurn.rfl
      next delay hdelay => exact inTurn_putOff hlate (retryDelay_nonneg hdelay)

theorem due_of_le {later : Timestamp} (h : r.due since = true) (hle : since ≤ later) :
    r.due later = true := by
  have hmono : ∀ at_ : Option Timestamp, at_.all (· ≤ since) = true → at_.all (· ≤ later) = true := by
    intro at_ hat
    cases at_ with
    | none => rfl
    | some at_ => simpa using le_trans (by simpa using hat) hle
  simp only [MediaRow.due, Bool.or_eq_true, Bool.and_eq_true] at h ⊢
  rcases h with ⟨hstatus, hat⟩ | ⟨hstatus, hat⟩
  · exact .inl ⟨hstatus, hmono _ hat⟩
  · exact .inr ⟨hstatus, hmono _ hat⟩

theorem waits_of_due {row : ContentRow} (h : row.due now = true) : row.waits = true := by
  simp only [MediaRow.due, Bool.or_eq_true, Bool.and_eq_true] at h
  unfold ContentRow.waits
  rcases h with ⟨hstatus, -⟩ | ⟨hstatus, -⟩ <;> simp [hstatus]

/-- **A claim while a due row waits**: of a poll, it is of a row in front. -/
theorem inTurn_claimFor {locked : List String} {only : Option String} {polledAt : Option Timestamp}
    (hrow : s.table.get? messageId = some r) (hdue : r.due now = true) (hlate : r.queuedAt < now)
    (hunlocked : messageId ∉ locked) (hpoll : polledAt.isSome → only = none)
    (hkept : (claimFor settings collation s w now locked only polledAt).table.get? messageId
      = some r) :
    InTurn collation (toLex (r.queuedAt, messageId)) s
      (claimFor settings collation s w now locked only polledAt) := by
  unfold claimFor at hkept ⊢
  split at hkept
  next => exact InTurn.rfl
  next => exact InTurn.rfl
  next table claimed hok =>
    obtain ⟨row, r', hfirst, hclaim, rfl, rfl⟩ := takeFirst_spec (claimContentSync_spec hok).2
    obtain ⟨hmem, hclaimable⟩ := Table.first_mem hfirst
    have hold : s.table.get? row.messageId = some row.toMediaRow := ContentTable.get?_of_mem hmem
    have hbehind : Behind r.queuedAt r' := ⟨fun _ => by rw [queuedAt_claim hclaim]; exact hlate⟩
    cases polledAt with
    | none =>
        exact Nat.add_le_add_left
          (hbehind.ahead_put collation messageId) _
    | some at_ =>
        -- the row that waits is not the one that was taken: its attempts were counted
        have hne : row.messageId ≠ messageId := by
          intro heq
          subst heq
          rw [hrow] at hold
          have hsame : r' = r := by
            simpa using hkept
          have hcount := (claimContent_spec hclaim).2.2.1
          rw [hsame, Option.some.inj hold] at hcount
          omega
        have hmine : claimable now locked only ⟨r, messageId⟩ = true := by
          rw [hpoll rfl]
          simp [claimable, hdue, hunlocked]
        have hle := Table.first_le hfirst (ContentTable.mem_of_get? hrow) hmine
        have hlt : row.queueKey collation < toLex (r.queuedAt, messageId) := by
          apply lt_of_le_of_ne hle
          intro heq
          exact hne (Prod.mk.inj (toLex.injective heq)).2
        have hduerow : row.due now = true := by
          simp only [claimable, Bool.and_eq_true] at hclaimable
          exact hclaimable.1.1
        have hfront : Table.before ContentRow.waits (·.queueKey collation)
            (toLex (r.queuedAt, messageId)) ⟨row.toMediaRow, row.messageId⟩ = true :=
          Table.before_of_lt (waits_of_due hduerow) hlt
        have hcount := count_replace hold r' (Table.before ContentRow.waits
          (·.queueKey collation) (toLex (r.queuedAt, messageId)))
        rw [hfront, hbehind.not_before] at hcount
        simp only [Bool.false_eq_true, if_false, if_true] at hcount
        show polls s.log + 1 + (s.table.put row.messageId r').ahead collation _ ≤ polls s.log + _
        unfold ContentTable.ahead
        omega

/-- **One step while a row waits.** -/
theorem inTurn_step {a : FleetAction} (hdue : r.due since = true) (hqueued : r.queuedAt < since)
    (hwaits : Waits settings collation messageId r since s a)
    (hs : fleetStep settings collation s a = some t) :
    InTurn collation (toLex (r.queuedAt, messageId)) s t := by
  have hkept := hwaits.kept t hs
  cases a with
  | reserve other now conversationId model marker =>
      have hle : since ≤ now := hwaits.readings now (by simp [FleetAction.readings])
      injection hs with hs
      subst hs
      unfold reserveContentSync
      split
      next => exact InTurn.rfl
      next r' hres =>
        have hbehind := behind_reserve (lt_of_lt_of_le hqueued hle) hres
        exact Nat.add_le_add_left
          (hbehind.ahead_put collation messageId) _
  | poll v clock now locked =>
      have hle : since ≤ now := hwaits.readings now (by simp [FleetAction.readings])
      simp only [fleetStep] at hs
      split at hs
      next => cases hs
      next =>
        split at hs
        next =>
          injection hs with hs
          rw [← hs]
          exact InTurn.rfl
        next =>
          injection hs with hs
          subst hs
          exact inTurn_claimFor hwaits.row (due_of_le hdue hle) (lt_of_lt_of_le hqueued hle)
            hwaits.unlocked (fun _ => rfl) hkept
  | job v other now locked =>
      have hle : since ≤ now := hwaits.readings now (by simp [FleetAction.readings])
      simp only [fleetStep] at hs
      split at hs
      next => cases hs
      next =>
        split at hs
        next =>
          injection hs with hs
          rw [← hs]
          exact InTurn.rfl
        next =>
          injection hs with hs
          subst hs
          exact inTurn_claimFor hwaits.row (due_of_le hdue hle) (lt_of_lt_of_le hqueued hle)
            hwaits.unlocked (fun hpoll => by cases hpoll) hkept
  | finish v now clock outcome =>
      have hle : since ≤ clock := hwaits.readings clock (by simp [FleetAction.readings])
      obtain ⟨claim, -, rfl⟩ := Option.map_eq_some_iff.mp hs
      exact inTurn_processClaim (lt_of_lt_of_le hqueued hle) outcome
  | abandon v =>
      injection hs with hs
      subst hs
      exact InTurn.rfl

/-- **A due row is served in turn**: while it waits, polls take no more rows
    than there are in front of it. -/
theorem due_row_served_in_turn (hdue : r.due since = true) (hqueued : r.queuedAt < since)
    (hrun : (fleetMachine settings collation).RunWhere
      (Waits settings collation messageId r since) s t) :
    polls t.log
      ≤ polls s.log + s.table.ahead collation (toLex (r.queuedAt, messageId)) := by
  have hbounded := Machine.RunWhere.bounded (fun s => polls s.log)
    (fun s => s.table.ahead collation (toLex (r.queuedAt, messageId))) hrun
    (fun s a t hwaits hs => inTurn_step hdue hqueued hwaits hs)
  exact le_trans (Nat.le_add_right _ _) hbounded

/-- A message that was reserved at 0. -/
def reservedAtZero : MediaRow :=
  { conversationId := none, model := "whisper", status := .pending, nextAttemptAt := some 0
    createdAt := 0, updatedAt := 0 }

/-- Two messages wait. -/
def twoReserved : FleetState where
  table := ((ContentTable.empty.put "audio-1" reservedAtZero).put "audio-2" reservedAtZero)
  workers _ := {}
  log := []

/-- "audio-2" waits while a poll takes "audio-1". -/
theorem due_row_served_in_turn_second :
    ∃ t, fleetStep audioFleet codePoints twoReserved (.poll 0 2 2 []) = some t
      ∧ polls t.log = 1
      ∧ polls t.log ≤ polls twoReserved.log
        + twoReserved.table.ahead codePoints (toLex (reservedAtZero.queuedAt, "audio-2")) := by
  have hrow : twoReserved.table.get? "audio-2" = some reservedAtZero := by decide +kernel
  have hpoll : (fleetStep audioFleet codePoints twoReserved (.poll 0 2 2 [])).map
      (fun t => (polls t.log, t.table.get? "audio-2")) = some (1, some reservedAtZero) := by
    decide +kernel
  obtain ⟨t, ht, heq⟩ := Option.map_eq_some_iff.mp hpoll
  obtain ⟨hpolls, hkept⟩ := Prod.mk.inj heq
  have hwaits : Waits audioFleet codePoints "audio-2" reservedAtZero 2 twoReserved (.poll 0 2 2 []) := by
    refine ⟨hrow, ?_, by simp [FleetAction.readings], by simp [FleetAction.locked]⟩
    intro t' ht'
    rw [ht] at ht'
    injection ht' with ht'
    rw [← ht']
    exact hkept
  exact ⟨t, ht, hpolls, due_row_served_in_turn (by decide) (by decide) (.single ⟨_, hwaits, ht⟩)⟩

/-! ## §4. The work metrics. -/

/-- The counts of `_content_work_metrics_sync`. -/
structure ContentWorkMetrics where
  due : Nat
  scheduled : Nat
  leased : Nat
  stale : Nat
  completed : Nat
  failed : Nat
  deriving DecidableEq, Repr

def isDue (now : Timestamp) (r : ContentRow) : Bool :=
  r.status == .pending && r.nextAttemptAt.all (· ≤ now)

def isScheduled (now : Timestamp) (r : ContentRow) : Bool :=
  r.status == .pending && r.nextAttemptAt.any (now < ·)

def isLeased (now : Timestamp) (r : ContentRow) : Bool :=
  r.status == .processing && r.leaseExpiresAt.any (now < ·)

def isStale (now : Timestamp) (r : ContentRow) : Bool :=
  r.status == .processing && r.leaseExpiresAt.all (· ≤ now)

def isCompleted (r : ContentRow) : Bool := r.status == .completed

def isFailed (r : ContentRow) : Bool := r.status == .failed

/-- `_content_work_metrics_sync` -/
def contentWorkMetrics (now : Timestamp) (table : ContentTable) : ContentWorkMetrics where
  due := table.count (isDue now)
  scheduled := table.count (isScheduled now)
  leased := table.count (isLeased now)
  stale := table.count (isStale now)
  completed := table.count isCompleted
  failed := table.count isFailed

/-- A bound that is not met is exceeded; one that is absent is met. -/
theorem any_lt_eq (now : Timestamp) (at_ : Option Timestamp) :
    at_.any (now < ·) = !at_.all (· ≤ now) := by
  cases at_ with
  | none => rfl
  | some at_ =>
      show decide (now < at_) = !decide (at_ ≤ now)
      rw [Bool.eq_iff_iff]
      simp

/-- A row is counted once. -/
theorem counted_once (now : Timestamp) (r : ContentRow) :
    (if isDue now r then 1 else 0) + (if isScheduled now r then 1 else 0)
      + (if isLeased now r then 1 else 0) + (if isStale now r then 1 else 0)
      + (if isCompleted r then 1 else 0) + (if isFailed r then 1 else 0) = 1 := by
  unfold isDue isScheduled isLeased isStale isCompleted isFailed
  rw [any_lt_eq, any_lt_eq]
  cases hstatus : r.status with
  | pending => cases r.nextAttemptAt.all (· ≤ now) <;> simp
  | processing => cases r.leaseExpiresAt.all (· ≤ now) <;> simp
  | completed => simp
  | failed => simp

/-- The rows that may be claimed, as the metrics count them. -/
theorem due_counted (now : Timestamp) (r : ContentRow) :
    (if isDue now r then 1 else 0) + (if isStale now r then 1 else 0)
      = if r.due now then 1 else 0 := by
  unfold isDue isStale MediaRow.due
  cases hstatus : r.status with
  | pending => cases r.nextAttemptAt.all (· ≤ now) <;> simp
  | processing => cases r.leaseExpiresAt.all (· ≤ now) <;> simp
  | completed => simp
  | failed => simp

theorem metrics_total (now : Timestamp) (rows : List ContentRow) :
    rows.countP (isDue now) + rows.countP (isScheduled now) + rows.countP (isLeased now)
      + rows.countP (isStale now) + rows.countP isCompleted
      + rows.countP isFailed = rows.length := by
  induction rows with
  | nil => rfl
  | cons r rows ih =>
      have hone := counted_once now r
      simp only [List.countP_cons, List.length_cons]
      omega

theorem count_due (now : Timestamp) (rows : List ContentRow) :
    rows.countP (isDue now) + rows.countP (isStale now) = rows.countP (·.due now) := by
  induction rows with
  | nil => rfl
  | cons r rows ih =>
      have hone := due_counted now r
      simp only [List.countP_cons]
      omega

/-- What the metrics say of a claim of any row. -/
structure MetricsTell (now : Timestamp) (table : ContentTable)
    (claim : Except ClaimError (ContentTable × Option Claimed)) : Prop where
  /-- Each row is counted once. -/
  total : let m := contentWorkMetrics now table
    m.due + m.scheduled + m.leased + m.stale + m.completed + m.failed = table.rows.length
  /-- A claim comes back empty exactly when nothing is due or stale. -/
  idle : claim = .ok (table, none)
    ↔ (contentWorkMetrics now table).due + (contentWorkMetrics now table).stale = 0
  /-- A claim turns one of those rows into a leased one. -/
  moves : ∀ table' claimed, claim = .ok (table', some claimed) →
    let m := contentWorkMetrics now table
    let m' := contentWorkMetrics now table'
    m'.leased = m.leased + 1 ∧ m'.due + m'.stale + 1 = m.due + m.stale
      ∧ m'.scheduled = m.scheduled ∧ m'.completed = m.completed ∧ m'.failed = m.failed

theorem claimContent_leased {owner : String} {leaseSeconds : Nat} (hlease : 1 ≤ leaseSeconds)
    (h : claimContent now owner leaseSeconds r = some r') :
    isLeased now ⟨r', messageId⟩ = true := by
  simp only [claimContent, Option.ite_none_right_eq_some, Option.some.injEq] at h
  obtain ⟨-, rfl⟩ := h
  have hpos : (0 : Int) < leaseSeconds * 1000000 := by omega
  simpa [isLeased] using lt_add_of_pos_right now hpos

theorem due_of_claimContent {owner : String} {leaseSeconds : Nat}
    (h : claimContent now owner leaseSeconds r = some r') : r.due now = true := by
  simp only [claimContent, Option.ite_none_right_eq_some] at h
  exact h.1

/-- **What the work metrics say of the next claim.** -/
theorem metrics_tell (collation : LinearOrder String) (now : Timestamp) (table : ContentTable)
    {owner : String} {leaseSeconds : Int} (howner : Text.strip owner ≠ "") (hlease : 1 ≤ leaseSeconds) :
    MetricsTell now table (claimContentSync collation now [] owner leaseSeconds none table) := by
  have hclaimable : ∀ row : ContentRow, claimable now [] none row = row.due now := by
    intro row
    simp [claimable]
  have hclaim : claimContentSync collation now [] owner leaseSeconds none table
      = .ok (takeFirst collation now [] owner leaseSeconds.toNat none table) := by
    unfold claimContentSync
    rw [if_neg howner, if_neg (by omega)]
  constructor
  · exact metrics_total now table.rows
  · show _ ↔ table.rows.countP _ + table.rows.countP _ = 0
    rw [count_due, List.countP_eq_zero, hclaim, Except.ok.injEq]
    unfold takeFirst
    cases hfirst : Table.first (claimable now [] none) (·.queueKey collation) table.rows with
    | none =>
        have hnone := Table.first_none_iff.mp hfirst
        refine ⟨fun _ row hrow => ?_, fun _ => rfl⟩
        rw [← hclaimable row, hnone row hrow]
        simp
    | some row =>
        obtain ⟨hmem, hdue⟩ := Table.first_mem hfirst
        rw [hclaimable row] at hdue
        have hsome : claimContent now owner leaseSeconds.toNat row.toMediaRow ≠ none := by
          unfold claimContent
          rw [if_pos hdue]
          simp
        obtain ⟨r, hr⟩ := Option.ne_none_iff_exists'.mp hsome
        simp only [hr, Prod.mk.injEq, reduceCtorEq, and_false, false_iff]
        intro hnone
        exact hnone row hmem hdue
  · intro table' claimed hok
    obtain ⟨row, r', hfirst, hset, rfl, -⟩ := takeFirst_spec (claimContentSync_spec hok).2
    have hold := ContentTable.get?_of_mem (Table.first_mem hfirst).1
    -- the new state of the row is leased, and the old one was due or stale
    have hnew := counted_once now ⟨r', row.messageId⟩
    rw [if_pos (claimContent_leased (by omega) hset)] at hnew
    have hduerow := due_counted now ⟨row.toMediaRow, row.messageId⟩
    rw [if_pos (due_of_claimContent hset)] at hduerow
    have hone := counted_once now ⟨row.toMediaRow, row.messageId⟩
    have hleased := count_replace hold r' (isLeased now)
    rw [if_pos (claimContent_leased (by omega) hset)] at hleased
    have hdue := count_replace hold r' (isDue now)
    have hstale := count_replace hold r' (isStale now)
    have hscheduled := count_replace hold r' (isScheduled now)
    have hcompleted := count_replace hold r' isCompleted
    have hfailed := count_replace hold r' isFailed
    dsimp only [contentWorkMetrics]
    omega

theorem metrics_tell_two_reserved :
    MetricsTell 2 twoReserved.table
      (claimContentSync codePoints 2 [] "audio-worker" 60 none twoReserved.table) :=
  metrics_tell codePoints 2 twoReserved.table (by decide +kernel) (by decide)

end Cai.Media
