/-
  Cai.Media.Repository — rows of the two media tables.

  `message_transcriptions` and `message_image_extractions` share one state
  protocol (`src/core/durable_media_repository.py`), so one row type and
  one set of statements serve both.  As with the Request row, a statement
  is a function on the row it finds, and `none` where it touches nothing.
-/
import Mathlib.Logic.Function.Basic
import Cai.Cycle.Status
import Cai.Lib.Text

namespace Cai.Media

open Cai.Lib
open Cai.Cycle (Timestamp)

/-! ## §1. The row. -/

/-- The statuses of a media row. -/
inductive ContentStatus
  | pending
  | processing
  | completed
  | failed
  deriving DecidableEq, Repr

/-- A row of `message_transcriptions` or `message_image_extractions`. -/
structure MediaRow where
  conversationId : Option String
  model : String
  status : ContentStatus
  text : Option String := none
  errorMessage : Option String := none
  attemptCount : Nat := 0
  nextAttemptAt : Option Timestamp := none
  enqueuedAt : Option Timestamp := none
  leaseOwner : Option String := none
  leaseExpiresAt : Option Timestamp := none
  createdAt : Timestamp
  updatedAt : Timestamp
  completedAt : Option Timestamp := none
  deriving DecidableEq, Repr

/-! ## §2. The statements. -/

/-- `_reserve_content_sync`: the INSERT, or the ON CONFLICT branch, which only
    takes a failed row back to `pending`; `none` where it returns no row. -/
def reserveContent (now : Timestamp) (conversationId : Option String) (model : String)
    (legacyPublicationMarker : Bool) (row : Option MediaRow) : Option MediaRow :=
  let marker := if legacyPublicationMarker then some now else none
  match row with
  | none => some
      { conversationId, model, status := .pending, nextAttemptAt := some now
        enqueuedAt := marker, createdAt := now, updatedAt := now }
  | some r =>
      if r.status = .failed then
        some { r with
          conversationId := conversationId.or r.conversationId, model
          status := .pending, errorMessage := none, nextAttemptAt := some now
          enqueuedAt := marker, updatedAt := now }
      else none

/-- The arguments of `_set_content_status_sync`. -/
structure ContentWrite where
  status : ContentStatus
  text : Option String := none
  errorMessage : Option String := none
  incrementAttempt : Bool := false
  nextAttemptAt : Option Timestamp := none
  expectedStatuses : Option (List ContentStatus) := none
  expectedUpdatedAt : Option Timestamp := none
  expectedLeaseOwner : Option String := none
  deriving DecidableEq, Repr

/-- The default of `expected_statuses`. -/
def ContentStatus.predecessors : ContentStatus → List ContentStatus
  | .processing => [.pending]
  | .pending => [.processing]
  | .completed => [.processing]
  | .failed => [.pending, .processing]

/-- The WHERE clause of `_set_content_status_sync`. -/
def ContentWrite.applies (w : ContentWrite) (r : MediaRow) : Bool :=
  decide (r.status ∈ w.expectedStatuses.getD w.status.predecessors)
    && w.expectedUpdatedAt.all (· == r.updatedAt)
    && w.expectedLeaseOwner.all (fun owner => r.leaseOwner == some owner)

/-- `_set_content_status_sync`; `clock` is the caller's own clock. -/
def setContentStatus (now clock : Timestamp) (w : ContentWrite) (r : MediaRow) :
    Option MediaRow :=
  if w.applies r then
    some { r with
      status := w.status, text := w.text.or r.text, errorMessage := w.errorMessage
      attemptCount := r.attemptCount + if w.incrementAttempt then 1 else 0
      nextAttemptAt := if w.status = .pending then w.nextAttemptAt else none
      enqueuedAt := none
      leaseOwner := if w.expectedLeaseOwner.isNone then r.leaseOwner else none
      leaseExpiresAt := if w.expectedLeaseOwner.isNone then r.leaseExpiresAt else none
      updatedAt := now
      completedAt := if w.status = .completed then some clock else none }
  else none

/-- The rows that `_claim_content_sync` may pick. -/
def MediaRow.due (r : MediaRow) (now : Timestamp) : Bool :=
  (r.status == .pending && r.nextAttemptAt.all (· ≤ now))
    || (r.status == .processing && r.leaseExpiresAt.all (· ≤ now))

/-- `_claim_content_sync`, when it picks this row. -/
def claimContent (now : Timestamp) (owner : String) (leaseSeconds : Nat) (r : MediaRow) :
    Option MediaRow :=
  if r.due now then
    some { r with
      status := .processing, attemptCount := r.attemptCount + 1
      errorMessage :=
        if r.status = .processing then some "recovered after processing lease expired"
        else r.errorMessage
      nextAttemptAt := none, enqueuedAt := none
      leaseOwner := some (Text.strip owner)
      leaseExpiresAt := some (now + leaseSeconds * 1000000)
      completedAt := none, updatedAt := now }
  else none

/-! ## §3. The result of a claim. -/

/-- How the extraction inside `_process_claim` ended. -/
inductive Extraction
  | text (value : String)
  /-- A transient provider failure, retried at `retryAt`. -/
  | transient (error : String) (retryAt : Timestamp)
  | permanent (error : String)
  deriving DecidableEq, Repr

/-- The write of `_process_claim`, under the token of the claim.  `emptyError`
    is what the worker stores for a blank text. -/
def resultWrite (owner : String) (lease : Timestamp) (emptyError : String) :
    Extraction → ContentWrite
  | .text value =>
      if Text.isBlank value then
        { status := .failed, errorMessage := some emptyError
          expectedUpdatedAt := some lease, expectedLeaseOwner := some owner }
      else
        { status := .completed, text := some (Text.strip value)
          expectedUpdatedAt := some lease, expectedLeaseOwner := some owner }
  | .transient error retryAt =>
      { status := .pending, errorMessage := some error, nextAttemptAt := some retryAt
        expectedUpdatedAt := some lease, expectedLeaseOwner := some owner }
  | .permanent error =>
      { status := .failed, errorMessage := some error
        expectedUpdatedAt := some lease, expectedLeaseOwner := some owner }

/-- What the audio worker stores for a blank transcription. -/
def audioEmptyError : String := "audio_transcription_empty"

/-! ## §4. What each statement does. -/

/-- A row whose text counts as evidence: completed, with a stripped text that
    is not blank. -/
def MediaRow.usable (r : MediaRow) : Prop :=
  r.status = .completed ∧ ∃ text, r.text = some text ∧ Text.strip text = text ∧ text ≠ ""

/-- A completed row has a usable text. -/
def MediaRow.sound (r : MediaRow) : Prop := r.status = .completed → r.usable

/-- Whatever changes a media row. -/
inductive MediaWrite : Option MediaRow → MediaRow → Prop
  | reserve (now : Timestamp) (conversationId : Option String) (model : String) (marker : Bool)
      {row : Option MediaRow} {r : MediaRow}
      (h : reserveContent now conversationId model marker row = some r) : MediaWrite row r
  | claim (now : Timestamp) (owner : String) (leaseSeconds : Nat) {r r' : MediaRow}
      (h : claimContent now owner leaseSeconds r = some r') : MediaWrite (some r) r'
  | result (now clock : Timestamp) (owner : String) (lease : Timestamp) (emptyError : String)
      (extraction : Extraction) {r r' : MediaRow}
      (h : setContentStatus now clock (resultWrite owner lease emptyError extraction) r
        = some r') : MediaWrite (some r) r'

theorem reserveContent_spec {now : Timestamp} {conversationId : Option String} {model : String}
    {marker : Bool} {row : Option MediaRow} {r : MediaRow}
    (h : reserveContent now conversationId model marker row = some r) :
    r.status = .pending
      ∧ ((row = none ∧ r.attemptCount = 0 ∧ r.leaseOwner = none)
        ∨ ∃ r₀, row = some r₀ ∧ r₀.status = .failed ∧ r.attemptCount = r₀.attemptCount
          ∧ r.leaseOwner = r₀.leaseOwner) := by
  cases row with
  | none =>
      injection h with h
      subst h
      exact ⟨rfl, .inl ⟨rfl, rfl, rfl⟩⟩
  | some r₀ =>
      simp only [reserveContent, Option.ite_none_right_eq_some, Option.some.injEq] at h
      obtain ⟨hfailed, rfl⟩ := h
      exact ⟨rfl, .inr ⟨r₀, rfl, hfailed, rfl, rfl⟩⟩

theorem claimContent_spec {now : Timestamp} {owner : String} {leaseSeconds : Nat}
    {r r' : MediaRow} (h : claimContent now owner leaseSeconds r = some r') :
    (r.status = .pending ∨ r.status = .processing) ∧ r'.status = .processing
      ∧ r'.attemptCount = r.attemptCount + 1 ∧ r'.leaseOwner = some (Text.strip owner)
      ∧ r'.updatedAt = now := by
  simp only [claimContent, Option.ite_none_right_eq_some, Option.some.injEq] at h
  obtain ⟨hdue, rfl⟩ := h
  refine ⟨?_, rfl, rfl, rfl, rfl⟩
  simp only [MediaRow.due, Bool.or_eq_true, Bool.and_eq_true, beq_iff_eq] at hdue
  rcases hdue with ⟨hst, -⟩ | ⟨hst, -⟩
  · exact .inl hst
  · exact .inr hst

/-- A result is stored under the token and the owner of its claim, on a row
    that is not finished, and it gives up the lease. -/
theorem resultWrite_spec {now clock : Timestamp} {owner : String} {lease : Timestamp}
    {emptyError : String} {extraction : Extraction} {r r' : MediaRow}
    (h : setContentStatus now clock (resultWrite owner lease emptyError extraction) r = some r') :
    (r.status = .pending ∨ r.status = .processing) ∧ r.updatedAt = lease
      ∧ r.leaseOwner = some owner ∧ r'.attemptCount = r.attemptCount ∧ r'.leaseOwner = none
      ∧ (r'.status = .completed → r'.usable) := by
  simp only [setContentStatus, Option.ite_none_right_eq_some, Option.some.injEq] at h
  obtain ⟨happlies, rfl⟩ := h
  -- the four kinds of write differ in their status and their text only
  have hguard : ∀ w : ContentWrite, w.expectedStatuses = none →
      w.expectedUpdatedAt = some lease → w.expectedLeaseOwner = some owner →
      w.status ≠ .processing → w.applies r = true →
      (r.status = .pending ∨ r.status = .processing) ∧ r.updatedAt = lease
        ∧ r.leaseOwner = some owner := by
    intro w hst hup hown hne happ
    simp only [ContentWrite.applies, hst, hup, hown, Option.getD_none, Option.all_some,
      Bool.and_eq_true, decide_eq_true_eq, beq_iff_eq] at happ
    obtain ⟨⟨hmem, htoken⟩, howner⟩ := happ
    refine ⟨?_, htoken.symm, howner⟩
    cases hw : w.status <;> simp_all [ContentStatus.predecessors]
  cases extraction with
  | text value =>
      by_cases hblank : Text.isBlank value = true
      · simp only [resultWrite, hblank, if_true] at happlies ⊢
        obtain ⟨h₁, h₂, h₃⟩ := hguard _ rfl rfl rfl (by simp) happlies
        exact ⟨h₁, h₂, h₃, rfl, rfl, fun hc => nomatch hc⟩
      · simp only [resultWrite, hblank] at happlies ⊢
        obtain ⟨h₁, h₂, h₃⟩ := hguard _ rfl rfl rfl (by simp) happlies
        refine ⟨h₁, h₂, h₃, rfl, rfl, fun _ => ⟨rfl, Text.strip value, rfl, ?_, ?_⟩⟩
        · exact Text.strip_strip value
        · exact (Text.isBlank_eq_false_iff value).mp (by simpa using hblank)
  | transient error retryAt =>
      obtain ⟨h₁, h₂, h₃⟩ := hguard _ rfl rfl rfl (by simp [resultWrite]) happlies
      exact ⟨h₁, h₂, h₃, rfl, rfl, fun hc => nomatch hc⟩
  | permanent error =>
      obtain ⟨h₁, h₂, h₃⟩ := hguard _ rfl rfl rfl (by simp [resultWrite]) happlies
      exact ⟨h₁, h₂, h₃, rfl, rfl, fun hc => nomatch hc⟩

/-- **A completed row is final**: no statement touches it. -/
theorem MediaWrite.not_completed {r r' : MediaRow} (h : MediaWrite (some r) r') :
    r.status ≠ .completed := by
  intro hc
  generalize hrow : some r = row at h
  cases h with
  | reserve now conversationId model marker h =>
      rcases (reserveContent_spec h).2 with ⟨hnone, -⟩ | ⟨r₀, hr₀, hfailed, -⟩
      · rw [hnone] at hrow
        cases hrow
      · rw [hr₀] at hrow
        injection hrow with hrow
        rw [← hrow, hc] at hfailed
        cases hfailed
  | claim now owner leaseSeconds h =>
      injection hrow with hrow
      subst hrow
      rcases (claimContent_spec h).1 with hst | hst <;> rw [hst] at hc <;> cases hc
  | result now clock owner lease emptyError extraction h =>
      injection hrow with hrow
      subst hrow
      rcases (resultWrite_spec h).1 with hst | hst <;> rw [hst] at hc <;> cases hc

/-- **A row is completed with a usable text only.** -/
theorem MediaWrite.sound {row : Option MediaRow} {r : MediaRow} (h : MediaWrite row r) :
    r.sound := by
  intro hc
  cases h with
  | reserve now conversationId model marker h =>
      rw [(reserveContent_spec h).1] at hc
      cases hc
  | claim now owner leaseSeconds h =>
      rw [(claimContent_spec h).2.1] at hc
      cases hc
  | result now clock owner lease emptyError extraction h =>
      exact (resultWrite_spec h).2.2.2.2.2 hc

/-! ## §5. Statements on a table. -/

/-- A statement on one row, as data. -/
inductive ContentStatement
  | reserve (now : Timestamp) (conversationId : Option String) (model : String) (marker : Bool)
  | claim (now : Timestamp) (owner : String) (leaseSeconds : Nat)
  | result (now clock : Timestamp) (owner : String) (lease : Timestamp) (emptyError : String)
      (extraction : Extraction)
  deriving DecidableEq, Repr

/-- The row a statement writes, if it writes one. -/
def ContentStatement.perform (row : Option MediaRow) : ContentStatement → Option MediaRow
  | .reserve now conversationId model marker => reserveContent now conversationId model marker row
  | .claim now owner leaseSeconds => row.bind (claimContent now owner leaseSeconds)
  | .result now clock owner lease emptyError extraction =>
      row.bind (setContentStatus now clock (resultWrite owner lease emptyError extraction))

/-- A statement is one of the writes of a row. -/
theorem ContentStatement.perform_write {st : ContentStatement} {row : Option MediaRow}
    {r : MediaRow} (h : st.perform row = some r) : MediaWrite row r := by
  cases st with
  | reserve now conversationId model marker => exact .reserve now conversationId model marker h
  | claim now owner leaseSeconds =>
      obtain ⟨r₀, rfl, h⟩ := Option.bind_eq_some_iff.mp h
      exact .claim now owner leaseSeconds h
  | result now clock owner lease emptyError extraction =>
      obtain ⟨r₀, rfl, h⟩ := Option.bind_eq_some_iff.mp h
      exact .result now clock owner lease emptyError extraction h

/-- A media table: the row of a message id. -/
abbrev MediaTable := String → Option MediaRow

/-- A statement on the row of `messageId`. -/
def runStatement (messageId : String) (st : ContentStatement) (table : MediaTable) : MediaTable :=
  Function.update table messageId ((st.perform (table messageId)).or (table messageId))

/-- **Completed rows outlive every statement.** -/
theorem runStatement_completed {messageId id : String} {st : ContentStatement}
    {table : MediaTable} {r : MediaRow} (hr : table id = some r) (hc : r.status = .completed) :
    runStatement messageId st table id = some r := by
  unfold runStatement
  by_cases hid : id = messageId
  · subst hid
    rw [Function.update_self]
    cases hp : st.perform (table id) with
    | none => rw [Option.none_or, hr]
    | some r' =>
        have hwrite := ContentStatement.perform_write hp
        rw [hr] at hwrite
        exact absurd hc hwrite.not_completed
  · rw [Function.update_of_ne hid, hr]

end Cai.Media
