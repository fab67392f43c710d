/-
  Cai.Directory.Attempts — runs of the hydration poller.

  Any number of `process_one_contact_hydration` calls run side by side with
  the requests of messages and the other writers of the contacts.  A call
  that was granted a claim is a `Work`; one action is one transaction, one
  call of the provider or one crash.

  A failure that is not retried is stored as `failed` without a schedule,
  and the claim takes a missing schedule for a due one: the attempts of a
  contact are bounded in the runs whose claims never take such a row.

  Main results: `hydration_bounded`, `hydration_not_bounded`.
-/
import Cai.Directory.Hydration
import Cai.Lib.History

namespace Cai.Directory

open Cai.Lib
open Cai.Cycle (Timestamp)

/-! ## §1. The machine. -/

/-- What a call does next. -/
inductive WorkStage
  /-- `client or DigisacClient()`, `active_client.get_contact` -/
  | fetch
  /-- `upsert_digisac_contact` -/
  | upsert (contact : DigisacContact)
  /-- `mark_digisac_contact_hydration_failure` -/
  | fail (category : String) (retryable : Bool)
  /-- `mark_digisac_contact_hydration_success` -/
  | succeed
  deriving DecidableEq, Repr

/-- A call that holds a claim. -/
structure Work where
  claim : HydrationClaim
  stage : WorkStage
  deriving DecidableEq, Repr

/-- What `get_contact`, or the constructor of the client, ends in. -/
inductive ContactAnswer
  | contact (contact : DigisacContact)
  /-- `DigisacClientError` -/
  | clientError (category : String)
  /-- Any other exception. -/
  | unexpected
  deriving DecidableEq, Repr

/-- The handlers of `process_one_contact_hydration`. -/
def stageAfter : ContactAnswer → WorkStage
  | .contact contact => .upsert contact
  | .clientError category => .fail category (category ∈ ["timeout", "connection", "transient"])
  | .unexpected => .fail "unexpected" false

/-- What has been committed, or sent, for a contact. -/
inductive HydrationEvent
  /-- A claim; `expired` when it took over a lease that had run out. -/
  | claimed (contactId : Nat) (expired : Bool)
  /-- A call of the provider. -/
  | called (contactId : Nat)
  /-- A recorded failure. -/
  | failed (contactId : Nat) (retryable : Bool)
  deriving DecidableEq, Repr

structure HydrationState where
  tables : HydrationTables
  works : List Work := []
  log : History HydrationEvent := []
  deriving DecidableEq

inductive HydrationAction
  | request (now : Timestamp) (externalId : String) (requestedAt : Option Timestamp)
  /-- The other writers of the contacts. -/
  | write (now : Timestamp) (call : ContactCall)
  /-- A new `process_one_contact_hydration` call. -/
  | claim (now : Timestamp) (leaseSeconds : Int) (locked : List Nat)
  /-- The client cannot be built. -/
  | noClient (k : Nat) (error : ContactAnswer)
  | fetch (k : Nat) (answer : ContactAnswer)
  | upsert (k : Nat) (now : Timestamp)
  | mark (k : Nat) (now : Timestamp)
  /-- The call dies, or a mark of it raises. -/
  | crash (k : Nat)
  deriving DecidableEq

namespace HydrationState

/-- The call goes on. -/
def goto (s : HydrationState) (k : Nat) (work : Work) (stage : WorkStage) : HydrationState :=
  { s with works := s.works.set k { work with stage } }

/-- The call has ended. -/
def close (s : HydrationState) (k : Nat) : HydrationState :=
  { s with works := s.works.eraseIdx k }

/-- Record an event. -/
def record (s : HydrationState) (e : HydrationEvent) : HydrationState := { s with log := e :: s.log }

/-- Write back the tables. -/
def putTables (s : HydrationState) (tables : HydrationTables) : HydrationState := { s with tables }

end HydrationState

/-- `claim_digisac_contact_hydration` -/
def claimWork (s : HydrationState) (now : Timestamp) (leaseSeconds : Int) (locked : List Nat) :
    HydrationState :=
  match claimHydration now leaseSeconds locked s.tables with
  | .error _ | .ok (_, none) => s
  | .ok (tables, some claim) =>
      { tables, works := s.works ++ [⟨claim, .fetch⟩]
        log := .claimed claim.contactId
          ((selectDue now locked s.tables).any (·.1.status == .running)) :: s.log }

/-- The upsert of the fetched contact; when it raises, the failure is unexpected. -/
def upsertWork (s : HydrationState) (k : Nat) (now : Timestamp) (work : Work)
    (contact : DigisacContact) : HydrationState :=
  let call := ContactCall.upsert { contact, source := "contact_hydration", observed := now }
  match call.run s.tables.contacts with
  | .error _ => s.goto k work (.fail "unexpected" false)
  | .ok _ => (s.putTables (upsertHydrated now call s.tables)).goto k work .succeed

/-- The mark of a failed call. -/
def failWork (settings : HydrationSettings) (s : HydrationState) (k : Nat) (now : Timestamp)
    (claim : HydrationClaim) (category : String) (retryable : Bool) : HydrationState :=
  let (tables, found) := markHydrationFailure settings now claim.externalId category retryable
    claim.leaseUntil s.tables
  match found with
  | none => (s.putTables tables).close k
  | some r => ((s.putTables tables).record (.failed r.contactId retryable)).close k

/-- One step of the call `work`. -/
def workStep (settings : HydrationSettings) (s : HydrationState) (k : Nat) (work : Work) :
    HydrationAction → WorkStage → Option HydrationState
  | .noClient _ (.clientError category), .fetch =>
      some (s.goto k work (stageAfter (.clientError category)))
  | .noClient _ .unexpected, .fetch => some (s.goto k work (stageAfter .unexpected))
  | .fetch _ answer, .fetch =>
      some ((s.record (.called work.claim.contactId)).goto k work (stageAfter answer))
  | .upsert _ now, .upsert contact => some (upsertWork s k now work contact)
  | .mark _ now, .fail category retryable =>
      some (failWork settings s k now work.claim category retryable)
  | .mark _ now, .succeed =>
      some ((s.putTables (markHydrationSuccess now work.claim.externalId work.claim.leaseUntil
        s.tables).1).close k)
  | .crash _, _ => some (s.close k)
  | _, _ => none

def hydrationStep (settings : HydrationSettings) (s : HydrationState) :
    HydrationAction → Option HydrationState
  | .request now externalId requestedAt =>
      some (s.putTables (requestHydration now externalId requestedAt s.tables).1)
  | .write now call => some (s.putTables (upsertHydrated now call s.tables))
  | .claim now leaseSeconds locked => some (claimWork s now leaseSeconds locked)
  | .noClient k error => s.works[k]?.bind fun work =>
      workStep settings s k work (.noClient k error) work.stage
  | .fetch k answer => s.works[k]?.bind fun work =>
      workStep settings s k work (.fetch k answer) work.stage
  | .upsert k now => s.works[k]?.bind fun work =>
      workStep settings s k work (.upsert k now) work.stage
  | .mark k now => s.works[k]?.bind fun work =>
      workStep settings s k work (.mark k now) work.stage
  | .crash k => s.works[k]?.bind fun work =>
      workStep settings s k work (.crash k) work.stage

/-- **The machine of the hydrations**: any contacts, no hydration yet. -/
def hydrationMachine (settings : HydrationSettings) : Machine HydrationState HydrationAction where
  init s := s.tables.rows = [] ∧ s.works = [] ∧ s.log = []
  step := hydrationStep settings

/-! ## §2. What a step does to the row of one contact. -/

/-- The event says nothing about the claims of contact `i`. -/
def Quiet (i : Nat) : HydrationEvent → Prop
  | .claimed j _ | .failed j _ => j ≠ i
  | .called _ => True

/-- **One step, seen from contact `i`.** -/
inductive RowMove (settings : HydrationSettings) (i : Nat) :
    Option HydrationRow → Option HydrationRow → History HydrationEvent → History HydrationEvent → Prop
  | same {row log} : RowMove settings i row row log log
  | quiet {row log} (e : HydrationEvent) (h : Quiet i e) : RowMove settings i row row log (e :: log)
  | requested {log} (r : HydrationRow) (hstatus : r.status = .pending) (hcount : r.attemptCount = 0) :
      RowMove settings i none (some r) log log
  | claimed {log} (r r' : HydrationRow) (hopen : r.status ≠ .succeeded)
      (hscheduled : r.status = .failed → r.nextAttemptAt ≠ none)
      (hstatus : r'.status = .running) (hcount : r'.attemptCount = r.attemptCount + 1) :
      RowMove settings i (some r) (some r') log (.claimed i (r.status == .running) :: log)
  | succeeded {log} (r r' : HydrationRow) (hstatus : r'.status = .succeeded)
      (hcount : r'.attemptCount = r.attemptCount) : RowMove settings i (some r) (some r') log log
  | failed {log} (r r' : HydrationRow) (retryable : Bool) (hrunning : r.status = .running)
      (hstatus : r'.status = .failed) (hcount : r'.attemptCount = r.attemptCount)
      (hnext : r'.nextAttemptAt ≠ none → shouldRetry settings retryable r.attemptCount = true) :
      RowMove settings i (some r) (some r') log (.failed i retryable :: log)

/-- The claim selects no `failed` row without a schedule. -/
def scheduledOnly (s : HydrationState) : HydrationAction → Prop
  | .claim now _ locked => ∀ r externalId, selectDue now locked s.tables = some (r, externalId) →
      r.status = .failed → r.nextAttemptAt ≠ none
  | _ => True

section Moves

variable {settings : HydrationSettings} {s t : HydrationState} {a : HydrationAction} {i k : Nat}
  {now : Timestamp} {log : History HydrationEvent} {before after : Option HydrationRow}

theorem RowEnded.move (h : RowEnded before after) : RowMove settings i before after log log := by
  rcases h with rfl | ⟨r, r', rfl, rfl, hstatus, hcount⟩
  · exact .same
  · exact .succeeded r r' hstatus hcount

/-- A due row is one that may be claimed. -/
theorem due_open {r : HydrationRow} (h : r.due now = true) : r.status ≠ .succeeded := by
  intro hstatus
  unfold HydrationRow.due at h
  rw [hstatus] at h
  cases h

theorem claimWork_move {leaseSeconds : Int} {locked : List Nat}
    (hok : scheduledOnly s (.claim now leaseSeconds locked)) (i : Nat) :
    RowMove settings i (s.tables.row? i) ((claimWork s now leaseSeconds locked).tables.row? i) s.log
      (claimWork s now leaseSeconds locked).log := by
  unfold claimWork
  split
  next => exact .same
  next => exact .same
  next tables claim hclaim =>
    obtain ⟨r, externalId, hselect, hid, hothers, r', hrow', hstatus, hcount⟩ :=
      claimHydration_spec hclaim
    obtain ⟨hr, hdue⟩ := selectDue_spec hselect
    rw [hselect, hid]
    by_cases hi : i = r.contactId
    · subst hi
      have hrow : s.tables.row? r.contactId = some r :=
        HydrationTables.row?_eq_some_iff.mpr ⟨hr, rfl⟩
      rw [hrow, hrow']
      exact .claimed r r' (due_open hdue) (hok r externalId hselect) hstatus hcount
    · rw [hothers i hi]
      exact .quiet _ (Ne.symm hi)

theorem failWork_move {claim : HydrationClaim} {category : String} {retryable : Bool} (i : Nat) :
    RowMove settings i (s.tables.row? i)
      ((failWork settings s k now claim category retryable).tables.row? i) s.log
      (failWork settings s k now claim category retryable).log := by
  unfold failWork
  generalize hmark : markHydrationFailure settings now claim.externalId category retryable
    claim.leaseUntil s.tables = marked
  obtain ⟨tables, found⟩ := marked
  cases found with
  | none =>
      rw [markHydrationFailure_none hmark]
      exact .same
  | some r =>
      obtain ⟨hrow, hrunning, hothers, r', hrow', hstatus, hcount, hnext⟩ :=
        markHydrationFailure_spec hmark
      by_cases hi : i = r.contactId
      · subst hi
        show RowMove settings _ _ (tables.row? _) _ _
        rw [hrow, hrow']
        exact .failed r r' retryable hrunning hstatus hcount hnext
      · show RowMove settings _ _ (tables.row? i) _ _
        rw [hothers i hi]
        exact .quiet _ (Ne.symm hi)

theorem workStep_move {work : Work} {stage : WorkStage} (i : Nat)
    (hs : workStep settings s k work a stage = some t) :
    RowMove settings i (s.tables.row? i) (t.tables.row? i) s.log t.log := by
  unfold workStep at hs
  split at hs
  next =>
    injection hs with hs
    exact hs ▸ .same
  next =>
    injection hs with hs
    exact hs ▸ .same
  next =>
    injection hs with hs
    exact hs ▸ .quiet _ trivial
  next contact =>
    injection hs with hs
    subst hs
    unfold upsertWork
    simp only
    split
    next => exact .same
    next => exact (rowEnded_upsertHydrated _ _ _ i).move
  next =>
    injection hs with hs
    exact hs ▸ failWork_move i
  next =>
    injection hs with hs
    exact hs ▸ (rowEnded_markHydrationSuccess _ _ _ _ i).move
  next =>
    injection hs with hs
    exact hs ▸ .same
  next => cases hs

/-- **What one step does to the row of one contact.** -/
theorem hydrationStep_move (hok : scheduledOnly s a) (hs : hydrationStep settings s a = some t)
    (i : Nat) : RowMove settings i (s.tables.row? i) (t.tables.row? i) s.log t.log := by
  cases a with
  | request now externalId requestedAt =>
      injection hs with hs
      subst hs
      rcases row?_requestHydration now externalId requestedAt s.tables i with h | ⟨hnone, r, h, hr⟩
      · show RowMove settings i _ ((requestHydration now externalId requestedAt s.tables).1.row? i) _ _
        rw [h]
        exact .same
      · show RowMove settings i _ ((requestHydration now externalId requestedAt s.tables).1.row? i) _ _
        rw [h, hnone]
        exact .requested r hr.1 hr.2
  | write now call =>
      injection hs with hs
      exact hs ▸ (rowEnded_upsertHydrated now call s.tables i).move
  | claim now leaseSeconds locked =>
      injection hs with hs
      exact hs ▸ claimWork_move hok i
  | noClient k error =>
      obtain ⟨work, -, hwork⟩ := Option.bind_eq_some_iff.mp hs
      exact workStep_move i hwork
  | fetch k answer =>
      obtain ⟨work, -, hwork⟩ := Option.bind_eq_some_iff.mp hs
      exact workStep_move i hwork
  | upsert k now =>
      obtain ⟨work, -, hwork⟩ := Option.bind_eq_some_iff.mp hs
      exact workStep_move i hwork
  | mark k now =>
      obtain ⟨work, -, hwork⟩ := Option.bind_eq_some_iff.mp hs
      exact workStep_move i hwork
  | crash k =>
      obtain ⟨work, -, hwork⟩ := Option.bind_eq_some_iff.mp hs
      exact workStep_move i hwork

end Moves

/-! ## §3. Claims and failures. -/

/-- Claims that did not take over an expired lease. -/
def freshClaims (i : Nat) (log : History HydrationEvent) : Nat := log.count (.claimed i false)

/-- Claims that took over an expired lease. -/
def expiredLeases (i : Nat) (log : History HydrationEvent) : Nat := log.count (.claimed i true)

/-- Failures recorded as not retryable. -/
def permanentFailures (i : Nat) (log : History HydrationEvent) : Nat := log.count (.failed i false)

/-- Recorded failures. -/
def failures (i : Nat) (log : History HydrationEvent) : Nat :=
  log.count (.failed i false) + log.count (.failed i true)

/-- Calls of the provider. -/
def providerCalls (i : Nat) (log : History HydrationEvent) : Nat := log.count (.called i)

/-- The history allows one more claim of contact `i`. -/
def MayClaim (maxAttempts i : Nat) (log : History HydrationEvent) : Prop :=
  permanentFailures i log = 0 ∧ failures i log < maxAttempts

/-- **The attempts of contact `i` are bounded**: it is never claimed after a
    failure that is not retryable, nor after `maxAttempts` failed claims, and
    the provider is called at most `maxAttempts` times and once for each
    expired lease. -/
def AttemptsBounded (maxAttempts i : Nat) (log : History HydrationEvent) : Prop :=
  History.Justified (fun e older => ∀ expired, e = .claimed i expired → MayClaim maxAttempts i older) log
    ∧ providerCalls i log ≤ maxAttempts + expiredLeases i log

/-- What the status of the row says about the history. -/
def StatusInv (maxAttempts i : Nat) (log : History HydrationEvent) (r : HydrationRow) : Prop :=
  match r.status with
  | .pending => freshClaims i log = 0 ∧ failures i log = 0
  | .running => freshClaims i log = failures i log + 1 ∧ MayClaim maxAttempts i log
  | .failed => freshClaims i log = failures i log ∧ failures i log ≤ maxAttempts
      ∧ (r.nextAttemptAt ≠ none → MayClaim maxAttempts i log)
  | .succeeded => freshClaims i log ≤ maxAttempts

/-- **The invariant of one contact.** -/
structure HydrationInv (maxAttempts i : Nat) (row : Option HydrationRow)
    (log : History HydrationEvent) : Prop where
  absent : row = none → freshClaims i log = 0 ∧ expiredLeases i log = 0 ∧ failures i log = 0
  counted : ∀ r ∈ row, freshClaims i log + expiredLeases i log = r.attemptCount
  status : ∀ r ∈ row, StatusInv maxAttempts i log r
  justified : History.Justified
    (fun e older => ∀ expired, e = .claimed i expired → MayClaim maxAttempts i older) log

section Invariant

variable {settings : HydrationSettings} {maxAttempts i : Nat} {e : HydrationEvent}
  {log log' : History HydrationEvent} {before after : Option HydrationRow} {r : HydrationRow}

/-- A quiet event counts for nothing. -/
theorem Quiet.counts (h : Quiet i e) (log : History HydrationEvent) :
    freshClaims i (e :: log) = freshClaims i log
      ∧ expiredLeases i (e :: log) = expiredLeases i log
      ∧ permanentFailures i (e :: log) = permanentFailures i log
      ∧ failures i (e :: log) = failures i log := by
  unfold freshClaims expiredLeases permanentFailures failures
  cases e with
  | claimed j expired =>
      have hj : j ≠ i := h
      simp [hj]
  | called j => simp
  | failed j retryable =>
      have hj : j ≠ i := h
      simp [hj]

theorem Quiet.mayClaim_iff (h : Quiet i e) :
    MayClaim maxAttempts i (e :: log) ↔ MayClaim maxAttempts i log := by
  obtain ⟨-, -, hpermanent, hfailures⟩ := h.counts log
  unfold MayClaim
  rw [hpermanent, hfailures]

theorem Quiet.statusInv_iff (h : Quiet i e) :
    StatusInv maxAttempts i (e :: log) r ↔ StatusInv maxAttempts i log r := by
  obtain ⟨hfresh, -, -, hfailures⟩ := h.counts log
  unfold StatusInv
  rw [hfresh, hfailures, h.mayClaim_iff]

theorem permanentFailures_le (i : Nat) (log : History HydrationEvent) :
    permanentFailures i log ≤ failures i log := Nat.le_add_right _ _

/-- No more claims than attempts, whatever the status. -/
theorem StatusInv.fresh_le (h : StatusInv maxAttempts i log r) : freshClaims i log ≤ maxAttempts := by
  unfold StatusInv MayClaim at h
  cases hstatus : r.status with
  | pending =>
      rw [hstatus] at h
      rw [h.1]
      exact Nat.zero_le _
  | running =>
      rw [hstatus] at h
      rw [h.1]
      exact h.2.2
  | failed =>
      rw [hstatus] at h
      rw [h.1]
      exact h.2.1
  | succeeded =>
      rw [hstatus] at h
      exact h

/-- A row that a claim may take allows the claim. -/
theorem StatusInv.mayClaim (hmax : 0 < maxAttempts) (h : StatusInv maxAttempts i log r)
    (hopen : r.status ≠ .succeeded) (hscheduled : r.status = .failed → r.nextAttemptAt ≠ none) :
    MayClaim maxAttempts i log := by
  unfold StatusInv at h
  cases hstatus : r.status with
  | pending =>
      rw [hstatus] at h
      have hle := permanentFailures_le i log
      have hnone : failures i log = 0 := h.2
      exact ⟨by omega, by omega⟩
  | running =>
      rw [hstatus] at h
      exact h.2
  | failed =>
      rw [hstatus] at h
      exact h.2.2 (hscheduled hstatus)
  | succeeded => exact absurd hstatus hopen

/-- After a claim there is one more fresh claim than failures. -/
theorem StatusInv.fresh_after (h : StatusInv maxAttempts i log r) (hopen : r.status ≠ .succeeded) :
    freshClaims i log + (if r.status == .running then 0 else 1) = failures i log + 1 := by
  unfold StatusInv at h
  cases hstatus : r.status with
  | pending =>
      rw [hstatus] at h
      rw [h.1, h.2]
      rfl
  | running =>
      rw [hstatus] at h
      exact h.1
  | failed =>
      rw [hstatus] at h
      rw [h.1]
      rfl
  | succeeded => exact absurd hstatus hopen

/-- The counts after a claim. -/
theorem counts_claimed (i : Nat) (expired : Bool) (log : History HydrationEvent) :
    freshClaims i (.claimed i expired :: log) + expiredLeases i (.claimed i expired :: log)
        = freshClaims i log + expiredLeases i log + 1
      ∧ freshClaims i (.claimed i expired :: log) = freshClaims i log + (if expired then 0 else 1)
      ∧ failures i (.claimed i expired :: log) = failures i log
      ∧ permanentFailures i (.claimed i expired :: log) = permanentFailures i log := by
  unfold freshClaims expiredLeases failures permanentFailures
  cases expired with
  | false =>
      simp
      omega
  | true =>
      simp
      omega

/-- The counts after a recorded failure. -/
theorem counts_failed (i : Nat) (retryable : Bool) (log : History HydrationEvent) :
    freshClaims i (.failed i retryable :: log) = freshClaims i log
      ∧ expiredLeases i (.failed i retryable :: log) = expiredLeases i log
      ∧ failures i (.failed i retryable :: log) = failures i log + 1
      ∧ permanentFailures i (.failed i retryable :: log)
        = permanentFailures i log + (if retryable then 0 else 1) := by
  unfold freshClaims expiredLeases failures permanentFailures
  cases retryable with
  | false =>
      simp
      omega
  | true =>
      simp
      omega

/-- The invariant of a contact with a row. -/
theorem HydrationInv.of_row (hcounted : freshClaims i log + expiredLeases i log = r.attemptCount)
    (hstatus : StatusInv maxAttempts i log r)
    (hjustified : History.Justified
      (fun e older => ∀ expired, e = .claimed i expired → MayClaim maxAttempts i older) log) :
    HydrationInv maxAttempts i (some r) log := by
  refine ⟨fun hnone => (by cases hnone), fun r' hr' => ?_, fun r' hr' => ?_, hjustified⟩
  · rw [← Option.some.inj hr']
    exact hcounted
  · rw [← Option.some.inj hr']
    exact hstatus

/-- **The invariant is kept by every step.** -/
theorem HydrationInv.move (h : HydrationInv settings.maxAttempts i before log)
    (hm : RowMove settings i before after log log') :
    HydrationInv settings.maxAttempts i after log' := by
  cases hm with
  | same => exact h
  | quiet e hquiet =>
      obtain ⟨hfresh, hexpired, -, hfailures⟩ := hquiet.counts log
      refine ⟨fun hnone => ?_, fun r hr => ?_, fun r hr => ?_, ?_⟩
      · rw [hfresh, hexpired, hfailures]
        exact h.absent hnone
      · rw [hfresh, hexpired]
        exact h.counted r hr
      · exact hquiet.statusInv_iff.mpr (h.status r hr)
      · refine (History.justified_cons _ _).mpr ⟨?_, h.justified⟩
        rintro expired rfl
        exact absurd rfl hquiet
  | requested r hstatus hcount =>
      obtain ⟨hfresh, hexpired, hfailures⟩ := h.absent rfl
      refine .of_row ?_ ?_ h.justified
      · rw [hfresh, hexpired, hcount]
      · unfold StatusInv
        rw [hstatus]
        exact ⟨hfresh, hfailures⟩
  | claimed r r' hopen hscheduled hstatus hcount =>
      have hinv := h.status r rfl
      have hmay := hinv.mayClaim settings.positive hopen hscheduled
      obtain ⟨hsum, hfresh, hfailures, hpermanent⟩ :=
        counts_claimed i (r.status == .running) log
      refine .of_row ?_ ?_ ?_
      · rw [hsum, h.counted r rfl, hcount]
      · unfold StatusInv
        rw [hstatus]
        refine ⟨?_, ?_⟩
        · rw [hfresh, hfailures]
          exact hinv.fresh_after hopen
        · unfold MayClaim
          rw [hfailures, hpermanent]
          exact hmay
      · refine (History.justified_cons _ _).mpr ⟨?_, h.justified⟩
        intro _ _
        exact hmay
  | succeeded r r' hstatus hcount =>
      have hle := (h.status r rfl).fresh_le
      refine .of_row ?_ ?_ h.justified
      · rw [hcount]
        exact h.counted r rfl
      · unfold StatusInv
        rw [hstatus]
        exact hle
  | failed r r' retryable hrunning hstatus hcount hnext =>
      have hinv := h.status r rfl
      unfold StatusInv at hinv
      rw [hrunning] at hinv
      obtain ⟨hclaims, hmay⟩ := hinv
      obtain ⟨hfresh, hexpired, hfailures, hpermanent⟩ := counts_failed i retryable log
      have hcounted := h.counted r rfl
      refine .of_row ?_ ?_ ?_
      · rw [hfresh, hexpired, hcount]
        exact hcounted
      · unfold StatusInv
        rw [hstatus]
        have hbound := hmay.2
        refine ⟨by omega, by omega, fun hsome => ?_⟩
        -- a scheduled failure is retryable, and one attempt is left
        obtain ⟨hretryable, hlt⟩ := Bool.and_eq_true_iff.mp (hnext hsome)
        have hlt : r.attemptCount < settings.maxAttempts := of_decide_eq_true hlt
        unfold MayClaim
        rw [hpermanent, hfailures, hretryable]
        exact ⟨by rw [hmay.1]; rfl, by omega⟩
      · refine (History.justified_cons _ _).mpr ⟨?_, h.justified⟩
        intro _ heq
        cases heq

end Invariant

/-! ## §4. Calls of the provider. -/

/-- The call will ask the provider about contact `i`. -/
def Work.waits (i : Nat) (work : Work) : Bool := work.stage == .fetch && work.claim.contactId == i

/-- The claims of contact `i` that have not reached the provider. -/
def waiting (i : Nat) (works : List Work) : Nat := works.countP (·.waits i)

/-- Every call of the provider has a claim of its own. -/
def CallsInv (i : Nat) (s : HydrationState) : Prop :=
  providerCalls i s.log + waiting i s.works ≤ freshClaims i s.log + expiredLeases i s.log

section Calls

variable {settings : HydrationSettings} {s t : HydrationState} {a : HydrationAction} {i k : Nat}
  {work work' : Work} {works : List Work}

theorem waiting_set (hk : works[k]? = some work) :
    waiting i (works.set k work') + (if work.waits i then 1 else 0)
      = waiting i works + (if work'.waits i then 1 else 0) := by
  obtain ⟨hlt, hget⟩ := List.getElem?_eq_some_iff.mp hk
  have hcounted : (if work.waits i then 1 else 0) ≤ waiting i works := by
    by_cases hw : work.waits i = true
    · rw [if_pos hw]
      exact List.countP_pos_iff.mpr ⟨work, hget ▸ List.getElem_mem hlt, hw⟩
    · rw [if_neg hw]
      exact Nat.zero_le _
  have hset : waiting i (works.set k work')
      = waiting i works - (if work.waits i then 1 else 0) + (if work'.waits i then 1 else 0) := by
    unfold waiting
    rw [List.countP_set hlt, hget]
  omega

/-- A call that goes on to another stage waits no longer. -/
theorem waiting_goto {stage : WorkStage} (hk : s.works[k]? = some work) (hstage : stage ≠ .fetch) :
    waiting i (s.goto k work stage).works + (if work.waits i then 1 else 0) = waiting i s.works := by
  have hset : waiting i (s.works.set k { work with stage }) + (if work.waits i then 1 else 0)
      = waiting i s.works + (if ({ work with stage } : Work).waits i then 1 else 0) := waiting_set hk
  have hnot : ({ work with stage } : Work).waits i = false := by
    unfold Work.waits
    simp [hstage]
  rw [hnot] at hset
  exact hset

theorem waiting_close (k : Nat) : waiting i (s.close k).works ≤ waiting i s.works :=
  (List.eraseIdx_sublist s.works k).countP_le

theorem stageAfter_ne_fetch (answer : ContactAnswer) : stageAfter answer ≠ .fetch := by
  cases answer <;> simp [stageAfter]

/-- The calls of a quiet event are as before. -/
theorem providerCalls_cons {e : HydrationEvent} (h : ∀ j, e ≠ .called j)
    (log : History HydrationEvent) : providerCalls i (e :: log) = providerCalls i log := by
  unfold providerCalls
  exact List.count_cons_of_ne (h i)

theorem CallsInv.claimWork (h : CallsInv i s) (now : Timestamp) (leaseSeconds : Int)
    (locked : List Nat) : CallsInv i (claimWork s now leaseSeconds locked) := by
  unfold Directory.claimWork
  split
  next => exact h
  next => exact h
  next tables claim _ =>
    generalize (selectDue now locked s.tables).any (·.1.status == .running) = expired
    unfold CallsInv at h ⊢
    have hcalls := providerCalls_cons (i := i) (e := .claimed claim.contactId expired)
      (fun j heq => by cases heq) s.log
    have hwaiting : waiting i (s.works ++ [⟨claim, .fetch⟩])
        = waiting i s.works + (if claim.contactId == i then 1 else 0) := by
      unfold waiting
      rw [List.countP_append, List.countP_singleton]
      rfl
    rw [hcalls, hwaiting]
    by_cases hi : claim.contactId = i
    · subst hi
      have hsum := (counts_claimed claim.contactId expired s.log).1
      rw [hsum, if_pos (beq_self_eq_true _)]
      omega
    · have hquiet : Quiet i (.claimed claim.contactId expired) := hi
      obtain ⟨hfresh, hexpired, -, -⟩ := hquiet.counts s.log
      rw [hfresh, hexpired, if_neg (by simpa using hi)]
      exact h

/-- Fewer calls wait, and nothing was logged. -/
theorem CallsInv.mono (h : CallsInv i s) (hlog : t.log = s.log)
    (hwaiting : waiting i t.works ≤ waiting i s.works) : CallsInv i t := by
  unfold CallsInv at h ⊢
  rw [hlog]
  omega

theorem CallsInv.goto {stage : WorkStage} (h : CallsInv i s) (hk : s.works[k]? = some work)
    (hstage : stage ≠ .fetch) : CallsInv i (s.goto k work stage) := by
  refine h.mono rfl ?_
  have hgoto := waiting_goto (i := i) hk hstage
  omega

/-- The provider is called under a claim that waited for it. -/
theorem CallsInv.called (h : CallsInv i s) (hk : s.works[k]? = some work)
    (hfetch : work.stage = .fetch) (answer : ContactAnswer) :
    CallsInv i ((s.record (.called work.claim.contactId)).goto k work (stageAfter answer)) := by
  have hgoto := waiting_goto (i := i) hk (stageAfter_ne_fetch answer)
  have hwaits : work.waits i = (work.claim.contactId == i) := by
    unfold Work.waits
    rw [hfetch]
    rfl
  have hcalls : providerCalls i (.called work.claim.contactId :: s.log)
      = providerCalls i s.log + (if work.claim.contactId == i then 1 else 0) := by
    unfold providerCalls
    rw [List.count_cons]
    congr 1
    by_cases hi : work.claim.contactId = i
    · simp [hi]
    · simp [hi]
  have hquiet : Quiet i (.called work.claim.contactId) := trivial
  obtain ⟨hfresh, hexpired, -, -⟩ := hquiet.counts s.log
  rw [hwaits] at hgoto
  show providerCalls i (.called work.claim.contactId :: s.log)
      + waiting i (s.goto k work (stageAfter answer)).works
    ≤ freshClaims i (.called work.claim.contactId :: s.log)
      + expiredLeases i (.called work.claim.contactId :: s.log)
  unfold CallsInv at h
  rw [hcalls, hfresh, hexpired]
  omega

/-- A recorded failure calls nobody. -/
theorem CallsInv.failed (h : CallsInv i s) (j : Nat) (retryable : Bool) :
    CallsInv i (s.record (.failed j retryable)) := by
  have hcalls := providerCalls_cons (i := i) (e := .failed j retryable)
    (fun _ heq => by cases heq) s.log
  have hfresh : freshClaims i (.failed j retryable :: s.log) = freshClaims i s.log :=
    List.count_cons_of_ne fun heq => by cases heq
  have hexpired : expiredLeases i (.failed j retryable :: s.log) = expiredLeases i s.log :=
    List.count_cons_of_ne fun heq => by cases heq
  show providerCalls i (.failed j retryable :: s.log) + waiting i s.works
    ≤ freshClaims i (.failed j retryable :: s.log) + expiredLeases i (.failed j retryable :: s.log)
  rw [hcalls, hfresh, hexpired]
  exact h

theorem CallsInv.close (h : CallsInv i s) (k : Nat) : CallsInv i (s.close k) :=
  h.mono rfl (waiting_close k)

theorem CallsInv.workStep {stage : WorkStage} (h : CallsInv i s) (hk : s.works[k]? = some work)
    (hstage : work.stage = stage) (hs : workStep settings s k work a stage = some t) :
    CallsInv i t := by
  unfold Directory.workStep at hs
  split at hs
  next category =>
    injection hs with hs
    exact hs ▸ h.goto hk (stageAfter_ne_fetch _)
  next =>
    injection hs with hs
    exact hs ▸ h.goto hk (stageAfter_ne_fetch _)
  next answer =>
    injection hs with hs
    exact hs ▸ h.called hk hstage answer
  next now contact =>
    injection hs with hs
    subst hs
    unfold upsertWork
    simp only
    split
    next => exact h.goto hk (by simp)
    next =>
      have htables : CallsInv i (s.putTables (upsertHydrated now
        (.upsert { contact, source := "contact_hydration", observed := now }) s.tables)) := h
      exact htables.goto hk (by simp)
  next now category retryable =>
    injection hs with hs
    subst hs
    unfold failWork
    generalize markHydrationFailure settings now work.claim.externalId category retryable
      work.claim.leaseUntil s.tables = marked
    obtain ⟨tables, found⟩ := marked
    have htables : CallsInv i (s.putTables tables) := h
    cases found with
    | none => exact htables.close k
    | some r => exact (htables.failed r.contactId retryable).close k
  next =>
    injection hs with hs
    subst hs
    exact CallsInv.close (s := s.putTables _) h k
  next =>
    injection hs with hs
    exact hs ▸ h.close k
  next => cases hs

theorem CallsInv.step (h : CallsInv i s) (hs : hydrationStep settings s a = some t) :
    CallsInv i t := by
  cases a with
  | request now externalId requestedAt =>
      injection hs with hs
      exact hs ▸ h
  | write now call =>
      injection hs with hs
      exact hs ▸ h
  | claim now leaseSeconds locked =>
      injection hs with hs
      exact hs ▸ h.claimWork now leaseSeconds locked
  | noClient k error =>
      obtain ⟨work, hk, hwork⟩ := Option.bind_eq_some_iff.mp hs
      exact h.workStep hk rfl hwork
  | fetch k answer =>
      obtain ⟨work, hk, hwork⟩ := Option.bind_eq_some_iff.mp hs
      exact h.workStep hk rfl hwork
  | upsert k now =>
      obtain ⟨work, hk, hwork⟩ := Option.bind_eq_some_iff.mp hs
      exact h.workStep hk rfl hwork
  | mark k now =>
      obtain ⟨work, hk, hwork⟩ := Option.bind_eq_some_iff.mp hs
      exact h.workStep hk rfl hwork
  | crash k =>
      obtain ⟨work, hk, hwork⟩ := Option.bind_eq_some_iff.mp hs
      exact h.workStep hk rfl hwork

end Calls

/-! ## §5. Runs. -/

/-- **Hydration attempts are bounded**, in every run whose claims take no `failed`
    row without a schedule: any requests, any writers of the contacts, any
    number of calls side by side, any crashes. -/
theorem hydration_bounded {settings : HydrationSettings} {s : HydrationState}
    (h : (hydrationMachine settings).ReachableWhere scheduledOnly s) (i : Nat) :
    AttemptsBounded settings.maxAttempts i s.log := by
  have hinv : HydrationInv settings.maxAttempts i (s.tables.row? i) s.log ∧ CallsInv i s := by
    refine Machine.ReachableWhere.invariant (I := fun s : HydrationState =>
      HydrationInv settings.maxAttempts i (s.tables.row? i) s.log ∧ CallsInv i s) h ?_ ?_
    · rintro s ⟨hrows, hworks, hlog⟩
      have hnone : s.tables.row? i = none := by
        unfold HydrationTables.row?
        rw [hrows]
        rfl
      rw [hnone, hlog]
      refine ⟨⟨fun _ => ⟨rfl, rfl, rfl⟩, fun r hr => absurd hr (Option.not_mem_none r),
        fun r hr => absurd hr (Option.not_mem_none r), History.justified_nil⟩, ?_⟩
      unfold CallsInv
      rw [hlog, hworks]
      exact Nat.le_refl _
    · intro s a t hs hok hstep
      exact ⟨hs.1.move (hydrationStep_move hok hstep i), hs.2.step hstep⟩
  obtain ⟨hrow, hcalls⟩ := hinv
  refine ⟨hrow.justified, ?_⟩
  have hfresh : freshClaims i s.log ≤ settings.maxAttempts := by
    cases hsome : s.tables.row? i with
    | none => rw [(hrow.absent hsome).1]; exact Nat.zero_le _
    | some r => exact (hrow.status r hsome).fresh_le
  unfold CallsInv at hcalls
  omega

/-- Three attempts, two seconds apart at first. -/
def defaultSettings : HydrationSettings := ⟨3, 2000000, by decide⟩

/-- No contact is known. -/
def noContacts : HydrationState where
  tables := { contacts := .empty }

/-- A request, and a claim that ends in an answer of the provider. -/
def oneAttempt (answer : ContactAnswer) : List HydrationAction :=
  [.request 0 "contact-1" none, .claim 1 60 [], .fetch 0 answer, .mark 0 2]

/-- `scheduledOnly`, as a test. -/
def scheduledCheck (s : HydrationState) : HydrationAction → Bool
  | .claim now _ locked => (selectDue now locked s.tables).all fun r =>
      !(r.1.status == .failed) || r.1.nextAttemptAt.isSome
  | _ => true

theorem scheduledOnly_of_check {s : HydrationState} {a : HydrationAction}
    (h : scheduledCheck s a = true) : scheduledOnly s a := by
  cases a with
  | claim now leaseSeconds locked =>
      intro r externalId hselect hfailed hnone
      simp [scheduledCheck, hselect, hfailed, hnone] at h
  | _ => trivial

/-- A transient failure is tried again, two seconds later. -/
theorem hydration_bounded_transient :
    ∃ s, (hydrationMachine defaultSettings).exec noContacts
        (oneAttempt (.clientError "transient") ++ [.claim 3000000 60 []]) = some s
      ∧ freshClaims 1 s.log = 2 ∧ AttemptsBounded defaultSettings.maxAttempts 1 s.log := by
  have hrun : ((hydrationMachine defaultSettings).execWhere scheduledCheck noContacts
      (oneAttempt (.clientError "transient") ++ [.claim 3000000 60 []])).map
        (fun s => freshClaims 1 s.log) = some 2 := by
    decide +kernel
  obtain ⟨s, hs, hclaims⟩ := Option.map_eq_some_iff.mp hrun
  have hreach : (hydrationMachine defaultSettings).ReachableWhere scheduledOnly s :=
    ⟨noContacts, ⟨rfl, rfl, rfl⟩, Machine.runWhere_of_execWhere (I := fun _ => True)
      (fun _ _ _ hcheck => scheduledOnly_of_check hcheck) (fun _ _ _ _ _ _ => trivial) trivial hs⟩
  exact ⟨s, Machine.exec_of_execWhere hs, hclaims, hydration_bounded hreach 1⟩

/-- **A permanent failure is claimed again at once**: its missing schedule counts
    as a due one. -/
theorem hydration_not_bounded :
    ¬ ∀ (settings : HydrationSettings) (s : HydrationState),
      (hydrationMachine settings).Reachable s → ∀ i, AttemptsBounded settings.maxAttempts i s.log := by
  intro hall
  have hlog : ((hydrationMachine defaultSettings).exec noContacts
      (oneAttempt (.clientError "invalid_response") ++ [.claim 3 60 []])).map (·.log)
      = some [.claimed 1 false, .failed 1 false, .called 1, .claimed 1 false] := by
    decide +kernel
  obtain ⟨s, hs, hlog⟩ := Option.map_eq_some_iff.mp hlog
  have hbounded := hall defaultSettings s
    (Machine.reachable_of_exec ⟨rfl, rfl, rfl⟩ hs) 1
  rw [hlog] at hbounded
  have hmay := hbounded.1 [] [.failed 1 false, .called 1, .claimed 1 false] _ rfl false rfl
  exact absurd hmay.1 (by decide)

end Cai.Directory
