/-
  Cai.Request.Exits — how a `create_request_for_cycle` call ends.

  A call that was granted the claim ends it through one of five UPDATEs.
  The two that answer a refused confidence are guarded by
  `post_started_at IS NULL`, so on an operation that was released after a
  POST had been started they touch nothing, and the call returns while
  its own claim is still in force.

  Main results: `create_leaves_own_claim_iff`, `released_claim_left_behind`.
-/
import Cai.Request.Refinement

namespace Cai.Request

open Cai.Lib
open Cai.Cycle (Timestamp)

/-! ## §1. What a call can leave behind. -/

/-- The operation is `attempting` under the claim of `owner`. -/
def ClaimedBy (row : Option Operation) (owner : String) : Prop :=
  ∃ op, row = some op ∧ op.state = .attempting ∧ op.claimOwner = some owner

/-- The operation may be claimed, and a POST was started for it before. -/
def StartedBefore (row : Option Operation) : Prop :=
  ∃ op, row = some op ∧ (op.state = .notStarted ∨ op.state = .retryableFailure)
    ∧ op.postStartedAt ≠ none

/-- The step reads a confidence that is not allowed. -/
def Input.refuses : Input → Prop
  | .confidence _ value => (evaluateRequestConfidence value).state ≠ .allowed
  | _ => False

/-- The call holds the claim; the mark of an earlier POST is as it was. -/
def Holds (start row : Option Operation) (owner : String) : Prop :=
  ¬ ClaimedBy start owner ∧ ∃ op, row = some op ∧ op.state = .attempting
    ∧ op.claimOwner = some owner ∧ (op.postStartedAt ≠ none ↔ StartedBefore start)

/-- **What is true at each stage of a call** that found the row `start`;
    `refused` is whether it has read a confidence that is not allowed. -/
def ExitInv (start row : Option Operation) (owner : String) (refused : Prop) : Stage → Prop
  | .ensure => row = start ∧ ¬ refused
  | .claim => ¬ ClaimedBy start owner ∧ ¬ refused ∧ ∃ op, row = some op
      ∧ (op.state = .notStarted ∨ op.state = .retryableFailure)
      ∧ (op.postStartedAt ≠ none ↔ StartedBefore start)
  | .loadPayload | .finishUnsent _ | .readConfidence _ | .refreshMetadata _ _ | .setupProvider _
  | .markPostStarted _ => Holds start row owner ∧ ¬ refused
  | .finishBlocked _ => Holds start row owner ∧ refused
  | .readUnmarked => ¬ ClaimedBy start owner ∧ refused ∧ (ClaimedBy row owner ↔ StartedBefore start)
  -- from the mark on, the claim no longer depends on `post_started_at`
  | .provider _ _ | .finish _ => ¬ ClaimedBy start owner ∧ ClaimedBy row owner ∧ ¬ refused
  | .returned _ => ClaimedBy row owner ↔ ClaimedBy start owner ∨ (StartedBefore start ∧ refused)
  | .raised _ | .crashed => True
  -- no other caller moves, so a finish never misses; the rest belongs to recovery
  | .readBack | .claimRecovery | .readUnrecovered | .prepare | .recordBlocked _ _ | .reopen => False

/-- `ExitInv` of the call `c`. -/
def CallAt (start : Option Operation) (owner : String) (c : CallerId) (refused : Prop) (s : State) :
    Prop :=
  ∃ x, s.callers c = some x ∧ x.owner = owner ∧ ExitInv start s.row owner refused x.stage

variable {start row : Option Operation} {s t : State} {c : CallerId} {x : Caller}
  {refused : Prop} {stage : Stage} {op op' : Operation} {owner : String} {now : Timestamp}

theorem callAt_goto (h : ExitInv start s.row x.owner refused stage) :
    CallAt start x.owner c refused (s.goto c x stage) :=
  ⟨{ x with stage }, Function.update_self .., rfl, h⟩

theorem claimedBy_some_iff :
    ClaimedBy (some op) owner ↔ op.state = .attempting ∧ op.claimOwner = some owner := by
  unfold ClaimedBy
  constructor
  · rintro ⟨op', hop', h⟩
    rw [Option.some.inj hop']
    exact h
  · exact fun h => ⟨op, rfl, h⟩

theorem startedBefore_some_iff : StartedBefore (some op)
    ↔ (op.state = .notStarted ∨ op.state = .retryableFailure) ∧ op.postStartedAt ≠ none := by
  unfold StartedBefore
  constructor
  · rintro ⟨op', hop', h⟩
    rw [Option.some.inj hop']
    exact h
  · exact fun h => ⟨op, rfl, h⟩

/-- An operation in another state is under no claim. -/
theorem not_claimedBy (h : op.state ≠ .attempting) : ¬ ClaimedBy (some op) owner :=
  fun hclaimed => h (claimedBy_some_iff.mp hclaimed).1

theorem not_claimedBy_none : ¬ ClaimedBy none owner := by
  rintro ⟨op, hop, -⟩
  cases hop

theorem not_startedBefore_none : ¬ StartedBefore none := by
  rintro ⟨op, hop, -⟩
  cases hop

theorem Holds.claimed (h : Holds start row owner) : ClaimedBy row owner := by
  obtain ⟨-, op, hrow, hstate, howner, -⟩ := h
  exact ⟨op, hrow, hstate, howner⟩

/-- A call that ends its own claim by a finish leaves none. -/
theorem returned_released (hstart : ¬ ClaimedBy start owner) (hrefused : ¬ refused)
    (hstate : op.state ≠ .attempting) :
    ExitInv start (some op) owner refused (.returned row) := by
  constructor
  · intro h
    exact absurd h (not_claimedBy hstate)
  · rintro (h | ⟨-, h⟩)
    · exact absurd h hstart
    · exact absurd h hrefused

/-! ## §2. The steps of a call. -/

/-- A new row is never under a claim, and no POST was started for it. -/
theorem newOperation_fresh (now : Timestamp) (id : Nat) (facts : RequestFacts)
    (cycle : CycleSnapshot) :
    (newOperation now id facts cycle).state ≠ .attempting
      ∧ (newOperation now id facts cycle).postStartedAt = none := by
  unfold newOperation
  split
  · exact ⟨by simp, rfl⟩
  · exact ⟨by simp, rfl⟩

/-- The row after the INSERT: it is the one found, or a new one. -/
theorem ensured_row {id : Nat} {facts : RequestFacts} {cycle : CycleSnapshot}
    (hop : start.getD (newOperation now id facts cycle) = op) :
    (ClaimedBy (some op) owner ↔ ClaimedBy start owner)
      ∧ (StartedBefore (some op) ↔ StartedBefore start) := by
  cases start with
  | none =>
      have hnew := newOperation_fresh now id facts cycle
      rw [← hop]
      refine ⟨iff_of_false (not_claimedBy hnew.1) not_claimedBy_none,
        iff_of_false (fun h => ?_) not_startedBefore_none⟩
      exact (startedBefore_some_iff.mp h).2 hnew.2
  | some found =>
      rw [← hop]
      exact ⟨Iff.rfl, Iff.rfl⟩

theorem ensureStep_exit {id : Nat} {facts : RequestFacts} (hrow : s.row = start)
    (hrefused : ¬ refused) :
    CallAt start x.owner c refused (ensureStep s c x now id facts) := by
  unfold ensureStep ensureOperation
  cases facts.cycle with
  | none => exact callAt_goto trivial
  | some cycle =>
      rw [hrow, Option.map_some]
      generalize hop : start.getD (newOperation now id facts cycle) = op
      obtain ⟨hclaimed, hstarted⟩ := (ensured_row hop : (ClaimedBy (some op) x.owner ↔ _) ∧ _)
      show CallAt start x.owner c refused (if op.state ≠ .notStarted ∧ op.state ≠ .retryableFailure
        then (s.putRow op).goto c x (.returned (some op)) else (s.putRow op).goto c x .claim)
      by_cases hother : op.state ≠ .notStarted ∧ op.state ≠ .retryableFailure
      · rw [if_pos hother]
        refine callAt_goto ?_
        show ClaimedBy (some op) x.owner ↔ _
        rw [hclaimed]
        refine ⟨.inl, ?_⟩
        rintro (h | ⟨h, -⟩)
        · exact h
        · obtain ⟨hopen, -⟩ := startedBefore_some_iff.mp (hstarted.mpr h)
          exact (hopen.elim hother.1 hother.2).elim
      · rw [if_neg hother]
        have hopen : op.state = .notStarted ∨ op.state = .retryableFailure := by
          by_cases h : op.state = .notStarted
          · exact .inl h
          · exact .inr (not_not.mp fun h' => hother ⟨h, h'⟩)
        refine callAt_goto ⟨?_, hrefused, op, rfl, hopen, ?_⟩
        · rw [← hclaimed]
          refine not_claimedBy fun hstate => ?_
          rw [hstate] at hopen
          rcases hopen with h | h <;> cases h
        · rw [← hstarted, startedBefore_some_iff]
          exact ⟨fun h => ⟨hopen, h⟩, fun h => h.2⟩

theorem claimStep_exit {leaseSeconds : Nat} (hrow : s.row = some op)
    (h : ExitInv start s.row x.owner refused .claim) :
    CallAt start x.owner c refused (claimStep s c x now leaseSeconds op) := by
  obtain ⟨hstart, hrefused, op', hop', hopen, hpost⟩ := h
  rw [hrow] at hop'
  rw [← Option.some.inj hop'] at hopen hpost
  have hfresh : recoverStaleClaim now op = op := by
    unfold recoverStaleClaim Operation.staleAt
    rcases hopen with h | h <;> rw [h] <;> rfl
  unfold claimStep claimOperation
  rw [hfresh]
  simp only [if_pos hopen]
  exact callAt_goto ⟨⟨hstart, _, rfl, rfl, rfl, hpost⟩, hrefused⟩

/-- The outcomes a finish accepts end the claim. -/
theorem outcomeError_none {outcome : RequestOutcome} (h : outcomeError outcome = none) :
    outcome.state ≠ .attempting := by
  intro hstate
  unfold outcomeError at h
  rw [hstate, if_pos (by decide)] at h
  cases h

theorem finishStep_exit {outcome : RequestOutcome} (hrow : s.row = some op)
    (hstart : ¬ ClaimedBy start x.owner) (hclaimed : ClaimedBy s.row x.owner)
    (hrefused : ¬ refused) :
    CallAt start x.owner c refused (finishStep s c x now outcome op) := by
  unfold finishStep
  cases herror : outcomeError outcome with
  | some error => exact callAt_goto trivial
  | none =>
      rw [hrow, claimedBy_some_iff] at hclaimed
      unfold finishOperation
      rw [if_pos hclaimed]
      exact callAt_goto (returned_released hstart hrefused (outcomeError_none herror))

/-- The guard of the unsent claim, of a call that holds it. -/
theorem Holds.heldUnsent_iff (h : Holds start (some op) owner) :
    op.heldUnsent owner = true ↔ ¬ StartedBefore start := by
  obtain ⟨-, op', hop', hstate, howner, hpost⟩ := h
  rw [← Option.some.inj hop'] at hstate howner hpost
  rw [← hpost, not_not]
  unfold Operation.heldUnsent
  simp [hstate, howner]

/-- **The release of a refused confidence**: it happens exactly where no POST
    was started before. -/
theorem claimedBy_finishBlocked (h : Holds start (some op) owner) (decision : ConfidenceDecision) :
    ClaimedBy (some ((finishConfidenceBlocked now owner decision op).getD op)) owner
      ↔ StartedBefore start := by
  unfold finishConfidenceBlocked
  by_cases hunsent : op.heldUnsent owner = true
  · rw [if_pos hunsent]
    refine iff_of_false (not_claimedBy ?_) (h.heldUnsent_iff.mp hunsent)
    simp
  · rw [if_neg hunsent]
    have hstarted : StartedBefore start := by
      by_contra hnot
      exact hunsent (h.heldUnsent_iff.mpr hnot)
    exact iff_of_true h.claimed hstarted

/-- A refreshed operation is held as before. -/
theorem Holds.refreshed (h : Holds start (some op) owner) (payload : RequestPayload)
    (decision : ConfidenceDecision) :
    Holds start (some ((refreshPayloadMetadata now owner payload decision op).getD op)) owner := by
  unfold refreshPayloadMetadata
  by_cases hunsent : op.heldUnsent owner = true
  · rw [if_pos hunsent]
    obtain ⟨hstart, op', hop', hstate, howner, hpost⟩ := h
    rw [← Option.some.inj hop'] at hstate howner hpost
    exact ⟨hstart, _, rfl, hstate, howner, hpost⟩
  · rw [if_neg hunsent]
    exact h

/-- What the second reading of the confidence leads to. -/
theorem markStep_exit {value : ConfidenceValue} {payload : RequestPayload} (hrow : s.row = some op)
    (h : Holds start s.row x.owner) (hrefused : ¬ refused) :
    CallAt start x.owner c (refused ∨ (evaluateRequestConfidence value).state ≠ .allowed)
      (markStep s c x now value payload op) := by
  rw [hrow] at h
  have hclaimed := claimedBy_some_iff.mp h.claimed
  unfold markStep markPostStarted
  rw [if_pos hclaimed]
  by_cases hblocked : (evaluateRequestConfidence value).state ≠ .allowed
  · simp only [if_pos hblocked]
    exact callAt_goto ⟨h.1, .inr hblocked, claimedBy_finishBlocked h _⟩
  · simp only [if_neg hblocked]
    refine callAt_goto ⟨h.1, claimedBy_some_iff.mpr hclaimed, ?_⟩
    rintro (h | h)
    · exact hrefused h
    · exact hblocked h

/-- Only a confidence refuses. -/
theorem CallAt.quiet {input : Input} (h : CallAt start owner c refused s)
    (hquiet : ¬ input.refuses) : CallAt start owner c (refused ∨ input.refuses) s := by
  have hiff : refused = (refused ∨ input.refuses) := propext (or_iff_left hquiet).symm
  rw [← hiff]
  exact h

/-- A provider that ends a call does so through a finish. -/
theorem providerStep_exit {payload : RequestPayload} {attempt : Nat} {input : Input}
    (h : ∀ outcome, ExitInv start s.row x.owner refused (.finish outcome))
    (hs : providerStep s c x payload attempt input = some t) :
    CallAt start x.owner c (refused ∨ input.refuses) t := by
  have hfinish : ∀ outcome, CallAt start x.owner c refused (s.goto c x (.finish outcome)) :=
    fun outcome => callAt_goto (h outcome)
  unfold providerStep at hs
  split at hs
  · -- one POST of the adapter: the loop goes on, or ends with an outcome
    injection hs with hs
    subst hs
    refine CallAt.quiet ?_ id
    unfold postStep
    split
    · exact callAt_goto (h (.definitive ""))
    · exact callAt_goto (h _)
  · split at hs
    · injection hs with hs
      exact (hs ▸ hfinish _).quiet id
    · cases hs
  · split at hs
    · injection hs with hs
      exact (hs ▸ hfinish _).quiet id
    · injection hs with hs
      exact (hs ▸ hfinish _).quiet id
  · injection hs with hs
    exact (hs ▸ hfinish _).quiet id
  · cases hs

/-! ## §3. The whole call. -/

/-- The steps that work on the operation row. -/
theorem rowStep_exit {input : Input} (hrow : s.row = some op)
    (h : ExitInv start s.row x.owner refused stage) (hs : rowStep s c x op stage input = some t) :
    CallAt start x.owner c (refused ∨ input.refuses) t := by
  unfold rowStep at hs
  split at hs
  next now _ leaseSeconds =>
    injection hs with hs
    exact CallAt.quiet (hs ▸ claimStep_exit hrow h) id
  next found =>
    split at hs
    · injection hs with hs
      exact CallAt.quiet (hs ▸ callAt_goto h) id
    · injection hs with hs
      exact CallAt.quiet (hs ▸ callAt_goto h) id
  next category now =>
    injection hs with hs
    exact CallAt.quiet (hs ▸ finishStep_exit hrow h.1.1 h.1.claimed h.2) id
  next decision now =>
    injection hs with hs
    refine CallAt.quiet (hs ▸ callAt_goto ?_) id
    have hholds : Holds start (some op) x.owner := hrow ▸ h.1
    show ClaimedBy (some _) x.owner ↔ _
    rw [claimedBy_finishBlocked hholds]
    exact ⟨fun hstarted => .inr ⟨hstarted, h.2⟩, fun hor => hor.elim (absurd · h.1.1) And.left⟩
  next payload decision now =>
    injection hs with hs
    have hholds : Holds start (some op) x.owner := hrow ▸ h.1
    exact CallAt.quiet (hs ▸ callAt_goto ⟨hholds.refreshed payload decision, h.2⟩) id
  next payload now value =>
    injection hs with hs
    exact hs ▸ markStep_exit hrow h.1 h.2
  next outcome now =>
    injection hs with hs
    exact CallAt.quiet (hs ▸ finishStep_exit hrow h.1 h.2.1 h.2.2) id
  next => exact h.elim
  next => exact h.elim
  next => exact h.elim
  next => cases hs

/-- The steps that leave the operation row alone. -/
theorem localStep_exit {input : Input} (h : ExitInv start s.row x.owner refused stage)
    (hs : localStep s c x stage input = some t) :
    CallAt start x.owner c (refused ∨ input.refuses) t := by
  unfold localStep at hs
  split at hs
  next now id facts =>
    injection hs with hs
    exact CallAt.quiet (hs ▸ ensureStep_exit h.1 h.2) not_false
  next => exact h.elim
  next payload now value =>
    by_cases hblocked : (evaluateRequestConfidence value).state ≠ .allowed
    · simp only [if_pos hblocked] at hs
      injection hs with hs
      exact hs ▸ callAt_goto ⟨h.1, .inr hblocked⟩
    · simp only [if_neg hblocked] at hs
      injection hs with hs
      exact CallAt.quiet (hs ▸ callAt_goto h) hblocked
  next payload ok =>
    split at hs
    · injection hs with hs
      exact CallAt.quiet (hs ▸ callAt_goto h) id
    · injection hs with hs
      exact CallAt.quiet (hs ▸ callAt_goto h) id
  next =>
    injection hs with hs
    refine CallAt.quiet (hs ▸ callAt_goto ?_) id
    show ClaimedBy s.row x.owner ↔ _
    rw [h.2.2]
    exact ⟨fun hstarted => .inr ⟨hstarted, h.2.1⟩, fun hor => hor.elim (absurd · h.1) And.left⟩
  next => exact h.elim
  next payload attempt input => exact providerStep_exit (fun _ => h) hs
  next => exact h.elim
  next => exact h.elim
  next => cases hs

/-- **What one step of a call preserves.** -/
theorem advanceStep_exit {input : Input} (h : ExitInv start s.row x.owner refused x.stage)
    (hs : advanceStep s c x input = some t) :
    CallAt start x.owner c (refused ∨ input.refuses) t := by
  unfold advanceStep at hs
  split at hs
  · split at hs
    next op hrow => exact rowStep_exit hrow h hs
    next hrow =>
      split at hs
      next hstage =>
        rw [hstage] at h
        exact h.elim
      next => cases hs
  · exact localStep_exit h hs

/-- What the steps of a call preserve. -/
theorem advance_run_exit {inputs : List Input} (h : CallAt start owner c refused s)
    (hrun : requestMachine.exec s (inputs.map (.advance c)) = some t) :
    CallAt start owner c (refused ∨ ∃ input ∈ inputs, input.refuses) t := by
  induction inputs generalizing s refused with
  | nil =>
      injection hrun with hrun
      subst hrun
      have hiff : refused = (refused ∨ ∃ input ∈ ([] : List Input), input.refuses) := by simp
      rw [← hiff]
      exact h
  | cons input rest ih =>
      simp only [List.map_cons, Machine.exec, Option.bind_eq_some_iff] at hrun
      obtain ⟨u, hstep, hrest⟩ := hrun
      obtain ⟨x, hx, rfl, hinv⟩ := h
      have hadv : advanceStep s c x input = some u := by
        have hstep : (s.callers c).bind (fun x => advanceStep s c x input) = some u := hstep
        rwa [hx] at hstep
      have hiff : (refused ∨ ∃ input' ∈ input :: rest, input'.refuses)
          = ((refused ∨ input.refuses) ∨ ∃ input' ∈ rest, input'.refuses) := by
        simp [or_assoc]
      rw [hiff]
      exact ih (advanceStep_exit hinv hadv) hrest

/-- **When a call that returns leaves no claim of its own**: for every row it
    finds and everything it reads, unless the row is already under a claim
    of the same owner, or a POST was started for it before and a confidence
    is refused. -/
theorem create_leaves_own_claim_iff {provider : Provider} {inputs : List Input}
    {row : Option Operation}
    (hrun : requestMachine.exec s (.create c owner provider :: inputs.map (.advance c)) = some t)
    (hx : t.callers c = some x) (hreturned : x.stage = .returned row) :
    ¬ ClaimedBy t.row (claimOwner owner)
      ↔ ¬ (ClaimedBy s.row (claimOwner owner)
        ∨ (StartedBefore s.row ∧ ∃ input ∈ inputs, input.refuses)) := by
  simp only [Machine.exec, Option.bind_eq_some_iff] at hrun
  obtain ⟨u, harrive, hrest⟩ := hrun
  obtain ⟨-, rfl⟩ := arrive_spec harrive
  have hstart : CallAt s.row (claimOwner owner) c False
      (s.goto c ⟨claimOwner owner, provider, .ensure⟩ .ensure) :=
    ⟨_, Function.update_self .., rfl, rfl, id⟩
  obtain ⟨x', hx', -, hinv⟩ := advance_run_exit hstart hrest
  rw [hx] at hx'
  rw [← Option.some.inj hx', hreturned] at hinv
  refine not_congr (Iff.trans hinv ?_)
  rw [false_or]

/-! ## §4. The claim that stays. -/

/-- An operation that was released for a retry after its POST had been
    started and no SolID had come back. -/
def releasedOperation : Operation where
  id := 1
  sourceCycleId := 1
  sourceClassificationId := some 9
  conversationId := "conversation"
  companyId := some 3
  companyExternalId := some "C1"
  departmentMappingId := some 4
  departmentExternalId := some "7"
  state := .retryableFailure
  attemptCount := 1
  postStartedAt := some 0
  firstAttemptAt := some 0
  lastAttemptAt := some 0
  failureCategory := some "released_after_remote_absence"
  failureMessage := some "released_after_remote_absence"
  updatedAt := 0

def releasedState : State := { State.empty with row := some releasedOperation }

/-- The facts of the cycle of `releasedOperation`. -/
def releasedFacts : RequestFacts where
  cycle := some
    { id := 1, conversationId := "conversation", status := .completed, classificationId := some 9
      protocol := some "2024", confidence := .number (2 / 5)
      title := some "Titulo", description := some "Descricao" }
  mapping := none
  companyExternalId := some "C1"
  relationship := true

/-- What the call reads: the confidence 0.4 is refused before any mark. -/
def refusedInputs : List Input :=
  [.ensure 5 2 releasedFacts, .lease 5 5 60,
   .classification (some ⟨some "2024", some "Titulo", some "Descricao"⟩),
   .confidence 5 (.number (2 / 5)), .clock 5]

/-- The run of the call: it returns the row it has claimed. -/
theorem refusedRun : ∃ t x row,
    requestMachine.exec releasedState
      (.create 0 "worker" .custom :: refusedInputs.map (.advance 0)) = some t
    ∧ t.callers 0 = some x ∧ x.stage = .returned row ∧ ClaimedBy t.row (claimOwner "worker") := by
  have h : ((requestMachine.exec releasedState
      (.create 0 "worker" .custom :: refusedInputs.map (.advance 0))).bind fun t =>
        (t.callers 0).bind fun x => t.row.map fun op =>
          (x.stage == .returned (some op), op.state, op.claimOwner))
      = some (true, .attempting, some (claimOwner "worker")) := by
    decide +kernel
  simp only [Option.bind_eq_some_iff, Option.map_eq_some_iff, Prod.mk.injEq, beq_iff_eq] at h
  obtain ⟨t, ht, x, hx, op, hop, hstage, hstate, howner⟩ := h
  exact ⟨t, x, some op, ht, hx, hstage, op, hop, hstate, howner⟩

/-- **A released operation whose classification is refused** keeps the claim of
    the call that has returned. -/
theorem released_claim_left_behind :
    ¬ ∀ (s t : State) (c : CallerId) (owner : String) (provider : Provider) (inputs : List Input)
        (x : Caller) (row : Option Operation),
      requestMachine.exec s (.create c owner provider :: inputs.map (.advance c)) = some t →
      t.callers c = some x → x.stage = .returned row → ¬ ClaimedBy t.row (claimOwner owner) := by
  intro hall
  obtain ⟨t, x, row, hrun, hx, hstage, hclaimed⟩ := refusedRun
  exact hall _ _ _ _ _ _ _ _ hrun hx hstage hclaimed

theorem create_leaves_own_claim_released :
    ∃ t, requestMachine.exec releasedState
        (.create 0 "worker" .custom :: refusedInputs.map (.advance 0)) = some t
      ∧ (¬ ClaimedBy t.row (claimOwner "worker")
        ↔ ¬ (ClaimedBy releasedState.row (claimOwner "worker")
          ∨ (StartedBefore releasedState.row ∧ ∃ input ∈ refusedInputs, input.refuses))) := by
  obtain ⟨t, x, row, hrun, hx, hstage, -⟩ := refusedRun
  exact ⟨t, hrun, create_leaves_own_claim_iff hrun hx hstage⟩

end Cai.Request
