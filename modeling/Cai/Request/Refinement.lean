/-
  Cai.Request.Refinement — the Request machine follows the protocol.

  `State.view` forgets everything about a state of the machine that the
  protocol does not speak about.  Every action of the machine is a
  sequence of protocol moves between the views (`step_moves`), so what is
  proved about moves holds of the code's own statements.
-/
import Cai.Request.Fencing

namespace Cai.Request

open Cai.Lib
open Cai.Cycle (Timestamp)
open Protocol (RowView Role Call Config Move Moves)

/-! ## §1. The view. -/

def Operation.view (op : Operation) : RowView where
  state := op.state
  owner := op.claimOwner
  started := op.postStartedAt.isSome
  sol := op.solId
  attempts := op.attemptCount

/-- The part a call plays at a stage; a call that has ended plays none. -/
def Stage.role : Stage → Option Role
  | .ensure | .claim | .readBack | .readUnmarked | .claimRecovery | .readUnrecovered
  | .prepare | .recordBlocked .. | .reopen => some .idle
  | .loadPayload | .finishUnsent _ | .readConfidence _ | .finishBlocked _
  | .refreshMetadata .. | .setupProvider _ | .markPostStarted _ => some .claimed
  | .provider .. => some .posting
  | .finish outcome => some (.finishing outcome.state)
  | .returned _ | .raised _ | .crashed => none

def Caller.call (x : Caller) : Option Call := x.stage.role.map fun role => ⟨x.owner, role⟩

def State.view (s : State) : Config where
  row := s.row.map Operation.view
  calls c := (s.callers c).bind Caller.call
  log := s.log

theorem Stage.live_iff (stage : Stage) : stage.live = true ↔ stage.role.isSome = true := by
  cases stage <;> simp [Stage.live, Stage.role]

@[simp] theorem view_empty : State.empty.view = Config.empty := rfl

@[simp] theorem view_row (s : State) : s.view.row = s.row.map Operation.view := rfl

@[simp] theorem view_log (s : State) : s.view.log = s.log := rfl

@[simp] theorem goto_row (s : State) (c : CallerId) (x : Caller) (stage : Stage) :
    (s.goto c x stage).row = s.row := rfl

@[simp] theorem goto_log (s : State) (c : CallerId) (x : Caller) (stage : Stage) :
    (s.goto c x stage).log = s.log := rfl

theorem view_goto (s : State) (c : CallerId) (x : Caller) (stage : Stage) :
    (s.goto c x stage).view = s.view.setCall c (stage.role.map fun role => ⟨x.owner, role⟩) := by
  simp only [State.view, State.goto, Config.setCall, Config.mk.injEq, true_and, and_true]
  funext d
  by_cases hdc : d = c
  · subst hdc
    simp [Caller.call]
  · simp [Function.update_of_ne hdc]

theorem view_putRow (s : State) (op : Operation) :
    (s.putRow op).view = { s.view with row := some op.view } := rfl

theorem view_record (s : State) (e : Event) :
    (s.record e).view = { s.view with log := e :: s.view.log } := rfl

theorem view_calls {s : State} {c : CallerId} {x : Caller} {role : Role}
    (hx : s.callers c = some x) (hrole : x.stage.role = some role) :
    s.view.calls c = some ⟨x.owner, role⟩ := by
  simp [State.view, hx, Caller.call, hrole]

theorem view_putRow_eq {s : State} {op op' : Operation} (hrow : s.row = some op)
    (hview : op'.view = op.view) : (s.putRow op').view = s.view := by
  simp only [view_putRow, hview]
  simp [State.view, hrow]

/-! ## §2. Moving a call. -/

variable {strict : Prop} {s t : State} {c : CallerId} {x : Caller} {op : Operation}

/-- A call that ends, lets go of its claim, or keeps its part. -/
theorem goto_moves {role : Role} (stage : Stage) (hx : s.callers c = some x)
    (hrole : x.stage.role = some role)
    (hstage : stage.role = none ∨ stage.role = some .idle ∨ stage.role = some role) :
    Moves strict s.view (s.goto c x stage).view := by
  have hcall := view_calls hx hrole
  rw [view_goto]
  rcases hstage with h | h | h <;> rw [h]
  · exact .single (.leave c)
  · exact .single (.rest c _ hcall)
  · have hsame : s.view.setCall c (some ⟨x.owner, role⟩) = s.view := by
      simp only [Config.setCall, ← hcall, Function.update_eq_self]
    rw [Option.map_some, hsame]
    exact .refl

/-- A change of the row, and then of the call. -/
theorem putRow_goto_moves {role : Role} {op' : Operation} (stage : Stage)
    (hx : s.callers c = some x) (hrole : x.stage.role = some role)
    (hstage : stage.role = none ∨ stage.role = some .idle ∨ stage.role = some role)
    (hmove : Moves strict s.view { s.view with row := some op'.view }) :
    Moves strict s.view ((s.putRow op').goto c x stage).view :=
  hmove.trans (goto_moves (s := s.putRow op') stage hx hrole hstage)

/-! ## §3. The statements on the row. -/

/-- The three things `_claim_operation_sync` can do. -/
theorem claimOperation_cases (now : Timestamp) (owner : String) (lease : Nat) (op : Operation) :
    ((claimOperation now owner lease op).2 = true
      ∧ (claimOperation now owner lease op).1.view
          = { op.view with state := .attempting, owner := some owner }
      ∧ (op.state = .notStarted ∨ op.state = .retryableFailure
          ∨ (op.state = .attempting ∧ op.postStartedAt = none)))
    ∨ ((claimOperation now owner lease op).2 = false
      ∧ (claimOperation now owner lease op).1.view
          = { op.view with state := .reconciliationRequired, owner := none }
      ∧ op.staleAt now = true ∧ op.postStartedAt.isSome = true)
    ∨ (claimOperation now owner lease op = (op, false)
      ∧ op.state ≠ .notStarted ∧ op.state ≠ .retryableFailure ∧ op.staleAt now = false) := by
  simp only [claimOperation, recoverStaleClaim]
  by_cases hstale : op.staleAt now = true
  · have hstate : op.state = .attempting := by
      simp only [Operation.staleAt, Bool.and_eq_true, beq_iff_eq] at hstale
      exact hstale.1
    simp only [hstale, if_true]
    cases hpost : op.postStartedAt with
    | none => exact .inl ⟨rfl, by simp [Operation.view, hpost], .inr (.inr ⟨hstate, rfl⟩)⟩
    | some at_ => exact .inr (.inl ⟨by simp, by simp [Operation.view, hpost], by simp, rfl⟩)
  · simp only [hstale]
    by_cases hopen : op.state = .notStarted ∨ op.state = .retryableFailure
    · refine .inl ⟨by simp [hopen], by simp [hopen, Operation.view], ?_⟩
      rcases hopen with h | h
      · exact .inl h
      · exact .inr (.inl h)
    · refine .inr (.inr ⟨by simp [hopen], ?_, ?_, by simp⟩)
      · exact fun h => hopen (.inl h)
      · exact fun h => hopen (.inr h)

/-- The three things `_mark_post_started_sync` can do. -/
theorem markPostStarted_cases (now : Timestamp) (owner : String) (confidence : ConfidenceValue)
    (op : Operation) :
    ((markPostStarted now owner confidence op).2 = true
      ∧ (markPostStarted now owner confidence op).1.view
          = { op.view with started := true, attempts := op.attemptCount + 1 }
      ∧ op.state = .attempting ∧ op.claimOwner = some owner)
    ∨ ((markPostStarted now owner confidence op).2 = false
      ∧ finishConfidenceBlocked now owner (evaluateRequestConfidence confidence) op
          = some (markPostStarted now owner confidence op).1)
    ∨ markPostStarted now owner confidence op = (op, false) := by
  simp only [markPostStarted]
  by_cases hguard : op.state = .attempting ∧ op.claimOwner = some owner
  · simp only [if_pos hguard]
    by_cases hallowed : (evaluateRequestConfidence confidence).state = .allowed
    · rw [if_neg (not_not_intro hallowed)]
      exact .inl ⟨rfl, rfl, hguard⟩
    · rw [if_pos hallowed]
      cases hblock : finishConfidenceBlocked now owner (evaluateRequestConfidence confidence) op with
      | none => exact .inr (.inr rfl)
      | some op' => exact .inr (.inl ⟨rfl, rfl⟩)
  · rw [if_neg hguard]
    exact .inr (.inr rfl)

/-- The confidence gate ends an unsent claim only. -/
theorem finishConfidenceBlocked_spec {op' : Operation} {now : Timestamp} {owner : String}
    {decision : ConfidenceDecision} (h : finishConfidenceBlocked now owner decision op = some op') :
    op.state = .attempting ∧ op.postStartedAt = none
      ∧ op'.view = { op.view with state := .definitiveFailure, owner := none } := by
  simp only [finishConfidenceBlocked, Operation.heldUnsent, Option.ite_none_right_eq_some,
    Bool.and_eq_true, beq_iff_eq, Option.isNone_iff_eq_none, Option.some.injEq] at h
  obtain ⟨⟨⟨hstate, -⟩, hpost⟩, rfl⟩ := h
  exact ⟨hstate, hpost, rfl⟩

theorem refreshPayloadMetadata_view {op' : Operation} {now : Timestamp} {owner : String}
    {payload : RequestPayload} {decision : ConfidenceDecision}
    (h : refreshPayloadMetadata now owner payload decision op = some op') :
    op'.view = op.view := by
  simp only [refreshPayloadMetadata, Option.ite_none_right_eq_some, Option.some.injEq] at h
  obtain ⟨-, rfl⟩ := h
  rfl

/-- Mapping recovery leases a failed row, and changes nothing else. -/
theorem claimMappingMissingRecovery_spec {op' : Operation} {now clock : Timestamp}
    {owner : String} {lease : Nat}
    (h : claimMappingMissingRecovery now clock owner lease op = some op') :
    op.state = .definitiveFailure ∧ op'.view = { op.view with owner := some owner } := by
  simp only [claimMappingMissingRecovery] at h
  split at h
  next => cases h
  next hguard =>
    simp only [Option.ite_none_left_eq_some, Option.some.injEq] at h
    obtain ⟨-, rfl⟩ := h
    simp only [Operation.neverPosted, Bool.not_eq_true, Bool.not_eq_false', Bool.and_eq_true,
      beq_iff_eq] at hguard
    exact ⟨hguard.1.1.1.1.1.1.1, rfl⟩

theorem recordPreparationRecoveryBlocked_spec {op' : Operation} {now : Timestamp}
    {owner stage reason : String}
    (h : recordPreparationRecoveryBlocked now owner stage reason op = some op') :
    op.state = .definitiveFailure ∧ op'.view = { op.view with owner := none } := by
  simp only [recordPreparationRecoveryBlocked, Option.ite_none_right_eq_some,
    Option.some.injEq] at h
  obtain ⟨⟨hstate, -⟩, rfl⟩ := h
  exact ⟨hstate, rfl⟩

/-- Only a failed row that never started a POST is reopened. -/
theorem reopenPreparedOperation_spec {op' : Operation} {now : Timestamp} {owner : String}
    {facts : OperationFacts} {payload : RequestPayload}
    (h : reopenPreparedOperation now owner facts payload op = some op') :
    op.state = .definitiveFailure ∧ op.postStartedAt = none
      ∧ op'.view = { op.view with state := .notStarted } := by
  simp only [reopenPreparedOperation, Operation.neverPosted, Option.ite_none_right_eq_some,
    Bool.and_eq_true, beq_iff_eq, Option.isNone_iff_eq_none, Option.some.injEq] at h
  obtain ⟨⟨⟨⟨⟨⟨⟨⟨hstate, -⟩, hpost⟩, -⟩, -⟩, -⟩, -⟩, -⟩, rfl⟩ := h
  exact ⟨hstate, hpost, rfl⟩

/-! ## §4. The transactions of a call. -/

/-- The confidence gate as a move. -/
theorem finishConfidenceBlocked_moves {op' : Operation} {now : Timestamp} {owner : String}
    {decision : ConfidenceDecision} (hrow : s.row = some op)
    (h : finishConfidenceBlocked now owner decision op = some op') :
    Moves strict s.view { s.view with row := some op'.view } := by
  obtain ⟨hstate, hpost, hview⟩ := finishConfidenceBlocked_spec h
  rw [hview]
  exact .single (.block op.view (by simp [hrow]) hstate (by simp [Operation.view, hpost]))

/-- A statement that keeps the view of the row. -/
theorem sameView_moves {op' : Operation} (hrow : s.row = some op) (hview : op'.view = op.view) :
    Moves strict s.view { s.view with row := some op'.view } := by
  rw [← view_putRow, view_putRow_eq hrow hview]
  exact .refl

/-- The INSERT, or the row that was already there. -/
theorem ensureStep_moves {now : Timestamp} {id : Nat} {facts : RequestFacts} {role : Role}
    (hx : s.callers c = some x) (hrole : x.stage.role = some role) :
    Moves strict s.view (ensureStep s c x now id facts).view := by
  simp only [ensureStep, ensureOperation]
  cases hcycle : facts.cycle with
  | none => exact goto_moves _ hx hrole (.inl rfl)
  | some cycle =>
      simp only [Option.map_some]
      have hmove : Moves strict s.view
          { s.view with row := some (s.row.getD (newOperation now id facts cycle)).view } := by
        cases hrow : s.row with
        | some op =>
            have hsame : ({ s.view with row := some op.view } : Config) = s.view := by
              simp [State.view, hrow]
            rw [Option.getD_some, hsame]
            exact .refl
        | none =>
            refine .single (.insert _ (by simp [hrow]) ?_ ?_ ?_)
            all_goals
              simp only [Option.getD_none, newOperation]
              split <;> simp [Operation.view]
      split
      next => exact putRow_goto_moves _ hx hrole (.inl rfl) hmove
      next => exact putRow_goto_moves _ hx hrole (.inr (.inl rfl)) hmove

theorem claimStep_moves {now : Timestamp} {lease : Nat} (hx : s.callers c = some x)
    (hrole : x.stage.role = some .idle) (hrow : s.row = some op) :
    Moves strict s.view (claimStep s c x now lease op).view := by
  simp only [claimStep]
  rcases claimOperation_cases now x.owner lease op with
    ⟨hgrant, hview, hstate⟩ | ⟨hgrant, hview, hstale, hpost⟩ | ⟨heq, -⟩
  · rw [if_pos hgrant, view_goto, view_record, view_putRow, hview]
    refine .single (Move.claim c x.owner op.view (view_calls hx hrole) (by simp [hrow]) ?_)
    rcases hstate with h | h | ⟨h, hpost⟩
    · exact .inl h
    · exact .inr (.inl h)
    · exact .inr (.inr ⟨h, by simp [Operation.view, hpost]⟩)
  · rw [if_neg (by simp [hgrant])]
    refine putRow_goto_moves _ hx hrole (.inr (.inl rfl)) ?_
    rw [hview]
    simp only [Operation.staleAt, Bool.and_eq_true, beq_iff_eq] at hstale
    exact .single (.fence op.view (by simp [hrow]) hstale.1 hpost)
  · rw [heq, if_neg (by simp)]
    exact putRow_goto_moves _ hx hrole (.inr (.inl rfl)) (sameView_moves hrow rfl)

theorem markStep_moves {now : Timestamp} {confidence : ConfidenceValue}
    {payload : RequestPayload} (hx : s.callers c = some x)
    (hrole : x.stage.role = some .claimed) (hrow : s.row = some op) :
    Moves strict s.view (markStep s c x now confidence payload op).view := by
  simp only [markStep]
  rcases markPostStarted_cases now x.owner confidence op with
    ⟨hmark, hview, hguard⟩ | ⟨hmark, hblock⟩ | heq
  · rw [if_pos hmark, view_goto, view_record, view_putRow, hview]
    exact .single
      (Move.mark c x.owner op.view (view_calls hx hrole) (by simp [hrow]) hguard.1 hguard.2)
  · rw [if_neg (by simp [hmark])]
    exact putRow_goto_moves _ hx hrole (.inr (.inl rfl))
      (finishConfidenceBlocked_moves hrow hblock)
  · rw [heq, if_neg (by simp)]
    exact putRow_goto_moves _ hx hrole (.inr (.inl rfl)) (sameView_moves hrow rfl)

/-- A finish, of the provider's outcome or of a failure before any POST. -/
theorem finishStep_moves {now : Timestamp} {outcome : RequestOutcome} {role : Role}
    (hx : s.callers c = some x) (hrole : x.stage.role = some role)
    (hpart : (role = .claimed ∧ outcome.state = .retryableFailure)
      ∨ role = .finishing outcome.state)
    (hbuilt : outcome.Built) (hrow : s.row = some op) :
    Moves strict s.view (finishStep s c x now outcome op).view := by
  have hspec := hbuilt.spec
  have hst : outcome.state ∈ Protocol.finals := by
    rcases hspec with ⟨hs, -⟩ | ⟨hs, -⟩
    · simp [hs, Protocol.finals]
    · simp only [List.mem_cons, List.not_mem_nil, or_false] at hs
      rcases hs with hs | hs | hs <;> simp [hs, Protocol.finals]
  have hsol : outcome.state = .completed ↔ outcome.solidId.isSome = true := by
    rcases hspec with ⟨hs, sol, hsome, -⟩ | ⟨hs, hnone⟩
    · simp [hs, hsome]
    · simp only [List.mem_cons, List.not_mem_nil, or_false] at hs
      rcases hs with hs | hs | hs <;> simp [hs, hnone]
  simp only [finishStep]
  split
  next => exact goto_moves _ hx hrole (.inl rfl)
  next =>
    simp only [finishOperation]
    by_cases hguard : op.state = .attempting ∧ op.claimOwner = some x.owner
    · rw [if_pos hguard]
      simp only [view_goto, view_record, view_putRow]
      exact .single (Move.finish c ⟨x.owner, role⟩ op.view outcome.state outcome.solidId
        (view_calls hx hrole) hpart (by simp [hrow]) hguard.1 hguard.2 hst hsol)
    · rw [if_neg hguard]
      exact goto_moves _ hx hrole (.inr (.inl rfl))

theorem reopenStep_moves {now : Timestamp} {facts : RequestFacts}
    (hx : s.callers c = some x) (hrole : x.stage.role = some .idle) (hrow : s.row = some op) :
    Moves strict s.view (reopenStep s c x now facts op).view := by
  simp only [reopenStep]
  split
  next => exact goto_moves _ hx hrole (.inl rfl)
  next =>
    split
    next => exact goto_moves _ hx hrole (.inl rfl)
    next =>
      split
      next op' h =>
        refine putRow_goto_moves _ hx hrole (.inr (.inl rfl)) ?_
        obtain ⟨hstate, hpost, hview⟩ := reopenPreparedOperation_spec h
        rw [hview]
        exact .single (.reopen op.view (by simp [hrow]) hstate (by simp [Operation.view, hpost]))
      next => exact goto_moves _ hx hrole (.inl rfl)

/-- One attempt of the adapter. -/
theorem postStep_moves {payload : RequestPayload} {maxAttempts attempt : Nat}
    {result : TransportResult} (hx : s.callers c = some x)
    (hrole : x.stage.role = some .posting)
    (hlicence : strict → Protocol.releasedSinceMark c s.log = false) :
    Moves strict s.view (postStep s c x payload maxAttempts attempt result).view := by
  simp only [postStep]
  cases hverdict : createRequestAttempt maxAttempts attempt result with
  | retry =>
      simp only [view_goto, view_record]
      exact .single (Move.post c x.owner result .posting (view_calls hx hrole) hlicence
        (.inl ⟨rfl, safe_of_retry hverdict⟩))
  | done outcome =>
      simp only [view_goto, view_record]
      exact .single (Move.post c x.owner result (.finishing outcome.state) (view_calls hx hrole)
        hlicence (.inr ⟨_, rfl, safe_of_retryable hverdict⟩))

/-- The provider answers without a POST of the adapter. -/
theorem settle_moves (outcome : RequestOutcome) (hx : s.callers c = some x)
    (hrole : x.stage.role = some .posting) :
    Moves strict s.view (s.goto c x (.finish outcome)).view := by
  rw [view_goto]
  exact .single (Move.settle c x.owner outcome.state (view_calls hx hrole))

/-! ## §5. The outcomes in flight. -/

/-- An outcome that a call is about to commit comes from a constructor. -/
def Stage.Built : Stage → Prop
  | .finish outcome => outcome.Built
  | _ => True

/-- Every outcome in flight is built. -/
def State.OutcomesBuilt (s : State) : Prop := ∀ c x, s.callers c = some x → x.stage.Built

/-- The step of a call moves that call and no other, to a stage whose outcome,
    if it has one, is built. -/
def Lands (s : State) (c : CallerId) (x : Caller) (t : State) : Prop :=
  ∃ stage : Stage, stage.Built ∧ t.callers = (s.goto c x stage).callers

theorem goto_lands {u : State} {stage : Stage} (hu : u.callers = s.callers)
    (hstage : stage.Built) : Lands s c x (u.goto c x stage) :=
  ⟨stage, hstage, by simp only [State.goto, hu]⟩

theorem rowStep_lands {stage : Stage} {input : Input}
    (hs : rowStep s c x op stage input = some t) : Lands s c x t := by
  have hfinish (now : Timestamp) (outcome : RequestOutcome) :
      Lands s c x (finishStep s c x now outcome op) := by
    simp only [finishStep]
    split
    next => exact goto_lands rfl trivial
    next => split <;> exact goto_lands rfl trivial
  unfold rowStep at hs
  split at hs
  · injection hs with hs
    subst hs
    simp only [claimStep]
    split <;> exact goto_lands rfl trivial
  · split at hs <;> injection hs with hs <;> subst hs <;> exact goto_lands rfl trivial
  · injection hs with hs
    subst hs
    exact hfinish _ _
  · injection hs with hs
    subst hs
    exact goto_lands rfl trivial
  · injection hs with hs
    subst hs
    exact goto_lands rfl trivial
  · injection hs with hs
    subst hs
    simp only [markStep]
    split <;> exact goto_lands rfl trivial
  · injection hs with hs
    subst hs
    exact hfinish _ _
  · split at hs <;> injection hs with hs <;> subst hs <;> exact goto_lands rfl trivial
  · split at hs <;> injection hs with hs <;> subst hs <;> exact goto_lands rfl trivial
  · injection hs with hs
    subst hs
    simp only [reopenStep]
    split
    next => exact goto_lands rfl trivial
    next =>
      split
      next => exact goto_lands rfl trivial
      next => split <;> exact goto_lands rfl trivial
  · cases hs

theorem built_reconciliation (category : String) :
    (RequestOutcome.reconciliation category).Built := ⟨.reconciliation category none, rfl⟩

theorem built_definitive (category : String) :
    (RequestOutcome.definitive category).Built := ⟨.definitive category none, rfl⟩

theorem built_retryable (category : String) :
    (RequestOutcome.retryable category).Built := ⟨.retryable category none, rfl⟩

/-- The two kinds of answer of a provider. -/
theorem providerStep_cases {payload : RequestPayload} {attempt : Nat} {input : Input}
    (hs : providerStep s c x payload attempt input = some t) :
    (∃ maxAttempts result, x.provider = .adapter maxAttempts ∧ input = .post result
      ∧ t = postStep s c x payload maxAttempts attempt result)
    ∨ ∃ outcome : RequestOutcome, outcome.Built ∧ t = s.goto c x (.finish outcome) := by
  simp only [providerStep] at hs
  split at hs
  next maxAttempts result hprov =>
    injection hs with hs
    exact .inl ⟨maxAttempts, result, hprov, rfl, hs.symm⟩
  next =>
    simp only [Option.ite_none_right_eq_some, Option.some.injEq] at hs
    exact .inr ⟨_, built_definitive _, hs.2.symm⟩
  next call _ =>
    split at hs
    next outcome houtcome =>
      injection hs with hs
      exact .inr ⟨outcome, ⟨call, houtcome⟩, hs.symm⟩
    next =>
      injection hs with hs
      exact .inr ⟨_, built_reconciliation _, hs.symm⟩
  next =>
    injection hs with hs
    exact .inr ⟨_, built_reconciliation _, hs.symm⟩
  next => cases hs

theorem localStep_lands {stage : Stage} {input : Input}
    (hs : localStep s c x stage input = some t) : Lands s c x t := by
  unfold localStep at hs
  split at hs
  · injection hs with hs
    subst hs
    simp only [ensureStep]
    split
    next => exact goto_lands rfl trivial
    next => split <;> exact goto_lands rfl trivial
  · injection hs with hs
    subst hs
    simp only [State.returnRow]
    split <;> exact goto_lands rfl trivial
  · dsimp only at hs
    split at hs <;> injection hs with hs <;> subst hs <;> exact goto_lands rfl trivial
  · split at hs <;> injection hs with hs <;> subst hs <;> exact goto_lands rfl trivial
  · injection hs with hs
    subst hs
    exact goto_lands rfl trivial
  · injection hs with hs
    subst hs
    exact goto_lands rfl trivial
  · rcases providerStep_cases hs with ⟨maxAttempts, result, -, -, rfl⟩ | ⟨outcome, hbuilt, rfl⟩
    · simp only [postStep]
      split
      next => exact goto_lands rfl trivial
      next outcome hdone => exact goto_lands rfl (built_of_done hdone)
    · exact goto_lands rfl hbuilt
  · injection hs with hs
    subst hs
    exact goto_lands rfl trivial
  · injection hs with hs
    subst hs
    exact goto_lands rfl trivial
  · cases hs

/-- The stages a call can be at when it takes a step. -/
theorem advanceStep_cases {input : Input} (hs : advanceStep s c x input = some t) :
    (∃ op, s.row = some op ∧ rowStep s c x op x.stage input = some t)
    ∨ (x.stage = .claimRecovery ∧ t = s.goto c x .readUnrecovered)
    ∨ localStep s c x x.stage input = some t := by
  simp only [advanceStep] at hs
  split at hs
  next =>
    split at hs
    next op hrow => exact .inl ⟨op, hrow, hs⟩
    next =>
      split at hs
      next hstage =>
        injection hs with hs
        exact .inr (.inl ⟨hstage, hs.symm⟩)
      next => cases hs
  next => exact .inr (.inr hs)

/-- A call that arrives is a new one. -/
theorem arrive_spec {owner : String} {provider : Provider} {stage : Stage}
    (hs : arrive s c owner provider stage = some t) :
    s.callers c = none ∧ t = s.goto c ⟨claimOwner owner, provider, stage⟩ stage := by
  simp only [arrive] at hs
  split at hs
  next => cases hs
  next hnone =>
    injection hs with hs
    exact ⟨hnone, hs.symm⟩

theorem crashStep_spec (hs : crashStep s c = some t) :
    ∃ x, s.callers c = some x ∧ x.stage.live = true ∧ t = s.goto c x .crashed := by
  simp only [crashStep] at hs
  split at hs
  next x hx =>
    simp only [Option.ite_none_right_eq_some, Option.some.injEq] at hs
    exact ⟨x, hx, hs.1, hs.2.symm⟩
  next => cases hs

theorem advanceStep_lands {input : Input} (hs : advanceStep s c x input = some t) :
    Lands s c x t := by
  rcases advanceStep_cases hs with ⟨op, -, hs⟩ | ⟨-, rfl⟩ | hs
  · exact rowStep_lands hs
  · exact goto_lands rfl trivial
  · exact localStep_lands hs

theorem manualCall_callers (s : State) (now : Timestamp) (call : ReconciliationCall)
    (keyElsewhere : Bool) : (manualCall s now call keyElsewhere).callers = s.callers := by
  unfold manualCall
  split
  next => rfl
  next =>
    split
    next => rfl
    next =>
      simp only [manualStep]
      split <;> rfl

/-- The call an action belongs to. -/
def Action.caller : Action → Option CallerId
  | .create c .. | .recover c .. | .crash c | .advance c _ => some c
  | .manual .. => none

/-- **One action moves at most the call it belongs to.** -/
theorem step_lands {a : Action} (hs : step s a = some t) :
    t.callers = s.callers ∨ ∃ c x, a.caller = some c ∧ Lands s c x t := by
  cases a with
  | create c owner provider | recover c owner provider =>
      obtain ⟨-, rfl⟩ := arrive_spec hs
      exact .inr ⟨c, _, rfl, goto_lands rfl trivial⟩
  | manual now call keyElsewhere =>
      simp only [step, Option.some.injEq] at hs
      subst hs
      exact .inl (manualCall_callers ..)
  | crash c =>
      obtain ⟨x, -, -, rfl⟩ := crashStep_spec hs
      exact .inr ⟨c, x, rfl, goto_lands rfl trivial⟩
  | advance c input =>
      simp only [step, Option.bind_eq_some_iff] at hs
      obtain ⟨x, -, hs⟩ := hs
      exact .inr ⟨c, x, rfl, advanceStep_lands hs⟩

/-- **Every outcome in flight comes from a constructor**, in every state the
    machine reaches. -/
theorem step_built {a : Action} (h : s.OutcomesBuilt) (hs : step s a = some t) :
    t.OutcomesBuilt := by
  intro d y hy
  rcases step_lands hs with hsame | ⟨c, x, -, stage, hstage, hlands⟩
  · rw [hsame] at hy
    exact h d y hy
  · rw [hlands] at hy
    by_cases hdc : d = c
    · subst hdc
      simp only [State.goto, Function.update_self, Option.some.injEq] at hy
      subst hy
      exact hstage
    · simp only [State.goto, Function.update_of_ne hdc] at hy
      exact h d y hy

theorem reachable_built {ok : State → Action → Prop}
    (h : requestMachine.ReachableWhere ok s) : s.OutcomesBuilt := by
  refine h.invariant ?_ fun s a t hb _ hs => step_built hb hs
  rintro s rfl c x hx
  cases hx

/-! ## §6. The simulation. -/

theorem rowStep_moves {stage : Stage} {input : Input} (hbuilt : s.OutcomesBuilt)
    (hx : s.callers c = some x) (hstage : x.stage = stage) (hrow : s.row = some op)
    (hs : rowStep s c x op stage input = some t) : Moves strict s.view t.view := by
  unfold rowStep at hs
  split at hs
  · -- claim
    injection hs with hs
    subst hs
    exact claimStep_moves hx (by rw [hstage]; rfl) hrow
  · -- loadPayload
    have hrole : x.stage.role = some .claimed := by rw [hstage]; rfl
    split at hs <;> injection hs with hs <;> subst hs
    · exact goto_moves _ hx hrole (.inr (.inr rfl))
    · exact goto_moves _ hx hrole (.inr (.inr rfl))
  · -- finishUnsent
    injection hs with hs
    subst hs
    exact finishStep_moves hx (by rw [hstage]; rfl) (.inl ⟨rfl, rfl⟩) (built_retryable _) hrow
  · -- finishBlocked
    injection hs with hs
    subst hs
    have hrole : x.stage.role = some .claimed := by rw [hstage]; rfl
    refine putRow_goto_moves _ hx hrole (.inl rfl) ?_
    cases hblock : finishConfidenceBlocked _ x.owner _ op with
    | none => exact sameView_moves hrow rfl
    | some op' => exact finishConfidenceBlocked_moves hrow hblock
  · -- refreshMetadata
    injection hs with hs
    subst hs
    have hrole : x.stage.role = some .claimed := by rw [hstage]; rfl
    refine putRow_goto_moves _ hx hrole (.inr (.inr rfl)) ?_
    cases hrefresh : refreshPayloadMetadata _ x.owner _ _ op with
    | none => exact sameView_moves hrow rfl
    | some op' => exact sameView_moves hrow (refreshPayloadMetadata_view hrefresh)
  · -- markPostStarted
    injection hs with hs
    subst hs
    exact markStep_moves hx (by rw [hstage]; rfl) hrow
  · -- finish
    injection hs with hs
    subst hs
    have hout := hbuilt c x hx
    rw [hstage] at hout
    exact finishStep_moves hx (by rw [hstage]; rfl) (.inr rfl) hout hrow
  · -- claimRecovery
    have hrole : x.stage.role = some .idle := by rw [hstage]; rfl
    split at hs <;> injection hs with hs <;> subst hs
    next op' hclaim =>
      obtain ⟨hstate, hview⟩ := claimMappingMissingRecovery_spec hclaim
      refine putRow_goto_moves _ hx hrole (.inr (.inl rfl)) ?_
      rw [hview]
      exact .single (.lease op.view _ (by simp [hrow]) hstate)
    next => exact goto_moves _ hx hrole (.inr (.inl rfl))
  · -- recordBlocked
    have hrole : x.stage.role = some .idle := by rw [hstage]; rfl
    split at hs <;> injection hs with hs <;> subst hs
    next op' hblocked =>
      obtain ⟨hstate, hview⟩ := recordPreparationRecoveryBlocked_spec hblocked
      refine putRow_goto_moves _ hx hrole (.inl rfl) ?_
      rw [hview]
      exact .single (.lease op.view _ (by simp [hrow]) hstate)
    next => exact goto_moves _ hx hrole (.inl rfl)
  · -- reopen
    injection hs with hs
    subst hs
    exact reopenStep_moves hx (by rw [hstage]; rfl) hrow
  · cases hs

theorem localStep_moves {stage : Stage} {input : Input} (hx : s.callers c = some x)
    (hstage : x.stage = stage)
    (hlicence : strict → ∀ result, input = .post result →
      Protocol.releasedSinceMark c s.log = false)
    (hs : localStep s c x stage input = some t) : Moves strict s.view t.view := by
  unfold localStep at hs
  split at hs
  · -- ensure
    injection hs with hs
    subst hs
    have hrole : x.stage.role = some .idle := by rw [hstage]; rfl
    exact ensureStep_moves hx hrole
  · -- readBack
    injection hs with hs
    subst hs
    simp only [State.returnRow]
    have hrole : x.stage.role = some .idle := by rw [hstage]; rfl
    split <;> exact goto_moves _ hx hrole (.inl rfl)
  · -- readConfidence
    have hrole : x.stage.role = some .claimed := by rw [hstage]; rfl
    dsimp only at hs
    split at hs <;> injection hs with hs <;> subst hs <;>
      exact goto_moves _ hx hrole (.inr (.inr rfl))
  · -- setupProvider
    have hrole : x.stage.role = some .claimed := by rw [hstage]; rfl
    split at hs <;> injection hs with hs <;> subst hs <;>
      exact goto_moves _ hx hrole (.inr (.inr rfl))
  · -- readUnmarked
    injection hs with hs
    subst hs
    have hrole : x.stage.role = some .idle := by rw [hstage]; rfl
    exact goto_moves _ hx hrole (.inl rfl)
  · -- readUnrecovered
    injection hs with hs
    subst hs
    have hrole : x.stage.role = some .idle := by rw [hstage]; rfl
    exact goto_moves _ hx hrole (.inl rfl)
  · -- provider
    have hrole : x.stage.role = some .posting := by rw [hstage]; rfl
    rcases providerStep_cases hs with
      ⟨maxAttempts, result, -, hinput, rfl⟩ | ⟨outcome, -, rfl⟩
    · exact postStep_moves hx hrole fun hst => hlicence hst result hinput
    · exact settle_moves outcome hx hrole
  · -- prepare, ready
    injection hs with hs
    subst hs
    have hrole : x.stage.role = some .idle := by rw [hstage]; rfl
    exact goto_moves _ hx hrole (.inr (.inl rfl))
  · -- prepare, not ready
    injection hs with hs
    subst hs
    have hrole : x.stage.role = some .idle := by rw [hstage]; rfl
    exact goto_moves _ hx hrole (.inr (.inl rfl))
  · cases hs

/-- A manual call that changes the row was not refused. -/
theorem recordReconciliation_spec {op' : Operation} {now : Timestamp}
    {call : CheckedReconciliation} {keyElsewhere : Bool} {audits : List ReconciliationAudit}
    {audit : ReconciliationAudit}
    (h : recordReconciliation now call keyElsewhere audits op = .ok (op', some audit)) :
    op' = applyReconciliation now call op ∧ reconciliationRefused call.act op = none := by
  simp only [recordReconciliation] at h
  split at h
  next => cases h
  next =>
    split at h
    next => cases h
    next =>
      split at h
      next => cases h
      next hrefused =>
        injection h with h
        injection h with hop _
        exact ⟨hop.symm, hrefused⟩

/-- Only an identifier that the row already has is recorded twice. -/
theorem recordSolid_allowed {solid : SolId}
    (h : reconciliationRefused (.recordSolid solid) op = none) :
    op.state = .reconciliationRequired ∨ (op.state = .completed ∧ op.solId = some solid.val) := by
  simp only [reconciliationRefused] at h
  by_cases hrc : op.state = .reconciliationRequired
  · exact .inl hrc
  · by_cases hcomp : op.state = .completed
    · refine .inr ⟨hcomp, ?_⟩
      by_contra hne
      simp [hcomp, hne] at h
    · simp [hrc, hcomp] at h

theorem releaseRetry_allowed (h : reconciliationRefused .releaseRetry op = none) :
    op.state = .reconciliationRequired := by
  by_contra hne
  simp [reconciliationRefused, hne] at h

/-- A manual call records, releases, or changes nothing. -/
theorem manualCall_moves (s : State) (now : Timestamp) (call : ReconciliationCall)
    (keyElsewhere : Bool) : Moves strict s.view (manualCall s now call keyElsewhere).view := by
  unfold manualCall
  split
  next => exact .refl
  next op hrow =>
    split
    next => exact .refl
    next checked _ =>
      simp only [manualStep]
      split
      next => exact .refl
      next => exact .refl
      next op' audit hrec =>
        obtain ⟨rfl, hallowed⟩ := recordReconciliation_spec hrec
        cases hact : checked.act with
        | recordSolid solid =>
            rw [hact] at hallowed
            simp only [applyReconciliation, hact]
            exact .single (Move.record op.view solid.val (by simp [hrow])
              (recordSolid_allowed hallowed))
        | releaseRetry =>
            rw [hact] at hallowed
            simp only [applyReconciliation, hact]
            exact .single (Move.release op.view (by simp [hrow]) (releaseRetry_allowed hallowed))

/-- The owner of a new call is not the owner of a live one. -/
def distinctOwners (s : State) : Action → Prop
  | .create _ owner _ | .recover _ owner _ =>
      ∀ d x, s.callers d = some x → x.stage.live = true → x.owner ≠ claimOwner owner
  | _ => True

/-- A POST is sent only while no release was committed since the sender's own
    post-start mark. -/
def licensed (s : State) : Action → Prop
  | .advance c (.post _) => Protocol.releasedSinceMark c s.log = false
  | _ => True

theorem arrive_moves {owner : String} {provider : Provider} {stage : Stage}
    (hidle : stage.role = some .idle)
    (hdistinct : strict → ∀ d x, s.callers d = some x → x.stage.live = true →
      x.owner ≠ claimOwner owner)
    (hs : arrive s c owner provider stage = some t) : Moves strict s.view t.view := by
  obtain ⟨hnone, rfl⟩ := arrive_spec hs
  rw [view_goto, hidle]
  refine .single (Move.enter c (claimOwner owner) (by simp [State.view, hnone]) ?_)
  intro hstrict d call hcall
  simp only [State.view, Option.bind_eq_some_iff] at hcall
  obtain ⟨x, hx, hcall⟩ := hcall
  simp only [Caller.call, Option.map_eq_some_iff] at hcall
  obtain ⟨role, hrole, rfl⟩ := hcall
  exact hdistinct hstrict d x hx (by rw [Stage.live_iff, hrole]; rfl)

/-- **One action of the machine is a sequence of protocol moves**; under the
    two run conditions, of strict ones. -/
theorem step_moves {a : Action} (hbuilt : s.OutcomesBuilt)
    (hstrict : strict → distinctOwners s a ∧ licensed s a) (hs : step s a = some t) :
    Moves strict s.view t.view := by
  cases a with
  | create c owner provider => exact arrive_moves rfl (fun h => (hstrict h).1) hs
  | recover c owner provider => exact arrive_moves rfl (fun h => (hstrict h).1) hs
  | manual now call keyElsewhere =>
      simp only [step, Option.some.injEq] at hs
      subst hs
      exact manualCall_moves s now call keyElsewhere
  | crash c =>
      obtain ⟨x, hx, hlive, rfl⟩ := crashStep_spec hs
      rw [Stage.live_iff, Option.isSome_iff_exists] at hlive
      obtain ⟨role, hrole⟩ := hlive
      exact goto_moves _ hx hrole (.inl rfl)
  | advance c input =>
      simp only [step, Option.bind_eq_some_iff] at hs
      obtain ⟨x, hx, hs⟩ := hs
      rcases advanceStep_cases hs with ⟨op, hrow, hs⟩ | ⟨hstage, rfl⟩ | hs
      · exact rowStep_moves hbuilt hx rfl hrow hs
      · have hrole : x.stage.role = some .idle := by rw [hstage]; rfl
        exact goto_moves _ hx hrole (.inr (.inl rfl))
      · refine localStep_moves hx rfl ?_ hs
        rintro hst result rfl
        exact (hstrict hst).2

/-- **Refinement**: a run of the machine is a sequence of protocol moves. -/
theorem run_moves {ok : State → Action → Prop}
    (hstrict : strict → ∀ s a, ok s a → distinctOwners s a ∧ licensed s a)
    (hreach : requestMachine.ReachableWhere ok s) (hrun : requestMachine.RunWhere ok s t) :
    Moves strict s.view t.view := by
  induction hrun with
  | refl => exact .refl
  | tail hprev hlast ih =>
      obtain ⟨a, hok, hs⟩ := hlast
      exact ih.trans (step_moves (reachable_built (hreach.run hprev))
        (fun h => hstrict h _ a hok) hs)

/-- The view of a reachable state is reached by moves from nothing. -/
theorem reachable_moves {ok : State → Action → Prop}
    (hstrict : strict → ∀ s a, ok s a → distinctOwners s a ∧ licensed s a)
    (h : requestMachine.ReachableWhere ok s) : Moves strict Config.empty s.view := by
  obtain ⟨s₀, hinit, hrun⟩ := h
  have h₀ : s₀ = State.empty := hinit
  subst h₀
  exact run_moves hstrict (.init rfl) hrun

end Cai.Request
