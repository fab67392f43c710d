/-
  Cai.Request.Targets — where a POST goes.

  The company and the department of a payload are those of the operation
  row, and the row has them from the facts it was inserted or reopened
  with.  `Held` says that both only ever name targets of a given relation
  `T`, and that a call that may post has marked (`M`).

  Main result: `Held.step`.
-/
import Cai.Request.Refinement

namespace Cai.Request

open Cai.Lib
open Cai.Cycle (Timestamp)

/-! ## §1. What is held. -/

/-- The payload that a call has loaded. -/
def Stage.payload : Stage → Option RequestPayload
  | .readConfidence p | .refreshMetadata p _ | .setupProvider p | .markPostStarted p
  | .provider p _ => some p
  | _ => none

/-- The call may post. -/
def Stage.posting : Stage → Bool
  | .provider _ _ => true
  | _ => false

variable {T : String → String → Prop} {M M' : CallerId → Prop} {s t : State} {c : CallerId}
  {x : Caller} {op op' : Operation} {now : Timestamp}

/-- The row names a target of `T`, if it names one. -/
def RowIn (T : String → String → Prop) (op : Operation) : Prop :=
  ∀ company department, op.companyExternalId = some company →
    op.departmentExternalId = some department → T company department

/-- A stage with a payload for a target of `T`, of a call that has marked if it may post. -/
structure StageIn (T : String → String → Prop) (marked : Prop) (stage : Stage) : Prop where
  payload : ∀ p, stage.payload = some p → T p.company p.department
  posting : stage.posting = true → marked

/-- **The invariant**: rows and payloads name targets of `T`, and who may post has marked. -/
structure Held (T : String → String → Prop) (M : CallerId → Prop) (s : State) : Prop where
  row : ∀ op, s.row = some op → RowIn T op
  callers : ∀ c x, s.callers c = some x → StageIn T (M c) x.stage

/-- The facts of an input lead to targets of `T`. -/
def Input.leadsTo (T : String → String → Prop) : Input → Prop
  | .ensure _ _ f | .facts _ f => ∀ cycle opFacts payload,
      operationState f cycle = .ok (opFacts, payload) →
        T opFacts.companyExternalId opFacts.departmentExternalId
  | _ => True

/-- A stage without a payload. -/
theorem StageIn.empty {marked : Prop} {stage : Stage} (h : stage.payload = none)
    (hposting : stage.posting = false) : StageIn T marked stage where
  payload := fun p hp => by rw [h] at hp; cases hp
  posting := fun hp => by rw [hposting] at hp; cases hp

/-- A stage with a payload, before the mark. -/
theorem StageIn.unmarked {marked : Prop} {stage : Stage} {p : RequestPayload}
    (h : stage.payload = some p) (hp : T p.company p.department)
    (hposting : stage.posting = false) : StageIn T marked stage where
  payload := fun q hq => by
    obtain rfl : p = q := Option.some.inj (h.symm.trans hq)
    exact hp
  posting := fun hq => by rw [hposting] at hq; cases hq

theorem StageIn.mono {marked marked' : Prop} {stage : Stage} (h : StageIn T marked stage)
    (hm : marked → marked') : StageIn T marked' stage :=
  ⟨h.payload, fun hp => hm (h.posting hp)⟩

theorem Held.mono {T' : String → String → Prop} (h : Held T M s)
    (hT : ∀ company department, T company department → T' company department)
    (hM : ∀ c, M c → M' c) : Held T' M' s where
  row := fun op hop company department hcompany hdepartment =>
    hT company department (h.row op hop company department hcompany hdepartment)
  callers := fun c x hx =>
    ⟨fun p hp => hT _ _ ((h.callers c x hx).payload p hp),
      fun hp => hM c ((h.callers c x hx).posting hp)⟩

/-! ## §2. The statements. -/

/-- The statement leaves the target of the row alone. -/
def SameTarget (op op' : Operation) : Prop :=
  op'.companyExternalId = op.companyExternalId ∧ op'.departmentExternalId = op.departmentExternalId

theorem RowIn.same (h : RowIn T op) (hsame : SameTarget op op') : RowIn T op' := by
  intro company department hcompany hdepartment
  rw [hsame.1] at hcompany
  rw [hsame.2] at hdepartment
  exact h company department hcompany hdepartment

theorem claimOperation_target (now : Timestamp) (owner : String) (seconds : Nat) (op : Operation) :
    SameTarget op (claimOperation now owner seconds op).1 := by
  have hrecover : SameTarget op (recoverStaleClaim now op) := by
    unfold recoverStaleClaim
    split
    next => split <;> exact ⟨rfl, rfl⟩
    next => exact ⟨rfl, rfl⟩
  unfold claimOperation
  simp only
  split
  next => exact hrecover
  next => exact hrecover

theorem markPostStarted_target (now : Timestamp) (owner : String) (value : ConfidenceValue)
    (op : Operation) : SameTarget op (markPostStarted now owner value op).1 := by
  unfold markPostStarted
  split
  next =>
    simp only
    split
    next =>
      unfold finishConfidenceBlocked
      split <;> exact ⟨rfl, rfl⟩
    next => exact ⟨rfl, rfl⟩
  next => exact ⟨rfl, rfl⟩

theorem finishConfidenceBlocked_target (now : Timestamp) (owner : String)
    (decision : ConfidenceDecision) (op : Operation) :
    SameTarget op ((finishConfidenceBlocked now owner decision op).getD op) := by
  unfold finishConfidenceBlocked
  split <;> exact ⟨rfl, rfl⟩

theorem refreshPayloadMetadata_target (now : Timestamp) (owner : String) (payload : RequestPayload)
    (decision : ConfidenceDecision) (op : Operation) :
    SameTarget op ((refreshPayloadMetadata now owner payload decision op).getD op) := by
  unfold refreshPayloadMetadata
  split <;> exact ⟨rfl, rfl⟩

theorem finishOperation_target {owner : String} {outcome : RequestOutcome}
    (h : finishOperation now owner outcome op = some op') : SameTarget op op' := by
  unfold finishOperation at h
  split at h
  next => injection h with h; rw [← h]; exact ⟨rfl, rfl⟩
  next => cases h

theorem claimMappingMissingRecovery_target {clock : Timestamp} {owner : String} {seconds : Nat}
    (h : claimMappingMissingRecovery now clock owner seconds op = some op') : SameTarget op op' := by
  unfold claimMappingMissingRecovery at h
  split at h
  next => cases h
  next =>
    split at h
    next => cases h
    next => injection h with h; rw [← h]; exact ⟨rfl, rfl⟩

theorem recordPreparationRecoveryBlocked_target {owner stage reason : String}
    (h : recordPreparationRecoveryBlocked now owner stage reason op = some op') :
    SameTarget op op' := by
  unfold recordPreparationRecoveryBlocked at h
  split at h
  next => injection h with h; rw [← h]; exact ⟨rfl, rfl⟩
  next => cases h

theorem applyReconciliation_target (now : Timestamp) (call : CheckedReconciliation)
    (op : Operation) : SameTarget op (applyReconciliation now call op) := by
  unfold applyReconciliation
  simp only
  split <;> exact ⟨rfl, rfl⟩

/-- The row that is inserted names the target of its facts. -/
theorem newOperation_rowIn {id : Nat} {facts : RequestFacts} {cycle : CycleSnapshot}
    (h : ∀ opFacts payload, operationState facts cycle = .ok (opFacts, payload) →
      T opFacts.companyExternalId opFacts.departmentExternalId) :
    RowIn T (newOperation now id facts cycle) := by
  unfold newOperation
  simp only
  split
  next =>
    intro company department hcompany
    cases hcompany
  next opFacts payload hstate =>
    intro company department hcompany hdepartment
    obtain rfl := Option.some.inj hcompany
    obtain rfl := Option.some.inj hdepartment
    exact h opFacts payload hstate

/-- The row that is reopened names the target of its facts. -/
theorem reopenPreparedOperation_rowIn {owner : String} {opFacts : OperationFacts}
    {payload : RequestPayload} (hT : T opFacts.companyExternalId opFacts.departmentExternalId)
    (h : reopenPreparedOperation now owner opFacts payload op = some op') : RowIn T op' := by
  unfold reopenPreparedOperation at h
  split at h
  next =>
    injection h with h
    rw [← h]
    intro company department hcompany hdepartment
    obtain rfl := Option.some.inj hcompany
    obtain rfl := Option.some.inj hdepartment
    exact hT
  next => cases h

/-- A payload has the target of its arguments, without the spaces around it. -/
theorem buildRequestPayload_target {title description protocol : Option String}
    {company department : String} {payload : RequestPayload}
    (h : buildRequestPayload title description protocol company department = .ok payload) :
    payload.company = Text.strip company ∧ payload.department = Text.strip department := by
  unfold buildRequestPayload at h
  split at h
  next => cases h
  next =>
    split at h
    next => cases h
    next =>
      split at h
      next => cases h
      next =>
        simp only at h
        -- the subject does not matter
        generalize Text.slice 100 _ = subject at h
        split at h
        next => cases h
        next =>
          split at h
          next => cases h
          next =>
            split at h
            next => cases h
            next =>
              injection h with h
              rw [← h]
              exact ⟨rfl, rfl⟩

/-- A payload that is loaded has the target of its row. -/
theorem loadPayload_target (hstrip : ∀ company department, T company department →
      T (Text.strip company) (Text.strip department)) (hrow : RowIn T op)
    {found : Option Classification} {payload : RequestPayload}
    (h : loadPayload found op = some payload) : T payload.company payload.department := by
  unfold loadPayload at h
  split at h
  next row company department hcompany hdepartment =>
    cases hbuild : buildRequestPayload row.title row.description row.protocol company department with
    | error e => rw [hbuild] at h; cases h
    | ok built =>
        rw [hbuild] at h
        obtain rfl := Option.some.inj h
        obtain ⟨htarget, htarget'⟩ := buildRequestPayload_target hbuild
        rw [htarget, htarget']
        exact hstrip company department (hrow company department hcompany hdepartment)
  next => cases h

/-! ## §3. The steps of a call. -/

/-- The step moves call `c` to a stage that may be held, and leaves a row of `T`. -/
def MovesIn (T : String → String → Prop) (marked : Prop) (s : State) (c : CallerId) (x : Caller)
    (t : State) : Prop :=
  ∃ stage : Stage, StageIn T marked stage ∧ t.callers = (s.goto c x stage).callers
    ∧ ∀ op, t.row = some op → RowIn T op

theorem goto_movesIn {marked : Prop} {u : State} {stage : Stage} (hu : u.callers = s.callers)
    (hrow : ∀ op, u.row = some op → RowIn T op) (hstage : StageIn T marked stage) :
    MovesIn T marked s c x (u.goto c x stage) :=
  ⟨stage, hstage, by simp only [State.goto, hu], hrow⟩

/-- The same, after a statement that left the row in `T`. -/
theorem putRow_movesIn {marked : Prop} {stage : Stage} (hop : RowIn T op)
    (hstage : StageIn T marked stage) : MovesIn T marked s c x ((s.putRow op).goto c x stage) := by
  refine goto_movesIn rfl (fun op' hop' => ?_) hstage
  obtain rfl : op = op' := Option.some.inj hop'
  exact hop

theorem finishStep_movesIn {marked : Prop} {outcome : RequestOutcome} (hrow : s.row = some op)
    (hop : RowIn T op) : MovesIn T marked s c x (finishStep s c x now outcome op) := by
  have hsame : ∀ op', s.row = some op' → RowIn T op' := by
    intro op' hop'
    obtain rfl : op = op' := Option.some.inj (hrow.symm.trans hop')
    exact hop
  unfold finishStep
  split
  next => exact goto_movesIn rfl hsame (.empty rfl rfl)
  next =>
    split
    next op' hfinish =>
      refine goto_movesIn rfl (fun op'' hop'' => ?_) (.empty rfl rfl)
      obtain rfl : op' = op'' := Option.some.inj hop''
      exact hop.same (finishOperation_target hfinish)
    next => exact goto_movesIn rfl hsame (.empty rfl rfl)

theorem claimStep_movesIn {marked : Prop} {leaseSeconds : Nat} (hop : RowIn T op) :
    MovesIn T marked s c x (claimStep s c x now leaseSeconds op) := by
  have hclaimed : RowIn T (claimOperation now x.owner leaseSeconds op).1 :=
    hop.same (claimOperation_target now x.owner leaseSeconds op)
  unfold claimStep
  simp only
  split
  next => exact putRow_movesIn hclaimed (.empty rfl rfl)
  next => exact putRow_movesIn hclaimed (.empty rfl rfl)

/-- Whether a step of a stage sets the post-start mark with an allowed confidence. -/
def Marks (s t : State) (c : CallerId) (input : Input) : Prop :=
  ∃ x payload now value, s.callers c = some x ∧ x.stage = .markPostStarted payload
    ∧ input = .confidence now value ∧ (evaluateRequestConfidence value).state = .allowed
    ∧ t.log ≠ s.log

/-- The mark is only granted to an allowed confidence. -/
theorem markPostStarted_allowed {owner : String} {value : ConfidenceValue}
    (h : (markPostStarted now owner value op).2 = true) :
    (evaluateRequestConfidence value).state = .allowed := by
  unfold markPostStarted at h
  split at h
  next =>
    simp only at h
    split at h
    next => cases h
    next hallowed => exact not_not.mp hallowed
  next => cases h

theorem markStep_movesIn {payload : RequestPayload} {value : ConfidenceValue}
    (hx : s.callers c = some x) (hstage : x.stage = .markPostStarted payload) (hop : RowIn T op)
    (hpayload : T payload.company payload.department) :
    MovesIn T (Marks s (markStep s c x now value payload op) c (.confidence now value)) s c x
      (markStep s c x now value payload op) := by
  have hmarked : RowIn T (markPostStarted now x.owner value op).1 :=
    hop.same (markPostStarted_target now x.owner value op)
  by_cases hstarted : (markPostStarted now x.owner value op).2 = true
  · have hstep : markStep s c x now value payload op
        = ((s.putRow (markPostStarted now x.owner value op).1).record (.marked c x.owner)).goto c x
          (.provider payload 1) := by
      unfold markStep
      simp only [hstarted, if_true]
    rw [hstep]
    refine goto_movesIn rfl (fun op' hop' => ?_) ⟨fun p hp => ?_, fun _ => ?_⟩
    · obtain rfl := Option.some.inj hop'
      exact hmarked
    · obtain rfl := Option.some.inj hp
      exact hpayload
    · refine ⟨x, payload, now, value, hx, hstage, rfl, markPostStarted_allowed hstarted, ?_⟩
      exact List.cons_ne_self _ _
  · have hstep : markStep s c x now value payload op
        = (s.putRow (markPostStarted now x.owner value op).1).goto c x .readUnmarked := by
      unfold markStep
      simp only [hstarted, Bool.false_eq_true, if_false]
    rw [hstep]
    exact putRow_movesIn hmarked (.empty rfl rfl)

theorem rowStep_movesIn (hstrip : ∀ company department, T company department →
      T (Text.strip company) (Text.strip department)) {input : Input}
    (hinput : input.leadsTo T) (hx : s.callers c = some x) (hrow : s.row = some op)
    (hop : RowIn T op) (hpayload : ∀ p, x.stage.payload = some p → T p.company p.department)
    (hs : rowStep s c x op x.stage input = some t) :
    MovesIn T (Marks s t c input) s c x t := by
  have hsame : ∀ op', s.row = some op' → RowIn T op' := by
    intro op' hop'
    obtain rfl : op = op' := Option.some.inj (hrow.symm.trans hop')
    exact hop
  generalize hstage : x.stage = stage at hs
  unfold rowStep at hs
  split at hs
  · -- claim
    obtain rfl := Option.some.inj hs
    exact claimStep_movesIn hop
  · -- loadPayload
    split at hs
    next =>
      obtain rfl := Option.some.inj hs
      exact goto_movesIn rfl hsame (.empty rfl rfl)
    next payload hload =>
      obtain rfl := Option.some.inj hs
      exact goto_movesIn rfl hsame (.unmarked rfl (loadPayload_target hstrip hop hload) rfl)
  · -- finishUnsent
    obtain rfl := Option.some.inj hs
    exact finishStep_movesIn hrow hop
  · -- finishBlocked
    obtain rfl := Option.some.inj hs
    exact putRow_movesIn (hop.same (finishConfidenceBlocked_target _ _ _ op)) (.empty rfl rfl)
  · -- refreshMetadata
    obtain rfl := Option.some.inj hs
    exact putRow_movesIn (hop.same (refreshPayloadMetadata_target _ _ _ _ op))
      (.unmarked rfl (hpayload _ (by rw [hstage]; rfl)) rfl)
  · -- markPostStarted
    obtain rfl := Option.some.inj hs
    exact markStep_movesIn hx hstage hop (hpayload _ (by rw [hstage]; rfl))
  · -- finish
    obtain rfl := Option.some.inj hs
    exact finishStep_movesIn hrow hop
  · -- claimRecovery
    split at hs
    next op' hclaim =>
      obtain rfl := Option.some.inj hs
      exact putRow_movesIn (hop.same (claimMappingMissingRecovery_target hclaim)) (.empty rfl rfl)
    next =>
      obtain rfl := Option.some.inj hs
      exact goto_movesIn rfl hsame (.empty rfl rfl)
  · -- recordBlocked
    split at hs
    next op' hblocked =>
      obtain rfl := Option.some.inj hs
      exact putRow_movesIn (hop.same (recordPreparationRecoveryBlocked_target hblocked))
        (.empty rfl rfl)
    next =>
      obtain rfl := Option.some.inj hs
      exact goto_movesIn rfl hsame (.empty rfl rfl)
  · -- reopen
    obtain rfl := Option.some.inj hs
    unfold reopenStep
    split
    next => exact goto_movesIn rfl hsame (.empty rfl rfl)
    next cycle _ =>
      split
      next => exact goto_movesIn rfl hsame (.empty rfl rfl)
      next opFacts payload hstate =>
        split
        next op' hreopen =>
          exact putRow_movesIn (reopenPreparedOperation_rowIn (hinput cycle opFacts payload hstate)
            hreopen) (.empty rfl rfl)
        next => exact goto_movesIn rfl hsame (.empty rfl rfl)
  · cases hs

theorem localStep_movesIn {input : Input} (hinput : input.leadsTo T)
    (hrow : ∀ op, s.row = some op → RowIn T op) {marked : Prop}
    (hx : StageIn T marked x.stage) (hs : localStep s c x x.stage input = some t) :
    MovesIn T marked s c x t := by
  have hreturn : MovesIn T marked s c x (s.returnRow c x) := by
    unfold State.returnRow
    split
    next => exact goto_movesIn rfl hrow (.empty rfl rfl)
    next => exact goto_movesIn rfl hrow (.empty rfl rfl)
  generalize hstage : x.stage = stage at hs hx
  unfold localStep at hs
  split at hs
  · -- ensure
    obtain rfl := Option.some.inj hs
    unfold ensureStep
    split
    next => exact goto_movesIn rfl hrow (.empty rfl rfl)
    next op hensure =>
      have hop : RowIn T op := by
        unfold ensureOperation at hensure
        obtain ⟨cycle, -, rfl⟩ := Option.map_eq_some_iff.mp hensure
        cases hold : s.row with
        | some old => exact hrow old hold
        | none => exact newOperation_rowIn (hinput cycle)
      simp only
      split
      next => exact putRow_movesIn hop (.empty rfl rfl)
      next => exact putRow_movesIn hop (.empty rfl rfl)
  · -- readBack
    obtain rfl := Option.some.inj hs
    exact hreturn
  · -- readConfidence
    simp only at hs
    split at hs
    next =>
      obtain rfl := Option.some.inj hs
      exact goto_movesIn rfl hrow (.empty rfl rfl)
    next =>
      obtain rfl := Option.some.inj hs
      exact goto_movesIn rfl hrow (.unmarked rfl (hx.payload _ rfl) rfl)
  · -- setupProvider
    split at hs
    next =>
      obtain rfl := Option.some.inj hs
      exact goto_movesIn rfl hrow (.unmarked rfl (hx.payload _ rfl) rfl)
    next =>
      obtain rfl := Option.some.inj hs
      exact goto_movesIn rfl hrow (.empty rfl rfl)
  · -- readUnmarked
    obtain rfl := Option.some.inj hs
    exact goto_movesIn rfl hrow (.empty rfl rfl)
  · -- readUnrecovered
    obtain rfl := Option.some.inj hs
    exact goto_movesIn rfl hrow (.empty rfl rfl)
  · -- provider
    rcases providerStep_cases hs with ⟨maxAttempts, result, -, -, rfl⟩ | ⟨outcome, -, rfl⟩
    · unfold postStep
      simp only
      split
      next => exact goto_movesIn rfl hrow ⟨hx.payload, fun _ => hx.posting rfl⟩
      next => exact goto_movesIn rfl hrow (.empty rfl rfl)
    · exact goto_movesIn rfl hrow (.empty rfl rfl)
  · -- prepare
    obtain rfl := Option.some.inj hs
    exact goto_movesIn rfl hrow (.empty rfl rfl)
  · -- prepare
    obtain rfl := Option.some.inj hs
    exact goto_movesIn rfl hrow (.empty rfl rfl)
  · cases hs

theorem MovesIn.mono {marked marked' : Prop} (h : MovesIn T marked s c x t)
    (hm : marked → marked') : MovesIn T marked' s c x t := by
  obtain ⟨stage, hstage, hcallers, hrow⟩ := h
  exact ⟨stage, hstage.mono hm, hcallers, hrow⟩

/-- A call that moves so keeps what is held. -/
theorem MovesIn.held (h : Held T M s) (hmoves : MovesIn T (M' c) s c x t)
    (hmono : ∀ d, M d → M' d) : Held T M' t := by
  obtain ⟨stage, hstage, hcallers, hrow⟩ := hmoves
  refine ⟨hrow, fun d y hy => ?_⟩
  rw [hcallers] at hy
  by_cases hdc : d = c
  · subst hdc
    simp only [State.goto, Function.update_self, Option.some.injEq] at hy
    rw [← hy]
    exact hstage
  · simp only [State.goto, Function.update_of_ne hdc] at hy
    exact (h.callers d y hy).mono (hmono d)

/-! ## §4. One action. -/

/-- The inputs of an action lead to targets of `T`. -/
def Action.leadsTo (T : String → String → Prop) : Action → Prop
  | .advance _ input => input.leadsTo T
  | _ => True

theorem manualCall_rowIn {call : ReconciliationCall} {keyElsewhere : Bool}
    (hrow : ∀ op, s.row = some op → RowIn T op) :
    ∀ op, (manualCall s now call keyElsewhere).row = some op → RowIn T op := by
  unfold manualCall
  split
  next => exact hrow
  next op hop =>
    split
    next => exact hrow
    next checked _ =>
      unfold manualStep
      split
      next => exact hrow
      next => exact hrow
      next op' audit hrecord =>
        intro op'' hop''
        obtain rfl : op' = op'' := Option.some.inj hop''
        unfold recordReconciliation at hrecord
        split at hrecord
        next => cases hrecord
        next =>
          split at hrecord
          next => cases hrecord
          next =>
            split at hrecord
            next => cases hrecord
            next =>
              obtain ⟨rfl, -⟩ := Prod.mk.inj (Except.ok.inj hrecord)
              exact (hrow op hop).same (applyReconciliation_target now checked op)

/-- **One action keeps what is held**; the calls that have marked are those of
    before and the one that marks. -/
theorem Held.step (h : Held T M s) (hstrip : ∀ company department, T company department →
      T (Text.strip company) (Text.strip department)) {a : Action} (ha : a.leadsTo T)
    (hmono : ∀ d, M d → M' d)
    (hmarks : ∀ d input, a = .advance d input → Marks s t d input → M' d)
    (hs : step s a = some t) : Held T M' t := by
  cases a with
  | create c owner provider | recover c owner provider =>
      obtain ⟨-, rfl⟩ := arrive_spec hs
      exact (goto_movesIn rfl h.row (.empty rfl rfl)).held h hmono
  | manual now call keyElsewhere =>
      obtain rfl := Option.some.inj hs
      refine ⟨manualCall_rowIn h.row, fun d y hy => ?_⟩
      rw [manualCall_callers] at hy
      exact (h.callers d y hy).mono (hmono d)
  | crash c =>
      obtain ⟨x, -, -, rfl⟩ := crashStep_spec hs
      exact (goto_movesIn rfl h.row (.empty rfl rfl)).held h hmono
  | advance c input =>
      obtain ⟨x, hx, hadvance⟩ := Option.bind_eq_some_iff.mp hs
      have hstage : StageIn T (M c) x.stage := h.callers c x hx
      rcases advanceStep_cases hadvance with ⟨op, hop, hrow⟩ | ⟨-, rfl⟩ | hlocal
      · have hmoves : MovesIn T (Marks s t c input) s c x t :=
          rowStep_movesIn hstrip ha hx hop (h.row op hop) hstage.payload hrow
        exact (hmoves.mono (hmarks c input rfl)).held h hmono
      · exact (goto_movesIn rfl h.row (.empty rfl rfl)).held h hmono
      · exact ((localStep_movesIn ha h.row hstage hlocal).mono (hmono c)).held h hmono

end Cai.Request
