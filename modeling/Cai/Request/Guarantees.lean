/-
  Cai.Request.Guarantees — what the Request machine guarantees.

    * `request_record_sound` — the record never forgets or invents an
      outcome, in any interleaving of any calls.
    * `posts_separated` — no two unsanctioned POSTs, while every POST is
      sent under an unreleased mark; `posts_not_separated` shows the run
      that breaks the rule without that condition.
    * `create_leaves_dead_claim` — a new call never recovers a claim whose
      lease has run out.
-/
import Cai.Request.Refinement

namespace Cai.Request

open Cai.Lib
open Cai.Cycle (Timestamp)
open Protocol (claimCount markCount openMark unsafePost isRelease isPost)

/-! ## §1. The record. -/

/-- What a Request record tells about its history and keeps for its future. -/
structure RecordSound (s : State) : Prop where
  /-- `completed` exactly with an identifier. -/
  completed_iff : ∀ op, s.row = some op → (op.state = .completed ↔ op.solId.isSome = true)
  /-- `attempt_count` counts the committed post-start marks. -/
  attempts : ∀ op, s.row = some op → op.attemptCount = markCount s.log
  /-- While the latest mark is open, the outcome is unknown to the record. -/
  unresolved : ∀ mark, openMark s.log = some mark → ∃ op, s.row = some op
    ∧ (op.state = .attempting ∨ op.state = .reconciliationRequired)
  /-- A completed outcome is final. -/
  final : ∀ t, requestMachine.RunWhere Machine.anyStep s t → ∀ op, s.row = some op →
    op.state = .completed → ∃ op', t.row = some op' ∧ op'.state = .completed
      ∧ op'.solId = op.solId
  /-- A started POST is never forgotten. -/
  started : ∀ t, requestMachine.RunWhere Machine.anyStep s t → ∀ op, s.row = some op →
    op.postStartedAt.isSome = true → ∃ op', t.row = some op' ∧ op'.postStartedAt.isSome = true

/-- **A Request record never forgets or invents an outcome**, in any
    interleaving of any calls, whoever owns them. -/
theorem request_record_sound {s : State} (hreach : requestMachine.Reachable s) :
    RecordSound s := by
  have hledger : Protocol.Ledger s.view :=
    Protocol.Moves.invariant
      (show Protocol.Moves False _ _ from reachable_moves (fun h => h.elim) hreach)
      Protocol.Ledger.empty fun _ _ h hm => h.move hm
  have hlater : ∀ t, requestMachine.RunWhere Machine.anyStep s t → ∀ op, s.row = some op →
      ∃ op', t.row = some op' ∧ Protocol.RowKept op.view op'.view := by
    intro t hrun op hrow
    have hmoves : Protocol.Moves False s.view t.view := run_moves (fun h => h.elim) hreach hrun
    obtain ⟨r, hrow', hkept⟩ := hmoves.rowKept (r := op.view) (by simp [hrow])
    simp only [view_row, Option.map_eq_some_iff] at hrow'
    obtain ⟨op', hop', rfl⟩ := hrow'
    exact ⟨op', hop', hkept⟩
  refine ⟨?_, ?_, ?_, ?_, ?_⟩
  · intro op hrow
    exact hledger.sol_iff op.view (by simp [hrow])
  · intro op hrow
    exact hledger.attempts_eq op.view (by simp [hrow])
  · intro mark hopen
    obtain ⟨r, hrow, -, hstate⟩ := hledger.open_mark mark hopen
    simp only [view_row, Option.map_eq_some_iff] at hrow
    obtain ⟨op, hop, rfl⟩ := hrow
    rcases hstate with hst | ⟨hst, -⟩
    · exact ⟨op, hop, .inr hst⟩
    · exact ⟨op, hop, .inl hst⟩
  · intro t hrun op hrow hcompleted
    obtain ⟨op', hop', hkept⟩ := hlater t hrun op hrow
    exact ⟨op', hop', hkept.completed hcompleted⟩
  · intro t hrun op hrow hstarted
    obtain ⟨op', hop', hkept⟩ := hlater t hrun op hrow
    exact ⟨op', hop', hkept.started hstarted⟩

/-- A cycle that is ready for its Request. -/
def readyFacts : RequestFacts where
  cycle := some
    { id := 1, conversationId := "conversation", status := .completed, classificationId := some 9
      protocol := some "2024", confidence := .number (9 / 10)
      title := some "Titulo", description := some "Descricao" }
  mapping := some
    { id := 4, state := "resolved", reason := none, companyId := some 3
      acessoriasDepartmentExternalId := some "7" }
  companyExternalId := some "C1"
  relationship := true

/-- The classification of `readyFacts`. -/
def readyClassification : Classification := ⟨some "2024", some "Titulo", some "Descricao"⟩

/-- The steps of a call from its claim at `now` to its post-start mark. -/
def claimToMark (c : CallerId) (now : Timestamp) : List Action :=
  [.advance c (.lease now now 60), .advance c (.classification (some readyClassification)),
   .advance c (.confidence now (.number (9 / 10))), .advance c (.clock now),
   .advance c (.setup true), .advance c (.confidence now (.number (9 / 10)))]

/-- A response with an identifier. -/
def created (sol : String) : TransportResult := .response ⟨200, some ⟨.text sol, false⟩⟩

/-- One call that succeeds after a POST answered 408. -/
def successfulRun : List Action :=
  [.create 0 "worker" (.adapter 3), .advance 0 (.ensure 0 1 readyFacts)]
    ++ claimToMark 0 0
    ++ [.advance 0 (.post (.response ⟨408, none⟩)), .advance 0 (.post (created "S-1")),
        .advance 0 (.clock 0)]

theorem request_record_sound_successful :
    ∃ s, requestMachine.exec State.empty successfulRun = some s
      ∧ (∃ op, s.row = some op ∧ op.solId = some "S-1") ∧ RecordSound s := by
  have hrow : ((requestMachine.exec State.empty successfulRun).bind (·.row)).bind (·.solId)
      = some "S-1" := by decide +kernel
  simp only [Option.bind_eq_some_iff] at hrow
  obtain ⟨op, ⟨s, hs, hop⟩, hsol⟩ := hrow
  exact ⟨s, hs, ⟨op, hop, hsol⟩, request_record_sound (Machine.reachable_of_exec rfl hs)⟩

/-! ## §2. POSTs. -/

/-- The calls use the adapter, so every POST of a run is one it sends. -/
def adapterOnly : Action → Prop
  | .create _ _ provider | .recover _ _ provider => provider ≠ .custom
  | _ => True

/-- The runs in question: live calls have distinct owners and use the adapter. -/
def ordinary (s : State) (a : Action) : Prop := distinctOwners s a ∧ adapterOnly a

/-- Between any two POSTs the earlier one was safe or a release came after it. -/
def PostsSeparated (s : State) : Prop :=
  History.EveryPairCut unsafePost isRelease isPost s.log

/-- All calls have identifiers below `n`. -/
def callersBelow (n : Nat) (s : State) : Prop := ∀ d, n ≤ d → s.callers d = none

/-- A decidable test of `ordinary`, for runs with callers below `n`. -/
def ordinaryCheck (n : Nat) (s : State) (a : Action) : Bool :=
  a.caller.all (· < n) && match a with
    | .create _ owner provider | .recover _ owner provider =>
        provider != .custom && (List.range n).all fun d =>
          (s.callers d).all fun x => !x.stage.live || x.owner != claimOwner owner
    | _ => true

theorem ordinary_of_check {n : Nat} {s : State} {a : Action} (hs : callersBelow n s)
    (h : ordinaryCheck n s a = true) : ordinary s a := by
  have howner (owner : String)
      (hall : ((List.range n).all fun d =>
        (s.callers d).all fun x => !x.stage.live || x.owner != claimOwner owner) = true) :
      ∀ d x, s.callers d = some x → x.stage.live = true → x.owner ≠ claimOwner owner := by
    intro d x hx hlive
    have hd : d < n := by
      by_contra hge
      rw [hs d (Nat.le_of_not_lt hge)] at hx
      cases hx
    have := List.all_eq_true.mp hall d (List.mem_range.mpr hd)
    simpa [hx, hlive] using this
  cases a with
  | create c owner provider | recover c owner provider =>
      simp only [ordinaryCheck, Bool.and_eq_true, bne_iff_ne] at h
      exact ⟨howner owner h.2.2, h.2.1⟩
  | manual | crash | advance => exact ⟨trivial, trivial⟩

theorem callersBelow_step {n : Nat} {s t : State} {a : Action} (hs : callersBelow n s)
    (h : ordinaryCheck n s a = true) (hstep : step s a = some t) : callersBelow n t := by
  intro d hd
  simp only [ordinaryCheck, Bool.and_eq_true] at h
  rcases step_lands hstep with hsame | ⟨c, x, hc, stage, -, hlands⟩
  · rw [hsame]
    exact hs d hd
  · have hcn : c < n := by simpa [hc] using h.1
    have hdc : d ≠ c := Nat.ne_of_gt (Nat.lt_of_lt_of_le hcn hd)
    rw [hlands]
    simp only [State.goto, Function.update_of_ne hdc]
    exact hs d hd

/-- The test of `licensed`. -/
def licensedCheck (s : State) : Action → Bool
  | .advance c (.post _) => !Protocol.releasedSinceMark c s.log
  | _ => true

theorem licensed_of_check {s : State} {a : Action} (h : licensedCheck s a = true) :
    licensed s a := by
  unfold licensed
  split
  next c result => simpa [licensedCheck] using h
  next => trivial

/-- An evaluated run of ordinary actions. -/
theorem ordinary_run {n : Nat} {t : State} {as : List Action}
    (h : requestMachine.execWhere (ordinaryCheck n) State.empty as = some t) :
    requestMachine.ReachableWhere ordinary t :=
  ⟨_, rfl, Machine.runWhere_of_execWhere (I := callersBelow n)
    (fun _ _ hs hc => ordinary_of_check hs hc) (fun _ _ _ hs hc ht => callersBelow_step hs hc ht)
    (fun _ _ => rfl) h⟩

/-- **No unsanctioned duplicate POST**, in every run whose POSTs are all sent
    under a mark that has not been released. -/
theorem posts_separated {s : State}
    (hreach : requestMachine.ReachableWhere (fun s a => ordinary s a ∧ licensed s a) s) :
    PostsSeparated s :=
  (reachable_moves (fun _ _ _ h => ⟨h.1.1, h.2⟩) hreach).everyPairCut

theorem posts_separated_successful :
    ∃ s, requestMachine.execWhere (fun s a => ordinaryCheck 1 s a && licensedCheck s a)
        State.empty successfulRun = some s
      ∧ (s.log.filter isPost).length = 2 ∧ PostsSeparated s := by
  have hlog : (requestMachine.execWhere (fun s a => ordinaryCheck 1 s a && licensedCheck s a)
      State.empty successfulRun).map (fun s => (s.log.filter isPost).length) = some 2 := by
    decide +kernel
  simp only [Option.map_eq_some_iff] at hlog
  obtain ⟨s, hs, hposts⟩ := hlog
  refine ⟨s, hs, hposts, posts_separated ⟨_, rfl, Machine.runWhere_of_execWhere
    (I := callersBelow 1) ?_ ?_ (fun _ _ => rfl) hs⟩⟩
  · intro u a hu hcheck
    simp only [Bool.and_eq_true] at hcheck
    exact ⟨ordinary_of_check hu hcheck.1, licensed_of_check hcheck.2⟩
  · intro u a v hu hcheck hv
    simp only [Bool.and_eq_true] at hcheck
    exact callersBelow_step hu hcheck.1 hv

/-- Call 0 marks and falls asleep before its POST.  Call 1 finds the lease
    expired and hands the operation over to reconciliation, an operator who
    proved that nothing was created releases it, and call 2 creates the
    Request.  Then call 0 wakes up and posts. -/
def overtakenRun : List Action :=
  [.create 0 "first" (.adapter 3), .advance 0 (.ensure 0 1 readyFacts),
   .create 1 "second" (.adapter 3), .advance 1 (.ensure 0 2 readyFacts)]
    ++ claimToMark 0 0
    ++ [.advance 1 (.lease 100000000 100000000 60), .advance 1 .read,
        .manual 110000000
          { action := .releaseRetry, solidId := none, reason := "remote_absence"
            operationKey := "release-1", actor := none, proofOfAbsence := true } false,
        .create 2 "third" (.adapter 3), .advance 2 (.ensure 120000000 3 readyFacts)]
    ++ claimToMark 2 120000000
    ++ [.advance 2 (.post (created "S-1")), .advance 2 (.clock 130000000),
        .advance 0 (.post (created "S-2"))]

/-- Without the licence the rule fails: the run posts twice, and nothing was
    released between the two POSTs. -/
theorem posts_not_separated :
    ¬ ∀ s, requestMachine.ReachableWhere ordinary s → PostsSeparated s := by
  intro hall
  have hlog : (requestMachine.execWhere (ordinaryCheck 3) State.empty overtakenRun).map
      (fun s => s.log.take 3)
      = some [.posted 0 (created "S-2"), .finished 2 "third" .completed,
          .posted 2 (created "S-1")] := by
    decide +kernel
  simp only [Option.map_eq_some_iff] at hlog
  obtain ⟨s, hs, hlog⟩ := hlog
  have hsep := hall s (ordinary_run hs)
  obtain ⟨e, he, hcut⟩ := hsep [] [.finished 2 "third" .completed] (s.log.drop 3)
    (.posted 2 (created "S-1")) (.posted 0 (created "S-2"))
    (by rw [← List.take_append_drop 3 s.log, hlog]; simp) (by decide) (by decide)
  simp only [List.mem_singleton] at he
  subst he
  cases hcut

/-! ## §3. Abandoned claims. -/

/-- A new `create_request_for_cycle` call, run to its end, does not leave the
    claim it finds: an unsent claim is claimed again, a sent one is handed
    over to reconciliation. -/
def RecoversClaim (s : State) (c : CallerId) (owner : String) (provider : Provider) : Prop :=
  ∀ (inputs : List Input) (t : State) (x : Caller),
    requestMachine.exec s (.create c owner provider :: inputs.map (.advance c)) = some t →
    t.callers c = some x → x.stage.live = false → ∀ op, s.row = some op →
      (op.postStartedAt = none → claimCount s.log < claimCount t.log)
      ∧ (op.postStartedAt ≠ none → ∃ op', t.row = some op' ∧ op'.state = .reconciliationRequired)

/-- An ended call takes no step. -/
theorem advanceStep_of_ended {s : State} {c : CallerId} {x : Caller} {input : Input}
    (h : x.stage.live = false) : advanceStep s c x input = none := by
  unfold advanceStep
  cases hstage : x.stage <;> simp_all [Stage.live, Stage.needsRow, localStep]

/-- The whole run of a call that finds an `attempting` row: it reads the row,
    and ends. -/
theorem create_run_of_attempting {s t : State} {op : Operation} {c : CallerId} {owner : String}
    {provider : Provider} {inputs : List Input} (hrow : s.row = some op)
    (hstate : op.state = .attempting)
    (h : requestMachine.exec s (.create c owner provider :: inputs.map (.advance c)) = some t) :
    t.row = s.row ∧ t.log = s.log := by
  simp only [Machine.exec, Option.bind_eq_some_iff] at h
  obtain ⟨s₁, harrive, h⟩ := h
  obtain ⟨-, rfl⟩ := arrive_spec harrive
  cases inputs with
  | nil =>
      injection h with h
      subst h
      exact ⟨rfl, rfl⟩
  | cons input rest =>
      simp only [List.map_cons, Machine.exec, Option.bind_eq_some_iff] at h
      obtain ⟨s₂, hs₂, h⟩ := h
      have hadv : advanceStep (s.goto c ⟨claimOwner owner, provider, .ensure⟩ .ensure) c
          ⟨claimOwner owner, provider, .ensure⟩ input = some s₂ := by
        simpa [requestMachine, step, State.goto] using hs₂
      -- the only transaction of the call is the one that reads the row
      have hended : s₂.row = s.row ∧ s₂.log = s.log ∧
          ∃ x, s₂.callers c = some x ∧ x.stage.live = false := by
        cases input <;> try (cases hadv; done)
        next now id facts =>
          injection hadv with hadv
          subst hadv
          simp only [ensureStep, ensureOperation, goto_row, hrow]
          cases facts.cycle with
          | none => exact ⟨hrow, rfl, _, Function.update_self .., rfl⟩
          | some cycle =>
              simp only [Option.map_some, Option.getD_some, hstate]
              exact ⟨rfl, rfl, _, Function.update_self .., rfl⟩
      obtain ⟨hrow₂, hlog₂, x, hx, hlive⟩ := hended
      cases rest with
      | nil =>
          injection h with h
          subst h
          exact ⟨hrow₂, hlog₂⟩
      | cons input' rest =>
          simp only [List.map_cons, Machine.exec, Option.bind_eq_some_iff] at h
          obtain ⟨s₃, hs₃, -⟩ := h
          have hnone : step s₂ (.advance c input') = none := by
            simp only [step, hx, Option.bind_some, advanceStep_of_ended hlive]
          rw [show requestMachine.step s₂ (.advance c input') = none from hnone] at hs₃
          cases hs₃

/-- A new call can always run to its end. -/
theorem create_ends_of_attempting {s : State} {op : Operation} {c : CallerId} (owner : String)
    (provider : Provider) (hrow : s.row = some op) (hstate : op.state = .attempting)
    (hnew : s.callers c = none) :
    ∃ t x, requestMachine.exec s
        (.create c owner provider :: [Input.ensure 0 0 readyFacts].map (.advance c)) = some t
      ∧ t.callers c = some x ∧ x.stage.live = false := by
  let x : Caller := ⟨claimOwner owner, provider, .ensure⟩
  have harrive : requestMachine.step s (.create c owner provider)
      = some (s.goto c x .ensure) := by
    simp only [requestMachine, step, arrive, hnew, x]
  have hcaller : (s.goto c x .ensure).callers c = some x := Function.update_self ..
  refine ⟨((s.goto c x .ensure).putRow op).goto c x (.returned (some op)),
    { x with stage := .returned (some op) }, ?_, Function.update_self .., rfl⟩
  simp only [List.map_cons, List.map_nil, Machine.exec, harrive, Option.bind_some]
  simp only [requestMachine, step, hcaller, Option.bind_some, advanceStep, Stage.needsRow,
    localStep, ensureStep, ensureOperation, goto_row, hrow, readyFacts, Option.map_some,
    Option.getD_some, hstate, x]
  rfl

/-- No run of a new call recovers the claim. -/
theorem not_recoversClaim {s : State} {op : Operation} {c : CallerId} (owner : String)
    (provider : Provider) (hrow : s.row = some op) (hstate : op.state = .attempting)
    (hnew : s.callers c = none) : ¬ RecoversClaim s c owner provider := by
  intro hrec
  obtain ⟨t, x, hrun, hx, hended⟩ := create_ends_of_attempting owner provider hrow hstate hnew
  obtain ⟨hrow', hlog⟩ := create_run_of_attempting hrow hstate hrun
  obtain ⟨hunsent, hsent⟩ := hrec _ t x hrun hx hended op hrow
  by_cases hpost : op.postStartedAt = none
  · have := hunsent hpost
    rw [hlog] at this
    exact absurd this (Nat.lt_irrefl _)
  · obtain ⟨op', hop', hst⟩ := hsent hpost
    rw [hrow', hrow] at hop'
    injection hop' with hop'
    rw [← hop', hstate] at hst
    cases hst

/-- **An abandoned claim is never recovered by a new call**: whatever the
    call reads, it ends with the row untouched. -/
theorem create_leaves_dead_claim {s : State} {op : Operation} {now : Timestamp} {c : CallerId}
    (hrow : s.row = some op) (hstale : op.staleAt now = true) (hnew : s.callers c = none)
    (owner : String) (provider : Provider) :
    ¬ RecoversClaim s c owner provider
      ∧ ∀ (inputs : List Input) (t : State),
          requestMachine.exec s (.create c owner provider :: inputs.map (.advance c)) = some t →
          t.row = some op ∧ t.log = s.log := by
  simp only [Operation.staleAt, Bool.and_eq_true, beq_iff_eq] at hstale
  refine ⟨not_recoversClaim owner provider hrow hstale.1 hnew, ?_⟩
  intro inputs t hrun
  rw [← hrow]
  exact create_run_of_attempting hrow hstale.1 hrun

/-- A call that dies right after its claim. -/
def abandonedRun : List Action :=
  [.create 0 "first" (.adapter 3), .advance 0 (.ensure 0 1 readyFacts),
   .advance 0 (.lease 0 0 60), .crash 0]

/-- The claim of `abandonedRun` has run out after a minute, and was never sent. -/
theorem abandonedRun_stale : ∃ s op, requestMachine.exec State.empty abandonedRun = some s
    ∧ s.row = some op ∧ op.staleAt 60000000 = true ∧ op.postStartedAt = none
    ∧ s.callers 1 = none := by
  have h : ((requestMachine.exec State.empty abandonedRun).bind fun s =>
      s.row.map fun op => (op.staleAt 60000000, op.postStartedAt, s.callers 1))
      = some (true, none, none) := by
    decide +kernel
  simp only [Option.bind_eq_some_iff, Option.map_eq_some_iff, Prod.mk.injEq] at h
  obtain ⟨s, hs, op, hop, hstale, hpost, hnew⟩ := h
  exact ⟨s, op, hs, hop, hstale, hpost, hnew⟩

theorem create_leaves_dead_claim_abandoned :
    ∃ s, requestMachine.exec State.empty abandonedRun = some s
      ∧ ¬ RecoversClaim s 1 "second" (.adapter 3) := by
  obtain ⟨s, op, hs, hrow, hstale, -, hnew⟩ := abandonedRun_stale
  exact ⟨s, hs, (create_leaves_dead_claim hrow hstale hnew "second" (.adapter 3)).1⟩

/-- The abandoned claim stays where it is. -/
theorem dead_claim_not_recovered :
    ¬ ∀ (s : State) (op : Operation) (now : Timestamp), requestMachine.Reachable s →
      s.row = some op → op.staleAt now = true → ∀ c owner provider, s.callers c = none →
        RecoversClaim s c owner provider := by
  intro hall
  obtain ⟨s, op, hs, hrow, hstale, -, hnew⟩ := abandonedRun_stale
  have hstate : op.state = .attempting := by
    simp only [Operation.staleAt, Bool.and_eq_true, beq_iff_eq] at hstale
    exact hstale.1
  exact not_recoversClaim "second" (.adapter 3) hrow hstate hnew
    (hall s op 60000000 (Machine.reachable_of_exec rfl hs) hrow hstale 1 "second" (.adapter 3) hnew)

end Cai.Request
