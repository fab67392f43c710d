/-
  Cai.Mapping.Selection — the department a cycle is evaluated with.

  The reader of the assignment history looks at the window of one cycle;
  the writer drops an event that equals the latest row of the whole
  conversation.  Here the two are composed: the reader sees what was
  delivered exactly when no dropped event stood alone at its time.

  Main result: `selection_sees_deliveries_iff`; the failing run is
  `selection_misses_delivery`.
-/
import Cai.Mapping.Evaluation

namespace Cai.Mapping

open Cai.Lib
open Cai.Cycle (Timestamp CycleRow pgBlank)

/-! ## §1. What an evaluation says about its assignment. -/

variable {db : MappingTables} {validation : Validation}
  {departmentId : String} {companyId cycleId : Nat}

/-- A finding that was reached through the department `departmentId`. -/
structure Finding.About (f : Finding) (departmentId : String) : Prop where
  department : f.digisacDepartmentExternalId = some departmentId
  reason : f.reason ≠ .currentDepartmentMissing
  target : ∀ target ∈ f.acessoriasDepartmentExternalId, pgBlank target = false

theorem evaluateRule_about (rule : MappingRule) :
    (evaluateRule db departmentId companyId validation rule).About departmentId := by
  refine ⟨rfl, ?_, ?_⟩
  · unfold evaluateRule
    simp only
    split
    next => simp
    next => split <;> [simp; (split <;> simp)]
  · intro target htarget
    have heq : rule.acessoriasDepartmentExternalId = target := Option.some.inj htarget
    rw [← heq]
    exact rule.target_ne_blank

theorem evaluateIdentity_about :
    (evaluateIdentity db cycleId departmentId validation).About departmentId := by
  unfold evaluateIdentity
  simp only
  split
  next =>
    split
    next => exact ⟨rfl, nofun, nofun⟩
    next rule _ => exact evaluateRule_about rule
  next => exact ⟨rfl, nofun, nofun⟩

/-- The department of a finding is that of the assignment it started from. -/
theorem evaluateAssignment_about (db : MappingTables) (cycle : CycleRow) (validation : Validation)
    {r : AssignmentRow} (hr : r.departmentId = some departmentId) :
    (evaluateAssignment db cycle validation (some r)).About departmentId := by
  obtain ⟨⟨conversationId, department, userId, ts, key, source, count, hblank⟩, id, createdAt⟩ := r
  have hr : department = some departmentId := hr
  subst hr
  unfold evaluateAssignment
  simp only
  split
  next => exact evaluateIdentity_about
  next => exact ⟨rfl, nofun, nofun⟩

theorem inWindow_iff {conversationId : String} {startedAt closedAt : Timestamp}
    {e : AssignmentEvent} : inWindow conversationId startedAt closedAt e = true
      ↔ e.conversationId = conversationId ∧ e.departmentId ≠ none
        ∧ startedAt ≤ e.eventTimestamp ∧ e.eventTimestamp ≤ closedAt := by
  unfold inWindow
  simp only [Bool.and_eq_true, beq_iff_eq, decide_eq_true_eq, and_assoc, Option.isSome_iff_ne_none]

/-- The assignment `row` is what the finding was made from. -/
def Finding.Uses (f : Finding) (row : Option AssignmentRow) : Prop :=
  f.digisacDepartmentExternalId = row.bind (·.departmentId)
    ∧ (f.reason = .currentDepartmentMissing ↔ row = none)

/-- The finding meets the CHECK constraint on its departments. -/
def Finding.Storable (f : Finding) : Prop :=
  (∀ d ∈ f.digisacDepartmentExternalId, pgBlank d = false)
    ∧ ∀ d ∈ f.acessoriasDepartmentExternalId, pgBlank d = false

theorem evaluateAssignment_uses (db : MappingTables) (cycle : CycleRow) (validation : Validation)
    {row : Option AssignmentRow} (hrow : ∀ r ∈ row, r.departmentId ≠ none) :
    (evaluateAssignment db cycle validation row).Uses row
      ∧ (evaluateAssignment db cycle validation row).Storable := by
  cases row with
  | none => exact ⟨⟨rfl, iff_of_true rfl rfl⟩, nofun, nofun⟩
  | some r =>
      obtain ⟨d, hd⟩ := Option.ne_none_iff_exists'.mp (hrow r rfl)
      have habout := evaluateAssignment_about db cycle validation hd
      refine ⟨⟨habout.department.trans hd.symm, iff_of_false habout.reason nofun⟩, ?_,
        habout.target⟩
      intro d' hd'
      exact r.department_ne_blank d' (hd.trans (habout.department.symm.trans hd'))

/-- A storable finding is stored as it is. -/
theorem persistEvaluation_ok (db : MappingTables) (cycleId : Nat) (key : String)
    (timestamp : Timestamp) {f : Finding} (h : f.Storable) :
    ∃ snapshots result, persistEvaluation db cycleId key timestamp f = .ok (snapshots, result)
      ∧ result.toFinding = f := by
  have hany {value : Option String} (h : ∀ d ∈ value, pgBlank d = false) :
      value.any pgBlank = false := by
    cases value with
    | none => rfl
    | some d => exact h d rfl
  unfold persistEvaluation
  rw [hany h.1, hany h.2]
  exact ⟨_, _, rfl, rfl⟩

/-- **A first evaluation uses the selected assignment.** -/
theorem evaluateDepartmentMapping_first (db : MappingTables) (cycle : CycleRow)
    (key : Option String) (timestamp : Timestamp) {startedAt closedAt : Timestamp}
    (hcycle : Table.select (·.publicId == cycle.publicId) db.cycles = some cycle)
    (hstart : cycle.cycleStartedAt = some startedAt) (hclose : cycle.ticketClosedAt = some closedAt)
    (hbounds : startedAt ≤ closedAt)
    (hfirst : storedSnapshot db cycle.id (key.getD "default") = none) :
    ∃ snapshots result,
      evaluateDepartmentMapping db cycle.publicId key timestamp = .ok (snapshots, result)
      ∧ result.toFinding.Uses
          (selectAssignment db.history cycle.conversationId startedAt closedAt) := by
  have hnot : ¬ closedAt < startedAt := Int.not_lt.mpr hbounds
  have hcycleEq : evaluateCycle db cycle = evaluateAssignment db cycle
      { cycleStartedAt := some startedAt, ticketClosedAt := some closedAt }
      (selectAssignment db.history cycle.conversationId startedAt closedAt) := by
    unfold evaluateCycle
    simp only [hstart, hclose, if_neg hnot]
  have hrow : ∀ r ∈ selectAssignment db.history cycle.conversationId startedAt closedAt,
      r.departmentId ≠ none :=
    fun r hr => (inWindow_iff.mp (Table.latest_mem hr).2).2.1
  unfold evaluateDepartmentMapping
  simp only [hcycle, hfirst, hcycleEq]
  obtain ⟨huses, hstorable⟩ := evaluateAssignment_uses db cycle
    { cycleStartedAt := some startedAt, ticketClosedAt := some closedAt } hrow
  obtain ⟨snapshots, result, hok, hresult⟩ :=
    persistEvaluation_ok db cycle.id (key.getD "default") timestamp hstorable
  exact ⟨snapshots, result, hok, hresult ▸ huses⟩

/-! ## §2. The property and its condition. -/

variable {s : AssignmentState} {conversationId : String}

/-- A recorded event that carries a department and falls in the window. -/
def AssignmentState.Delivered (s : AssignmentState) (conversationId : String)
    (startedAt closedAt : Timestamp) (e : AssignmentEvent) : Prop :=
  (∃ repeated, (e, repeated) ∈ s.recorded) ∧ inWindow conversationId startedAt closedAt e = true

/-- `department` is that of the latest event delivered in the window, and NULL
    when there is none. -/
def AssignmentState.Latest (s : AssignmentState) (conversationId : String)
    (startedAt closedAt : Timestamp) (department : Option String) : Prop :=
  match department with
  | none => ∀ e, ¬ s.Delivered conversationId startedAt closedAt e
  | some d => ∃ e, s.Delivered conversationId startedAt closedAt e ∧ e.departmentId = some d
      ∧ ∀ e', s.Delivered conversationId startedAt closedAt e' →
        e'.eventTimestamp ≤ e.eventTimestamp

/-- Every first evaluation of a cycle of the conversation, on this history and
    whatever the other tables hold, sees the latest delivered department. -/
def AssignmentState.SeesDeliveries (s : AssignmentState) (conversationId : String) : Prop :=
  ∀ (db : MappingTables) (cycle : CycleRow) (startedAt closedAt : Timestamp)
    (key : Option String) (timestamp : Timestamp),
    db.history = s.tables.history →
    Table.select (·.publicId == cycle.publicId) db.cycles = some cycle →
    cycle.conversationId = conversationId →
    cycle.cycleStartedAt = some startedAt → cycle.ticketClosedAt = some closedAt →
    startedAt ≤ closedAt → storedSnapshot db cycle.id (key.getD "default") = none →
    ∃ snapshots result,
      evaluateDepartmentMapping db cycle.publicId key timestamp = .ok (snapshots, result)
      ∧ s.Latest conversationId startedAt closedAt result.digisacDepartmentExternalId
      ∧ (result.reason = .currentDepartmentMissing
          ↔ ∀ e, ¬ s.Delivered conversationId startedAt closedAt e)

/-- No event with a department repeated the latest row of its conversation,
    unless another event with a department, of the very same time, did not. -/
def AssignmentState.NothingLost (s : AssignmentState) (conversationId : String) : Prop :=
  ∀ e, (e, true) ∈ s.recorded → e.conversationId = conversationId → e.departmentId ≠ none →
    ∃ e', (e', false) ∈ s.recorded ∧ e'.conversationId = conversationId ∧ e'.departmentId ≠ none
      ∧ e'.eventTimestamp = e.eventTimestamp

/-- The same of one window. -/
def AssignmentState.SeesWindow (s : AssignmentState) (conversationId : String)
    (startedAt closedAt : Timestamp) : Prop :=
  ∀ (db : MappingTables) (cycle : CycleRow) (key : Option String) (timestamp : Timestamp),
    db.history = s.tables.history →
    Table.select (·.publicId == cycle.publicId) db.cycles = some cycle →
    cycle.conversationId = conversationId →
    cycle.cycleStartedAt = some startedAt → cycle.ticketClosedAt = some closedAt →
    storedSnapshot db cycle.id (key.getD "default") = none →
    ∃ snapshots result,
      evaluateDepartmentMapping db cycle.publicId key timestamp = .ok (snapshots, result)
      ∧ s.Latest conversationId startedAt closedAt result.digisacDepartmentExternalId
      ∧ (result.reason = .currentDepartmentMissing
          ↔ ∀ e, ¬ s.Delivered conversationId startedAt closedAt e)

/-- Of the latest events delivered in the window one was stored, or one has
    the department of the assignment that is stored last in the window. -/
def AssignmentState.LatestKept (s : AssignmentState) (conversationId : String)
    (startedAt closedAt : Timestamp) : Prop :=
  ∀ e, s.Delivered conversationId startedAt closedAt e →
    (∀ e', s.Delivered conversationId startedAt closedAt e' →
      e'.eventTimestamp ≤ e.eventTimestamp) →
    ∃ e', s.Delivered conversationId startedAt closedAt e' ∧ e'.eventTimestamp = e.eventTimestamp
      ∧ ((e', false) ∈ s.recorded
        ∨ ∃ row, selectAssignment s.tables.history conversationId startedAt closedAt = some row
          ∧ row.departmentId = e'.departmentId)

/-! ## §3. The composition. -/

variable {startedAt closedAt : Timestamp}

/-- What is stored in the window was delivered in it. -/
theorem delivered_of_selected (hinv : AssignmentInv s) {row : AssignmentRow}
    (h : selectAssignment s.tables.history conversationId startedAt closedAt = some row) :
    s.Delivered conversationId startedAt closedAt row.toAssignmentEvent := by
  obtain ⟨hmem, hwindow⟩ := Table.latest_mem h
  exact ⟨⟨false, hinv.sound row hmem⟩, hwindow⟩

/-- Where anything was delivered in the window, something was latest. -/
theorem exists_latest_delivered {e : AssignmentEvent}
    (he : s.Delivered conversationId startedAt closedAt e) :
    ∃ e', s.Delivered conversationId startedAt closedAt e'
      ∧ ∀ e'', s.Delivered conversationId startedAt closedAt e'' →
        e''.eventTimestamp ≤ e'.eventTimestamp := by
  have hdelivered : ∀ x, x ∈ (s.recorded.map (·.1)).filter
      (inWindow conversationId startedAt closedAt) ↔ s.Delivered conversationId startedAt closedAt x := by
    intro x
    unfold AssignmentState.Delivered
    rw [List.mem_filter, List.mem_map]
    simp
  cases hmax : ((s.recorded.map (·.1)).filter (inWindow conversationId startedAt closedAt)).argmax
      (·.eventTimestamp) with
  | none =>
      have hmem := (hdelivered e).mpr he
      rw [List.argmax_eq_none.mp hmax] at hmem
      exact absurd hmem List.not_mem_nil
  | some last =>
      refine ⟨last, (hdelivered last).mp (List.argmax_mem hmax), fun e' he' => ?_⟩
      exact List.le_of_mem_argmax ((hdelivered e').mpr he') hmax

/-- What the reader selects is the latest that was delivered, where that was kept. -/
theorem selectAssignment_latest (hinv : AssignmentInv s)
    (hkept : s.LatestKept conversationId startedAt closedAt) :
    s.Latest conversationId startedAt closedAt
        ((selectAssignment s.tables.history conversationId startedAt closedAt).bind (·.departmentId))
      ∧ (selectAssignment s.tables.history conversationId startedAt closedAt = none
          ↔ ∀ e, ¬ s.Delivered conversationId startedAt closedAt e) := by
  cases hsel : selectAssignment s.tables.history conversationId startedAt closedAt with
  | none =>
      have hnone : ∀ e, ¬ s.Delivered conversationId startedAt closedAt e := by
        intro e he
        obtain ⟨last, hlast, hmax⟩ := exists_latest_delivered he
        obtain ⟨e', ⟨-, hwindow⟩, -, hstored | ⟨row, hrow, -⟩⟩ := hkept last hlast hmax
        · obtain ⟨r, hr, hre⟩ := hinv.complete e' hstored (inWindow_iff.mp hwindow).2.1
          have hout := Table.latest_none_iff.mp hsel r hr
          rw [hre, hwindow] at hout
          cases hout
        · rw [hsel] at hrow
          cases hrow
      exact ⟨hnone, iff_of_true rfl hnone⟩
  | some row =>
      have hrow := delivered_of_selected hinv hsel
      obtain ⟨d, hd⟩ := Option.ne_none_iff_exists'.mp (inWindow_iff.mp hrow.2).2.1
      refine ⟨?_, iff_of_false nofun fun hnone => hnone _ hrow⟩
      show s.Latest conversationId startedAt closedAt row.departmentId
      rw [show row.departmentId = some d from hd]
      obtain ⟨last, hlast, hmax⟩ := exists_latest_delivered hrow
      obtain ⟨e', he', htime, hstored | ⟨row', hrow', hdepartment⟩⟩ := hkept last hlast hmax
      · -- a stored event of the latest time: the reader selects one of that time
        obtain ⟨r, hr, hre⟩ := hinv.complete e' hstored (inWindow_iff.mp he'.2).2.1
        have hle : r.eventTimestamp ≤ row.eventTimestamp :=
          Table.latest_le hsel hr (by rw [hre]; exact he'.2)
        rw [hre, htime] at hle
        exact ⟨row.toAssignmentEvent, hrow, hd, fun e he => (hmax e he).trans hle⟩
      · obtain rfl : row = row' := Option.some.inj (hsel.symm.trans hrow')
        refine ⟨e', he', by rw [← hdepartment]; exact hd, fun e he => ?_⟩
        rw [htime]
        exact hmax e he

/-- A closed cycle of the conversation with this window. -/
def windowCycle (conversationId : String) (startedAt closedAt : Timestamp) : CycleRow :=
  { id := 1, publicId := 1, conversationId, sequenceNumber := 1, ticketClosedAt := some closedAt
    openEventKey := none, closeEventKey := none, digisacContactExternalId := none
    createdAt := closedAt, cycleStartedAt := some startedAt
    cycleStartStrategy := "ticket_created_event", status := .pending, updatedAt := closedAt }

/-- A closed cycle of the conversation whose window is one instant. -/
def instantCycle (conversationId : String) (at_ : Timestamp) : CycleRow :=
  windowCycle conversationId at_ at_

/-- **One window:** its evaluations see the latest delivered department exactly when it was kept. -/
theorem seesWindow_iff (hinv : AssignmentInv s) (hbounds : startedAt ≤ closedAt) :
    s.SeesWindow conversationId startedAt closedAt
      ↔ s.LatestKept conversationId startedAt closedAt := by
  constructor
  · intro hsees e he hmax
    have hcycle : Table.select (·.publicId == 1) [windowCycle conversationId startedAt closedAt]
        = some (windowCycle conversationId startedAt closedAt) := rfl
    obtain ⟨snapshots, result, hok, hlatest, hmissing⟩ :=
      hsees { cycles := [windowCycle conversationId startedAt closedAt], history := s.tables.history }
        (windowCycle conversationId startedAt closedAt) none 0 rfl hcycle rfl rfl rfl rfl
    obtain ⟨snapshots', result', hok', hdepartment, hreason⟩ :=
      evaluateDepartmentMapping_first
        { cycles := [windowCycle conversationId startedAt closedAt], history := s.tables.history }
        (windowCycle conversationId startedAt closedAt) none 0 hcycle rfl rfl hbounds rfl
    have hsame : result = result' := by
      rw [hok] at hok'
      injection hok' with hok'
      exact congrArg Prod.snd hok'
    subst hsame
    have hsel : selectAssignment s.tables.history conversationId startedAt closedAt ≠ none :=
      fun hnone => hmissing.mp (hreason.mpr hnone) e he
    obtain ⟨row, hrow⟩ := Option.ne_none_iff_exists'.mp hsel
    obtain ⟨d, hd⟩ := Option.ne_none_iff_exists'.mp
      (inWindow_iff.mp (delivered_of_selected hinv hrow).2).2.1
    have hdepartment : result.digisacDepartmentExternalId
        = (selectAssignment s.tables.history conversationId startedAt closedAt).bind
          (·.departmentId) := hdepartment
    rw [hdepartment, hrow, show (some row).bind (·.departmentId) = some d from hd] at hlatest
    obtain ⟨e', he', hdep, hlast⟩ := hlatest
    exact ⟨e', he', Int.le_antisymm (hmax e' he') (hlast e he),
      .inr ⟨row, hrow, (show row.departmentId = some d from hd).trans hdep.symm⟩⟩
  · intro hkept db cycle key timestamp hhistory hcycle hconv hstart hclose hfirst
    obtain ⟨snapshots, result, hok, hdepartment, hreason⟩ :=
      evaluateDepartmentMapping_first db cycle key timestamp hcycle hstart hclose hbounds hfirst
    rw [hhistory, hconv] at hdepartment hreason
    obtain ⟨hlatest, hnone⟩ := selectAssignment_latest hinv hkept
    exact ⟨snapshots, result, hok, hdepartment ▸ hlatest, hreason.trans hnone⟩

/-- Nothing is lost exactly when every window keeps its latest events. -/
theorem nothingLost_iff (hinv : AssignmentInv s) :
    s.NothingLost conversationId
      ↔ ∀ startedAt closedAt, startedAt ≤ closedAt →
        s.LatestKept conversationId startedAt closedAt := by
  constructor
  · intro hlost startedAt closedAt _ e he _
    obtain ⟨⟨repeated, hrecorded⟩, hwindow⟩ := he
    obtain ⟨hconv, hdep, hfrom, hto⟩ := inWindow_iff.mp hwindow
    cases repeated with
    | false => exact ⟨e, ⟨⟨false, hrecorded⟩, hwindow⟩, rfl, .inl hrecorded⟩
    | true =>
        obtain ⟨e', hstored, hconv', hdep', htime⟩ := hlost e hrecorded hconv hdep
        have hwindow' := inWindow_iff.mpr ⟨hconv', hdep', htime ▸ hfrom, htime ▸ hto⟩
        exact ⟨e', ⟨⟨false, hstored⟩, hwindow'⟩, htime, .inl hstored⟩
  · -- the window that is the time of the dropped event
    intro hkept e hdropped hconv hdep
    have hinstant {e' : AssignmentEvent}
        (h : s.Delivered conversationId e.eventTimestamp e.eventTimestamp e') :
        e'.conversationId = conversationId ∧ e'.departmentId ≠ none
          ∧ e'.eventTimestamp = e.eventTimestamp := by
      obtain ⟨hconv', hdep', hfrom, hto⟩ := inWindow_iff.mp h.2
      exact ⟨hconv', hdep', Int.le_antisymm hto hfrom⟩
    have he : s.Delivered conversationId e.eventTimestamp e.eventTimestamp e :=
      ⟨⟨true, hdropped⟩, inWindow_iff.mpr ⟨hconv, hdep, Int.le_refl _, Int.le_refl _⟩⟩
    obtain ⟨e', he', -, hstored | ⟨row, hrow, -⟩⟩ := hkept _ _ (Int.le_refl _) e he
      fun e' he' => Int.le_of_eq (hinstant he').2.2
    · exact ⟨e', hstored, hinstant he'⟩
    · exact ⟨row.toAssignmentEvent, hinv.sound row (Table.latest_mem hrow).1,
        hinstant (delivered_of_selected hinv hrow)⟩

/-- **Department selection sees every delivered event** exactly when each
    event that was dropped has a stored one of its very time; in one window,
    exactly when the latest of its events was kept. -/
theorem selection_sees_deliveries_iff (hreach : assignmentMachine.Reachable s)
    (conversationId : String) :
    (s.SeesDeliveries conversationId ↔ s.NothingLost conversationId)
      ∧ ∀ startedAt closedAt, startedAt ≤ closedAt →
        (s.SeesWindow conversationId startedAt closedAt
          ↔ s.LatestKept conversationId startedAt closedAt) := by
  have hinv := reachable_assignmentInv hreach
  refine ⟨?_, fun startedAt closedAt hbounds => seesWindow_iff hinv hbounds⟩
  rw [nothingLost_iff hinv]
  constructor
  · intro hsees startedAt closedAt hbounds
    refine (seesWindow_iff hinv hbounds).mp ?_
    intro db cycle key timestamp hhistory hcycle hconv hstart hclose hfirst
    exact hsees db cycle startedAt closedAt key timestamp hhistory hcycle hconv hstart hclose
      hbounds hfirst
  · intro hkept db cycle startedAt closedAt key timestamp hhistory hcycle hconv hstart hclose
      hbounds hfirst
    exact (seesWindow_iff hinv hbounds).mpr (hkept startedAt closedAt hbounds) db cycle key timestamp
      hhistory hcycle hconv hstart hclose hfirst

/-! ## §4. Two runs. -/

/-- The ticket is with Carlos of the fiscal department. -/
def assigned (eventTimestamp : Timestamp) (eventKey : String) : AssignmentEvent :=
  { conversationId := "conversation", departmentId := some "fiscal", userId := some "carlos"
    eventTimestamp, eventKey
    department_ne_blank := by rintro d ⟨⟩; decide +kernel }

/-- A second event of the same time changes nothing. -/
theorem selection_sees_deliveries_same_time : ∃ s,
    assignmentMachine.exec {} [⟨0, assigned 10 "key-1"⟩, ⟨1, assigned 10 "key-2"⟩] = some s
      ∧ s.recorded.map (·.2) = [true, false] ∧ s.SeesDeliveries "conversation" := by
  have hrun : (assignmentMachine.exec {} [⟨0, assigned 10 "key-1"⟩, ⟨1, assigned 10 "key-2"⟩]).map
      (fun s => s.recorded)
        = some [(assigned 10 "key-2", true), (assigned 10 "key-1", false)] := by
    decide +kernel
  obtain ⟨s, hs, hrecorded⟩ := Option.map_eq_some_iff.mp hrun
  refine ⟨s, hs, by rw [hrecorded]; rfl, ?_⟩
  refine (selection_sees_deliveries_iff (Machine.reachable_of_exec rfl hs) "conversation").1.mpr ?_
  intro e he _ _
  rw [hrecorded] at he
  have htime : e.eventTimestamp = 10 := by
    rcases List.mem_cons.mp he with heq | he
    · injection heq with heq
      rw [heq]
      rfl
    · injection List.mem_singleton.mp he with heq
      rw [heq]
      rfl
  refine ⟨assigned 10 "key-1", ?_, rfl, nofun, htime.symm⟩
  rw [hrecorded]
  exact List.mem_cons_of_mem _ (List.mem_singleton_self _)

/-- The conversation's second cycle, from 50 to 150. -/
def secondCycle : CycleRow :=
  { instantCycle "conversation" 150 with cycleStartedAt := some 50, sequenceNumber := 2 }

/-- **Department selection misses a delivered event.**  The ticket comes back
    to the department and agent it was with in the last cycle: the event is
    dropped, and the cycle is evaluated as if it had no department. -/
theorem selection_misses_delivery :
    ¬ ∀ s conversationId, assignmentMachine.Reachable s → s.SeesDeliveries conversationId := by
  intro hclaim
  have hrun : (assignmentMachine.exec {} [⟨0, assigned 10 "key-1"⟩, ⟨1, assigned 100 "key-2"⟩]).map
      (fun s => (s.recorded,
        (evaluateDepartmentMapping { cycles := [secondCycle], history := s.tables.history } 1 none
          160).toOption.map (·.2.reason)))
        = some ([(assigned 100 "key-2", true), (assigned 10 "key-1", false)],
            some .currentDepartmentMissing) := by
    decide +kernel
  obtain ⟨s, hs, hobs⟩ := Option.map_eq_some_iff.mp hrun
  injection hobs with hrecorded hresult
  have hdelivered : s.Delivered "conversation" 50 150 (assigned 100 "key-2") := by
    refine ⟨⟨true, ?_⟩, by decide +kernel⟩
    rw [hrecorded]
    exact List.mem_cons_self
  obtain ⟨snapshots, result, hok, -, hmissing⟩ :=
    hclaim s "conversation" (Machine.reachable_of_exec rfl hs)
      { cycles := [secondCycle], history := s.tables.history } secondCycle 50 150 none 160 rfl rfl
      rfl rfl rfl (by decide) rfl
  have hreason : result.reason = .currentDepartmentMissing := by
    have hok : evaluateDepartmentMapping { cycles := [secondCycle], history := s.tables.history } 1
        none 160 = .ok (snapshots, result) := hok
    rw [hok] at hresult
    exact Option.some.inj hresult
  exact hmissing.mp hreason _ hdelivered

end Cai.Mapping
