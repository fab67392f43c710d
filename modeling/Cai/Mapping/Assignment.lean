/-
  Cai.Mapping.Assignment — the history of ticket assignments.

  `capture_ticket_assignment` (`src/api/routes.py`) and
  `_record_ticket_assignment_sync` (`src/core/ticket_assignment_repository.py`),
  and the machine that delivers distinct assignment events one by one, of
  any conversations, in any order of their timestamps.
-/
import Cai.Lib.Table
import Cai.Lib.Transition
import Cai.Cycle.Table

namespace Cai.Mapping

open Cai.Lib
open Cai.Cycle (Timestamp pgBlank)

/-! ## §1. Events. -/

/-- `_non_empty_string` -/
def nonEmptyString (value : Option String) : Option String :=
  value.bind fun text => if Text.strip text = "" then none else some (Text.strip text)

/-- The arguments of `record_ticket_assignment`, as the webhook builds them:
    a department is never blank. -/
structure AssignmentEvent where
  conversationId : String
  departmentId : Option String
  userId : Option String
  eventTimestamp : Timestamp
  eventKey : String
  sourceEventId : Option String := none
  ticketTransferCount : Option Int := none
  department_ne_blank : ∀ d ∈ departmentId, pgBlank d = false
  deriving DecidableEq

/-- What is left of a text by `strip` has a character that is no space. -/
theorem pgBlank_nonEmptyString {value : Option String} :
    ∀ d ∈ nonEmptyString value, pgBlank d = false := by
  intro d hd
  obtain ⟨text, -, hd⟩ := Option.bind_eq_some_iff.mp hd
  simp only [Option.ite_none_left_eq_some, Option.some.injEq] at hd
  obtain ⟨hne, rfl⟩ := hd
  by_contra hblank
  -- a text of spaces only is stripped to nothing
  have hall : ∀ c ∈ (Text.strip text).toList, Text.isSpace c = true := by
    intro c hc
    have hspaces : pgBlank (Text.strip text) = true := by simpa using hblank
    have hspace : (c == ' ') = true := List.all_eq_true.mp hspaces c hc
    rw [beq_iff_eq.mp hspace]
    rfl
  have hnil : Text.strip (Text.strip text) = "" := by
    have hdrop : (Text.strip text).toList.dropWhile Text.isSpace = [] :=
      List.dropWhile_eq_nil_iff.mpr hall
    show String.ofList (((Text.strip text).toList.dropWhile Text.isSpace).rdropWhile Text.isSpace) = ""
    rw [hdrop]
    rfl
  exact hne (by rw [← Text.strip_strip, hnil])

/-- A `ticket.updated` event: `eventKey` stands for the digest of its identity. -/
structure TicketUpdate where
  ticketId : String
  departmentId : Option String
  userId : Option String
  timestamp : Timestamp
  sourceEventId : Option String
  eventKey : String
  ticketTransferCount : Option Int
  deriving DecidableEq, Repr

/-- `capture_ticket_assignment`, up to the call it makes. -/
def captureTicketAssignment (update : TicketUpdate) : Option AssignmentEvent :=
  let departmentId := nonEmptyString update.departmentId
  let userId := nonEmptyString update.userId
  if departmentId.isNone && userId.isNone then none
  else some
    { conversationId := update.ticketId, departmentId, userId
      eventTimestamp := update.timestamp, eventKey := update.eventKey
      sourceEventId := nonEmptyString update.sourceEventId
      ticketTransferCount := update.ticketTransferCount
      department_ne_blank := pgBlank_nonEmptyString }

/-! ## §2. Recording one event. -/

/-- A row of `ticket_assignment_history`. -/
structure AssignmentRow extends AssignmentEvent where
  id : Nat
  createdAt : Timestamp
  deriving DecidableEq

/-- `ticket_assignment_event_keys` and `ticket_assignment_history`. -/
structure AssignmentTables where
  eventKeys : List String := []
  history : List AssignmentRow := []
  deriving DecidableEq

inductive AssignmentError
  /-- A CHECK constraint of the two tables. -/
  | constraint
  deriving DecidableEq, Repr

/-- The latest row of the conversation. -/
def previousAssignment (conversationId : String) (history : List AssignmentRow) :
    Option AssignmentRow :=
  Table.latest (·.conversationId == conversationId) (·.eventTimestamp) (·.id) history

/-- `previous == (department_id, user_id)` -/
def repeats (e : AssignmentEvent) (history : List AssignmentRow) : Bool :=
  (previousAssignment e.conversationId history).map (fun r => (r.departmentId, r.userId))
    == some (e.departmentId, e.userId)

/-- `_record_ticket_assignment_sync`; identities grow with every INSERT. -/
def recordTicketAssignment (now : Timestamp) (e : AssignmentEvent) (tables : AssignmentTables) :
    Except AssignmentError (AssignmentTables × Bool) :=
  if e.departmentId.isNone && e.userId.isNone then .ok (tables, false)
  else if pgBlank e.eventKey || pgBlank e.conversationId then .error .constraint
  else if e.eventKey ∈ tables.eventKeys then .ok (tables, false)
  else
    let eventKeys := Table.insert tables.eventKeys e.eventKey
    if repeats e tables.history then .ok ({ tables with eventKeys }, false)
    else if e.ticketTransferCount.any (· < 0) then .error .constraint
    else
      -- ON CONFLICT (event_key) DO NOTHING
      let history := if tables.history.any (·.eventKey == e.eventKey) then tables.history
        else Table.insert tables.history
          { e with id := tables.history.length + 1, createdAt := now }
      .ok ({ eventKeys, history }, true)

/-! ## §3. The machine. -/

/-- The tables and, newest first, every event recorded so far, each with
    whether it repeated the latest row of its conversation at that time. -/
structure AssignmentState where
  tables : AssignmentTables := {}
  recorded : List (AssignmentEvent × Bool) := []
  deriving DecidableEq

/-- Events are distinct: each has a key of its own. -/
def AssignmentState.isNew (s : AssignmentState) (e : AssignmentEvent) : Bool :=
  s.recorded.all (·.1.eventKey != e.eventKey)

structure AssignmentAction where
  now : Timestamp
  event : AssignmentEvent
  deriving DecidableEq

/-- A new event is recorded; a call that raises changes nothing. -/
def assignmentStep (s : AssignmentState) (a : AssignmentAction) : Option AssignmentState :=
  if s.isNew a.event then
    match recordTicketAssignment a.now a.event s.tables with
    | .ok (tables, _) =>
        some { tables, recorded := (a.event, repeats a.event s.tables.history) :: s.recorded }
    | .error _ => none
  else none

def assignmentMachine : Machine AssignmentState AssignmentAction where
  init s := s = {}
  step := assignmentStep

/-! ## §4. What the history holds. -/

variable {s t : AssignmentState} {a : AssignmentAction} {now : Timestamp} {e : AssignmentEvent}
  {tables : AssignmentTables}

/-- What one recorded event does to the tables. -/
inductive Recorded (e : AssignmentEvent) (before : AssignmentTables) : AssignmentTables → Prop
  | empty (h : e.departmentId = none) : Recorded e before before
  | repeated (h : repeats e before.history = true) :
      Recorded e before { before with eventKeys := Table.insert before.eventKeys e.eventKey }
  | stored (r : AssignmentRow) (hr : r.toAssignmentEvent = e)
      (h : repeats e before.history = false) :
      Recorded e before ⟨Table.insert before.eventKeys e.eventKey, Table.insert before.history r⟩

/-- **A new event is stored, unless it repeats the latest row.** -/
theorem recordTicketAssignment_cases {result : AssignmentTables × Bool}
    (hkeys : e.eventKey ∉ tables.eventKeys) (hhistory : ∀ r ∈ tables.history, r.eventKey ≠ e.eventKey)
    (h : recordTicketAssignment now e tables = .ok result) : Recorded e tables result.1 := by
  unfold recordTicketAssignment at h
  split at h
  next hnone =>
    injection h with h
    subst h
    simp only [Bool.and_eq_true, Option.isNone_iff_eq_none] at hnone
    exact .empty hnone.1
  next =>
    split at h
    next => cases h
    next =>
      simp only at h
      split at h
      next hrep =>
        injection h with h
        subst h
        exact .repeated hrep
      next hrep =>
        split at h
        next => cases h
        next =>
          have hconflict : tables.history.any (·.eventKey == e.eventKey) = false := by
            simpa using hhistory
          rw [hconflict] at h
          injection h with h
          subst h
          exact .stored ⟨e, tables.history.length + 1, now⟩ rfl (by simpa using hrep)

/-- **The invariant**: the history is made of the recorded events, and has
    every one with a department that did not repeat. -/
structure AssignmentInv (s : AssignmentState) : Prop where
  keys : ∀ k ∈ s.tables.eventKeys, ∃ x ∈ s.recorded, x.1.eventKey = k
  sound : ∀ r ∈ s.tables.history, (r.toAssignmentEvent, false) ∈ s.recorded
  complete : ∀ e, (e, false) ∈ s.recorded → e.departmentId ≠ none →
    ∃ r ∈ s.tables.history, r.toAssignmentEvent = e

theorem AssignmentInv.init : AssignmentInv {} :=
  ⟨fun _ h => absurd h List.not_mem_nil, fun _ h => absurd h List.not_mem_nil,
    fun _ h => absurd h List.not_mem_nil⟩

theorem AssignmentInv.step (hinv : AssignmentInv s) (hs : assignmentStep s a = some t) :
    AssignmentInv t := by
  simp only [assignmentStep, Option.ite_none_right_eq_some] at hs
  obtain ⟨hnew, hs⟩ := hs
  have hfresh : ∀ x ∈ s.recorded, x.1.eventKey ≠ a.event.eventKey := by
    intro x hx
    simpa using List.all_eq_true.mp hnew x hx
  have hkeys : a.event.eventKey ∉ s.tables.eventKeys := by
    intro hk
    obtain ⟨x, hx, heq⟩ := hinv.keys _ hk
    exact hfresh x hx heq
  have hhistory : ∀ r ∈ s.tables.history, r.eventKey ≠ a.event.eventKey :=
    fun r hr => hfresh _ (hinv.sound r hr)
  split at hs
  next after stored hrec =>
    injection hs with hs
    subst hs
    -- the keys of `after` are recorded: at most that of the new event is added
    have hkeys' : (∀ k ∈ after.eventKeys, k ∈ s.tables.eventKeys ∨ k = a.event.eventKey) →
        ∀ k ∈ after.eventKeys,
          ∃ x ∈ (a.event, repeats a.event s.tables.history) :: s.recorded, x.1.eventKey = k := by
      intro hsub k hk
      rcases hsub k hk with hk | rfl
      · obtain ⟨x, hx, heq⟩ := hinv.keys k hk
        exact ⟨x, List.mem_cons_of_mem _ hx, heq⟩
      · exact ⟨_, List.mem_cons_self, rfl⟩
    have hinsert : ∀ k ∈ Table.insert s.tables.eventKeys a.event.eventKey,
        k ∈ s.tables.eventKeys ∨ k = a.event.eventKey := by
      intro k hk
      rcases List.mem_append.mp hk with hk | hk
      · exact .inl hk
      · exact .inr (List.mem_singleton.mp hk)
    have hcases : Recorded a.event s.tables after :=
      recordTicketAssignment_cases hkeys hhistory hrec
    cases hcases with
    | empty hnone =>
        refine ⟨hkeys' fun k hk => .inl hk, ?_, ?_⟩
        · exact fun r hr => List.mem_cons_of_mem _ (hinv.sound r hr)
        · intro e he hdep
          rcases List.mem_cons.mp he with heq | he
          · injection heq with heq
            exact absurd (heq ▸ hnone) hdep
          · exact hinv.complete e he hdep
    | repeated hrep =>
        refine ⟨hkeys' hinsert, ?_, ?_⟩
        · exact fun r hr => List.mem_cons_of_mem _ (hinv.sound r hr)
        · intro e he hdep
          rcases List.mem_cons.mp he with heq | he
          · injection heq with _ heq
            rw [hrep] at heq
            cases heq
          · exact hinv.complete e he hdep
    | stored r hr hrep =>
        refine ⟨hkeys' hinsert, ?_, ?_⟩
        · intro r' hr'
          rcases List.mem_append.mp hr' with hr' | hr'
          · exact List.mem_cons_of_mem _ (hinv.sound r' hr')
          · rw [List.mem_singleton.mp hr', hr, hrep]
            exact List.mem_cons_self
        · intro e he hdep
          rcases List.mem_cons.mp he with heq | he
          · injection heq with heq
            exact ⟨r, List.mem_append_right _ (List.mem_singleton_self r), hr.trans heq.symm⟩
          · obtain ⟨r', hr', hre⟩ := hinv.complete e he hdep
            exact ⟨r', List.mem_append_left _ hr', hre⟩
  next => cases hs

theorem reachable_assignmentInv {ok : AssignmentState → AssignmentAction → Prop}
    (h : assignmentMachine.ReachableWhere ok s) : AssignmentInv s := by
  refine h.invariant ?_ fun s a t hs _ hstep => hs.step hstep
  intro s hs
  rw [show s = {} from hs]
  exact .init

end Cai.Mapping
