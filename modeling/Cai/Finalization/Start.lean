/-
  Cai.Finalization.Start — where the inferred start of a cycle lies.

  `infer_cycle_start` takes its start from the latest technical open event,
  else from the start of the ticket, else from the first message, else from
  the close.  Only the start of the ticket is held against both ends of the
  cycle: an open event of a previous cycle is still in the history, and an
  event or a message can follow the close by `CLOCK_SKEW`.

  Main results:
    * `inferCycleStart_cases` — the start satisfies what its source does.
    * `inferCycleStart_inside_iff` — when the start lies after the previous
      close and not after the own one.
-/
import Cai.Finalization.Refinement

namespace Cai.Finalization

open Cai.Lib
open Cai.Cycle (Timestamp MessageType)

/-! ## §1. The times of a history. -/

/-- A technical open event of this time. -/
def OpenedAt (raws : List RawMessage) (t : Timestamp) : Prop :=
  ∃ raw ∈ raws, isTechnicalOpen raw = true ∧ raw.timestamp = some t

/-- A message of a supported type of this time. -/
def MessageAt (raws : List RawMessage) (t : Timestamp) : Prop :=
  ∃ raw ∈ raws, (∃ type, raw.type = .supported type) ∧ raw.timestamp = some t

variable {raws : List RawMessage} {ticketStartedAt : Option Timestamp}
  {previousClosedAt : Option Timestamp} {previous closedAt t : Timestamp}

theorem notAfterClose_eq_some_iff {raw : RawMessage} :
    notAfterClose closedAt raw = some t ↔ raw.timestamp = some t ∧ t ≤ closedAt + clockSkew := by
  unfold notAfterClose
  cases raw.timestamp with
  | none => simp
  | some s =>
      by_cases hlate : closedAt + clockSkew < s
      · simp only [Option.bind_some, hlate, if_true, reduceCtorEq, Option.some.injEq, false_iff,
          not_and, not_le]
        intro heq
        rw [← heq]
        exact hlate
      · simp only [Option.bind_some, hlate, if_false, Option.some.injEq]
        constructor
        · intro heq
          rw [← heq]
          exact ⟨rfl, not_lt.mp hlate⟩
        · exact fun h => h.1

theorem mem_technicalOpens_iff :
    t ∈ technicalOpens closedAt raws ↔ OpenedAt raws t ∧ t ≤ closedAt + clockSkew := by
  unfold technicalOpens OpenedAt
  rw [List.mem_filterMap]
  simp only [List.mem_filter, notAfterClose_eq_some_iff]
  constructor
  · intro ⟨raw, ⟨hraw, hopen⟩, htime, hle⟩
    exact ⟨⟨raw, hraw, hopen, htime⟩, hle⟩
  · intro ⟨⟨raw, hraw, hopen, htime⟩, hle⟩
    exact ⟨raw, ⟨hraw, hopen⟩, htime, hle⟩

theorem mem_validMessages_iff :
    t ∈ validMessages previousClosedAt closedAt raws
      ↔ MessageAt raws t ∧ t ≤ closedAt + clockSkew ∧ afterPrevious previousClosedAt t = true := by
  unfold validMessages MessageAt
  rw [List.mem_filter, List.mem_filterMap]
  simp only [List.mem_filter, notAfterClose_eq_some_iff]
  constructor
  · rintro ⟨⟨raw, ⟨hraw, hkept⟩, htime, hle⟩, hafter⟩
    refine ⟨⟨raw, hraw, ?_, htime⟩, hle, hafter⟩
    cases htype : raw.type with
    | ticket => simp [htype] at hkept
    | other text => simp [htype] at hkept
    | supported type => exact ⟨type, rfl⟩
  · rintro ⟨⟨raw, hraw, ⟨type, htype⟩, htime⟩, hle, hafter⟩
    refine ⟨⟨raw, ⟨hraw, ?_⟩, htime, hle⟩, hafter⟩
    simp [isTechnicalOpen, htype]

/-! ## §2. The source of the start. -/

/-- The start of the ticket, where it is one of the cycle. -/
def ticketSource (ticketStartedAt previousClosedAt : Option Timestamp) (closedAt : Timestamp) :
    Option Timestamp :=
  ticketStartedAt.filter fun t => t ≤ closedAt && afterPrevious previousClosedAt t

theorem mem_ticketSource_iff :
    t ∈ ticketSource ticketStartedAt previousClosedAt closedAt
      ↔ t ∈ ticketStartedAt ∧ t ≤ closedAt ∧ afterPrevious previousClosedAt t = true := by
  unfold ticketSource
  rw [Option.mem_filter_iff, Bool.and_eq_true, decide_eq_true_eq]

/-- **The start satisfies a predicate** when the source that is used does. -/
theorem inferCycleStart_cases (P : Timestamp → Prop) :
    P (inferCycleStart raws none ticketStartedAt previousClosedAt closedAt).1
      ↔ (∀ t, (technicalOpens closedAt raws).max? = some t → P t)
        ∧ (technicalOpens closedAt raws = [] →
            (∀ t ∈ ticketSource ticketStartedAt previousClosedAt closedAt, P t)
            ∧ (ticketSource ticketStartedAt previousClosedAt closedAt = none →
                (∀ t, (validMessages previousClosedAt closedAt raws).min? = some t → P t)
                ∧ (validMessages previousClosedAt closedAt raws = [] → P closedAt))) := by
  unfold inferCycleStart
  cases hopens : (technicalOpens closedAt raws).max? with
  | some latest =>
      have hne : technicalOpens closedAt raws ≠ [] := by
        intro hnil
        rw [hnil] at hopens
        cases hopens
      simp [hne]
  | none =>
      rw [List.max?_eq_none_iff.mp hopens]
      unfold ticketSource
      cases hticket : ticketStartedAt.filter fun t =>
        t ≤ closedAt && afterPrevious previousClosedAt t with
      | some start => simp
      | none =>
          cases hvalid : (validMessages previousClosedAt closedAt raws).min? with
          | some first =>
              have hne : validMessages previousClosedAt closedAt raws ≠ [] := by
                intro hnil
                rw [hnil] at hvalid
                cases hvalid
              simp [hne]
          | none =>
              rw [List.min?_eq_none_iff.mp hvalid]
              simp

/-! ## §3. A start inside the cycle. -/

/-- The time lies after the previous close and not after the own one. -/
def Inside (previous closedAt t : Timestamp) : Prop := previous < t ∧ t ≤ closedAt

/-- The time lies in the `CLOCK_SKEW` after the close. -/
def Late (closedAt t : Timestamp) : Prop := closedAt < t ∧ t ≤ closedAt + clockSkew

/-- The history and the start of the ticket imply a start inside the cycle. -/
structure StartFits (raws : List RawMessage) (ticketStartedAt : Option Timestamp)
    (previous closedAt : Timestamp) : Prop where
  /-- No open event follows the close. -/
  openedInTime : ∀ t, OpenedAt raws t → ¬Late closedAt t
  /-- Where there is an open event up to the close, one is of this cycle. -/
  openedInside : (∃ t, OpenedAt raws t ∧ t ≤ closedAt) →
    ∃ t, OpenedAt raws t ∧ Inside previous closedAt t
  /-- Without one, the start of the ticket or a message is of this cycle, or no
      message follows the close. -/
  otherwise : (∀ t, OpenedAt raws t → closedAt + clockSkew < t) →
    (∃ t ∈ ticketStartedAt, Inside previous closedAt t)
      ∨ (∃ t, MessageAt raws t ∧ Inside previous closedAt t)
      ∨ ∀ t, MessageAt raws t → ¬Late closedAt t

theorem le_close_skew (h : t ≤ closedAt) : t ≤ closedAt + clockSkew := by
  have hskew : (0 : Int) ≤ clockSkew := by decide
  exact h.trans (Int.le_add_of_nonneg_right hskew)

theorem technicalOpens_eq_nil_iff :
    technicalOpens closedAt raws = [] ↔ ∀ t, OpenedAt raws t → closedAt + clockSkew < t := by
  rw [List.eq_nil_iff_forall_not_mem]
  simp only [mem_technicalOpens_iff, not_and, not_le]

/-- The latest of the open events is inside. -/
theorem max_technicalOpens_inside_iff :
    (∀ t, (technicalOpens closedAt raws).max? = some t → Inside previous closedAt t)
      ↔ (∀ t, OpenedAt raws t → ¬Late closedAt t)
        ∧ ((∃ t, OpenedAt raws t ∧ t ≤ closedAt) →
            ∃ t, OpenedAt raws t ∧ Inside previous closedAt t) := by
  constructor
  · intro h
    have hlatest : ∀ t, OpenedAt raws t → t ≤ closedAt + clockSkew →
        ∃ s, OpenedAt raws s ∧ Inside previous closedAt s ∧ t ≤ s := by
      intro t hopen hle
      have hmem : t ∈ technicalOpens closedAt raws := mem_technicalOpens_iff.mpr ⟨hopen, hle⟩
      obtain ⟨s, hs⟩ := Option.isSome_iff_exists.mp (List.isSome_max?_of_mem hmem)
      obtain ⟨hsmem, hsmax⟩ := List.max?_eq_some_iff.mp hs
      exact ⟨s, (mem_technicalOpens_iff.mp hsmem).1, h s hs, hsmax t hmem⟩
    constructor
    · intro t hopen hlate
      obtain ⟨s, -, hinside, hle⟩ := hlatest t hopen hlate.2
      exact absurd (hle.trans hinside.2) (not_le.mpr hlate.1)
    · intro ⟨t, hopen, hle⟩
      obtain ⟨s, hs, hinside, -⟩ := hlatest t hopen (le_close_skew hle)
      exact ⟨s, hs, hinside⟩
  · intro ⟨hintime, hinside⟩ t hmax
    obtain ⟨hmem, hlast⟩ := List.max?_eq_some_iff.mp hmax
    obtain ⟨hopen, hle⟩ := mem_technicalOpens_iff.mp hmem
    have hclosed : t ≤ closedAt := by
      by_contra hlater
      exact hintime t hopen ⟨not_le.mp hlater, hle⟩
    obtain ⟨s, hs, hsinside⟩ := hinside ⟨t, hopen, hclosed⟩
    have hsmem : s ∈ technicalOpens closedAt raws :=
      mem_technicalOpens_iff.mpr ⟨hs, le_close_skew hsinside.2⟩
    exact ⟨lt_of_lt_of_le hsinside.1 (hlast s hsmem), hclosed⟩

theorem mem_validMessages_some_iff :
    t ∈ validMessages (some previous) closedAt raws
      ↔ MessageAt raws t ∧ t ≤ closedAt + clockSkew ∧ previous < t := by
  rw [mem_validMessages_iff]
  unfold afterPrevious
  simp only [Option.all_some, decide_eq_true_eq]

/-- The first of the messages is inside, where there is one. -/
theorem min_validMessages_inside_iff (h : previous < closedAt) :
    (∀ t, (validMessages (some previous) closedAt raws).min? = some t → Inside previous closedAt t)
      ↔ (∃ t, MessageAt raws t ∧ Inside previous closedAt t)
        ∨ ∀ t, MessageAt raws t → ¬Late closedAt t := by
  constructor
  · intro hfirst
    by_cases hsome : ∃ t, t ∈ validMessages (some previous) closedAt raws
    · left
      obtain ⟨t, hmem⟩ := hsome
      obtain ⟨s, hs⟩ := Option.isSome_iff_exists.mp (List.isSome_min?_of_mem hmem)
      have hsmem := (List.min?_eq_some_iff.mp hs).1
      exact ⟨s, (mem_validMessages_some_iff.mp hsmem).1, hfirst s hs⟩
    · right
      intro t hmessage hlate
      exact hsome ⟨t, mem_validMessages_some_iff.mpr ⟨hmessage, hlate.2, h.trans hlate.1⟩⟩
  · intro hcases t hmin
    obtain ⟨hmem, hleast⟩ := List.min?_eq_some_iff.mp hmin
    obtain ⟨hmessage, hle, hafter⟩ := mem_validMessages_some_iff.mp hmem
    refine ⟨hafter, ?_⟩
    rcases hcases with ⟨s, hs, hinside⟩ | hnone
    · have hsmem : s ∈ validMessages (some previous) closedAt raws :=
        mem_validMessages_some_iff.mpr ⟨hs, le_close_skew hinside.2, hinside.1⟩
      exact (hleast s hsmem).trans hinside.2
    · by_contra hlater
      exact hnone t hmessage ⟨not_le.mp hlater, hle⟩

/-- The start of the ticket is only used inside the cycle. -/
theorem mem_ticketSource_some_iff :
    t ∈ ticketSource ticketStartedAt (some previous) closedAt
      ↔ t ∈ ticketStartedAt ∧ Inside previous closedAt t := by
  rw [mem_ticketSource_iff]
  unfold afterPrevious Inside
  simp only [Option.all_some, decide_eq_true_eq, and_comm]

/-- **When the start lies inside the cycle.** -/
theorem inside_start_iff (h : previous < closedAt) :
    Inside previous closedAt
        (inferCycleStart raws none ticketStartedAt (some previous) closedAt).1
      ↔ StartFits raws ticketStartedAt previous closedAt := by
  have hticket : ∀ t ∈ ticketSource ticketStartedAt (some previous) closedAt,
      Inside previous closedAt t := fun t ht => (mem_ticketSource_some_iff.mp ht).2
  have hnone : ticketSource ticketStartedAt (some previous) closedAt = none
      ↔ ¬∃ t ∈ ticketStartedAt, Inside previous closedAt t := by
    rw [Option.eq_none_iff_forall_not_mem]
    simp only [mem_ticketSource_some_iff, not_exists]
  have hclose : Inside previous closedAt closedAt := ⟨h, le_refl closedAt⟩
  rw [inferCycleStart_cases (Inside previous closedAt), max_technicalOpens_inside_iff, technicalOpens_eq_nil_iff,
    min_validMessages_inside_iff h, hnone]
  constructor
  · intro ⟨⟨hintime, hinside⟩, hfallback⟩
    refine ⟨hintime, hinside, fun hnoopen => ?_⟩
    by_cases hstart : ∃ t ∈ ticketStartedAt, Inside previous closedAt t
    · exact .inl hstart
    · exact .inr ((hfallback hnoopen).2 hstart).1
  · intro ⟨hintime, hinside, hfallback⟩
    refine ⟨⟨hintime, hinside⟩, fun hnoopen => ⟨hticket, fun hstart => ⟨?_, fun _ => hclose⟩⟩⟩
    rcases hfallback hnoopen with hstart' | hmessages
    · exact absurd hstart' hstart
    · exact hmessages

/-! ## §4. The start that the provider's history implies. -/

namespace Provider

variable {fromisoformat : String → Option IsoTime}

/-- **When `infer_cycle_start` returns a start inside the cycle.** -/
theorem inferCycleStart_inside_iff {raws : List JsonObject} {ticketStartedAt : Json}
    (h : previous < closedAt) :
    (∃ start strategy, inferCycleStart fromisoformat raws none ticketStartedAt (some previous)
        closedAt = .ok (start, strategy) ∧ previous < start ∧ start ≤ closedAt)
      ↔ StartReturns fromisoformat raws none ticketStartedAt closedAt
        ∧ StartFits (rawMessages fromisoformat raws) (readTimestamp fromisoformat ticketStartedAt)
            previous closedAt := by
  rw [← inside_start_iff h]
  constructor
  · intro ⟨start, strategy, hok, hinside⟩
    obtain ⟨hreturns, heq⟩ := inferCycleStart_eq_ok_iff.mp hok
    rw [← heq]
    exact ⟨hreturns, hinside⟩
  · intro ⟨hreturns, hinside⟩
    exact ⟨_, _, inferCycleStart_eq_ok_iff.mpr ⟨hreturns, rfl⟩, hinside⟩

/-- `datetime.fromisoformat` on the texts of 2025-01-03 that follow. -/
def sampleTimes (text : String) : Option IsoTime :=
  if text = "2025-01-03T10:00:00+00:00" then
    some { clock := 63871495200000000, offset := some 0, inRange := by decide }
  else if text = "2025-01-03T11:30:00+00:00" then
    some { clock := 63871500600000000, offset := some 0, inRange := by decide }
  else none

/-- The open event of the first cycle of a ticket. -/
def firstOpen : JsonObject :=
  [("id", .str "open-1"), ("type", .str "ticket"), ("timestamp", .str "2025-01-03T10:00:00Z"),
    ("data", .dict [("ticketOpen", .bool true)])]

/-- A message of the second one. -/
def secondChat : JsonObject :=
  [("id", .str "chat-1"), ("type", .str "chat"), ("timestamp", .str "2025-01-03T11:30:00Z")]

/-- Without the event, the second cycle starts with its message. -/
theorem secondChat_inside :
    StartReturns sampleTimes [secondChat] none .null 63871502400000000
      ∧ StartFits (rawMessages sampleTimes [secondChat]) (readTimestamp sampleTimes .null)
          63871498800000000 63871502400000000 := by
  have hstart : inferCycleStart sampleTimes [secondChat] none .null (some 63871498800000000)
      63871502400000000 = .ok (63871500600000000, "first_unassociated_message") := by
    decide +kernel
  exact (inferCycleStart_inside_iff (by decide)).mp ⟨_, _, hstart, by decide, by decide⟩

/-- The first cycle was closed at 11:00, the second one at 12:00. -/
theorem inferCycleStart_not_inside :
    ¬∃ start strategy, inferCycleStart sampleTimes [firstOpen, secondChat] none .null
        (some 63871498800000000) 63871502400000000 = .ok (start, strategy)
      ∧ 63871498800000000 < start ∧ start ≤ 63871502400000000 := by
  have hstart : (inferCycleStart sampleTimes [firstOpen, secondChat] none .null
      (some 63871498800000000) 63871502400000000).toOption
        = some (63871495200000000, "digisac_ticket_open_event") := by decide +kernel
  intro ⟨start, strategy, hok, hinside⟩
  rw [hok] at hstart
  injection hstart with hstart
  injection hstart with hstart
  rw [hstart] at hinside
  exact absurd hinside.1 (by decide)

end Provider

end Cai.Finalization
