/-
  Cai.Finalization.Malformed — histories that cannot be normalized.

  `parse_timestamp` catches the texts that are no times, and an unknown type
  is counted.  Three things still raise: a list or an object as the type is
  looked up in a set, a time leaves the calendar when it is taken to UTC,
  and five seconds are subtracted from a start in the first five seconds of
  the year 1.

  Main result: `normalizeHistory_returns_iff`.
-/
import Cai.Finalization.Accounting

namespace Cai.Finalization

open Cai.Lib
open Cai.Lib.Calendar (IsTime)
open Cai.Cycle (Timestamp MessageType)

/-! ## §1. A start at the beginning of the calendar. -/

/-- The start that is inferred lies in the first five seconds of the calendar. -/
def StartsEarly (raws : List RawMessage) (ticketStartedAt previousClosedAt : Option Timestamp)
    (closedAt : Timestamp) : Prop :=
  ((∃ t, OpenedAt raws t ∧ t ≤ closedAt + clockSkew)
      ∧ ∀ t, OpenedAt raws t → t ≤ closedAt + clockSkew → t < clockSkew)
    ∨ (∀ t, OpenedAt raws t → closedAt + clockSkew < t)
      ∧ ((∃ t ∈ ticketSource ticketStartedAt previousClosedAt closedAt, t < clockSkew)
        ∨ ticketSource ticketStartedAt previousClosedAt closedAt = none
          ∧ ∃ t, MessageAt raws t ∧ afterPrevious previousClosedAt t = true ∧ t < clockSkew)

variable {raws : List RawMessage} {ticketStartedAt previousClosedAt : Option Timestamp}
  {closedAt : Timestamp}

/-- No start lies after the close by more than `CLOCK_SKEW`. -/
theorem inferCycleStart_le :
    (inferCycleStart raws none ticketStartedAt previousClosedAt closedAt).1
      ≤ closedAt + clockSkew := by
  rw [inferCycleStart_cases fun t => t ≤ closedAt + clockSkew]
  refine ⟨fun t hmax => ?_, fun _ => ⟨fun t hticket => ?_, fun _ => ⟨fun t hmin => ?_,
    fun _ => le_close_skew (le_refl _)⟩⟩⟩
  · exact (mem_technicalOpens_iff.mp (List.max?_eq_some_iff.mp hmax).1).2
  · exact le_close_skew (mem_ticketSource_iff.mp hticket).2.1
  · exact (mem_validMessages_iff.mp (List.min?_eq_some_iff.mp hmin).1).2.1

/-- **When there is room before the start.** -/
theorem clockSkew_le_start_iff (h : clockSkew ≤ closedAt) :
    clockSkew ≤ (inferCycleStart raws none ticketStartedAt previousClosedAt closedAt).1
      ↔ ¬StartsEarly raws ticketStartedAt previousClosedAt closedAt := by
  rw [inferCycleStart_cases fun t => clockSkew ≤ t, technicalOpens_eq_nil_iff]
  unfold StartsEarly
  constructor
  · intro ⟨hopens, hother⟩ hearly
    rcases hearly with ⟨⟨t, hopen, hle⟩, hall⟩ | ⟨hnone, hticket | ⟨hnoticket, t, hmessage, hafter, hlt⟩⟩
    · have hmem : t ∈ technicalOpens closedAt raws := mem_technicalOpens_iff.mpr ⟨hopen, hle⟩
      obtain ⟨s, hs⟩ := Option.isSome_iff_exists.mp (List.isSome_max?_of_mem hmem)
      obtain ⟨hsopen, hsle⟩ := mem_technicalOpens_iff.mp (List.max?_eq_some_iff.mp hs).1
      exact absurd (hopens s hs) (not_le.mpr (hall s hsopen hsle))
    · obtain ⟨t, hmem, hlt⟩ := hticket
      exact absurd ((hother hnone).1 t hmem) (not_le.mpr hlt)
    · have hmem : t ∈ validMessages previousClosedAt closedAt raws :=
        mem_validMessages_iff.mpr ⟨hmessage, le_close_skew (hlt.le.trans h), hafter⟩
      obtain ⟨s, hs⟩ := Option.isSome_iff_exists.mp (List.isSome_min?_of_mem hmem)
      have hle : s ≤ t := (List.min?_eq_some_iff.mp hs).2 t hmem
      have hroom := ((hother hnone).2 hnoticket).1 s hs
      exact absurd (hroom.trans hle) (not_le.mpr hlt)
  · intro hlate
    refine ⟨fun t hmax => ?_, fun hnone => ⟨fun t hmem => ?_, fun hnoticket => ⟨fun t hmin => ?_,
      fun _ => h⟩⟩⟩
    · by_contra hlt
      obtain ⟨hmem, hlast⟩ := List.max?_eq_some_iff.mp hmax
      refine hlate (.inl ⟨⟨t, mem_technicalOpens_iff.mp hmem⟩, fun s hs hle => ?_⟩)
      exact lt_of_le_of_lt (hlast s (mem_technicalOpens_iff.mpr ⟨hs, hle⟩)) (not_le.mp hlt)
    · by_contra hlt
      exact hlate (.inr ⟨hnone, .inl ⟨t, hmem, not_le.mp hlt⟩⟩)
    · by_contra hlt
      obtain ⟨hmessage, -, hafter⟩ := mem_validMessages_iff.mp (List.min?_eq_some_iff.mp hmin).1
      exact hlate (.inr ⟨hnone, .inr ⟨hnoticket, t, hmessage, hafter, not_le.mp hlt⟩⟩)

/-! ## §2. When a history is normalized. -/

namespace Provider

/-- A message whose time is held against the cycle: it has an id, a supported
    type, and passes the tests before that. -/
def Candidate (raw : JsonObject) : Prop :=
  (messageId raw).isSome = true ∧ ((raw.get "type").asText.bind typeNamed).isSome = true
    ∧ classifiable raw = true

/-- What can be made of a history. -/
structure Interpretable (fromisoformat : String → Option IsoTime) (raws : List JsonObject)
    (cycleStartedAt previousClosedAt : Option Timestamp) (ticketClosedAt : Timestamp)
    (ticketStartedAt : Json) : Prop where
  /-- No list and no object is the type of a message with an id. -/
  types : ∀ raw ∈ raws, (messageId raw).isSome = true → (raw.get "type").hashable = true
  /-- The time of a candidate does not leave the calendar in UTC. -/
  times : ∀ raw ∈ raws, Candidate raw → ∃ time, messageTime fromisoformat raw = .ok time
  /-- Without a configured start, no time does, and the types of all messages
      up to the close are looked up. -/
  scanned : cycleStartedAt = none → ∀ raw ∈ raws, ∃ time, messageTime fromisoformat raw = .ok time
    ∧ ∀ t ∈ time, t ≤ ticketClosedAt + clockSkew → (raw.get "type").hashable = true
  /-- Without an open event either, the start of the ticket is read. -/
  ticket : cycleStartedAt = none →
    (∀ t, OpenedAt (rawMessages fromisoformat raws) t → ticketClosedAt + clockSkew < t) →
    ∃ time, parseTimestamp fromisoformat ticketStartedAt = .ok time
  /-- The time of a candidate is held against a start with room before it. -/
  start : cycleStartedAt = none →
    (∃ raw ∈ raws, Candidate raw ∧ (readTime fromisoformat raw).isSome = true) →
    ¬StartsEarly (rawMessages fromisoformat raws) (readTimestamp fromisoformat ticketStartedAt)
      previousClosedAt ticketClosedAt

variable {fromisoformat : String → Option IsoTime} {raws : List JsonObject}
  {cycleStartedAt previousClosedAt : Option Timestamp} {ticketClosedAt : Timestamp}
  {ticketStartedAt : Json}

theorem hashable_of_isTicket {raw : JsonObject} (h : isTicket raw = true) :
    (raw.get "type").hashable = true := by
  unfold isTicket at h
  have htext : raw.get "type" = .str "ticket" := Json.asText_eq_some_iff.mp (beq_iff_eq.mp h)
  rw [htext]
  rfl

/-- The start has room before it: with valid bounds, five seconds are left. -/
theorem isTime_start_iff (hbounds : ValidBounds cycleStartedAt ticketClosedAt) :
    IsTime ((boundsOf fromisoformat raws cycleStartedAt previousClosedAt ticketClosedAt
        ticketStartedAt).start - clockSkew)
      ↔ (cycleStartedAt = none →
          ¬StartsEarly (rawMessages fromisoformat raws)
            (readTimestamp fromisoformat ticketStartedAt) previousClosedAt ticketClosedAt) := by
  cases cycleStartedAt with
  | some start => exact ⟨fun _ h => absurd h (by simp), fun _ => hbounds.start start rfl⟩
  | none =>
      have hclose : clockSkew ≤ ticketClosedAt := Int.sub_nonneg.mp hbounds.before.1
      rw [← clockSkew_le_start_iff hclose]
      have hle : (boundsOf fromisoformat raws none previousClosedAt ticketClosedAt
          ticketStartedAt).start ≤ ticketClosedAt + clockSkew := inferCycleStart_le
      constructor
      · intro htime _
        exact Int.sub_nonneg.mp htime.1
      · intro hroom
        have hskew : (0 : Int) ≤ clockSkew := by decide
        have hbelow := Int.sub_le_self (boundsOf fromisoformat raws none previousClosedAt
          ticketClosedAt ticketStartedAt).start hskew
        exact ⟨Int.sub_nonneg.mpr (hroom rfl),
          lt_of_le_of_lt (hbelow.trans hle) hbounds.after.2⟩

/-- The loop over the times, with a valid close. -/
theorem scanReturns_iff (hbounds : ValidBounds cycleStartedAt ticketClosedAt) {raw : JsonObject} :
    ScanReturns fromisoformat ticketClosedAt raw
      ↔ ∃ time, messageTime fromisoformat raw = .ok time
        ∧ ∀ t ∈ time, t ≤ ticketClosedAt + clockSkew → (raw.get "type").hashable = true := by
  unfold ScanReturns
  constructor
  · intro ⟨time, hok, hall⟩
    refine ⟨time, hok, fun t ht hle => ?_⟩
    rcases (hall t ht).2 with hlate | hopen | hhashable
    · exact absurd hle (not_le.mpr hlate)
    · exact hashable_of_isTicket (Bool.and_eq_true_iff.mp hopen).1
    · exact hhashable
  · intro ⟨time, hok, hall⟩
    refine ⟨time, hok, fun t ht => ⟨hbounds.after, ?_⟩⟩
    rcases lt_or_ge (ticketClosedAt + clockSkew) t with hlate | hle
    · exact .inl hlate
    · exact .inr (.inr (hall t ht hle))

/-- The arithmetic on the time of a candidate, with a valid close. -/
theorem timeReturns_iff {bounds : CycleBounds} (h : IsTime (bounds.closedAt + clockSkew))
    {raw : JsonObject} :
    TimeReturns fromisoformat bounds raw
      ↔ (∃ time, messageTime fromisoformat raw = .ok time)
        ∧ ((readTime fromisoformat raw).isSome = true → IsTime (bounds.start - clockSkew)) := by
  unfold TimeReturns
  constructor
  · intro ⟨time, hok, hall⟩
    refine ⟨⟨time, hok⟩, fun hsome => ?_⟩
    rw [readTime_of_ok hok] at hsome
    obtain ⟨t, ht⟩ := Option.isSome_iff_exists.mp hsome
    exact (hall t ht).1
  · intro ⟨⟨time, hok⟩, hroom⟩
    refine ⟨time, hok, fun t ht => ⟨hroom ?_, fun _ _ => h⟩⟩
    rw [readTime_of_ok hok, Option.mem_def.mp ht]
    rfl

/-- A candidate is no ticket event. -/
theorem Candidate.not_isTicket {raw : JsonObject} (h : Candidate raw) : isTicket raw = false := by
  obtain ⟨type, htype⟩ := Option.isSome_iff_exists.mp h.2.1
  by_contra hticket
  have heq : rawType raw = .ticket := if_pos (by simpa using hticket)
  rw [rawType_eq_supported_iff.mpr htype] at heq
  cases heq

theorem historyReturns_iff (hbounds : ValidBounds cycleStartedAt ticketClosedAt) :
    HistoryReturns fromisoformat raws cycleStartedAt previousClosedAt ticketClosedAt
        ticketStartedAt
      ↔ Interpretable fromisoformat raws cycleStartedAt previousClosedAt ticketClosedAt
          ticketStartedAt := by
  have htimed : ∀ raw, TimeReturns fromisoformat (boundsOf fromisoformat raws cycleStartedAt
      previousClosedAt ticketClosedAt ticketStartedAt) raw
        ↔ (∃ time, messageTime fromisoformat raw = .ok time)
          ∧ ((readTime fromisoformat raw).isSome = true → cycleStartedAt = none →
            ¬StartsEarly (rawMessages fromisoformat raws)
              (readTimestamp fromisoformat ticketStartedAt) previousClosedAt ticketClosedAt) := by
    intro raw
    rw [timeReturns_iff hbounds.after, isTime_start_iff hbounds]
  unfold HistoryReturns StartReturns EntryReturns
  simp only [scanReturns_iff hbounds, technicalOpens_eq_nil_iff, htimed]
  constructor
  · intro ⟨hstart, hentries⟩
    refine ⟨fun raw hraw hid => ?_, fun raw hraw hcandidate => ?_, fun hnone => (hstart hnone).1,
      fun hnone => (hstart hnone).2, fun hnone hsome => ?_⟩
    · by_cases hticket : isTicket raw = true
      · exact hashable_of_isTicket hticket
      · exact (hentries raw hraw hid (by simpa using hticket)).1
    · have hentry := (hentries raw hraw hcandidate.1 hcandidate.not_isTicket).2
      exact (hentry hcandidate.2.1 hcandidate.2.2).1
    · obtain ⟨raw, hraw, hcandidate, hread⟩ := hsome
      have hentry := (hentries raw hraw hcandidate.1 hcandidate.not_isTicket).2
      exact (hentry hcandidate.2.1 hcandidate.2.2).2 hread hnone
  · intro h
    refine ⟨fun hnone => ⟨h.scanned hnone, h.ticket hnone⟩, fun raw hraw hid _ => ?_⟩
    refine ⟨h.types raw hraw hid, fun htype hclass => ?_⟩
    have hcandidate : Candidate raw := ⟨hid, htype, hclass⟩
    exact ⟨h.times raw hraw hcandidate, fun hread hnone => h.start hnone ⟨raw, hraw, hcandidate, hread⟩⟩

/-- **When a history is normalized**, and then every message is accounted for. -/
theorem normalizeHistory_returns_iff (hbounds : ValidBounds cycleStartedAt ticketClosedAt) :
    (∃ history, normalizeHistory fromisoformat raws cycleStartedAt previousClosedAt ticketClosedAt
        ticketStartedAt = .ok history
        ∧ history.messages.length + (history.exclusionCounts.map (·.2)).sum = raws.length)
      ↔ Interpretable fromisoformat raws cycleStartedAt previousClosedAt ticketClosedAt
          ticketStartedAt := by
  rw [← historyReturns_iff hbounds]
  constructor
  · intro ⟨history, hok, _⟩
    exact (normalizeHistory_eq_ok_iff.mp hok).1
  · intro hreturns
    exact ⟨_, normalizeHistory_eq_ok_iff.mpr ⟨hreturns, rfl⟩, length_historyOf⟩

/-- The cycle of one message whose file is a list, between 10:00 and 12:00. -/
theorem oddFile_interpretable : Interpretable sampleTimes [("file", .list []) :: secondChat]
    (some 63871495200000000) none 63871502400000000 .null := by
  have hreturned : (normalizeHistory sampleTimes [("file", .list []) :: secondChat]
      (some 63871495200000000) none 63871502400000000 .null).toOption.map
        (fun history => history.messages.length + (history.exclusionCounts.map (·.2)).sum)
      = some 1 := by decide +kernel
  obtain ⟨history, hok, hlength⟩ := exists_ok_of_toOption hreturned
  have hbounds : ValidBounds (some 63871495200000000) 63871502400000000 := by
    refine ⟨fun start hstart => ?_, by decide, by decide⟩
    rw [← Option.some.inj hstart]
    decide
  exact (normalizeHistory_returns_iff hbounds).mp ⟨history, hok, hlength⟩

/-- A list as the type of a message: `in` raises a `TypeError`. -/
theorem normalizeHistory_raises :
    ¬∃ history, normalizeHistory sampleTimes [[("id", .str "chat-1"), ("type", .list [])]]
        (some 63871495200000000) none 63871502400000000 .null = .ok history
      ∧ history.messages.length + (history.exclusionCounts.map (·.2)).sum = 1 := by
  have hraised : (normalizeHistory sampleTimes [[("id", .str "chat-1"), ("type", .list [])]]
      (some 63871495200000000) none 63871502400000000 .null).toOption.isSome = false := by
    decide +kernel
  intro ⟨history, hok, _⟩
  rw [hok] at hraised
  cases hraised

end Provider

end Cai.Finalization
