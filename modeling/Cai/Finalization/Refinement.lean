/-
  Cai.Finalization.Refinement — the functions on JSON compute the history.

  Where nothing raises, `normalize_history` on the objects of the provider
  is `normalizeHistory` on the records that the `isinstance` tests leave:
  the ISO texts sort the messages as their times do.  What has to hold for
  nothing to raise is said of each message.

  Main results:
    * `inferCycleStart_eq_ok_iff` — the start that is inferred, and when
      there is one.
    * `normalizeHistory_ok_iff` — when a history is normalized.
    * `normalizeHistory_refines` — what comes of it.
-/
import Cai.Finalization.Provider

namespace Cai.Finalization.Provider

open Cai.Lib
open Cai.Lib.Calendar (IsTime isoformat)
open Cai.Cycle (Timestamp MessageType FileMetadata Message SenderType MediaStatus Warning)

variable {fromisoformat : String → Option IsoTime}

/-! ## §1. The loop over the times. -/

variable (fromisoformat) in
/-- The loop of `infer_cycle_start` returns at this message. -/
def ScanReturns (closedAt : Timestamp) (raw : JsonObject) : Prop :=
  ∃ time, messageTime fromisoformat raw = .ok time ∧ ∀ t ∈ time, IsTime (closedAt + clockSkew)
    ∧ (closedAt + clockSkew < t ∨ (isTicket raw && ticketOpen raw) = true
      ∨ (raw.get "type").hashable = true)

variable (fromisoformat) in
/-- What the loop adds for a message. -/
def scanned (previousClosedAt : Option Timestamp) (closedAt : Timestamp) (s : Scanned)
    (raw : JsonObject) : Scanned where
  technicalOpens := s.technicalOpens ++ technicalOpens closedAt [rawMessage fromisoformat raw]
  validMessages :=
    s.validMessages ++ validMessages previousClosedAt closedAt [rawMessage fromisoformat raw]

variable {previousClosedAt : Option Timestamp} {closedAt : Timestamp} {raw : JsonObject}

theorem notAfterClose_rawMessage :
    notAfterClose closedAt (rawMessage fromisoformat raw)
      = (readTime fromisoformat raw).bind fun t =>
          if closedAt + clockSkew < t then none else some t := rfl

/-- The two lists of one message, by cases on what it is. -/
theorem technicalOpens_singleton :
    technicalOpens closedAt [rawMessage fromisoformat raw]
      = if (isTicket raw && ticketOpen raw) = true then
          (notAfterClose closedAt (rawMessage fromisoformat raw)).toList
        else [] := by
  unfold technicalOpens
  by_cases hopen : (isTicket raw && ticketOpen raw) = true
  · rw [if_pos hopen, List.filter_cons_of_pos (by rw [isTechnicalOpen_rawMessage]; exact hopen)]
    cases hnot : notAfterClose closedAt (rawMessage fromisoformat raw) with
    | none => rw [List.filter_nil, List.filterMap_cons_none hnot]; rfl
    | some t => rw [List.filter_nil, List.filterMap_cons_some hnot]; rfl
  · rw [if_neg hopen, List.filter_cons_of_neg (by rw [isTechnicalOpen_rawMessage]; exact hopen)]
    rfl

theorem rawMessage_type : (rawMessage fromisoformat raw).type = rawType raw := rfl

theorem validMessages_singleton :
    validMessages previousClosedAt closedAt [rawMessage fromisoformat raw]
      = if (isTicket raw && ticketOpen raw) = true then []
        else if ((raw.get "type").asText.bind typeNamed).isSome = true then
          (notAfterClose closedAt (rawMessage fromisoformat raw)).toList.filter
            (afterPrevious previousClosedAt)
        else [] := by
  unfold validMessages
  rw [List.filter_singleton, isTechnicalOpen_rawMessage, rawMessage_type]
  by_cases hopen : (isTicket raw && ticketOpen raw) = true
  · rw [if_pos hopen, hopen]
    rfl
  · have hfalse : (isTicket raw && ticketOpen raw) = false := by simpa using hopen
    rw [if_neg hopen, hfalse, Bool.not_false, Bool.true_and]
    cases htype : (raw.get "type").asText.bind typeNamed with
    | some type =>
        rw [rawType_eq_supported_iff.mpr htype]
        cases hnot : notAfterClose closedAt (rawMessage fromisoformat raw) with
        | none => simp [hnot]
        | some t => simp [hnot]
    | none =>
        cases hraw : rawType raw with
        | supported type =>
            rw [rawType_eq_supported_iff.mp hraw] at htype
            cases htype
        | ticket => rfl
        | other text => rfl

/-- **When a round of the loop returns, and what it adds.** -/
theorem scanMessage_eq_ok_iff {s s' : Scanned} :
    scanMessage fromisoformat previousClosedAt closedAt s raw = .ok s'
      ↔ ScanReturns fromisoformat closedAt raw
        ∧ s' = scanned fromisoformat previousClosedAt closedAt s raw := by
  unfold scanMessage ScanReturns scanned
  rw [technicalOpens_singleton, validMessages_singleton, notAfterClose_rawMessage]
  cases htime : messageTime fromisoformat raw with
  | error e => simp [bind, Except.bind]
  | ok time =>
      rw [readTime_of_ok htime]
      cases time with
      | none =>
          simp only [bind, Except.bind, pure, Except.pure, Option.bind_none, Option.toList_none,
            ite_self, List.filter_nil, List.append_nil, Except.ok.injEq, exists_eq_left',
            Option.not_mem_none, false_implies, implies_true, true_and]
          exact eq_comm
      | some t =>
          simp only [bind, Except.bind, pure, Except.pure, Option.bind_some, Except.ok.injEq,
            exists_eq_left', Option.mem_some_iff, forall_eq']
          by_cases hskew : IsTime (closedAt + clockSkew)
          · rw [shifted_eq_ok_iff.mpr ⟨hskew, rfl⟩]
            by_cases hlate : closedAt + clockSkew < t
            · simp only [hskew, hlate, if_true, true_or, and_self, true_and, Option.toList_none,
                List.filter_nil, ite_self, List.append_nil, Except.ok.injEq]
              exact eq_comm
            · by_cases hopen : (isTicket raw && ticketOpen raw) = true
              · simp only [hskew, hlate, hopen, if_true, if_false, true_or, or_true, and_self,
                  true_and, Option.toList_some, List.append_nil, Except.ok.injEq]
                exact eq_comm
              · by_cases hhash : (raw.get "type").hashable = true
                · rw [supportedType_eq_ok_iff.mpr ⟨hhash, rfl⟩]
                  simp only [hskew, hlate, hopen, hhash, Bool.false_eq_true, if_false, or_true,
                    and_self, true_and, Option.toList_some, List.append_nil]
                  cases htype : (raw.get "type").asText.bind typeNamed with
                  | none =>
                      simp only [Option.isSome_none, Bool.false_eq_true, if_false, List.append_nil,
                        Except.ok.injEq]
                      exact eq_comm
                  | some type =>
                      by_cases hafter : afterPrevious previousClosedAt t = true
                      · simp only [hafter, if_true, Option.isSome_some, Except.ok.injEq,
                          List.filter_cons_of_pos, List.filter_nil]
                        exact eq_comm
                      · simp only [hafter, if_false, if_true, Option.isSome_some, Except.ok.injEq,
                          List.filter_nil, Bool.false_eq_true, not_false_eq_true,
                          List.filter_cons_of_neg, List.append_nil]
                        exact eq_comm
                · -- a list or an object is looked up in the set
                  unfold supportedType
                  simp only [hlate, hopen, hhash, if_false, or_self, and_false, false_and,
                    reduceCtorEq]
          · unfold shifted
            simp only [hskew, if_false, false_and, reduceCtorEq]

variable (fromisoformat) in
/-- What the `isinstance` tests leave of a history. -/
def rawMessages (raws : List JsonObject) : List RawMessage := raws.map (rawMessage fromisoformat)

variable {raws : List JsonObject}

theorem foldl_scanned {s : Scanned} :
    raws.foldl (scanned fromisoformat previousClosedAt closedAt) s
      = { technicalOpens :=
            s.technicalOpens ++ technicalOpens closedAt (rawMessages fromisoformat raws)
          validMessages :=
            s.validMessages
              ++ validMessages previousClosedAt closedAt (rawMessages fromisoformat raws) } := by
  induction raws generalizing s with
  | nil => simp [rawMessages, technicalOpens, validMessages]
  | cons raw raws ih =>
      have hopens : technicalOpens closedAt (rawMessages fromisoformat (raw :: raws))
          = technicalOpens closedAt [rawMessage fromisoformat raw]
            ++ technicalOpens closedAt (rawMessages fromisoformat raws) := by
        unfold technicalOpens rawMessages
        rw [← List.filterMap_append, ← List.filter_append]
        rfl
      have hvalid : validMessages previousClosedAt closedAt (rawMessages fromisoformat (raw :: raws))
          = validMessages previousClosedAt closedAt [rawMessage fromisoformat raw]
            ++ validMessages previousClosedAt closedAt (rawMessages fromisoformat raws) := by
        unfold validMessages rawMessages
        rw [← List.filter_append, ← List.filterMap_append, ← List.filter_append]
        rfl
      rw [List.foldl_cons, ih, hopens, hvalid]
      unfold scanned
      rw [List.append_assoc, List.append_assoc]

/-- The whole loop. -/
theorem scan_eq_ok_iff {s : Scanned} :
    raws.foldlM (scanMessage fromisoformat previousClosedAt closedAt) {} = .ok s
      ↔ (∀ raw ∈ raws, ScanReturns fromisoformat closedAt raw)
        ∧ s = { technicalOpens := technicalOpens closedAt (rawMessages fromisoformat raws)
                validMessages :=
                  validMessages previousClosedAt closedAt (rawMessages fromisoformat raws) } := by
  have hstep : ∀ raw ∈ raws, ∀ s s',
      scanMessage fromisoformat previousClosedAt closedAt s raw = .ok s'
        ↔ ScanReturns fromisoformat closedAt raw
          ∧ s' = scanned fromisoformat previousClosedAt closedAt s raw :=
    fun raw _ s s' => scanMessage_eq_ok_iff
  rw [foldlM_eq_ok_iff hstep, foldl_scanned]
  rfl

variable {configuredStart : Option Timestamp} {ticketStartedAt : Json}

variable (fromisoformat) in
/-- When `infer_cycle_start` returns: a configured start is returned as it is. -/
def StartReturns (raws : List JsonObject) (configuredStart : Option Timestamp)
    (ticketStartedAt : Json) (closedAt : Timestamp) : Prop :=
  configuredStart = none →
    (∀ raw ∈ raws, ScanReturns fromisoformat closedAt raw)
      ∧ (technicalOpens closedAt (rawMessages fromisoformat raws) = [] →
          ∃ time, parseTimestamp fromisoformat ticketStartedAt = .ok time)

/-- **The start that is inferred**, and when there is one. -/
theorem inferCycleStart_eq_ok_iff {start : Timestamp × String} :
    inferCycleStart fromisoformat raws configuredStart ticketStartedAt previousClosedAt closedAt
        = .ok start
      ↔ StartReturns fromisoformat raws configuredStart ticketStartedAt closedAt
        ∧ start = Finalization.inferCycleStart (rawMessages fromisoformat raws) configuredStart
            (readTimestamp fromisoformat ticketStartedAt) previousClosedAt closedAt := by
  unfold inferCycleStart StartReturns Finalization.inferCycleStart
  cases configuredStart with
  | some configured =>
      simp only [Except.ok.injEq, reduceCtorEq, false_implies, true_and]
      exact eq_comm
  | none =>
      have hscan : ∀ rest : Scanned → Except Raised (Timestamp × String),
          (raws.foldlM (scanMessage fromisoformat previousClosedAt closedAt) {} >>= rest) = .ok start
            ↔ (∀ raw ∈ raws, ScanReturns fromisoformat closedAt raw)
              ∧ rest ⟨technicalOpens closedAt (rawMessages fromisoformat raws),
                  validMessages previousClosedAt closedAt (rawMessages fromisoformat raws)⟩
                = .ok start := by
        intro rest
        simp only [bind_eq_ok_iff, scan_eq_ok_iff, and_assoc, exists_and_left, exists_eq_left]
      rw [hscan]
      simp only [true_implies, and_assoc]
      apply and_congr_right'
      cases hopens : (technicalOpens closedAt (rawMessages fromisoformat raws)).max? with
      | some latest =>
          have hne : technicalOpens closedAt (rawMessages fromisoformat raws) ≠ [] := by
            intro hnil
            rw [hnil] at hopens
            cases hopens
          simp only [hne, false_implies, true_and, pure_eq_ok_iff]
          exact eq_comm
      | none =>
          rw [List.max?_eq_none_iff.mp hopens]
          simp only [true_implies]
          cases hparse : parseTimestamp fromisoformat ticketStartedAt with
          | error e => simp [bind, Except.bind]
          | ok time =>
              rw [readTimestamp_of_ok hparse]
              simp only [bind, Except.bind, Except.ok.injEq, exists_eq', true_and]
              cases time.filter fun t => t ≤ closedAt && afterPrevious previousClosedAt t with
              | some t =>
                  rw [pure_eq_ok_iff]
                  exact eq_comm
              | none =>
                  cases (validMessages previousClosedAt closedAt
                      (rawMessages fromisoformat raws)).min? with
                  | some t =>
                      rw [pure_eq_ok_iff]
                      exact eq_comm
                  | none =>
                      rw [pure_eq_ok_iff]
                      exact eq_comm

/-! ## §2. One message. -/

variable (fromisoformat) in
/-- The message that the model keeps. -/
def Kept.message (kept : Kept) : Message :=
  keptMessage (rawMessage fromisoformat kept.raw) kept.messageId kept.type kept.timestamp

variable (fromisoformat) in
/-- What becomes of a message, in the model. -/
def Entry.outcome : Entry → Outcome
  | .kept k => .kept (k.message fromisoformat)
  | .excluded reason warning => .excluded reason warning

variable {bounds : CycleBounds} {entry : Entry} {id : String} {type : MessageType}

/-- What the time of a message makes of it. -/
def timedEntry (bounds : CycleBounds) (raw : JsonObject) (messageId : String) (type : MessageType) :
    Option Timestamp → Entry
  | none => .excluded "invalid_timestamp"
      (some { code := "invalid_timestamp", messageId := some messageId })
  | some timestamp =>
      if !afterPrevious bounds.previousClosedAt timestamp then .excluded "previous_cycle"
      else if timestamp < bounds.start - clockSkew || bounds.closedAt + clockSkew < timestamp then
        .excluded "outside_cycle"
      else .kept { raw, messageId, type, timestamp }

variable (fromisoformat) in
/-- The arithmetic on the time of a message returns. -/
def TimeReturns (bounds : CycleBounds) (raw : JsonObject) : Prop :=
  ∃ time, messageTime fromisoformat raw = .ok time ∧ ∀ t ∈ time, IsTime (bounds.start - clockSkew)
    ∧ (afterPrevious bounds.previousClosedAt t = true → bounds.start - clockSkew ≤ t →
        IsTime (bounds.closedAt + clockSkew))

theorem outsideCycle_eq_ok_iff {lower t : Timestamp} {outside : Bool} :
    outsideCycle bounds lower t = .ok outside
      ↔ (lower ≤ t → IsTime (bounds.closedAt + clockSkew))
        ∧ outside = (decide (t < lower) || decide (bounds.closedAt + clockSkew < t)) := by
  unfold outsideCycle
  by_cases hbefore : t < lower
  · simp only [hbefore, if_true, Except.ok.injEq, not_le.mpr hbefore, false_implies, true_and,
      decide_true, Bool.true_or]
    exact eq_comm
  · simp only [hbefore, if_false, not_lt.mp hbefore, true_implies, decide_false, Bool.false_or]
    unfold shifted
    by_cases hskew : IsTime (bounds.closedAt + clockSkew)
    · simp only [hskew, if_true, Except.map, Except.ok.injEq, true_and]
      exact eq_comm
    · simp only [hskew, if_false, Except.map, reduceCtorEq, false_and]

theorem normalizeTimed_eq_ok_iff :
    normalizeTimed fromisoformat bounds raw id type = .ok entry
      ↔ TimeReturns fromisoformat bounds raw
        ∧ entry = timedEntry bounds raw id type (readTime fromisoformat raw) := by
  unfold normalizeTimed TimeReturns
  rw [bind_eq_ok_iff]
  cases htime : messageTime fromisoformat raw with
  | error e => simp
  | ok time =>
      rw [readTime_of_ok htime]
      simp only [Except.ok.injEq, exists_eq_left']
      cases time with
      | none =>
          simp only [Option.not_mem_none, false_implies, implies_true, true_and, pure_eq_ok_iff]
          exact eq_comm
      | some t =>
          have hlower : bounds.start + -clockSkew = bounds.start - clockSkew := rfl
          simp only [bind_eq_ok_iff, shifted_eq_ok_iff, hlower, Option.mem_some_iff, forall_eq',
            timedEntry, and_assoc, exists_and_left, exists_eq_left]
          apply and_congr_right'
          by_cases hafter : afterPrevious bounds.previousClosedAt t = true
          · simp only [hafter, Bool.not_true, Bool.false_eq_true, if_false, true_implies,
              bind_eq_ok_iff, outsideCycle_eq_ok_iff, and_assoc, exists_and_left, exists_eq_left,
              Bool.or_eq_true, decide_eq_true_eq]
            apply and_congr_right'
            split
            next =>
              rw [pure_eq_ok_iff]
              exact eq_comm
            next =>
              rw [pure_eq_ok_iff]
              exact eq_comm
          · simp only [hafter, Bool.not_false, if_true, Bool.false_eq_true, false_implies, true_and,
              pure_eq_ok_iff]
            exact eq_comm

variable (fromisoformat) in
/-- What the tests make of a message of a supported type. -/
def supportedEntry (bounds : CycleBounds) (raw : JsonObject) (messageId : String)
    (type : MessageType) : Entry :=
  if !visible raw then .excluded "invisible"
  else if present (raw.get "deletedAt") then .excluded "deleted"
  else if isBot raw then .excluded "bot"
  else timedEntry bounds raw messageId type (readTime fromisoformat raw)

/-- The tests that do not depend on the cycle, as one. -/
def classifiable (raw : JsonObject) : Bool :=
  visible raw && !present (raw.get "deletedAt") && !isBot raw

theorem normalizeSupported_eq_ok_iff :
    normalizeSupported fromisoformat bounds raw id type = .ok entry
      ↔ (classifiable raw = true → TimeReturns fromisoformat bounds raw)
        ∧ entry = supportedEntry fromisoformat bounds raw id type := by
  unfold normalizeSupported supportedEntry classifiable
  by_cases hvisible : visible raw = true
  · by_cases hdeleted : present (raw.get "deletedAt") = true
    · simp only [hvisible, hdeleted, Bool.not_true, Bool.false_eq_true, if_false, if_true,
        Bool.and_false, Bool.false_and, false_implies, true_and, Except.ok.injEq]
      exact eq_comm
    · by_cases hbot : isBot raw = true
      · simp only [hvisible, hdeleted, hbot, Bool.not_true, Bool.false_eq_true, if_false, if_true,
          Bool.and_false, false_implies, true_and, Except.ok.injEq]
        exact eq_comm
      · simp only [hvisible, hdeleted, hbot, Bool.not_true, Bool.not_false, Bool.false_eq_true,
          if_false, Bool.and_true, true_implies]
        exact normalizeTimed_eq_ok_iff
  · simp only [hvisible, Bool.not_false, if_true, Bool.false_and, Bool.false_eq_true,
      false_implies, true_and, Except.ok.injEq]
    exact eq_comm

variable (fromisoformat) in
/-- What the tests make of a message. -/
def entryOf (bounds : CycleBounds) (raw : JsonObject) : Entry :=
  match messageId raw, rawType raw with
  | none, _ => .excluded "missing_message_id"
  | some _, .ticket => .excluded "technical_ticket_event"
  | some id, .other text => .excluded "unknown_type"
      (some { code := "unknown_message_type", messageId := some id, type := some text })
  | some id, .supported type => supportedEntry fromisoformat bounds raw id type

variable (fromisoformat) in
/-- When the tests on a message return. -/
def EntryReturns (bounds : CycleBounds) (raw : JsonObject) : Prop :=
  (messageId raw).isSome = true → isTicket raw = false →
    (raw.get "type").hashable = true
      ∧ (((raw.get "type").asText.bind typeNamed).isSome = true → classifiable raw = true →
          TimeReturns fromisoformat bounds raw)

/-- **When a message is normalized, and what it becomes.** -/
theorem normalizeEntry_eq_ok_iff :
    normalizeEntry fromisoformat bounds raw = .ok entry
      ↔ EntryReturns fromisoformat bounds raw ∧ entry = entryOf fromisoformat bounds raw := by
  unfold normalizeEntry EntryReturns entryOf
  cases hid : messageId raw with
  | none =>
      simp only [Option.isSome_none, Bool.false_eq_true, false_implies, true_and, Except.ok.injEq]
      exact eq_comm
  | some id =>
      by_cases hticket : isTicket raw = true
      · have htype : rawType raw = .ticket := if_pos hticket
        simp only [hticket, htype, if_true, Bool.true_eq_false, false_implies, implies_true,
          true_and, Except.ok.injEq]
        exact eq_comm
      · have hfalse : isTicket raw = false := by simpa using hticket
        simp only [hfalse, Bool.false_eq_true, if_false, Option.isSome_some, true_implies,
          bind_eq_ok_iff, supportedType_eq_ok_iff, and_assoc, exists_and_left, exists_eq_left]
        apply and_congr_right'
        cases htype : (raw.get "type").asText.bind typeNamed with
        | none =>
            have hother : rawType raw = .other (raw.get "type").toText := by
              unfold rawType
              rw [if_neg hticket, htype]
            simp only [hother, Option.isSome_none, Bool.false_eq_true, false_implies, true_and,
              pure_eq_ok_iff]
            exact eq_comm
        | some type =>
            rw [rawType_eq_supported_iff.mpr htype]
            simp only [Option.isSome_some, true_implies]
            exact normalizeSupported_eq_ok_iff

theorem outcome_timedEntry {time : Option Timestamp} :
    (timedEntry bounds raw id type time).outcome fromisoformat
      = match time with
        | none => .excluded "invalid_timestamp"
            (some { code := "invalid_timestamp", messageId := some id })
        | some t =>
            if !afterPrevious bounds.previousClosedAt t then .excluded "previous_cycle"
            else if t < bounds.start - clockSkew || bounds.closedAt + clockSkew < t then
              .excluded "outside_cycle"
            else .kept (keptMessage (rawMessage fromisoformat raw) id type t) := by
  cases time with
  | none => rfl
  | some t =>
      unfold timedEntry
      simp only [apply_ite (Entry.outcome fromisoformat)]
      rfl

theorem outcome_supportedEntry :
    (supportedEntry fromisoformat bounds raw id type).outcome fromisoformat
      = Finalization.normalizeSupported bounds (rawMessage fromisoformat raw) id type := by
  unfold supportedEntry Finalization.normalizeSupported
  simp only [apply_ite (Entry.outcome fromisoformat), outcome_timedEntry]
  rfl

/-- The model does the same with the record of the message. -/
theorem outcome_entryOf :
    (entryOf fromisoformat bounds raw).outcome fromisoformat
      = normalizeMessage bounds (rawMessage fromisoformat raw) := by
  unfold entryOf normalizeMessage
  show _ = match messageId raw, rawType raw with
    | none, _ => _
    | some _, .ticket => _
    | some id, .other text => _
    | some id, .supported type => _
  cases messageId raw with
  | none => rfl
  | some id =>
      cases rawType raw with
      | ticket => rfl
      | other text => rfl
      | supported type => exact outcome_supportedEntry

/-- A message that is kept is the message it came from, with its type and its time. -/
theorem kept_entryOf {k : Kept} (h : entryOf fromisoformat bounds raw = .kept k) :
    k.raw = raw ∧ rawType raw = .supported k.type
      ∧ readTime fromisoformat raw = some k.timestamp := by
  unfold entryOf at h
  split at h
  next => cases h
  next => cases h
  next => cases h
  next id type hid htype =>
    unfold supportedEntry at h
    repeat' split at h
    all_goals try cases h
    cases htime : readTime fromisoformat raw with
    | none =>
        rw [htime] at h
        cases h
    | some t =>
        rw [htime] at h
        unfold timedEntry at h
        simp only at h
        repeat' split at h
        all_goals cases h
        exact ⟨rfl, htype, rfl⟩

theorem isTime_of_parseTimestamp {value : Json} {t : Timestamp}
    (h : parseTimestamp fromisoformat value = .ok (some t)) : IsTime t := by
  unfold parseTimestamp at h
  split at h
  next => cases h
  next text htext =>
    split at h
    next => cases h
    next parsed hparsed =>
      unfold toUtc at h
      cases hoffset : parsed.offset with
      | none =>
          rw [hoffset] at h
          cases h
          exact parsed.inRange
      | some offset =>
          rw [hoffset] at h
          by_cases hrange : IsTime (parsed.clock - offset)
          · simp only [hrange, if_true, Except.map] at h
            cases h
            exact hrange
          · simp only [hrange, if_false, Except.map] at h
            cases h

/-- What `parse_timestamp` returns is a time of the calendar. -/
theorem isTime_of_readTimestamp {value : Json} {t : Timestamp}
    (h : readTimestamp fromisoformat value = some t) : IsTime t := by
  unfold readTimestamp at h
  split at h
  next time hparse =>
    rw [h] at hparse
    exact isTime_of_parseTimestamp hparse
  next => cases h

/-! ## §3. The history. -/

variable {cycleStartedAt : Option Timestamp} {ticketClosedAt : Timestamp}

variable (fromisoformat) in
/-- The bounds of the cycle. -/
def boundsOf (raws : List JsonObject) (cycleStartedAt previousClosedAt : Option Timestamp)
    (ticketClosedAt : Timestamp) (ticketStartedAt : Json) : CycleBounds :=
  cycleBounds (rawMessages fromisoformat raws) cycleStartedAt previousClosedAt ticketClosedAt
    (readTimestamp fromisoformat ticketStartedAt)

variable (fromisoformat) in
/-- What becomes of the messages. -/
def entriesOf (raws : List JsonObject) (bounds : CycleBounds) : List Entry :=
  raws.map (entryOf fromisoformat bounds)

variable (fromisoformat) in
/-- What `normalize_history` returns, when it returns. -/
def historyOf (raws : List JsonObject) (cycleStartedAt previousClosedAt : Option Timestamp)
    (ticketClosedAt : Timestamp) (ticketStartedAt : Json) : NormalizedHistory :=
  let entries := entriesOf fromisoformat raws
    (boundsOf fromisoformat raws cycleStartedAt previousClosedAt ticketClosedAt ticketStartedAt)
  let inferred := Finalization.inferCycleStart (rawMessages fromisoformat raws) cycleStartedAt
    (readTimestamp fromisoformat ticketStartedAt) previousClosedAt ticketClosedAt
  { messages := ((entries.filterMap Entry.kept?).map Kept.item).insertionSort itemLE
    warnings := entries.filterMap Entry.warning
    exclusionCounts :=
      (entries.filterMap Entry.reason).foldl (fun counts r => countReason r counts) []
    cycleStartedAt := inferred.1, cycleStartStrategy := inferred.2 }

variable (fromisoformat) in
/-- When `normalize_history` returns. -/
def HistoryReturns (raws : List JsonObject) (cycleStartedAt previousClosedAt : Option Timestamp)
    (ticketClosedAt : Timestamp) (ticketStartedAt : Json) : Prop :=
  StartReturns fromisoformat raws cycleStartedAt ticketStartedAt ticketClosedAt
    ∧ ∀ raw ∈ raws, EntryReturns fromisoformat
        (boundsOf fromisoformat raws cycleStartedAt previousClosedAt ticketClosedAt ticketStartedAt)
        raw

/-- **When a history is normalized, and what comes of it.** -/
theorem normalizeHistory_eq_ok_iff {history : NormalizedHistory} :
    normalizeHistory fromisoformat raws cycleStartedAt previousClosedAt ticketClosedAt
        ticketStartedAt = .ok history
      ↔ HistoryReturns fromisoformat raws cycleStartedAt previousClosedAt ticketClosedAt
          ticketStartedAt
        ∧ history = historyOf fromisoformat raws cycleStartedAt previousClosedAt ticketClosedAt
            ticketStartedAt := by
  unfold normalizeHistory HistoryReturns
  simp only [bind_eq_ok_iff, inferCycleStart_eq_ok_iff, and_assoc, exists_and_left, exists_eq_left]
  apply and_congr_right'
  have hentry : ∀ bounds : CycleBounds, ∀ raw ∈ raws, ∀ entry,
      normalizeEntry fromisoformat bounds raw = .ok entry
        ↔ EntryReturns fromisoformat bounds raw ∧ entry = entryOf fromisoformat bounds raw :=
    fun bounds raw _ entry => normalizeEntry_eq_ok_iff
  simp only [mapM_eq_ok_iff (hentry _), pure_eq_ok_iff, and_assoc, exists_and_left, exists_eq_left]
  apply and_congr_right'
  exact eq_comm

/-- The order of the sort, by the times themselves. -/
def keptLE (a b : Kept) : Prop :=
  a.timestamp < b.timestamp ∨ (a.timestamp = b.timestamp ∧ a.messageId ≤ b.messageId)

instance : DecidableRel keptLE := fun a b =>
  inferInstanceAs (Decidable (a.timestamp < b.timestamp
    ∨ (a.timestamp = b.timestamp ∧ a.messageId ≤ b.messageId)))

/-- **The texts of the times sort the messages as the times do.** -/
theorem itemLE_iff {a b : Kept} (ha : IsTime a.timestamp) (hb : IsTime b.timestamp) :
    itemLE a.item b.item ↔ keptLE a b := by
  show isoformat a.timestamp < isoformat b.timestamp
    ∨ (isoformat a.timestamp = isoformat b.timestamp ∧ a.messageId ≤ b.messageId) ↔ _
  rw [Calendar.isoformat_lt_iff ha hb, Calendar.isoformat_inj ha hb]
  rfl

variable (fromisoformat) in
/-- The messages that are kept, in their order. -/
def keptOf (raws : List JsonObject) (bounds : CycleBounds) : List Kept :=
  ((entriesOf fromisoformat raws bounds).filterMap Entry.kept?).insertionSort keptLE

/-- A kept message, and the raw message it is. -/
theorem mem_keptOf_iff {k : Kept} :
    k ∈ keptOf fromisoformat raws bounds
      ↔ ∃ raw ∈ raws, entryOf fromisoformat bounds raw = .kept k := by
  have hkept : ∀ entry : Entry, entry.kept? = some k ↔ entry = .kept k := by
    intro entry
    cases entry with
    | kept k' => simp [Entry.kept?]
    | excluded reason warning => simp [Entry.kept?]
  unfold keptOf entriesOf
  rw [(List.perm_insertionSort keptLE _).mem_iff, List.mem_filterMap]
  simp only [hkept, List.mem_map]
  constructor
  · intro ⟨entry, ⟨raw, hraw, hentry⟩, heq⟩
    exact ⟨raw, hraw, hentry.trans heq⟩
  · intro ⟨raw, hraw, hentry⟩
    exact ⟨_, ⟨raw, hraw, rfl⟩, hentry⟩

theorem isTime_of_mem_keptOf {k : Kept} (h : k ∈ keptOf fromisoformat raws bounds) :
    IsTime k.timestamp := by
  obtain ⟨raw, -, hentry⟩ := mem_keptOf_iff.mp h
  exact isTime_of_readTimestamp (kept_entryOf hentry).2.2

/-- The dictionaries are those of the kept messages. -/
theorem messages_historyOf :
    (historyOf fromisoformat raws cycleStartedAt previousClosedAt ticketClosedAt
        ticketStartedAt).messages
      = (keptOf fromisoformat raws (boundsOf fromisoformat raws cycleStartedAt previousClosedAt
          ticketClosedAt ticketStartedAt)).map Kept.item := by
  unfold keptOf
  refine (List.map_insertionSort keptLE itemLE Kept.item _ fun a ha b hb => ?_).symm
  have htime : ∀ k ∈ (entriesOf fromisoformat raws (boundsOf fromisoformat raws cycleStartedAt
      previousClosedAt ticketClosedAt ticketStartedAt)).filterMap Entry.kept?,
      IsTime k.timestamp := by
    intro k hk
    rw [← (List.perm_insertionSort keptLE _).mem_iff] at hk
    exact isTime_of_mem_keptOf hk
  exact (itemLE_iff (htime a ha) (htime b hb)).symm

/-- What the model makes of the messages. -/
theorem outcomes_rawMessages :
    (rawMessages fromisoformat raws).map (normalizeMessage bounds)
      = (entriesOf fromisoformat raws bounds).map (Entry.outcome fromisoformat) := by
  unfold rawMessages entriesOf
  rw [List.map_map, List.map_map]
  exact List.map_congr_left fun raw _ => outcome_entryOf.symm

theorem filterMap_message {entries : List Entry} :
    (entries.map (Entry.outcome fromisoformat)).filterMap Outcome.message
      = (entries.filterMap Entry.kept?).map (Kept.message fromisoformat) := by
  rw [List.filterMap_map, List.map_filterMap]
  refine List.filterMap_congr fun entry _ => ?_
  cases entry with
  | kept k => rfl
  | excluded reason warning => rfl

/-- **Normalization of JSON refines normalization of records.** -/
theorem normalizeHistory_refines {history : NormalizedHistory}
    (h : normalizeHistory fromisoformat raws cycleStartedAt previousClosedAt ticketClosedAt
      ticketStartedAt = .ok history) :
    ∃ kept : List Kept, history.messages = kept.map Kept.item
      ∧ Finalization.normalizeHistory (rawMessages fromisoformat raws) cycleStartedAt
          previousClosedAt ticketClosedAt (readTimestamp fromisoformat ticketStartedAt)
        = { messages := kept.map (Kept.message fromisoformat)
            warnings := history.warnings, exclusionCounts := history.exclusionCounts
            cycleStartedAt := history.cycleStartedAt
            cycleStartStrategy := history.cycleStartStrategy } := by
  obtain ⟨-, rfl⟩ := normalizeHistory_eq_ok_iff.mp h
  refine ⟨_, messages_historyOf, ?_⟩
  have hreason : Outcome.reason ∘ Entry.outcome fromisoformat = Entry.reason := by
    funext entry
    cases entry with
    | kept k => rfl
    | excluded reason warning => rfl
  have hwarning : Outcome.warning ∘ Entry.outcome fromisoformat = Entry.warning := by
    funext entry
    cases entry with
    | kept k => rfl
    | excluded reason warning => rfl
  unfold Finalization.normalizeHistory keptOf
  simp only [outcomes_rawMessages, filterMap_message]
  rw [List.filterMap_map, List.filterMap_map, hreason, hwarning,
    List.map_insertionSort keptLE messageLE (Kept.message fromisoformat) _ fun a _ b _ => Iff.rfl]
  rfl

end Cai.Finalization.Provider
