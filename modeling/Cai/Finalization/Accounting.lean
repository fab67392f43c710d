/-
  Cai.Finalization.Accounting — every message of a history is accounted for.

  What `normalize_history` returns holds each message once: it is kept, or
  counted under one reason.  Nothing of it depends on the order in which
  the provider lists the messages: the counts are counts, the start is a
  maximum or a minimum, and the sort key is different for different
  messages as soon as the ids are.

  Main result: `normalizeHistory_accounts`.
-/
import Cai.Finalization.Start
import Cai.Lib.Lists
import Mathlib.Algebra.GroupWithZero.Nat

namespace Cai.Finalization

open Cai.Lib
open Cai.Cycle (Timestamp MessageType)

/-! ## §1. Counting reasons. -/

/-- The dictionary of counts that the loop builds. -/
def countReasons (reasons : List String) : List (String × Nat) :=
  reasons.foldl (fun counts r => countReason r counts) []

/-- What is counted under a reason. -/
def countOf (counts : List (String × Nat)) (reason : String) : Nat :=
  ((counts.filter fun item => item.1 = reason).map (·.2)).sum

/-- A dictionary of counts: each reason once, and counted at least once. -/
structure Tally (counts : List (String × Nat)) : Prop where
  keys : (counts.map (·.1)).Nodup
  pos : ∀ item ∈ counts, 0 < item.2

variable {counts counts' : List (String × Nat)} {reason r : String} {n : Nat}

theorem countOf_countReason :
    countOf (countReason reason counts) r = countOf counts r + if r = reason then 1 else 0 := by
  unfold countOf
  induction counts with
  | nil =>
      by_cases heq : r = reason
      · simp [countReason, heq]
      · simp [countReason, heq, Ne.symm heq]
  | cons item counts ih =>
      unfold countReason
      by_cases hhead : item.1 = reason
      · rw [if_pos hhead]
        by_cases heq : r = reason
        · simp only [heq, hhead, List.filter_cons, decide_true, if_true, List.map_cons,
            List.sum_cons]
          omega
        · have hne : ¬reason = r := fun h => heq h.symm
          simp only [hhead, hne, List.filter_cons, decide_false, Bool.false_eq_true, if_false, heq,
            Nat.add_zero]
      · rw [if_neg hhead]
        by_cases hitem : item.1 = r
        · simp only [hitem, List.filter_cons, decide_true, if_true, List.map_cons, List.sum_cons, ih]
          omega
        · simp only [hitem, List.filter_cons, decide_false, Bool.false_eq_true, if_false, ih]

theorem sum_countReason :
    ((countReason reason counts).map (·.2)).sum = (counts.map (·.2)).sum + 1 := by
  induction counts with
  | nil => rfl
  | cons item counts ih =>
      unfold countReason
      split
      next =>
        simp only [List.map_cons, List.sum_cons]
        omega
      next =>
        simp only [List.map_cons, List.sum_cons, ih]
        omega

theorem mem_keys_countReason :
    r ∈ (countReason reason counts).map (·.1) → r = reason ∨ r ∈ counts.map (·.1) := by
  induction counts with
  | nil => simp [countReason]
  | cons item counts ih =>
      unfold countReason
      split
      next =>
        intro h
        exact .inr h
      next =>
        intro h
        rw [List.map_cons, List.mem_cons] at h
        rcases h with heq | hrest
        · exact .inr (heq ▸ List.mem_cons_self)
        · rcases ih hrest with heq | hmem
          · exact .inl heq
          · exact .inr (List.mem_cons_of_mem _ hmem)

theorem Tally.countReason (h : Tally counts) (reason : String) :
    Tally (countReason reason counts) := by
  induction counts with
  | nil => exact ⟨List.nodup_singleton _, by simp [Finalization.countReason]⟩
  | cons item counts ih =>
      have hkeys := h.keys
      rw [List.map_cons, List.nodup_cons] at hkeys
      have hrest : Tally counts := ⟨hkeys.2, fun i hi => h.pos i (List.mem_cons_of_mem _ hi)⟩
      unfold Finalization.countReason
      split
      next =>
        refine ⟨h.keys, fun i hi => ?_⟩
        rcases List.mem_cons.mp hi with rfl | hmem
        · exact Nat.succ_pos _
        · exact hrest.pos i hmem
      next hne =>
        have hcounted := ih hrest
        refine ⟨?_, fun i hi => ?_⟩
        · rw [List.map_cons, List.nodup_cons]
          refine ⟨fun hmem => ?_, hcounted.keys⟩
          rcases mem_keys_countReason hmem with heq | hold
          · exact hne heq
          · exact hkeys.1 hold
        · rcases List.mem_cons.mp hi with rfl | hmem
          · exact h.pos _ List.mem_cons_self
          · exact hcounted.pos i hmem

theorem countOf_eq_zero (h : r ∉ counts.map (·.1)) : countOf counts r = 0 := by
  unfold countOf
  have hnone : counts.filter (fun item => item.1 = r) = [] := by
    rw [List.filter_eq_nil_iff]
    intro item hitem heq
    exact h (List.mem_map.mpr ⟨item, hitem, of_decide_eq_true heq⟩)
  rw [hnone]
  rfl

/-- The items of a dictionary of counts. -/
theorem Tally.mem_iff (h : Tally counts) : (r, n) ∈ counts ↔ n = countOf counts r ∧ 0 < n := by
  induction counts with
  | nil =>
      have hzero : countOf [] r = 0 := rfl
      rw [hzero]
      constructor
      · intro hmem
        cases hmem
      · intro ⟨heq, hpos⟩
        omega
  | cons item counts ih =>
      have hkeys := h.keys
      rw [List.map_cons, List.nodup_cons] at hkeys
      have hrest : Tally counts := ⟨hkeys.2, fun i hi => h.pos i (List.mem_cons_of_mem _ hi)⟩
      have hpos : 0 < item.2 := h.pos item List.mem_cons_self
      rw [List.mem_cons]
      by_cases hitem : item.1 = r
      · -- no other item has this reason
        have hnot : r ∉ counts.map (·.1) := hitem ▸ hkeys.1
        have hmem : (r, n) ∉ counts := fun hm => hnot (List.mem_map_of_mem (f := (·.1)) hm)
        have hcount : countOf (item :: counts) r = item.2 := by
          have hzero := countOf_eq_zero hnot
          unfold countOf at hzero ⊢
          simp only [List.filter_cons, hitem, decide_true, if_true, List.map_cons, List.sum_cons,
            hzero, Nat.add_zero]
        rw [hcount, Prod.ext_iff]
        constructor
        · intro hcases
          rcases hcases with ⟨-, heq⟩ | hm
          · have heq : n = item.2 := heq
            exact ⟨heq, by omega⟩
          · exact absurd hm hmem
        · intro ⟨heq, _⟩
          exact .inl ⟨hitem.symm, heq⟩
      · have hcount : countOf (item :: counts) r = countOf counts r := by
          unfold countOf
          simp only [List.filter_cons, hitem, decide_false, Bool.false_eq_true, if_false]
        rw [hcount, ← ih hrest, Prod.ext_iff]
        constructor
        · intro hcases
          rcases hcases with ⟨heq, -⟩ | hm
          · exact absurd heq.symm hitem
          · exact hm
        · exact .inr

theorem nodup_of_tally (h : Tally counts) : counts.Nodup := List.Nodup.of_map _ h.keys

/-- What the loop counts. -/
theorem foldl_countReason (reasons : List String) (h : Tally counts) :
    Tally (reasons.foldl (fun counts r => countReason r counts) counts)
      ∧ (∀ r, countOf (reasons.foldl (fun counts r => countReason r counts) counts) r
          = countOf counts r + reasons.count r)
      ∧ ((reasons.foldl (fun counts r => countReason r counts) counts).map (·.2)).sum
          = (counts.map (·.2)).sum + reasons.length := by
  induction reasons generalizing counts with
  | nil => exact ⟨h, fun r => rfl, rfl⟩
  | cons reason reasons ih =>
      obtain ⟨htally, hcount, hsum⟩ := ih (h.countReason reason)
      refine ⟨htally, fun r => ?_, ?_⟩
      · rw [List.foldl_cons, hcount, countOf_countReason, List.count_cons]
        by_cases heq : r = reason
        · simp only [heq, beq_self_eq_true, if_true]
          omega
        · have hne : (reason == r) = false := by
            rw [beq_eq_false_iff_ne]
            exact fun h => heq h.symm
          simp only [heq, hne, if_false, Bool.false_eq_true]
          omega
      · rw [List.foldl_cons, hsum, sum_countReason, List.length_cons]
        omega

theorem tally_nil : Tally [] := ⟨List.nodup_nil, fun _ hitem => absurd hitem List.not_mem_nil⟩

theorem tally_countReasons (reasons : List String) : Tally (countReasons reasons) :=
  (foldl_countReason reasons tally_nil).1

theorem countOf_countReasons (reasons : List String) (r : String) :
    countOf (countReasons reasons) r = reasons.count r := by
  have h := (foldl_countReason reasons tally_nil).2.1 r
  have hzero : countOf [] r = 0 := rfl
  rw [hzero, Nat.zero_add] at h
  exact h

theorem sum_countReasons (reasons : List String) :
    ((countReasons reasons).map (·.2)).sum = reasons.length := by
  have h := (foldl_countReason reasons tally_nil).2.2
  rw [List.map_nil, List.sum_nil, Nat.zero_add] at h
  exact h

/-- **The counts do not depend on the order.** -/
theorem countReasons_perm {reasons reasons' : List String} (h : reasons.Perm reasons') :
    (countReasons reasons).Perm (countReasons reasons') := by
  rw [List.perm_ext_iff_of_nodup (nodup_of_tally (tally_countReasons reasons))
    (nodup_of_tally (tally_countReasons reasons'))]
  intro ⟨r, n⟩
  rw [(tally_countReasons reasons).mem_iff, (tally_countReasons reasons').mem_iff,
    countOf_countReasons, countOf_countReasons, h.count_eq]

/-! ## §2. Nothing depends on the order. -/

/-- **The start does not depend on the order of the messages.** -/
theorem inferCycleStart_perm {raws raws' : List RawMessage} (h : raws.Perm raws')
    (configuredStart ticketStartedAt previousClosedAt : Option Timestamp) (closedAt : Timestamp) :
    inferCycleStart raws configuredStart ticketStartedAt previousClosedAt closedAt
      = inferCycleStart raws' configuredStart ticketStartedAt previousClosedAt closedAt := by
  have hopens : (technicalOpens closedAt raws).Perm (technicalOpens closedAt raws') :=
    (h.filter _).filterMap _
  have hvalid : (validMessages previousClosedAt closedAt raws).Perm
      (validMessages previousClosedAt closedAt raws') :=
    ((h.filter _).filterMap _).filter _
  unfold inferCycleStart
  rw [max?_perm hopens, min?_perm hvalid]

/-! ## §3. The messages that are kept. -/

namespace Provider

open Cai.Lib.Calendar (IsTime)

instance : Std.Total keptLE where
  total a b := by
    unfold keptLE
    rcases lt_trichotomy a.timestamp b.timestamp with hlt | heq | hgt
    · exact .inl (.inl hlt)
    · rcases le_total a.messageId b.messageId with hle | hle
      · exact .inl (.inr ⟨heq, hle⟩)
      · exact .inr (.inr ⟨heq.symm, hle⟩)
    · exact .inr (.inl hgt)

instance : IsTrans Kept keptLE where
  trans a b c hab hbc := by
    unfold keptLE at *
    rcases hab with hlt | ⟨heq, hle⟩
    · rcases hbc with hlt' | ⟨heq', -⟩
      · exact .inl (hlt.trans hlt')
      · exact .inl (heq' ▸ hlt)
    · rcases hbc with hlt' | ⟨heq', hle'⟩
      · exact .inl (heq ▸ hlt')
      · exact .inr ⟨heq.trans heq', hle.trans hle'⟩

variable {fromisoformat : String → Option IsoTime} {raws raws' : List JsonObject}
  {bounds : CycleBounds} {cycleStartedAt previousClosedAt : Option Timestamp}
  {ticketClosedAt : Timestamp} {ticketStartedAt : Json}

/-- The order of the messages: by time, and by id where the times are equal. -/
def Chronological (a b : Kept) : Prop :=
  a.timestamp < b.timestamp ∨ (a.timestamp = b.timestamp ∧ a.messageId < b.messageId)

/-- The id of a kept message is that of the raw one. -/
theorem messageId_of_entryOf {raw : JsonObject} {k : Kept}
    (h : entryOf fromisoformat bounds raw = .kept k) : messageId raw = some k.messageId := by
  have hmodel : (normalizeMessage bounds (rawMessage fromisoformat raw)).message
      = some (k.message fromisoformat) := by
    rw [← outcome_entryOf, h]
    rfl
  exact normalizeMessage_id hmodel

/-- Two raw messages with one id are the same. -/
theorem eq_of_messageId {raw raw' : JsonObject} {id : String}
    (h : (raws.filterMap messageId).Nodup) (hraw : raw ∈ raws) (hraw' : raw' ∈ raws)
    (hid : messageId raw = some id) (hid' : messageId raw' = some id) : raw = raw' := by
  induction raws with
  | nil => cases hraw
  | cons first raws ih =>
      have hother : ∀ r ∈ raws, messageId r = some id → messageId first ≠ some id := by
        intro r hr hrid hfirst
        rw [List.filterMap_cons_some hfirst, List.nodup_cons] at h
        exact h.1 (List.mem_filterMap.mpr ⟨r, hr, hrid⟩)
      have hrest : (raws.filterMap messageId).Nodup := by
        cases hfirst : messageId first with
        | none =>
            rw [List.filterMap_cons_none hfirst] at h
            exact h
        | some id' =>
            rw [List.filterMap_cons_some hfirst, List.nodup_cons] at h
            exact h.2
      rcases List.mem_cons.mp hraw with rfl | hmem
      · rcases List.mem_cons.mp hraw' with rfl | hmem'
        · rfl
        · exact absurd hid (hother raw' hmem' hid')
      · rcases List.mem_cons.mp hraw' with rfl | hmem'
        · exact absurd hid' (hother raw hmem hid)
        · exact ih hrest hmem hmem'

/-- Two kept messages with one id are the same. -/
theorem kept_eq_of_messageId (h : (raws.filterMap messageId).Nodup) {a b : Kept}
    (ha : ∃ raw ∈ raws, entryOf fromisoformat bounds raw = .kept a)
    (hb : ∃ raw ∈ raws, entryOf fromisoformat bounds raw = .kept b)
    (heq : a.messageId = b.messageId) : a = b := by
  obtain ⟨raw, hraw, hentry⟩ := ha
  obtain ⟨raw', hraw', hentry'⟩ := hb
  have hid' : messageId raw' = some a.messageId := heq ▸ messageId_of_entryOf hentry'
  have hsame := eq_of_messageId h hraw hraw' (messageId_of_entryOf hentry) hid'
  rw [hsame, hentry'] at hentry
  injection hentry with hentry
  exact hentry.symm

theorem mem_kept_iff {k : Kept} :
    k ∈ (entriesOf fromisoformat raws bounds).filterMap Entry.kept?
      ↔ ∃ raw ∈ raws, entryOf fromisoformat bounds raw = .kept k := by
  rw [← mem_keptOf_iff]
  exact (List.perm_insertionSort keptLE _).mem_iff.symm

/-- **The sorted messages do not depend on the order in which they came.** -/
theorem keptOf_perm (h : (raws.filterMap messageId).Nodup) (hperm : raws.Perm raws') :
    keptOf fromisoformat raws bounds = keptOf fromisoformat raws' bounds := by
  refine insertionSort_perm ((hperm.map _).filterMap _) fun a ha b hb hab hba => ?_
  have hid : a.messageId = b.messageId := by
    unfold keptLE at hab hba
    rcases hab with hlt | ⟨heq, hle⟩
    · rcases hba with hgt | ⟨heq', -⟩
      · exact absurd hlt hgt.asymm
      · exact absurd heq'.symm hlt.ne
    · rcases hba with hgt | ⟨-, hle'⟩
      · exact absurd heq.symm hgt.ne
      · exact le_antisymm hle hle'
  exact kept_eq_of_messageId h (mem_kept_iff.mp ha) (mem_kept_iff.mp hb) hid

/-- The ids of the kept messages are among those of the raw ones. -/
theorem nodup_keptOf (h : (raws.filterMap messageId).Nodup) :
    ((keptOf fromisoformat raws bounds).map (·.messageId)).Nodup := by
  have hsub : (((entriesOf fromisoformat raws bounds).filterMap Entry.kept?).map
      (·.messageId)).Sublist (raws.filterMap messageId) := by
    unfold entriesOf
    rw [List.filterMap_map]
    refine map_filterMap_sublist (fun raw k hk => ?_) raws
    cases hentry : entryOf fromisoformat bounds raw with
    | kept k' =>
        have heq : k' = k := by simpa [hentry, Entry.kept?] using hk
        rw [← heq]
        exact messageId_of_entryOf hentry
    | excluded reason warning => simp [hentry, Entry.kept?] at hk
  have hperm := (List.perm_insertionSort keptLE
    ((entriesOf fromisoformat raws bounds).filterMap Entry.kept?)).map (·.messageId)
  exact hperm.nodup_iff.mpr (h.sublist hsub)

/-- **The messages come out in chronological order.** -/
theorem pairwise_keptOf (h : (raws.filterMap messageId).Nodup) :
    (keptOf fromisoformat raws bounds).Pairwise Chronological := by
  have hsorted : (keptOf fromisoformat raws bounds).Pairwise keptLE :=
    List.pairwise_insertionSort keptLE _
  have hdistinct : (keptOf fromisoformat raws bounds).Pairwise
      fun a b => a.messageId ≠ b.messageId := List.pairwise_map.mp (nodup_keptOf h)
  refine (hsorted.and hdistinct).imp fun {a b} hab => ?_
  rcases hab.1 with hlt | ⟨heq, hle⟩
  · exact .inl hlt
  · exact .inr ⟨heq, lt_of_le_of_ne hle hab.2⟩

/-- What every message of the result is. -/
structure Admitted (fromisoformat : String → Option IsoTime) (raws : List JsonObject)
    (start : Timestamp) (previousClosedAt : Option Timestamp) (closedAt : Timestamp) (k : Kept) :
    Prop where
  /-- It is a message of the history, with its own id. -/
  mem : k.raw ∈ raws
  id : k.raw.get "id" = .str k.messageId
  /-- Its type is a supported one. -/
  type : k.raw.get "type" = .str k.type.name
  visible : visible k.raw = true
  notDeleted : present (k.raw.get "deletedAt") = false
  notBot : isBot k.raw = false
  /-- It has a time, and that lies in the window. -/
  time : messageTime fromisoformat k.raw = .ok (some k.timestamp)
  afterPrevious : ∀ previous ∈ previousClosedAt, previous < k.timestamp
  lower : start - clockSkew ≤ k.timestamp
  upper : k.timestamp ≤ closedAt + clockSkew

theorem messageTime_of_readTime {raw : JsonObject} {t : Timestamp}
    (h : readTime fromisoformat raw = some t) : messageTime fromisoformat raw = .ok (some t) := by
  unfold readTime readTimestamp at h
  unfold messageTime
  split at h
  next time hparse => rw [hparse, h]
  next => cases h

theorem name_of_typeNamed {text : String} {type : MessageType} (h : typeNamed text = some type) :
    text = type.name := by
  have hfound := List.find?_some h
  exact (beq_iff_eq.mp hfound).symm

theorem admitted_of_entryOf {raw : JsonObject} {k : Kept} (hraw : raw ∈ raws)
    (h : entryOf fromisoformat bounds raw = .kept k) :
    Admitted fromisoformat raws bounds.start bounds.previousClosedAt bounds.closedAt k := by
  have hid := messageId_of_entryOf h
  have hmodel : (normalizeMessage bounds (rawMessage fromisoformat raw)).message
      = some (k.message fromisoformat) := by
    rw [← outcome_entryOf, h]
    rfl
  obtain ⟨rfl, htype, htime⟩ := kept_entryOf h
  obtain ⟨-, -, t, -, -, hclass, hread, hadmits, -⟩ := normalizeMessage_message_iff.mp hmodel
  have heq : t = k.timestamp := Option.some.inj (hread.symm.trans htime)
  rw [heq, admits_iff] at hadmits
  obtain ⟨hafter, hlower, hupper⟩ := hadmits
  obtain ⟨hvisible, hdeleted, hbot⟩ := classifiable_iff.mp hclass
  obtain ⟨text, htext, hnamed⟩ := Option.bind_eq_some_iff.mp (rawType_eq_supported_iff.mp htype)
  refine ⟨hraw, (get_of_messageId hid).1, ?_, hvisible, hdeleted, hbot, messageTime_of_readTime htime,
    ?_, hlower, hupper⟩
  · rw [← name_of_typeNamed hnamed]
    exact Json.asText_eq_some_iff.mp htext
  · intro previous hprevious
    rw [Option.mem_def.mp hprevious] at hafter
    exact of_decide_eq_true hafter

/-! ## §4. The history. -/

/-- A value with a time of the calendar, and room for `CLOCK_SKEW` before it, or with none. -/
def TimeFits (fromisoformat : String → Option IsoTime) (value : Json) : Prop :=
  ∃ time, parseTimestamp fromisoformat value = .ok time ∧ ∀ t ∈ time, IsTime (t - clockSkew)

/-- The fields of a message have their types. -/
structure WellTyped (fromisoformat : String → Option IsoTime) (raw : JsonObject) : Prop where
  type : ∃ text, raw.get "type" = .str text
  time : TimeFits fromisoformat ((raw.get "timestamp").orElse (raw.get "createdAt"))

/-- The bounds of the cycle are times of the calendar, with room for `CLOCK_SKEW`. -/
structure ValidBounds (cycleStartedAt : Option Timestamp) (ticketClosedAt : Timestamp) : Prop where
  start : ∀ start ∈ cycleStartedAt, IsTime (start - clockSkew)
  before : IsTime (ticketClosedAt - clockSkew)
  after : IsTime (ticketClosedAt + clockSkew)

/-- Each message is either kept or counted. -/
theorem length_kept_add_reasons (entries : List Entry) :
    (entries.filterMap Entry.kept?).length + (entries.filterMap Entry.reason).length
      = entries.length := by
  induction entries with
  | nil => rfl
  | cons entry entries ih =>
      cases entry with
      | kept k =>
          show (k :: entries.filterMap Entry.kept?).length + (entries.filterMap Entry.reason).length
            = (Entry.kept k :: entries).length
          rw [List.length_cons, List.length_cons, ← ih]
          omega
      | excluded reason warning =>
          show (entries.filterMap Entry.kept?).length
              + (reason :: entries.filterMap Entry.reason).length
            = (Entry.excluded reason warning :: entries).length
          rw [List.length_cons, List.length_cons, ← ih]
          omega

/-- Every message is accounted for. -/
theorem length_historyOf :
    (historyOf fromisoformat raws cycleStartedAt previousClosedAt ticketClosedAt
        ticketStartedAt).messages.length
      + ((historyOf fromisoformat raws cycleStartedAt previousClosedAt ticketClosedAt
          ticketStartedAt).exclusionCounts.map (·.2)).sum = raws.length := by
  have hlength := length_kept_add_reasons (entriesOf fromisoformat raws
    (boundsOf fromisoformat raws cycleStartedAt previousClosedAt ticketClosedAt ticketStartedAt))
  have hentries : ∀ bounds, (entriesOf fromisoformat raws bounds).length = raws.length :=
    fun bounds => List.length_map _
  rw [hentries] at hlength
  unfold historyOf
  simp only
  rw [(List.perm_insertionSort itemLE _).length_eq, List.length_map, ← hlength]
  apply congrArg (_ + ·)
  exact sum_countReasons _

theorem boundsOf_perm (h : raws.Perm raws') :
    boundsOf fromisoformat raws' cycleStartedAt previousClosedAt ticketClosedAt ticketStartedAt
      = boundsOf fromisoformat raws cycleStartedAt previousClosedAt ticketClosedAt
          ticketStartedAt := by
  have hmap : (rawMessages fromisoformat raws).Perm (rawMessages fromisoformat raws') := h.map _
  unfold boundsOf cycleBounds
  rw [inferCycleStart_perm hmap]

theorem historyReturns_perm (h : raws.Perm raws')
    (hreturns : HistoryReturns fromisoformat raws cycleStartedAt previousClosedAt ticketClosedAt
      ticketStartedAt) :
    HistoryReturns fromisoformat raws' cycleStartedAt previousClosedAt ticketClosedAt
      ticketStartedAt := by
  obtain ⟨hstart, hentries⟩ := hreturns
  refine ⟨fun hnone => ?_, fun raw hraw => ?_⟩
  · obtain ⟨hscan, hticket⟩ := hstart hnone
    refine ⟨fun raw hraw => hscan raw (h.mem_iff.mpr hraw), fun hnoopen => hticket ?_⟩
    have hopens : (technicalOpens ticketClosedAt (rawMessages fromisoformat raws)).Perm
        (technicalOpens ticketClosedAt (rawMessages fromisoformat raws')) :=
      ((h.map _).filter _).filterMap _
    rw [hnoopen] at hopens
    exact hopens.eq_nil
  · rw [boundsOf_perm h]
    exact hentries raw (h.mem_iff.mpr hraw)

/-- The result holds every message once, and only those of the cycle, in order. -/
def Accounted (fromisoformat : String → Option IsoTime) (raws : List JsonObject)
    (previousClosedAt : Option Timestamp) (ticketClosedAt : Timestamp)
    (history : NormalizedHistory) : Prop :=
  history.messages.length + (history.exclusionCounts.map (·.2)).sum = raws.length
    ∧ ∃ kept : List Kept, history.messages = kept.map Kept.item
      ∧ (∀ k ∈ kept, Admitted fromisoformat raws history.cycleStartedAt previousClosedAt
          ticketClosedAt k)
      ∧ kept.Pairwise Chronological

/-- The same messages, counts, start and strategy; a dictionary has no order. -/
def SameHistory (history history' : NormalizedHistory) : Prop :=
  history'.messages = history.messages
    ∧ history'.exclusionCounts.Perm history.exclusionCounts
    ∧ history'.cycleStartedAt = history.cycleStartedAt
    ∧ history'.cycleStartStrategy = history.cycleStartStrategy

theorem accounted_historyOf (h : (raws.filterMap messageId).Nodup) :
    Accounted fromisoformat raws previousClosedAt ticketClosedAt
      (historyOf fromisoformat raws cycleStartedAt previousClosedAt ticketClosedAt
        ticketStartedAt) := by
  refine ⟨length_historyOf, _, messages_historyOf, fun k hk => ?_, pairwise_keptOf h⟩
  obtain ⟨raw, hraw, hentry⟩ := mem_keptOf_iff.mp hk
  exact admitted_of_entryOf hraw hentry

theorem sameHistory_of_perm (h : (raws.filterMap messageId).Nodup) (hperm : raws.Perm raws') :
    SameHistory
      (historyOf fromisoformat raws cycleStartedAt previousClosedAt ticketClosedAt ticketStartedAt)
      (historyOf fromisoformat raws' cycleStartedAt previousClosedAt ticketClosedAt
        ticketStartedAt) := by
  have hmap : (rawMessages fromisoformat raws).Perm (rawMessages fromisoformat raws') :=
    hperm.map _
  have hstart := inferCycleStart_perm hmap cycleStartedAt
    (readTimestamp fromisoformat ticketStartedAt) previousClosedAt ticketClosedAt
  refine ⟨?_, ?_, congrArg Prod.fst hstart.symm, congrArg Prod.snd hstart.symm⟩
  · rw [messages_historyOf, messages_historyOf, boundsOf_perm hperm, keptOf_perm h hperm]
  · show (countReasons _).Perm (countReasons _)
    rw [boundsOf_perm hperm]
    exact countReasons_perm ((hperm.symm.map _).filterMap _)

theorem WellTyped.readTime {raw : JsonObject} {t : Timestamp} (h : WellTyped fromisoformat raw)
    (hread : readTime fromisoformat raw = some t) : IsTime (t - clockSkew) := by
  obtain ⟨time, hok, htime⟩ := h.time
  exact htime t (readTime_of_ok hok ▸ hread)

/-- The start that well typed messages imply has room for `CLOCK_SKEW`. -/
theorem isTime_start (htyped : ∀ raw ∈ raws, WellTyped fromisoformat raw)
    (hbounds : ValidBounds cycleStartedAt ticketClosedAt)
    (hticket : TimeFits fromisoformat ticketStartedAt) :
    IsTime ((boundsOf fromisoformat raws cycleStartedAt previousClosedAt ticketClosedAt
      ticketStartedAt).start - clockSkew) := by
  cases cycleStartedAt with
  | some start => exact hbounds.start start rfl
  | none =>
      have hraw : ∀ r ∈ rawMessages fromisoformat raws, ∀ t, r.timestamp = some t →
          IsTime (t - clockSkew) := by
        intro r hr t ht
        obtain ⟨raw, hmem, rfl⟩ := List.mem_map.mp hr
        exact (htyped raw hmem).readTime ht
      show IsTime ((Finalization.inferCycleStart (rawMessages fromisoformat raws) none
        (readTimestamp fromisoformat ticketStartedAt) previousClosedAt ticketClosedAt).1 - clockSkew)
      rw [inferCycleStart_cases fun t => IsTime (t - clockSkew)]
      refine ⟨fun t hmax => ?_, fun _ => ⟨fun t hsource => ?_, fun _ => ⟨fun t hmin => ?_,
        fun _ => hbounds.before⟩⟩⟩
      · have hmem := (List.max?_eq_some_iff.mp hmax).1
        obtain ⟨⟨r, hr, -, htime⟩, -⟩ := mem_technicalOpens_iff.mp hmem
        exact hraw r hr t htime
      · obtain ⟨time, hok, htime⟩ := hticket
        have hread := (mem_ticketSource_iff.mp hsource).1
        rw [readTimestamp_of_ok hok] at hread
        exact htime t hread
      · have hmem := (List.min?_eq_some_iff.mp hmin).1
        obtain ⟨⟨r, hr, -, htime⟩, -⟩ := mem_validMessages_iff.mp hmem
        exact hraw r hr t htime

/-- Where the fields have their types, the arithmetic of the times returns. -/
theorem historyReturns_of_wellTyped (htyped : ∀ raw ∈ raws, WellTyped fromisoformat raw)
    (hbounds : ValidBounds cycleStartedAt ticketClosedAt)
    (hticket : TimeFits fromisoformat ticketStartedAt) :
    HistoryReturns fromisoformat raws cycleStartedAt previousClosedAt ticketClosedAt
      ticketStartedAt := by
  have hhashable : ∀ raw ∈ raws, (raw.get "type").hashable = true := by
    intro raw hraw
    obtain ⟨text, htext⟩ := (htyped raw hraw).type
    rw [htext]
    rfl
  refine ⟨fun _ => ⟨fun raw hraw => ?_, fun _ => ?_⟩, fun raw hraw _ _ => ⟨hhashable raw hraw, ?_⟩⟩
  · obtain ⟨time, hok, -⟩ := (htyped raw hraw).time
    exact ⟨time, hok, fun t _ => ⟨hbounds.after, .inr (.inr (hhashable raw hraw))⟩⟩
  · obtain ⟨time, hok, -⟩ := hticket
    exact ⟨time, hok⟩
  · intro _ _
    obtain ⟨time, hok, -⟩ := (htyped raw hraw).time
    exact ⟨time, hok, fun t _ => ⟨isTime_start htyped hbounds hticket, fun _ _ => hbounds.after⟩⟩

/-- **Normalization accounts for every message, in any order.** -/
theorem normalizeHistory_accounts (h : (raws.filterMap messageId).Nodup) :
    ((∀ raw ∈ raws, WellTyped fromisoformat raw) →
        ValidBounds cycleStartedAt ticketClosedAt → TimeFits fromisoformat ticketStartedAt →
        ∃ history, normalizeHistory fromisoformat raws cycleStartedAt previousClosedAt
          ticketClosedAt ticketStartedAt = .ok history)
      ∧ ∀ history, normalizeHistory fromisoformat raws cycleStartedAt previousClosedAt
          ticketClosedAt ticketStartedAt = .ok history →
        Accounted fromisoformat raws previousClosedAt ticketClosedAt history
        ∧ ∀ raws', raws.Perm raws' → ∃ history', normalizeHistory fromisoformat raws'
            cycleStartedAt previousClosedAt ticketClosedAt ticketStartedAt = .ok history'
          ∧ SameHistory history history' := by
  refine ⟨fun htyped hbounds hticket => ?_, fun history hok => ?_⟩
  · have hreturns : HistoryReturns fromisoformat raws cycleStartedAt previousClosedAt
        ticketClosedAt ticketStartedAt := historyReturns_of_wellTyped htyped hbounds hticket
    exact ⟨_, normalizeHistory_eq_ok_iff.mpr ⟨hreturns, rfl⟩⟩
  · obtain ⟨hreturns, rfl⟩ := normalizeHistory_eq_ok_iff.mp hok
    refine ⟨accounted_historyOf h, fun raws' hperm => ?_⟩
    exact ⟨_, normalizeHistory_eq_ok_iff.mpr ⟨historyReturns_perm hperm hreturns, rfl⟩,
      sameHistory_of_perm h hperm⟩

/-- The cycle from 11:00 to 12:00: the event is counted, the message kept. -/
theorem sampleHistory_accounted : ∃ history,
    normalizeHistory sampleTimes [firstOpen, secondChat] (some 63871498800000000) none
        63871502400000000 .null = .ok history
      ∧ history.exclusionCounts = [("technical_ticket_event", 1)]
      ∧ Accounted sampleTimes [firstOpen, secondChat] none 63871502400000000 history := by
  have hreturned : (normalizeHistory sampleTimes [firstOpen, secondChat] (some 63871498800000000)
      none 63871502400000000 .null).toOption.map (·.exclusionCounts)
        = some [("technical_ticket_event", 1)] := by decide +kernel
  obtain ⟨history, hok, hcounts⟩ := exists_ok_of_toOption hreturned
  have hids : ([firstOpen, secondChat].filterMap messageId).Nodup := by decide +kernel
  exact ⟨history, hok, hcounts, ((normalizeHistory_accounts hids).2 history hok).1⟩

end Provider

end Cai.Finalization
