/-
  Cai.Webhook.Decisions — what any interleaving of the three writers decides.

  The machine executes single statements, each at its own reading of a
  clock that never goes backwards.  An accepted or imported marker stays
  active until it expires (`Guarded`), so nothing is accepted before; and
  states whose active rows are the same decide the same for ever
  (`Similar`), so a cleanup is never seen.
-/
import Cai.Lib.Transition
import Cai.Webhook.Ledger

namespace Cai.Webhook

open Cai.Lib
open Cai.Cycle (Timestamp)

/-! ## §1. The machine. -/

/-- The statements of the three writers. -/
inductive LedgerStatement
  | record (digest : String)
  /-- `locked` are the digests that other transactions hold. -/
  | cleanup (batchSize : Int) (locked : List String)
  /-- One entry of an import that took its clock at `capturedAt`. -/
  | importMarker (capturedAt : Timestamp) (digest : String) (ttlSeconds : Int)
  deriving DecidableEq, Repr

/-- What the callers are told. -/
inductive LedgerEvent
  | decided (digest : String) (now : Timestamp) (accepted : Bool)
  /-- The marker was imported. -/
  | imported (digest : String) (expiresAt : Timestamp)
  deriving DecidableEq, Repr

structure LedgerState where
  ledger : Ledger
  clock : Timestamp
  /-- Newest first. -/
  log : List LedgerEvent := []
  deriving DecidableEq

structure LedgerAction where
  now : Timestamp
  statement : LedgerStatement
  deriving DecidableEq, Repr

/-- The table after a statement, and what it tells. -/
def LedgerStatement.execute (now : Timestamp) (statement : LedgerStatement) (ledger : Ledger) :
    Except LedgerError (Ledger × Option LedgerEvent) :=
  match statement with
  | .record digest => do
      let (ledger, decision) ← recordWebhookEvent now digest ledger
      return (ledger, some (.decided digest now decision.accepted))
  | .cleanup batchSize locked => do
      let (ledger, _) ← cleanupExpired now batchSize locked ledger
      return (ledger, none)
  | .importMarker capturedAt digest ttlSeconds => do
      validateEntry (digest, ttlSeconds)
      let imported := Webhook.importMarker now capturedAt digest ttlSeconds ledger
      return (imported.1, if imported.2 then
        some (.imported digest (capturedAt + ttlSeconds * 1000000)) else none)

/-- A statement at its reading of the clock; a call that raises changes nothing. -/
def ledgerStep (s : LedgerState) (a : LedgerAction) : Option LedgerState :=
  if s.clock ≤ a.now then
    match a.statement.execute a.now s.ledger with
    | .ok (ledger, event) => some { ledger, clock := a.now, log := event.toList ++ s.log }
    | .error _ => some { s with clock := a.now }
  else none

/-- Any statements, on any table. -/
def ledgerMachine : Machine LedgerState LedgerAction where
  init s := s.log = []
  step := ledgerStep

variable {s t : LedgerState} {a : LedgerAction} {ledger after : Ledger} {now : Timestamp}
  {digest : String} {event : Option LedgerEvent}

/-- The statements of an import whose entries are valid. -/
theorem exec_importMarkers {capturedAt : Timestamp} {entries : List (String × Int)}
    (hclock : s.clock ≤ now) (hvalid : ∀ entry ∈ entries, validateEntry entry = .ok ())
    (n : Nat) :
    ∃ t, ledgerMachine.exec s (entries.map fun entry =>
        ⟨now, .importMarker capturedAt entry.1 entry.2⟩) = some t
      ∧ t.ledger = (entries.foldl (importEntry now capturedAt) (s.ledger, n)).1 := by
  induction entries generalizing s n with
  | nil => exact ⟨s, rfl, rfl⟩
  | cons entry entries ih =>
      obtain ⟨u, hstep, hu, hledger⟩ : ∃ u,
          ledgerStep s ⟨now, .importMarker capturedAt entry.1 entry.2⟩ = some u ∧ u.clock = now
            ∧ u.ledger = (importMarker now capturedAt entry.1 entry.2 s.ledger).1 := by
        have hfirst : validateEntry (entry.1, entry.2) = .ok () := hvalid entry List.mem_cons_self
        unfold ledgerStep
        rw [if_pos hclock]
        simp only [LedgerStatement.execute, hfirst]
        exact ⟨_, rfl, rfl, rfl⟩
      obtain ⟨t, hexec, ht⟩ := ih (s := u) hu.le
        (fun e he => hvalid e (List.mem_cons_of_mem entry he)) _
      rw [hledger] at ht
      refine ⟨t, ?_, ht⟩
      show (ledgerStep s _).bind _ = _
      rw [hstep]
      exact hexec

/-- A call of the import is its statements, one after another. -/
theorem importLegacy_statements {capturedAt : Timestamp} {entries : List (String × Int)} {n : Nat}
    (hclock : s.clock ≤ now)
    (h : importLegacy now capturedAt entries s.ledger = .ok (after, n)) :
    ∃ t, ledgerMachine.exec s (entries.map fun entry =>
        ⟨now, .importMarker capturedAt entry.1 entry.2⟩) = some t ∧ t.ledger = after := by
  unfold importLegacy at h
  obtain ⟨_, hvalid, h⟩ := bind_eq_ok_iff.mp h
  have hafter := congrArg Prod.fst (pure_eq_ok_iff.mp h)
  obtain ⟨t, hexec, ht⟩ := exec_importMarkers hclock (forM_eq_ok_iff.mp hvalid) 0
  exact ⟨t, hexec, ht.trans hafter⟩

/-! ## §2. What a statement does to the active rows. -/

/-- What a statement did, seen by the active rows. -/
inductive Executed (now : Timestamp) (before after : Ledger) : Option LedgerEvent → Prop
  /-- No active row has changed. -/
  | unseen {event : Option LedgerEvent}
      (hlive : ∀ d, Ledger.live now after d = Ledger.live now before d)
      (hevent : ∀ e, event = some e → ∃ digest, e = .decided digest now false) :
      Executed now before after event
  /-- The row of a digest that had no active one is written. -/
  | written (row : LedgerRow) (event : LedgerEvent)
      (hfree : Ledger.live now before row.eventDigest = none)
      (hlive : ∀ d, Ledger.live now after d = if d = row.eventDigest then
        (some row).filter fun row => now < row.expiresAt else Ledger.live now before d)
      (hevent : (event = .decided row.eventDigest now true
          ∧ row.expiresAt = now + eventIdempotencyTtl)
        ∨ event = .imported row.eventDigest row.expiresAt) :
      Executed now before after (some event)

theorem live_put_taken {row : LedgerRow}
    (h : (Ledger.put now row ledger).2.isSome = false) (d : String) :
    Ledger.live now (Ledger.put now row ledger).1 d = Ledger.live now ledger d := by
  have hnot : ¬ Ledger.live now ledger row.eventDigest = none := by
    rw [← Ledger.put_returns_iff, h]
    exact Bool.false_ne_true
  rw [Ledger.live_put, if_neg fun hboth => hnot hboth.1]

theorem live_put_free {row : LedgerRow}
    (h : (Ledger.put now row ledger).2.isSome = true) (d : String) :
    Ledger.live now (Ledger.put now row ledger).1 d = if d = row.eventDigest then
      (some row).filter fun row => now < row.expiresAt else Ledger.live now ledger d := by
  have hfree := Ledger.put_returns_iff.mp h
  rw [Ledger.live_put]
  by_cases hd : d = row.eventDigest
  · rw [if_pos ⟨hfree, hd⟩, if_pos hd]
  · rw [if_neg fun hboth => hd hboth.2, if_neg hd]

theorem accepted_recordWebhookEvent {decision : WebhookEventDecision}
    (h : recordWebhookEvent now digest ledger = .ok (after, decision)) :
    ∃ row : LedgerRow, row.eventDigest = digest ∧ row.expiresAt = now + eventIdempotencyTtl
      ∧ after = (ledger.put now row).1 ∧ decision.accepted = (ledger.put now row).2.isSome := by
  unfold recordWebhookEvent at h
  obtain ⟨_, -, h⟩ := bind_eq_ok_iff.mp h
  have hresult := pure_eq_ok_iff.mp h
  refine ⟨_, rfl, rfl, (congrArg Prod.fst hresult).symm, ?_⟩
  have hdecision : decisionOf _ = decision := congrArg Prod.snd hresult
  rw [← hdecision]
  exact accepted_decisionOf _

/-- The rows that a cleanup removes have expired. -/
theorem live_cleanupExpired {batchSize : Int} {locked : List String} {report : CleanupReport}
    (h : cleanupExpired now batchSize locked ledger = .ok (after, report)) (d : String) :
    Ledger.live now after d = Ledger.live now ledger d := by
  unfold cleanupExpired at h
  obtain ⟨_, -, h⟩ := bind_eq_ok_iff.mp h
  obtain ⟨rfl, -⟩ := Prod.mk.inj (pure_eq_ok_iff.mp h)
  refine Ledger.live_delete fun row hrow hmem => ?_
  obtain ⟨r, hr, hkey⟩ := List.mem_map.mp hmem
  have hsorted := List.mem_of_mem_take hr
  obtain ⟨hr, hexpired⟩ := List.mem_filter.mp ((List.mem_insertionSort _).mp hsorted)
  obtain rfl := List.inj_on_of_nodup_map ledger.digests hr hrow hkey
  exact of_decide_eq_true (Bool.and_eq_true_iff.mp hexpired).1

/-- **One statement.** -/
theorem execute_cases {statement : LedgerStatement}
    (h : statement.execute now ledger = .ok (after, event)) : Executed now ledger after event := by
  cases statement with
  | record digest =>
      obtain ⟨⟨ledger', decision⟩, hrecord, h⟩ := bind_eq_ok_iff.mp h
      obtain ⟨rfl, rfl⟩ := Prod.mk.inj (pure_eq_ok_iff.mp h)
      obtain ⟨row, rfl, hexpires, rfl, haccepted⟩ := accepted_recordWebhookEvent hrecord
      cases hput : (ledger.put now row).2.isSome with
      | false =>
          refine .unseen (live_put_taken hput) fun e he => ?_
          rw [haccepted, hput] at he
          exact ⟨row.eventDigest, (Option.some.inj he).symm⟩
      | true =>
          refine .written row _ (Ledger.put_returns_iff.mp hput) (live_put_free hput) ?_
          rw [haccepted, hput]
          exact .inl ⟨rfl, hexpires⟩
  | cleanup batchSize locked =>
      obtain ⟨⟨ledger', report⟩, hcleanup, h⟩ := bind_eq_ok_iff.mp h
      obtain ⟨rfl, rfl⟩ := Prod.mk.inj (pure_eq_ok_iff.mp h)
      exact .unseen (live_cleanupExpired hcleanup) fun e he => by cases he
  | importMarker capturedAt digest ttlSeconds =>
      obtain ⟨_, -, h⟩ := bind_eq_ok_iff.mp h
      have hresult := pure_eq_ok_iff.mp h
      rw [← show _ = after from congrArg Prod.fst hresult,
        ← show _ = event from congrArg Prod.snd hresult]
      by_cases hput : (importMarker now capturedAt digest ttlSeconds ledger).2 = true
      · rw [if_pos hput]
        exact .written _ _ (Ledger.put_returns_iff.mp hput) (live_put_free hput) (.inr rfl)
      · rw [if_neg hput]
        exact .unseen (live_put_taken (Bool.eq_false_iff.mpr hput)) fun e he => by cases he

/-! ## §3. Markers stay active. -/

/-- The digest that an event is about, and until when it is not accepted again. -/
def LedgerEvent.marks : LedgerEvent → Option (String × Timestamp)
  | .decided digest now true => some (digest, now + eventIdempotencyTtl)
  | .decided _ _ false => none
  | .imported digest expiresAt => some (digest, expiresAt)

/-- What an event marked has expired, or has an active row. -/
def Guarded (s : LedgerState) : Prop :=
  ∀ e ∈ s.log, ∀ d u, e.marks = some (d, u) →
    u ≤ s.clock ∨ ∃ row, s.ledger.live s.clock d = some row ∧ u ≤ row.expiresAt

/-- A later acceptance finds the marks of its digest expired. -/
def Spaced (s : LedgerState) : Prop :=
  s.log.Pairwise fun later earlier => ∀ d t u, later = .decided d t true →
    earlier.marks = some (d, u) → u ≤ t

/-- Time passes. -/
theorem Guarded.wait (h : Guarded s) (hle : s.clock ≤ now) :
    Guarded { s with clock := now } := by
  intro e he d u hmarks
  rcases h e he d u hmarks with hold | ⟨row, hlive, hu⟩
  · exact .inl (hold.trans hle)
  · by_cases hlt : now < row.expiresAt
    · refine .inr ⟨row, ?_, hu⟩
      show Ledger.live now s.ledger d = some row
      rw [Ledger.live_later hle, hlive, Option.filter_some, if_pos (decide_eq_true hlt)]
    · exact .inl (hu.trans (not_lt.mp hlt))

/-- One statement keeps both. -/
theorem guarded_spaced_executed (hguarded : Guarded s) (hspaced : Spaced s) (hclock : s.clock = now)
    (h : Executed now s.ledger after event) :
    Guarded { ledger := after, clock := now, log := event.toList ++ s.log }
      ∧ Spaced { ledger := after, clock := now, log := event.toList ++ s.log } := by
  subst hclock
  cases h with
  | unseen hlive hevent =>
      have hkeep : ∀ d u, (u ≤ s.clock ∨ ∃ row, s.ledger.live s.clock d = some row ∧ u ≤ row.expiresAt) →
          u ≤ s.clock ∨ ∃ row, after.live s.clock d = some row ∧ u ≤ row.expiresAt := by
        intro d u hold
        rw [hlive d]
        exact hold
      cases event with
      | none => exact ⟨fun e he d u hmarks => hkeep d u (hguarded e he d u hmarks), hspaced⟩
      | some e =>
          obtain ⟨digest, rfl⟩ := hevent e rfl
          constructor
          · intro e he d u hmarks
            rcases List.mem_cons.mp he with rfl | he
            · cases hmarks
            · exact hkeep d u (hguarded e he d u hmarks)
          · exact List.Pairwise.cons (fun earlier _ d t u hlater _ => by cases hlater) hspaced
  | written row event hfree hlive hevent =>
      have hmarks : ∀ d u, event.marks = some (d, u) → d = row.eventDigest ∧ u = row.expiresAt := by
        intro d u hmarks
        rcases hevent with ⟨rfl, hexpires⟩ | rfl
        · obtain ⟨rfl, rfl⟩ := Prod.mk.inj (Option.some.inj hmarks)
          exact ⟨rfl, hexpires.symm⟩
        · obtain ⟨rfl, rfl⟩ := Prod.mk.inj (Option.some.inj hmarks)
          exact ⟨rfl, rfl⟩
      constructor
      · intro e he d u he'
        rcases List.mem_cons.mp he with rfl | he
        · obtain ⟨rfl, rfl⟩ := hmarks d u he'
          by_cases hlt : s.clock < row.expiresAt
          · refine .inr ⟨row, ?_, le_rfl⟩
            show after.live s.clock row.eventDigest = some row
            rw [hlive, if_pos rfl, Option.filter_some, if_pos (decide_eq_true hlt)]
          · exact .inl (not_lt.mp hlt)
        · rcases hguarded e he d u he' with hold | ⟨r, hr, hu⟩
          · exact .inl hold
          · -- the digest that is written had no active row
            have hne : d ≠ row.eventDigest := fun heq => by
              rw [heq, hfree] at hr
              cases hr
            refine .inr ⟨r, ?_, hu⟩
            show after.live s.clock d = some r
            rw [hlive, if_neg hne]
            exact hr
      · refine List.Pairwise.cons (fun earlier hearlier d t u hlater hmark => ?_) hspaced
        rcases hevent with ⟨rfl, -⟩ | rfl
        · injection hlater with hd ht
          subst hd ht
          rcases hguarded earlier hearlier _ u hmark with hold | ⟨r, hr, -⟩
          · exact hold
          · rw [hfree] at hr
            cases hr
        · cases hlater

/-- What one action does. -/
theorem ledgerStep_cases (h : ledgerStep s a = some t) :
    s.clock ≤ a.now ∧ (t = { s with clock := a.now } ∨ ∃ after event,
      Executed a.now s.ledger after event
        ∧ t = { ledger := after, clock := a.now, log := event.toList ++ s.log }) := by
  unfold ledgerStep at h
  split at h
  next hle =>
    refine ⟨hle, ?_⟩
    split at h
    next after event hexecute =>
      exact .inr ⟨after, event, execute_cases hexecute, (Option.some.inj h).symm⟩
    next => exact .inl (Option.some.inj h).symm
  next => cases h

theorem guarded_spaced_step (hguarded : Guarded s) (hspaced : Spaced s)
    (h : ledgerStep s a = some t) : Guarded t ∧ Spaced t := by
  obtain ⟨hle, rfl | ⟨after, event, hexecuted, rfl⟩⟩ := ledgerStep_cases h
  · exact ⟨hguarded.wait hle, hspaced⟩
  · have hwait : Guarded { s with clock := a.now } := hguarded.wait hle
    exact guarded_spaced_executed (s := { s with clock := a.now }) hwait hspaced rfl hexecuted

theorem reachable_spaced (h : ledgerMachine.Reachable s) : Spaced s := by
  have key : Guarded s ∧ Spaced s := by
    refine h.invariant (I := fun s => Guarded s ∧ Spaced s) ?_ ?_
    · intro s hs
      have hlog : s.log = [] := hs
      constructor
      · intro e he
        rw [hlog] at he
        exact absurd he List.not_mem_nil
      · unfold Spaced
        rw [hlog]
        exact List.Pairwise.nil
    · intro s a t hs _ hstep
      exact guarded_spaced_step hs.1 hs.2 hstep
  exact key.2

/-! ## §4. A cleanup is not seen. -/

/-- The one is at most as late as the other, and they decide the same. -/
structure Similar (s s' : LedgerState) : Prop where
  clock : s'.clock ≤ s.clock
  log : s'.log = s.log
  live : ∀ d, s'.ledger.live s.clock d = s.ledger.live s.clock d

theorem similar_cleanup {batchSize : Int} {locked : List String}
    (h : ledgerStep s ⟨now, .cleanup batchSize locked⟩ = some t) : Similar t s := by
  unfold ledgerStep at h
  split at h
  next hle =>
    split at h
    next after event hexecute =>
      obtain rfl := Option.some.inj h
      obtain ⟨⟨ledger', report⟩, hcleanup, h⟩ := bind_eq_ok_iff.mp hexecute
      obtain ⟨rfl, rfl⟩ := Prod.mk.inj (pure_eq_ok_iff.mp h)
      exact ⟨hle, rfl, fun d => (live_cleanupExpired hcleanup d).symm⟩
    next =>
      obtain rfl := Option.some.inj h
      exact ⟨hle, rfl, fun d => rfl⟩
  next => cases h

/-- Tables with the same active rows take an upsert alike. -/
theorem put_similar {ledger' : Ledger} (hlive : ∀ d, ledger'.live now d = ledger.live now d)
    (row : LedgerRow) :
    (ledger'.put now row).2.isSome = (ledger.put now row).2.isSome
      ∧ ∀ d, (ledger'.put now row).1.live now d = (ledger.put now row).1.live now d := by
  constructor
  · rw [Bool.eq_iff_iff, Ledger.put_returns_iff, Ledger.put_returns_iff, hlive]
  · intro d
    simp only [Ledger.live_put, hlive]

/-- Tables with the same active rows take every statement alike. -/
theorem execute_similar {ledger' : Ledger} {statement : LedgerStatement}
    (hlive : ∀ d, ledger'.live now d = ledger.live now d)
    (h : statement.execute now ledger = .ok (after, event)) :
    ∃ after', statement.execute now ledger' = .ok (after', event)
      ∧ ∀ d, after'.live now d = after.live now d := by
  cases statement with
  | record digest =>
      obtain ⟨⟨ledger₁, decision⟩, hrecord, h⟩ := bind_eq_ok_iff.mp h
      obtain ⟨rfl, rfl⟩ := Prod.mk.inj (pure_eq_ok_iff.mp h)
      unfold recordWebhookEvent at hrecord
      obtain ⟨u, hvalid, hrecord⟩ := bind_eq_ok_iff.mp hrecord
      have hresult := pure_eq_ok_iff.mp hrecord
      obtain ⟨hsome, hafter⟩ := put_similar hlive
        { eventDigest := digest, firstSeenAt := now, expiresAt := now + eventIdempotencyTtl }
      have haccepted := (accepted_decisionOf _).trans (hsome.trans (accepted_decisionOf _).symm)
      rw [← show _ = ledger₁ from congrArg Prod.fst hresult,
        ← show _ = decision from congrArg Prod.snd hresult, ← haccepted]
      refine ⟨_, bind_eq_ok_iff.mpr ⟨(_, _), bind_eq_ok_iff.mpr ⟨u, hvalid, rfl⟩, rfl⟩, hafter⟩
  | cleanup batchSize locked =>
      obtain ⟨⟨ledger₁, report⟩, hcleanup, h⟩ := bind_eq_ok_iff.mp h
      obtain ⟨rfl, rfl⟩ := Prod.mk.inj (pure_eq_ok_iff.mp h)
      have hvalid := hcleanup
      unfold cleanupExpired at hvalid
      obtain ⟨u, hvalid, -⟩ := bind_eq_ok_iff.mp hvalid
      have hcleanup' : ∃ after', cleanupExpired now batchSize locked ledger' = .ok after' :=
        ⟨_, bind_eq_ok_iff.mpr ⟨u, hvalid, rfl⟩⟩
      obtain ⟨⟨after', report'⟩, hcleanup'⟩ := hcleanup'
      refine ⟨after', bind_eq_ok_iff.mpr ⟨_, hcleanup', rfl⟩, fun d => ?_⟩
      rw [live_cleanupExpired hcleanup', live_cleanupExpired hcleanup, hlive]
  | importMarker capturedAt digest ttlSeconds =>
      obtain ⟨u, hvalid, h⟩ := bind_eq_ok_iff.mp h
      have hresult := pure_eq_ok_iff.mp h
      obtain ⟨hsome, hafter⟩ := put_similar hlive (legacyRow capturedAt digest ttlSeconds)
      have hstored : (importMarker now capturedAt digest ttlSeconds ledger').2
          = (importMarker now capturedAt digest ttlSeconds ledger).2 := hsome
      rw [← show _ = after from congrArg Prod.fst hresult,
        ← show _ = event from congrArg Prod.snd hresult, ← hstored]
      exact ⟨_, bind_eq_ok_iff.mpr ⟨u, hvalid, rfl⟩, hafter⟩

/-- Whether a statement raises does not depend on the table. -/
theorem execute_error {ledger' : Ledger} {statement : LedgerStatement} {e : LedgerError}
    (hlive : ∀ d, ledger'.live now d = ledger.live now d)
    (h : statement.execute now ledger = .error e) :
    ∃ e', statement.execute now ledger' = .error e' := by
  cases h' : statement.execute now ledger' with
  | error e' => exact ⟨e', rfl⟩
  | ok result =>
      obtain ⟨after', hok, -⟩ := execute_similar (fun d => (hlive d).symm) h'
      rw [h] at hok
      cases hok

theorem Similar.step {s' : LedgerState} (h : Similar s s') (hstep : ledgerStep s a = some t) :
    ∃ t', ledgerStep s' a = some t' ∧ Similar t t' := by
  have hle : s.clock ≤ a.now := (ledgerStep_cases hstep).1
  have hlive : ∀ d, s'.ledger.live a.now d = s.ledger.live a.now d := by
    intro d
    rw [Ledger.live_later hle, Ledger.live_later hle, h.live]
  unfold ledgerStep at hstep ⊢
  rw [if_pos hle] at hstep
  rw [if_pos (h.clock.trans hle)]
  cases hexecute : a.statement.execute a.now s.ledger with
  | error e =>
      obtain ⟨e', he'⟩ := execute_error hlive hexecute
      rw [hexecute] at hstep
      obtain rfl := Option.some.inj hstep
      rw [he']
      exact ⟨_, rfl, ⟨le_rfl, h.log, hlive⟩⟩
  | ok result =>
      obtain ⟨after, event⟩ := result
      obtain ⟨after', hexecute', hafter⟩ := execute_similar hlive hexecute
      rw [hexecute] at hstep
      obtain rfl := Option.some.inj hstep
      rw [hexecute']
      refine ⟨_, rfl, ⟨le_rfl, ?_, hafter⟩⟩
      show event.toList ++ s'.log = event.toList ++ s.log
      rw [h.log]

theorem Similar.exec {s' : LedgerState} {as : List LedgerAction} (h : Similar s s')
    (hexec : ledgerMachine.exec s as = some t) :
    ∃ t', ledgerMachine.exec s' as = some t' ∧ Similar t t' := by
  induction as generalizing s s' with
  | nil =>
      obtain rfl := Option.some.inj hexec
      exact ⟨s', rfl, h⟩
  | cons a as ih =>
      obtain ⟨u, hstep, hrest⟩ := Option.bind_eq_some_iff.mp hexec
      obtain ⟨u', hstep', hsimilar⟩ := h.step hstep
      obtain ⟨t', hexec', hsimilar'⟩ := ih hsimilar hrest
      refine ⟨t', ?_, hsimilar'⟩
      show (ledgerStep s' a).bind _ = _
      rw [hstep']
      exact hexec'

/-! ## §5. The ledger. -/

/-- **A digest is accepted at most once per hour**, whatever statements the
    three writers execute in whatever order: two acceptances of a digest are
    an hour apart; it is not accepted before an imported marker expires; and
    what is decided after a cleanup is decided the same without it. -/
theorem ledger_accepts_once (h : ledgerMachine.Reachable s) :
    (s.log.Pairwise fun later earlier => ∀ d t t', earlier = .decided d t true →
        later = .decided d t' true → t + eventIdempotencyTtl ≤ t')
      ∧ (s.log.Pairwise fun later earlier => ∀ d expiresAt t', earlier = .imported d expiresAt →
          later = .decided d t' true → expiresAt ≤ t')
      ∧ ∀ now batchSize locked cleaned,
          ledgerMachine.step s ⟨now, .cleanup batchSize locked⟩ = some cleaned →
          ∀ as t, ledgerMachine.exec cleaned as = some t →
            ∃ t', ledgerMachine.exec s as = some t' ∧ t'.log = t.log := by
  have hspaced := reachable_spaced h
  refine ⟨?_, ?_, ?_⟩
  · refine hspaced.imp fun hpair d t t' hearlier hlater => ?_
    exact hpair d t' _ hlater (hearlier ▸ rfl)
  · refine hspaced.imp fun hpair d expiresAt t' hearlier hlater => ?_
    exact hpair d t' _ hlater (hearlier ▸ rfl)
  · intro now batchSize locked cleaned hcleanup as t hexec
    obtain ⟨t', hexec', hsimilar⟩ := (similar_cleanup hcleanup).exec hexec
    exact ⟨t', hexec', hsimilar.log⟩

/-- A digest. -/
def zeroDigest : String := String.ofList (List.replicate 64 '0')

/-- A digest is accepted, refused, removed by a cleanup at the instant it
    expires and accepted again, as it is without the cleanup. -/
theorem ledger_accepts_once_cleanup :
    ∃ s cleaned t t' : LedgerState, ledgerMachine.Reachable s
      ∧ ledgerMachine.step s ⟨eventIdempotencyTtl, .cleanup 1 []⟩ = some cleaned
      ∧ s.ledger.rows.length = 1 ∧ cleaned.ledger.rows.length = 0
      ∧ t.log = [.decided zeroDigest eventIdempotencyTtl true, .decided zeroDigest 5 false,
          .decided zeroDigest 0 true]
      ∧ ledgerMachine.exec s [⟨eventIdempotencyTtl, .record zeroDigest⟩] = some t'
      ∧ t'.log = t.log := by
  have hrun : ((ledgerMachine.exec { ledger := {}, clock := 0 }
      [⟨0, .record zeroDigest⟩, ⟨5, .record zeroDigest⟩]).bind fun s =>
        (ledgerMachine.step s ⟨eventIdempotencyTtl, .cleanup 1 []⟩).bind fun cleaned =>
          (ledgerMachine.exec cleaned [⟨eventIdempotencyTtl, .record zeroDigest⟩]).map fun t =>
            (s.ledger.rows.length, cleaned.ledger.rows.length, t.log))
      = some (1, 0, [.decided zeroDigest eventIdempotencyTtl true, .decided zeroDigest 5 false,
          .decided zeroDigest 0 true]) := by decide +kernel
  obtain ⟨s, hexec, hrun⟩ := Option.bind_eq_some_iff.mp hrun
  obtain ⟨cleaned, hcleanup, hrun⟩ := Option.bind_eq_some_iff.mp hrun
  obtain ⟨t, ht, heq⟩ := Option.map_eq_some_iff.mp hrun
  obtain ⟨hs, hrest⟩ := Prod.mk.inj heq
  obtain ⟨hcleaned, hlog⟩ := Prod.mk.inj hrest
  have hreach := Machine.reachable_of_exec rfl hexec
  obtain ⟨t', ht', hsame⟩ := (ledger_accepts_once hreach).2.2 _ _ _ cleaned hcleanup _ t ht
  exact ⟨s, cleaned, t, t', hreach, hcleanup, hs, hcleaned, hlog, ht', hsame⟩

end Cai.Webhook
