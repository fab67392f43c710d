/-
  Cai.Reconciliation.Report — what the report of a call tells.

  A call ends in one of three ways (`Exit`): nothing was published, a dry
  run was reported, or both snapshots were published and the discovery and
  the last report followed.  The handlers of the `try` know nothing of the
  commit, and a discovery that raises counts the contacts of the snapshot
  as failed, of which there may be none.

  Main results: `report_true_iff`, and `misreported_iff` for its condition.
-/
import Cai.Identity.Steps
import Cai.Reconciliation.Convergence

namespace Cai.Reconciliation

open Cai.Lib
open Cai.Cycle (Timestamp)
open Cai.Directory
open Cai.Identity (IdentityTables SameSurroundings discoverLocked_ok)

variable {env : Environment} {mode : Mode} {snapshot : AcessoriasSnapshot}
  {digisac : DigisacContactBackfillSnapshot} {db published : IdentityTables} {stamps : Stamps}
  {s t : Scope}
  {outcome : Except ReconciliationError ReconciliationResult}

/-! ## §1. What a report should tell. -/

/-- A status that the row of the execution stores or the call returns. -/
def Reported (s : Scope) (outcome : Except ReconciliationError ReconciliationResult)
    (status : ExecutionStatus) : Prop :=
  (∃ row, s.execution = some row ∧ row.status = status)
    ∨ ∃ result, outcome = .ok result ∧ result.status = status

/-- Both directories are as `db` and `stamps` say, with `synced_at` and `updated_at`. -/
structure Untouched (db : IdentityTables) (stamps : Stamps) (s : Scope) : Prop where
  tables : SameSurroundings db s.db
  stamps : s.stamps = stamps

/-- **The report tells what happened**, where `db` and `stamps` are the tables
    before the call. -/
structure ReportTrue (env : Environment) (db : IdentityTables) (stamps : Stamps)
    (run : Scope × Except ReconciliationError ReconciliationResult) : Prop where
  /-- A failure or a dry run has left both directories alone. -/
  unchanged : Reported run.1 run.2 .failed ∨ Reported run.1 run.2 .dryRun →
    Untouched db stamps run.1
  /-- A success, or a failure of the matching, has published both snapshots. -/
  published : Reported run.1 run.2 .succeeded ∨ Reported run.1 run.2 .matchingFailed →
    ∃ snapshot digisac, acquireSnapshots env = .ok (snapshot, digisac)
      ∧ Deltas env.now snapshot digisac db run.1.db
      ∧ run.1.stamps = stamps.publish env.now env.publishedAt snapshot digisac db
  /-- A success that is returned has discovered every contact. -/
  discovered : (∃ result, run.2 = .ok result ∧ result.status = .succeeded) →
    ∀ row ∈ run.1.db.digisacContacts.rows, row.id ∈ run.1.discovered

/-! ## §2. The discovery. -/

/-- One contact is discovered, or counts as failed. -/
theorem discoverContact_cases (env : Environment) (batch : Batch) (contactId : Nat) :
    (∃ counts, discoverContact env batch contactId = { batch with counts }
        ∧ counts.failedCount = batch.counts.failedCount + 1)
      ∨ (SameSurroundings batch.db (discoverContact env batch contactId).db
        ∧ (discoverContact env batch contactId).counts.failedCount = batch.counts.failedCount
        ∧ (discoverContact env batch contactId).discovered = contactId :: batch.discovered) := by
  unfold discoverContact
  simp only
  split
  next after found hfound =>
    obtain ⟨_, -, hfound⟩ := bind_eq_ok_iff.mp hfound
    refine .inr ⟨(discoverLocked_ok hfound).2.1, ?_, rfl⟩
    show (batch.counts.process found.state).failedCount = batch.counts.failedCount
    unfold BatchCounts.process
    cases found.state <;> rfl
  next => exact .inl ⟨_, rfl, rfl⟩

/-- What the loop over the contacts keeps. -/
structure BatchKept (ids : List Nat) (before after : Batch) : Prop where
  surroundings : SameSurroundings before.db after.db
  /-- Without a failure every contact was discovered. -/
  discovered : after.counts.failedCount = 0 →
    before.counts.failedCount = 0 ∧ ∀ i, i ∈ ids ∨ i ∈ before.discovered → i ∈ after.discovered

theorem discoverLoop_kept (env : Environment) (ids : List Nat) (batch : Batch) :
    BatchKept ids batch (ids.foldl (discoverContact env) batch) := by
  induction ids generalizing batch with
  | nil =>
      refine ⟨.refl _, fun hzero => ⟨hzero, fun i hi => ?_⟩⟩
      rcases hi with hi | hi
      · exact absurd hi List.not_mem_nil
      · exact hi
  | cons contactId ids ih =>
      have hrest := ih (discoverContact env batch contactId)
      rw [List.foldl_cons]
      rcases discoverContact_cases env batch contactId with
        ⟨counts, hstep, hfailed⟩ | ⟨hsame, hfailed, hdiscovered⟩
      · -- a failure is never taken back
        rw [hstep] at hrest ⊢
        refine ⟨hrest.surroundings, fun hzero => ?_⟩
        have hcount : counts.failedCount = 0 := (hrest.discovered hzero).1
        omega
      · refine ⟨⟨hrest.surroundings.digisacContacts.trans hsame.digisacContacts,
          hrest.surroundings.directory.trans hsame.directory⟩, fun hzero => ?_⟩
        obtain ⟨hcount, hall⟩ := hrest.discovered hzero
        refine ⟨hfailed ▸ hcount, fun i hi => hall i ?_⟩
        rw [hdiscovered, List.mem_cons]
        rcases hi with hi | hi
        · rcases List.mem_cons.mp hi with rfl | hi
          · exact .inr (.inl rfl)
          · exact .inl hi
        · exact .inr (.inr hi)

/-- The discovery as a whole raises. -/
def Environment.discoveryRaises (env : Environment) : Prop :=
  env.listing = true ∨ env.discoveryCommit = true

theorem discoverAllIdentities_ok {batch : Batch} (h : discoverAllIdentities env db = .ok batch) :
    ¬ env.discoveryRaises ∧ SameSurroundings db batch.db
      ∧ (batch.counts.failedCount = 0 →
        ∀ row ∈ db.digisacContacts.rows, row.id ∈ batch.discovered) := by
  unfold discoverAllIdentities at h
  obtain ⟨_, hlisting, h⟩ := bind_eq_ok_iff.mp h
  obtain ⟨_, hcommit, h⟩ := bind_eq_ok_iff.mp h
  have hkept := discoverLoop_kept env (db.digisacContacts.rows.map (·.id)) { db }
  rw [pure_eq_ok_iff.mp h] at hkept
  refine ⟨?_, hkept.surroundings, fun hzero row hrow => ?_⟩
  · rintro (hraises | hraises)
    · rw [require_eq_ok_iff.mp hlisting] at hraises
      cases hraises
    · rw [require_eq_ok_iff.mp hcommit] at hraises
      cases hraises
  · exact (hkept.discovered hzero).2 row.id (.inl (List.mem_map_of_mem hrow))

theorem Untouched.refl (s : Scope) : Untouched s.db s.stamps s := ⟨.refl s.db, rfl⟩

theorem Untouched.trans {u : Scope} (h : Untouched db stamps s) (h' : Untouched s.db s.stamps u) :
    Untouched db stamps u :=
  ⟨⟨h'.tables.digisacContacts.trans h.tables.digisacContacts,
    h'.tables.directory.trans h.tables.directory⟩, h'.stamps.trans h.stamps⟩

theorem discoverAllIdentities_error {e : ReconciliationError}
    (h : discoverAllIdentities env db = .error e) : env.discoveryRaises := by
  by_contra hquiet
  have hlisting : env.listing = false := Bool.eq_false_iff.mpr fun h => hquiet (.inl h)
  have hcommit : env.discoveryCommit = false := Bool.eq_false_iff.mpr fun h => hquiet (.inr h)
  unfold discoverAllIdentities at h
  rw [hlisting, hcommit] at h
  cases h

/-! ## §3. The last report. -/

/-- The row of the execution, if there is one, has this status. -/
def StoredAs (s : Scope) (status : ExecutionStatus) : Prop :=
  ∀ row, s.execution = some row → row.status = status

/-- A report was written and returned. -/
structure Concluded (report : Report) (s t : Scope)
    (outcome : Except ReconciliationError ReconciliationResult) : Prop where
  db : t.db = s.db
  stamps : t.stamps = s.stamps
  discovered : t.discovered = s.discovered
  stored : StoredAs t report.status
  returned : ∃ result, outcome = .ok result ∧ result.status = report.status

/-- A report changes the row of the execution only. -/
theorem Concluded.untouched {report : Report} {before : Stamps} (h : Concluded report s t outcome)
    (hs : Untouched db before s) : Untouched db before t := by
  refine ⟨?_, h.stamps.trans hs.stamps⟩
  rw [h.db]
  exact hs.tables

theorem conclude_ok (s : Scope) (report : Report) (message : Option String) {raises : Bool}
    (hraises : raises = false) (hsafe : report.failureCategory.all categorySafe = true) :
    Concluded report s (conclude raises s report message).1 (conclude raises s report message).2 := by
  have hwrite : s.writeExecution raises report message = .ok { s with
      execution := s.execution.map fun row =>
        { row with
          status := report.status, counts := report.flatCounts, report := some report
          failureCategory := report.failureCategory
          failureMessage := message.map (Text.slice 240) } } := by
    unfold Scope.writeExecution
    rw [hraises, hsafe]
    rfl
  unfold conclude
  rw [hwrite]
  refine ⟨rfl, rfl, rfl, fun row hrow => ?_, _, rfl, rfl⟩
  obtain ⟨_, -, rfl⟩ := Option.map_eq_some_iff.mp hrow
  rfl

theorem conclude_raises {raises : Bool} {report : Report} {message : Option String}
    (h : ¬ (raises = false ∧ report.failureCategory.all categorySafe = true)) :
    conclude raises s report message = (s, .error .other) := by
  have hwrite : s.writeExecution raises report message = .error .other := by
    unfold Scope.writeExecution require
    rw [if_neg h]
    rfl
  unfold conclude
  rw [hwrite]

/-- The counts after the discovery, and what they tell: without a failure
    every contact was discovered, unless the discovery raised and the
    snapshot has no contacts. -/
structure Matched (env : Environment) (digisac : DigisacContactBackfillSnapshot) (s t : Scope)
    (identity : BatchCounts) : Prop where
  surroundings : Untouched s.db s.stamps t
  execution : t.execution = s.execution
  told : identity.failedCount = 0 →
    (¬ env.discoveryRaises ∧ ∀ row ∈ s.db.digisacContacts.rows, row.id ∈ t.discovered)
      ∨ (env.discoveryRaises ∧ digisac.contacts = [] ∧ t.discovered = s.discovered)
  /-- A discovery that raises counts the contacts of the snapshot. -/
  raised : env.discoveryRaises → identity.failedCount = digisac.contacts.length
    ∧ t.discovered = s.discovered

/-- The discovery, and then one report. -/
theorem matchAndReport_cases (env : Environment) (s : Scope)
    (digisac : DigisacContactBackfillSnapshot) :
    ∃ t identity, Matched env digisac s t identity
      ∧ matchAndReport env s digisac = if identity.failedCount ≠ 0 then
          conclude env.finish t
            (t.report .apply .matchingFailed (some identity) (some "matching_failed"))
            (some "identity discovery requires a later manual retry")
        else conclude env.finish t (t.report .apply .succeeded (some identity) none) none := by
  unfold matchAndReport
  cases hdiscover : discoverAllIdentities env s.db with
  | ok batch =>
      obtain ⟨hquiet, hsame, hall⟩ := discoverAllIdentities_ok hdiscover
      exact ⟨{ s with db := batch.db, discovered := batch.discovered }, batch.counts,
        ⟨⟨hsame, rfl⟩, rfl, fun hzero => .inl ⟨hquiet, hall hzero⟩, fun h => absurd h hquiet⟩, rfl⟩
  | error e =>
      have hraises := discoverAllIdentities_error hdiscover
      exact ⟨s, { failedCount := digisac.contacts.length },
        ⟨.refl s, rfl, fun hzero => .inr ⟨hraises, List.length_eq_zero_iff.mp hzero, rfl⟩,
          fun _ => ⟨rfl, rfl⟩⟩, rfl⟩

/-- **How a call ends that has published.** -/
inductive Ending (env : Environment) (digisac : DigisacContactBackfillSnapshot) (s : Scope) :
    Scope → Except ReconciliationError ReconciliationResult → Prop
  /-- The last report could not be written. -/
  | unwritten (t : Scope) (hfinish : env.finish = true) (hsame : Untouched s.db s.stamps t)
      (hrow : t.execution = s.execution) : Ending env digisac s t (.error .other)
  | matchingFailed (t : Scope) (result : ReconciliationResult) (hfinish : env.finish = false)
      (hsame : Untouched s.db s.stamps t) (hstored : StoredAs t .matchingFailed)
      (hstatus : result.status = .matchingFailed)
      (hcontacts : env.discoveryRaises → digisac.contacts ≠ []) : Ending env digisac s t (.ok result)
  | succeeded (t : Scope) (result : ReconciliationResult) (hfinish : env.finish = false)
      (hsame : Untouched s.db s.stamps t) (hstored : StoredAs t .succeeded)
      (hstatus : result.status = .succeeded) (hquiet : ¬ env.discoveryRaises)
      (hdiscovered : ∀ row ∈ s.db.digisacContacts.rows, row.id ∈ t.discovered) :
      Ending env digisac s t (.ok result)
  /-- The discovery raised, and no contact counts as failed. -/
  | undiscovered (t : Scope) (result : ReconciliationResult) (hfinish : env.finish = false)
      (hsame : Untouched s.db s.stamps t) (hstored : StoredAs t .succeeded)
      (hstatus : result.status = .succeeded) (hraises : env.discoveryRaises)
      (hcontacts : digisac.contacts = []) (hdiscovered : t.discovered = s.discovered) :
      Ending env digisac s t (.ok result)

theorem matchAndReport_ending (env : Environment) (s : Scope)
    (digisac : DigisacContactBackfillSnapshot) :
    Ending env digisac s (matchAndReport env s digisac).1 (matchAndReport env s digisac).2 := by
  obtain ⟨t, identity, hmatched, heq⟩ := matchAndReport_cases env s digisac
  rw [heq]
  cases hfinish : env.finish with
  | true =>
      have hraises : ∀ report message, conclude true t report message = (t, .error .other) :=
        fun report message => conclude_raises fun h => nomatch h.1
      rw [hraises, hraises, ite_self]
      exact .unwritten t hfinish hmatched.surroundings hmatched.execution
  | false =>
      by_cases hfailed : identity.failedCount = 0
      · rw [if_neg (not_not.mpr hfailed)]
        have hconcluded := conclude_ok t (t.report .apply .succeeded (some identity) none) none
          (show false = false from rfl) rfl
        obtain ⟨result, hreturned, hstatus⟩ := hconcluded.returned
        have hsame := hconcluded.untouched hmatched.surroundings
        rw [hreturned]
        rcases hmatched.told hfailed with ⟨hquiet, hall⟩ | ⟨hraises, hcontacts, hnone⟩
        · refine .succeeded _ result hfinish hsame hconcluded.stored hstatus hquiet ?_
          rw [hconcluded.discovered]
          exact hall
        · exact .undiscovered _ result hfinish hsame hconcluded.stored hstatus hraises hcontacts
            (hconcluded.discovered.trans hnone)
      · rw [if_pos hfailed]
        have hsafe : categorySafe "matching_failed" = true := by decide
        have hconcluded := conclude_ok t
          (t.report .apply .matchingFailed (some identity) (some "matching_failed"))
          (some "identity discovery requires a later manual retry") (show false = false from rfl) hsafe
        obtain ⟨result, hreturned, hstatus⟩ := hconcluded.returned
        have hsame := hconcluded.untouched hmatched.surroundings
        rw [hreturned]
        refine .matchingFailed _ result hfinish hsame hconcluded.stored hstatus fun hraises hnil => ?_
        rw [(hmatched.raised hraises).1, hnil] at hfailed
        exact hfailed rfl

/-! ## §4. The publication. -/

/-- The call publishes: whatever comes before the COMMIT returns. -/
structure Reached (env : Environment) (db : IdentityTables) (snapshot : AcessoriasSnapshot)
    (digisac : DigisacContactBackfillSnapshot) (published : IdentityTables) : Prop where
  start : env.start = false
  acquired : acquireSnapshots env = .ok (snapshot, digisac)
  planned : ∃ plan, lockAndPlan env snapshot digisac db = .ok plan
  applied : applyDeltas env snapshot digisac db = .ok published
  write : env.write = false
  commit : env.commit = false

theorem lockAndPlan_ok {plan : ReconciliationPlan}
    (h : lockAndPlan env snapshot digisac db = .ok plan) : Validated snapshot := by
  unfold lockAndPlan at h
  obtain ⟨_, -, h⟩ := bind_eq_ok_iff.mp h
  exact (buildReconciliationPlan_ok (mapError_eq_ok_iff.mp h)).1

theorem Reached.valid (h : Reached env db snapshot digisac published) : Validated snapshot := by
  obtain ⟨plan, hplan⟩ := h.planned
  exact lockAndPlan_ok hplan

/-- Only one publication is reached. -/
theorem Reached.unique {snapshot' : AcessoriasSnapshot} {digisac' : DigisacContactBackfillSnapshot}
    {published' : IdentityTables} (h : Reached env db snapshot digisac published)
    (h' : Reached env db snapshot' digisac' published') :
    snapshot' = snapshot ∧ digisac' = digisac ∧ published' = published := by
  have hacquired := h'.acquired
  rw [h.acquired] at hacquired
  obtain ⟨rfl, rfl⟩ := Prod.mk.inj (Except.ok.inj hacquired)
  have happlied := h'.applied
  rw [h.applied] at happlied
  exact ⟨rfl, rfl, (Except.ok.inj happlied).symm⟩

/-- What the transaction of the publication leaves. -/
theorem publish_ok (h : publish env s snapshot digisac = .ok t) :
    applyDeltas env snapshot digisac s.db = .ok t.db
      ∧ t.stamps = s.stamps.publish env.now env.publishedAt snapshot digisac s.db
      ∧ env.write = false ∧ env.commit = false ∧ StoredAs t .succeeded
      ∧ t.discovered = s.discovered := by
  unfold publish Scope.writeExecution at h
  obtain ⟨after, happlied, h⟩ := bind_eq_ok_iff.mp h
  obtain ⟨mid, hmid, h⟩ := bind_eq_ok_iff.mp h
  obtain ⟨_, hwrite, hmid⟩ := bind_eq_ok_iff.mp hmid
  obtain ⟨_, hcommit, h⟩ := bind_eq_ok_iff.mp h
  rw [← pure_eq_ok_iff.mp h, ← pure_eq_ok_iff.mp hmid]
  refine ⟨happlied, rfl, (require_eq_ok_iff.mp hwrite).1, require_eq_ok_iff.mp hcommit,
    fun row hrow => ?_, rfl⟩
  obtain ⟨_, -, rfl⟩ := Option.map_eq_some_iff.mp hrow
  rfl

/-- It returns when its statements do. -/
theorem exists_publish (happlied : applyDeltas env snapshot digisac s.db = .ok published)
    (hwrite : env.write = false) (hcommit : env.commit = false) :
    ∃ t, publish env s snapshot digisac = .ok t := by
  unfold publish Scope.writeExecution
  simp only [bind_eq_ok_iff, require_eq_ok_iff, pure_eq_ok_iff]
  exact ⟨_, published, happlied, _, ⟨(), ⟨hwrite, rfl⟩, rfl⟩, (), hcommit, rfl⟩

/-- **How the `try` ends**, from the tables and the row of the execution. -/
inductive Exit (env : Environment) (mode : Mode) (db : IdentityTables) (stamps : Stamps)
    (row : Option Execution) : Scope → Except ReconciliationError ReconciliationResult → Prop
  /-- It raised before it had published. -/
  | aborted (t : Scope) (e : ReconciliationError) (hsame : Untouched db stamps t)
      (hrow : t.execution = row)
      (hnot : mode = .apply → ∀ snapshot digisac published,
        ¬ Reached env db snapshot digisac published) : Exit env mode db stamps row t (.error e)
  | dryRun (t : Scope) (outcome : Except ReconciliationError ReconciliationResult)
      (hmode : mode = .dryRun) (hsame : Untouched db stamps t) (hstored : StoredAs t .dryRun)
      (hreturned : ∃ result, outcome = .ok result ∧ result.status = .dryRun) :
      Exit env mode db stamps row t outcome
  | published (snapshot : AcessoriasSnapshot) (digisac : DigisacContactBackfillSnapshot)
      (mid t : Scope) (outcome : Except ReconciliationError ReconciliationResult)
      (hmode : mode = .apply) (hreached : Reached env db snapshot digisac mid.db)
      (hstamps : mid.stamps = stamps.publish env.now env.publishedAt snapshot digisac db)
      (hstored : StoredAs mid .succeeded) (hdiscovered : mid.discovered = [])
      (hending : Ending env digisac mid t outcome) : Exit env mode db stamps row t outcome

theorem dryRun_exit (s : Scope) (snapshot : AcessoriasSnapshot)
    (digisac : DigisacContactBackfillSnapshot) :
    Exit env .dryRun s.db s.stamps s.execution (dryRun env s snapshot digisac).1
      (dryRun env s snapshot digisac).2 := by
  unfold dryRun
  cases hplan : lockAndPlan env snapshot digisac s.db with
  | error e => exact .aborted s e (.refl s) rfl nofun
  | ok plan =>
      simp only
      split
      next => exact .aborted _ .other ⟨.refl s.db, rfl⟩ rfl nofun
      next =>
        by_cases hfinish : env.finish = false
        · have hconcluded := conclude_ok { s with plan := some plan }
            ({ s with plan := some plan }.report .dryRun .dryRun none none) none hfinish rfl
          exact .dryRun _ _ rfl (hconcluded.untouched ⟨.refl s.db, rfl⟩) hconcluded.stored
            hconcluded.returned
        · rw [conclude_raises fun h => hfinish h.1]
          exact .aborted _ .other ⟨.refl s.db, rfl⟩ rfl nofun

theorem applySnapshots_exit (hstart : env.start = false)
    (hacquired : acquireSnapshots env = .ok (snapshot, digisac)) (hs : s.discovered = []) :
    Exit env .apply s.db s.stamps s.execution (applySnapshots env s snapshot digisac).1
      (applySnapshots env s snapshot digisac).2 := by
  have hsame : ∀ {snapshot' digisac' published}, Reached env s.db snapshot' digisac' published →
      snapshot' = snapshot ∧ digisac' = digisac := by
    intro snapshot' digisac' published h
    have heq := h.acquired
    rw [hacquired] at heq
    obtain ⟨rfl, rfl⟩ := Prod.mk.inj (Except.ok.inj heq)
    exact ⟨rfl, rfl⟩
  unfold applySnapshots
  cases hplan : lockAndPlan env snapshot digisac s.db with
  | error e =>
      refine .aborted s e (.refl s) rfl fun _ snapshot' digisac' published h => ?_
      obtain ⟨rfl, rfl⟩ := hsame h
      obtain ⟨plan, hok⟩ := h.planned
      rw [hplan] at hok
      cases hok
  | ok plan =>
      simp only
      cases hpublish : publish env { s with plan := some plan } snapshot digisac with
      | error e =>
          refine .aborted _ e ⟨.refl s.db, rfl⟩ rfl fun _ snapshot' digisac' published h => ?_
          obtain ⟨rfl, rfl⟩ := hsame h
          obtain ⟨mid, hok⟩ := exists_publish (s := { s with plan := some plan }) h.applied h.write
            h.commit
          rw [hpublish] at hok
          cases hok
      | ok mid =>
          obtain ⟨happlied, hstamps, hwrite, hcommit, hstored, hdiscovered⟩ := publish_ok hpublish
          exact .published snapshot digisac mid _ _ rfl
            ⟨hstart, hacquired, ⟨plan, hplan⟩, happlied, hwrite, hcommit⟩ hstamps hstored
            (hdiscovered.trans hs) (matchAndReport_ending env mid digisac)

/-- **Every end of the `try` is one of the three.** -/
theorem attempt_exit (hstart : env.start = false) (mode : Mode) (hs : s.discovered = []) :
    Exit env mode s.db s.stamps s.execution (attempt env mode s).1 (attempt env mode s).2 := by
  unfold attempt
  cases hacquired : acquireSnapshots env with
  | error e =>
      refine .aborted s e (.refl s) rfl fun _ snapshot digisac published h => ?_
      have hok := h.acquired
      rw [hacquired] at hok
      cases hok
  | ok snapshots =>
      obtain ⟨snapshot, digisac⟩ := snapshots
      simp only
      cases hvalidate : validateSnapshot snapshot with
      | error e =>
          refine .aborted _ _ ⟨.refl s.db, rfl⟩ rfl fun _ snapshot' digisac' published h => ?_
          have hok := h.acquired
          rw [hacquired] at hok
          obtain ⟨rfl, -⟩ := Prod.mk.inj (Except.ok.inj hok)
          rw [validateSnapshot_ok_iff.mpr h.valid] at hvalidate
          cases hvalidate
      | ok _ =>
          cases mode with
          | dryRun =>
              exact dryRun_exit { s with snapshot := some snapshot, digisac := some digisac }
                snapshot digisac
          | apply =>
              exact applySnapshots_exit
                (s := { s with snapshot := some snapshot, digisac := some digisac }) hstart
                hacquired hs

/-! ## §5. Deltas that change nothing. -/

/-- The deltas leave both directories as they were, `synced_at` and
    `updated_at` included. -/
structure DeltasStand (env : Environment) (snapshot : AcessoriasSnapshot)
    (digisac : DigisacContactBackfillSnapshot) (db : IdentityTables) (stamps : Stamps)
    (published : IdentityTables) : Prop where
  tables : SameSurroundings db published
  stamps : stamps.publish env.now env.publishedAt snapshot digisac db = stamps

/-- A snapshot without contacts leaves the contacts as they were. -/
theorem contacts_of_applyDeltas (h : applyDeltas env snapshot digisac db = .ok published)
    (hnil : digisac.contacts = []) : published.digisacContacts = db.digisacContacts := by
  unfold applyDeltas at h
  obtain ⟨directory, -, h⟩ := bind_eq_ok_iff.mp h
  obtain ⟨contacts, hcontacts, h⟩ := bind_eq_ok_iff.mp h
  rw [hnil] at hcontacts
  rw [← pure_eq_ok_iff.mp h]
  exact (pure_eq_ok_iff.mp hcontacts).symm

/-- An empty snapshot retires every row. -/
theorem directory_of_applyDeltas (h : applyDeltas env snapshot digisac db = .ok published)
    (hdepartments : snapshot.departments = []) (hcompanies : snapshot.companies = []) :
    published.directory = db.directory.absentAll := by
  unfold applyDeltas at h
  obtain ⟨directory, hdirectory, h⟩ := bind_eq_ok_iff.mp h
  obtain ⟨contacts, -, h⟩ := bind_eq_ok_iff.mp h
  rw [← pure_eq_ok_iff.mp h]
  have hempty : snapshot.sorted = { departments := [], companies := [] } := by
    unfold AcessoriasSnapshot.sorted
    rw [hdepartments, hcompanies]
    rfl
  obtain ⟨-, -, rfl⟩ := applyDirectoryDelta_ok_iff.mp (mapError_eq_ok_iff.mp hdirectory)
  rw [hempty]
  rfl

theorem retired_mapRows {κ φ : Type} (table : Keyed κ (DirectoryRow φ)) :
    Retired (table.mapRows fun e => e.value.absent) := by
  intro e he
  obtain ⟨e₀, -, rfl⟩ := Keyed.mem_mapRows.mp he
  obtain ⟨hpresent, hactive, -⟩ := e₀.value.absent_spec
  show (e₀.value.absent.isPresent || e₀.value.absent.isActive == some true) = false
  rw [hpresent, Bool.false_or]
  exact beq_false_of_ne hactive

theorem mapRows_of_retired {κ φ : Type} {table : Keyed κ (DirectoryRow φ)} (h : Retired table) :
    (table.mapRows fun e => e.value.absent) = table := by
  refine Keyed.ext ?_
  show table.rows.map (fun e => { e with value := e.value.absent }) = table.rows
  conv_rhs => rw [← List.map_id table.rows]
  refine List.map_congr_left fun e he => ?_
  unfold DirectoryRow.absent
  rw [h e he]
  rfl

/-- **The deltas change nothing where they write nothing**, as soon as the
    clocks are later than the columns. -/
theorem deltasStand_iff (hbefore : stamps.Before env.now env.publishedAt)
    (h : applyDeltas env snapshot digisac db = .ok published) :
    DeltasStand env snapshot digisac db stamps published ↔ NothingWritten snapshot digisac db := by
  constructor
  · intro hstand
    obtain ⟨hdepartments, hcompanies, hcontacts⟩ := upserts_of_stamps_stand hbefore hstand.stamps
    have habsent := directory_of_applyDeltas h hdepartments hcompanies
    rw [hstand.tables.directory] at habsent
    refine ⟨hdepartments, hcompanies, hcontacts, ?_, ?_, ?_, ?_⟩
    · rw [habsent]
      exact retired_mapRows db.directory.departments
    · rw [habsent]
      exact retired_mapRows db.directory.companies
    · rw [habsent]
      exact retired_mapRows db.directory.contacts
    · rw [habsent]
      exact retired_mapRows db.directory.relationships
  · intro hnothing
    refine ⟨⟨contacts_of_applyDeltas h hnothing.noContacts, ?_⟩, hnothing.stamps_stand⟩
    rw [directory_of_applyDeltas h hnothing.noDepartments hnothing.noCompanies]
    unfold DirectoryTables.absentAll
    rw [mapRows_of_retired hnothing.departments, mapRows_of_retired hnothing.companies,
      mapRows_of_retired hnothing.contacts, mapRows_of_retired hnothing.relationships]

/-! ## §6. When the report is true. -/

/-- The call published, and then its report does not tell so: the last report
    could not be written, and the handler wrote `failed` beside tables that
    have changed; or the discovery raised, the snapshot had no contact to
    count as failed, and there are contacts. -/
def Misreported (env : Environment) (mode : Mode) (db : IdentityTables) (stamps : Stamps) : Prop :=
  mode = .apply ∧ ∃ snapshot digisac published, Reached env db snapshot digisac published
    ∧ (env.finish = true ∧ env.failed = false
        ∧ ¬ DeltasStand env snapshot digisac db stamps published
      ∨ env.finish = false ∧ env.discoveryRaises ∧ digisac.contacts = []
        ∧ db.digisacContacts.rows ≠ [])

/-- The same of the tables before the call: with clocks later than the
    columns, a report of `failed` is wrong as soon as a row was upserted or
    marked absent, whatever its other columns say. -/
theorem misreported_iff (hbefore : stamps.Before env.now env.publishedAt) :
    Misreported env mode db stamps ↔ mode = .apply ∧ ∃ snapshot digisac published,
      Reached env db snapshot digisac published
        ∧ (env.finish = true ∧ env.failed = false ∧ ¬ NothingWritten snapshot digisac db
          ∨ env.finish = false ∧ env.discoveryRaises ∧ digisac.contacts = []
            ∧ db.digisacContacts.rows ≠ []) := by
  have hstand {snapshot digisac published} (h : Reached env db snapshot digisac published) :
      DeltasStand env snapshot digisac db stamps published ↔ NothingWritten snapshot digisac db :=
    deltasStand_iff hbefore h.applied
  constructor
  · rintro ⟨hmode, snapshot, digisac, published, hreached, ⟨hfinish, hfailed, hchanged⟩ | hrest⟩
    · exact ⟨hmode, snapshot, digisac, published, hreached,
        .inl ⟨hfinish, hfailed, fun hnothing => hchanged ((hstand hreached).mpr hnothing)⟩⟩
    · exact ⟨hmode, snapshot, digisac, published, hreached, .inr hrest⟩
  · rintro ⟨hmode, snapshot, digisac, published, hreached, ⟨hfinish, hfailed, hwritten⟩ | hrest⟩
    · exact ⟨hmode, snapshot, digisac, published, hreached,
        .inl ⟨hfinish, hfailed, fun hstands => hwritten ((hstand hreached).mp hstands)⟩⟩
    · exact ⟨hmode, snapshot, digisac, published, hreached, .inr hrest⟩

/-- One status is stored, and returned if anything is. -/
structure Tells (s : Scope) (outcome : Except ReconciliationError ReconciliationResult)
    (status : ExecutionStatus) : Prop where
  stored : StoredAs s status
  returned : ∀ result, outcome = .ok result → result.status = status

theorem Tells.eq {status other : ExecutionStatus} (h : Tells s outcome status)
    (hreported : Reported s outcome other) : other = status := by
  rcases hreported with ⟨row, hrow, hstatus⟩ | ⟨result, hresult, hstatus⟩
  · exact hstatus.symm.trans (h.stored row hrow)
  · exact hstatus.symm.trans (h.returned result hresult)

theorem tells_returned {status : ExecutionStatus} {result : ReconciliationResult}
    (hstored : StoredAs t status) (hstatus : result.status = status) :
    Tells t (.ok result) status := by
  refine ⟨hstored, fun result' hresult => ?_⟩
  rw [← Except.ok.inj hresult]
  exact hstatus

theorem tells_raised {status : ExecutionStatus} {e : ReconciliationError}
    (hstored : StoredAs t status) : Tells t (.error e) status := by
  refine ⟨hstored, fun result hresult => ?_⟩
  cases hresult

theorem Concluded.tells {report : Report} (h : Concluded report s t outcome) :
    Tells t outcome report.status := by
  refine ⟨h.stored, fun result hresult => ?_⟩
  obtain ⟨result', hresult', hstatus⟩ := h.returned
  rw [hresult'] at hresult
  rw [← Except.ok.inj hresult]
  exact hstatus

/-- Tables that stand, and no status of a publication. -/
theorem reportTrue_of_same {status : ExecutionStatus} (h : Tells t outcome status)
    (hsame : Untouched db stamps t) (hsucceeded : status ≠ .succeeded)
    (hmatching : status ≠ .matchingFailed) : ReportTrue env db stamps (t, outcome) where
  unchanged := fun _ => hsame
  published := by
    rintro (hreported | hreported)
    · exact absurd (h.eq hreported).symm hsucceeded
    · exact absurd (h.eq hreported).symm hmatching
  discovered := fun hreported => absurd (h.eq (.inr hreported)).symm hsucceeded

/-- Tables that were published, and a status that says so. -/
theorem reportTrue_of_deltas {status : ExecutionStatus} (h : Tells t outcome status)
    (hacquired : acquireSnapshots env = .ok (snapshot, digisac))
    (hdeltas : Deltas env.now snapshot digisac db t.db)
    (hstamps : t.stamps = stamps.publish env.now env.publishedAt snapshot digisac db)
    (hfailed : status ≠ .failed) (hdryRun : status ≠ .dryRun)
    (hdiscovered : (∃ result, outcome = .ok result ∧ result.status = .succeeded) →
      ∀ row ∈ t.db.digisacContacts.rows, row.id ∈ t.discovered) :
    ReportTrue env db stamps (t, outcome) where
  unchanged := by
    rintro (hreported | hreported)
    · exact absurd (h.eq hreported).symm hfailed
    · exact absurd (h.eq hreported).symm hdryRun
  published := fun _ => ⟨snapshot, digisac, hacquired, hdeltas, hstamps⟩
  discovered := hdiscovered

theorem Deltas.of_same {now : Timestamp} {after : IdentityTables}
    (h : Deltas now snapshot digisac db published) (hsame : SameSurroundings published after) :
    Deltas now snapshot digisac db after := by
  constructor
  · rw [hsame.directory]
    exact h.directory
  · rw [hsame.digisacContacts]
    exact h.contacts

/-- The scope with which the `try` begins. -/
def startScope (mode : Mode) (db : IdentityTables) (stamps : Stamps) : Scope :=
  { db, stamps, execution := some { mode } }

/-- The call ends as its `try` does, or in a handler. -/
theorem run_eq (hstart : env.start = false) (mode : Mode) (db : IdentityTables) (stamps : Stamps) :
    runManualReconciliation env mode db stamps
      = match attempt env mode (startScope mode db stamps) with
        | (s, .ok result) => (s, .ok result)
        | (s, .error e) =>
            conclude env.failed s (s.report mode .failed none (some e.safe.1)) (some e.safe.2) := by
  unfold runManualReconciliation
  rw [hstart]
  rfl

/-- A handler: `failed` is told, or nothing is written. -/
theorem handler_cases (env : Environment) (s : Scope) (mode : Mode) (e : ReconciliationError) :
    (Concluded (s.report mode .failed none (some e.safe.1)) s
        (conclude env.failed s (s.report mode .failed none (some e.safe.1)) (some e.safe.2)).1
        (conclude env.failed s (s.report mode .failed none (some e.safe.1)) (some e.safe.2)).2
        ∧ env.failed = false)
      ∨ conclude env.failed s (s.report mode .failed none (some e.safe.1)) (some e.safe.2)
        = (s, .error .other) := by
  by_cases h : env.failed = false
      ∧ (s.report mode .failed none (some e.safe.1)).failureCategory.all categorySafe = true
  · exact .inl ⟨conclude_ok s _ _ h.1 h.2, h.1⟩
  · exact .inr (conclude_raises h)

/-- A call that is not misreported is told as it was. -/
theorem reportTrue_of_not_misreported (hdb : db.directory.Owned)
    (hnot : ¬ Misreported env mode db stamps) :
    ReportTrue env db stamps (runManualReconciliation env mode db stamps) := by
  cases hstart : env.start with
  | true =>
      -- there is no row and no result
      have hrun : runManualReconciliation env mode db stamps = ({ db, stamps }, .error .other) := by
        unfold runManualReconciliation
        rw [hstart]
        rfl
      rw [hrun]
      have hstored : StoredAs { db, stamps } .started := by
        intro row hrow
        cases hrow
      have htells := tells_raised (e := .other) hstored
      exact reportTrue_of_same htells ⟨.refl db, rfl⟩ nofun nofun
  | false =>
      rw [run_eq hstart]
      have hexit : Exit env mode db stamps (some { mode })
          (attempt env mode (startScope mode db stamps)).1
          (attempt env mode (startScope mode db stamps)).2 :=
        attempt_exit hstart mode (s := startScope mode db stamps) rfl
      generalize attempt env mode (startScope mode db stamps) = ended at hexit ⊢
      obtain ⟨t, outcome⟩ := ended
      simp only at hexit ⊢
      cases hexit with
      | aborted _ e hsame hrow _ =>
          simp only
          rcases handler_cases env t mode e with ⟨hconcluded, -⟩ | hraises
          · exact reportTrue_of_same hconcluded.tells (hconcluded.untouched hsame) nofun nofun
          · rw [hraises]
            have hstored : StoredAs t .started := by
              intro row hsome
              rw [hrow] at hsome
              rw [← Option.some.inj hsome]
            exact reportTrue_of_same (tells_raised hstored) hsame nofun nofun
      | dryRun _ _ hmode hsame hstored hreturned =>
          obtain ⟨result, rfl, hstatus⟩ := hreturned
          exact reportTrue_of_same (tells_returned hstored hstatus) hsame nofun nofun
      | published snapshot digisac mid _ _ hmode hreached hstamps hmid hdiscovered hending =>
          have hdeltas := applyDeltas_ok hdb hreached.valid hreached.applied
          cases hending with
          | unwritten hfinish hsame hrow =>
              simp only
              rcases handler_cases env t mode .other with ⟨hconcluded, hfailed⟩ | hraises
              · -- `failed` is stored after the commit
                have hstand : DeltasStand env snapshot digisac db stamps mid.db := by
                  by_contra hchanged
                  exact hnot ⟨hmode, snapshot, digisac, mid.db, hreached,
                    .inl ⟨hfinish, hfailed, hchanged⟩⟩
                have hmid : Untouched db stamps mid :=
                  ⟨hstand.tables, hstamps.trans hstand.stamps⟩
                exact reportTrue_of_same hconcluded.tells (hconcluded.untouched (hmid.trans hsame))
                  nofun nofun
              · rw [hraises]
                have hstored : StoredAs t .succeeded := by
                  intro row hsome
                  rw [hrow] at hsome
                  exact hmid row hsome
                refine reportTrue_of_deltas (tells_raised hstored) hreached.acquired
                  (hdeltas.of_same hsame.tables) (hsame.stamps.trans hstamps) nofun nofun
                  fun hreported => ?_
                obtain ⟨result, hresult, -⟩ := hreported
                cases hresult
          | matchingFailed result hfinish hsame hstored hstatus _ =>
              have htells := tells_returned hstored hstatus
              exact reportTrue_of_deltas htells hreached.acquired (hdeltas.of_same hsame.tables)
                (hsame.stamps.trans hstamps) nofun nofun
                fun hreported => nomatch htells.eq (.inr hreported)
          | succeeded result hfinish hsame hstored hstatus _ hall =>
              have htells := tells_returned hstored hstatus
              refine reportTrue_of_deltas htells hreached.acquired (hdeltas.of_same hsame.tables)
                (hsame.stamps.trans hstamps) nofun nofun fun _ row hrow => ?_
              rw [hsame.tables.digisacContacts] at hrow
              exact hall row hrow
          | undiscovered result hfinish hsame hstored hstatus hraises hnil hnone =>
              have htells := tells_returned hstored hstatus
              refine reportTrue_of_deltas htells hreached.acquired (hdeltas.of_same hsame.tables)
                (hsame.stamps.trans hstamps) nofun nofun fun _ row hrow => ?_
              -- then there is no contact
              have hempty : db.digisacContacts.rows = [] := by
                by_contra hrows
                exact hnot ⟨hmode, snapshot, digisac, mid.db, hreached,
                  .inr ⟨hfinish, hraises, hnil, hrows⟩⟩
              rw [hsame.tables.digisacContacts, contacts_of_applyDeltas hreached.applied hnil,
                hempty] at hrow
              exact absurd hrow List.not_mem_nil

/-- A call that is misreported is not. -/
theorem not_reportTrue_of_misreported (h : Misreported env mode db stamps) :
    ¬ ReportTrue env db stamps (runManualReconciliation env mode db stamps) := by
  obtain ⟨rfl, snapshot, digisac, published, hreached, hwrong⟩ := h
  rw [run_eq hreached.start]
  have hexit : Exit env .apply db stamps (some { mode := .apply })
      (attempt env .apply (startScope .apply db stamps)).1
      (attempt env .apply (startScope .apply db stamps)).2 :=
    attempt_exit hreached.start .apply (s := startScope .apply db stamps) rfl
  generalize attempt env .apply (startScope .apply db stamps) = ended at hexit ⊢
  obtain ⟨t, outcome⟩ := ended
  simp only at hexit ⊢
  intro htrue
  cases hexit with
  | aborted _ e hsame hrow hnot => exact hnot rfl snapshot digisac published hreached
  | dryRun _ _ hmode => cases hmode
  | published snapshot' digisac' mid _ _ hmode hreached' hstamps hmid hdiscovered hending =>
      obtain ⟨rfl, rfl, rfl⟩ := hreached'.unique hreached
      rcases hwrong with ⟨hfinish, hfailed, hchanged⟩ | ⟨hfinish, hraises, hnil, hrows⟩
      · cases hending with
        | unwritten _ hsame hrow =>
            simp only at htrue
            rcases handler_cases env t .apply .other with ⟨hconcluded, -⟩ | herror
            · obtain ⟨result, hresult, hstatus⟩ := hconcluded.returned
              have hafter := htrue.unchanged (.inl (.inr ⟨result, hresult, hstatus⟩))
              -- the handler and the discovery wrote neither directory
              have hkept := hconcluded.untouched hsame
              refine hchanged ⟨⟨?_, ?_⟩, ?_⟩
              · exact hkept.tables.digisacContacts.symm.trans hafter.tables.digisacContacts
              · exact hkept.tables.directory.symm.trans hafter.tables.directory
              · rw [← hstamps, ← hkept.stamps]
                exact hafter.stamps
            · have hsafe : categorySafe "internal_error" = true := by decide
              obtain ⟨result, hresult, -⟩ := (conclude_ok t
                (t.report .apply .failed none (some "internal_error"))
                (some "manual reconciliation failed") hfailed hsafe).returned
              have hboth := congrArg Prod.snd herror
              cases hresult.symm.trans hboth
        | matchingFailed _ hwritten => rw [hfinish] at hwritten; cases hwritten
        | succeeded _ hwritten => rw [hfinish] at hwritten; cases hwritten
        | undiscovered _ hwritten => rw [hfinish] at hwritten; cases hwritten
      · have hcontacts := contacts_of_applyDeltas hreached'.applied hnil
        obtain ⟨row, hrow⟩ := List.exists_mem_of_ne_nil _ hrows
        rw [← hcontacts] at hrow
        cases hending with
        | unwritten hraised => rw [hfinish] at hraised; cases hraised
        | matchingFailed _ _ _ _ _ hsome => exact hsome hraises hnil
        | succeeded _ _ _ _ _ hquiet => exact hquiet hraises
        | undiscovered result _ hsame _ hstatus _ _ hnone =>
            have hmem := htrue.discovered ⟨result, rfl, hstatus⟩ row (by
              rw [hsame.tables.digisacContacts]
              exact hrow)
            simp only at hmem
            rw [hnone, hdiscovered] at hmem
            exact absurd hmem List.not_mem_nil

/-- **A report tells what happened exactly when the call is not misreported.** -/
theorem report_true_iff (hdb : db.directory.Owned) :
    ReportTrue env db stamps (runManualReconciliation env mode db stamps)
      ↔ ¬ Misreported env mode db stamps :=
  ⟨fun h hmisreported => not_reportTrue_of_misreported hmisreported h,
    reportTrue_of_not_misreported hdb⟩

/-- The columns of `refreshed`. -/
def refreshedStamps : Stamps :=
  let row : RowStamps := { syncedAt := 1, updatedAt := 1 }
  { directory :=
      { departments := fun name => (refreshed.directory.view.departments name).map fun _ => row
        companies := fun name => (refreshed.directory.view.companies name).map fun _ => row
        contacts := fun name => (refreshed.directory.view.contacts name).map fun _ => row
        relationships := fun name =>
          (refreshed.directory.view.relationships name).map fun _ => row }
    digisacContacts := fun externalId => (refreshed.digisacContacts.get? externalId).map fun _ => 1 }

/-- The last report cannot be written, and the handler writes `failed`. -/
def unwritten : Environment := { calm laterSnapshot incomingContacts with finish := true }

/-- The SELECT of the discovery raises, and DigiSac has no contacts. -/
def unlisted : Environment := { calm laterSnapshot (collectContacts []) with listing := true }

/-- The one call returns and stores `failed` beside a new company, the other
    returns `succeeded` beside two contacts that were not discovered. -/
theorem report_not_true :
    ¬ ReportTrue unwritten refreshed refreshedStamps
        (runManualReconciliation unwritten .apply refreshed refreshedStamps)
      ∧ ¬ ReportTrue unlisted refreshed refreshedStamps
        (runManualReconciliation unlisted .apply refreshed refreshedStamps) := by
  constructor
  · intro htrue
    obtain ⟨result, hresult, hstatus⟩ := exists_ok_of_map
      (show (runManualReconciliation unwritten .apply refreshed refreshedStamps).2.toOption.map
        (·.status) = some ExecutionStatus.failed by decide +kernel)
    have hsame := htrue.unchanged (.inl (.inr ⟨result, congrArg Prod.snd hresult, hstatus⟩))
    have hnew : (runManualReconciliation unwritten .apply refreshed
        refreshedStamps).1.db.directory.companies.idOf "c2"
          ≠ refreshed.directory.companies.idOf "c2" := by decide +kernel
    exact hnew (congrArg (fun directory => directory.companies.idOf "c2") hsame.tables.directory)
  · intro htrue
    obtain ⟨result, hresult, hstatus⟩ := exists_ok_of_map
      (show (runManualReconciliation unlisted .apply refreshed refreshedStamps).2.toOption.map
        (·.status) = some ExecutionStatus.succeeded by decide +kernel)
    have hall := htrue.discovered ⟨result, congrArg Prod.snd hresult, hstatus⟩
    have hmissed : ¬ ∀ row ∈ (runManualReconciliation unlisted .apply refreshed
        refreshedStamps).1.db.digisacContacts.rows, row.id ∈ (runManualReconciliation unlisted
          .apply refreshed refreshedStamps).1.discovered := by
      decide +kernel
    exact hmissed hall

/-- Neither report can be written: the row tells of the publication still. -/
theorem report_true_unwritten :
    ReportTrue { unwritten with failed := true } refreshed refreshedStamps
      (runManualReconciliation { unwritten with failed := true } .apply refreshed
        refreshedStamps) := by
  refine (report_true_iff refreshed_owned).mpr ?_
  rintro ⟨-, _, _, _, -, ⟨-, hfailed, -⟩ | ⟨hfinish, -⟩⟩
  · cases hfailed
  · cases hfinish

end Cai.Reconciliation
