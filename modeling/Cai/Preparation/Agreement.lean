/-
  Cai.Preparation.Agreement — the mapping that was prepared and the one
  that the Request reads.

  The evaluation under the default key replays the oldest snapshot of the
  cycle where it finds none under that key; the Request only reads the
  default key.  The two agree exactly when the fallback is not taken.

  Main result: `preparation_agrees_iff`.
-/
import Cai.Mapping.Selection
import Cai.Preparation.Prepare

namespace Cai.Preparation

open Cai.Lib
open Cai.Cycle (Timestamp CycleRow Status)
open Cai.Directory
open Cai.Identity
open Cai.Mapping
open Cai.Request (RequestFacts CycleSnapshot Operation operationState ensureOperation newOperation)

variable {db after : Database} {cycle : CycleRow} {x : MappingSnapshot} {publicId : Nat}
  {now resolvedAt evaluatedAt : Timestamp} {result : RequestPreparation}

/-! ## §1. One snapshot for each key. -/

/-- UNIQUE (`cycle_id`, `evaluation_key`) -/
def SnapshotsUnique (db : Database) : Prop :=
  (db.snapshots.map fun x => (x.cycleId, x.evaluationKey)).Nodup

instance (db : Database) : Decidable (SnapshotsUnique db) :=
  inferInstanceAs (Decidable (List.Nodup _))

/-- The cycle has a snapshot under the default key, or none at all. -/
def DefaultFirst (db : Database) (cycleId : Nat) : Prop :=
  (∃ x ∈ db.snapshots, x.cycleId = cycleId ∧ x.evaluationKey = "default")
    ∨ ∀ x ∈ db.snapshots, x.cycleId ≠ cycleId

/-- What the Request selects. -/
def isDefaultOf (cycleId : Nat) (x : MappingSnapshot) : Bool :=
  x.cycleId == cycleId && x.evaluationKey == "default"

theorem isDefaultOf_iff {cycleId : Nat} :
    isDefaultOf cycleId x = true ↔ x.cycleId = cycleId ∧ x.evaluationKey = "default" := by
  unfold isDefaultOf
  rw [Bool.and_eq_true, beq_iff_eq, beq_iff_eq]

theorem mappingSnapshot_mem {cycleId : Nat} (h : mappingSnapshot db cycleId = some x) :
    x ∈ db.snapshots ∧ x.cycleId = cycleId ∧ x.evaluationKey = "default" := by
  have hmem : x ∈ db.snapshots.filter (isDefaultOf cycleId) := List.argmax_mem h
  obtain ⟨hx, hdefault⟩ := List.mem_filter.mp hmem
  exact ⟨hx, isDefaultOf_iff.mp hdefault⟩

theorem mappingSnapshot_eq_none {cycleId : Nat} :
    mappingSnapshot db cycleId = none
      ↔ ∀ x ∈ db.snapshots, ¬ (x.cycleId = cycleId ∧ x.evaluationKey = "default") := by
  have hiff : mappingSnapshot db cycleId = none ↔ db.snapshots.filter (isDefaultOf cycleId) = [] :=
    List.argmax_eq_none
  rw [hiff, List.filter_eq_nil_iff]
  simp only [isDefaultOf_iff]

/-- The snapshot of the default key is the one that is read. -/
theorem mappingSnapshot_of_mem (hunique : SnapshotsUnique db) (hx : x ∈ db.snapshots)
    (hkey : x.evaluationKey = "default") : mappingSnapshot db x.cycleId = some x := by
  cases hread : mappingSnapshot db x.cycleId with
  | none => exact absurd ⟨rfl, hkey⟩ (mappingSnapshot_eq_none.mp hread x hx)
  | some y =>
      obtain ⟨hy, hcycle, hdefault⟩ := mappingSnapshot_mem hread
      have hpair : (y.cycleId, y.evaluationKey) = (x.cycleId, x.evaluationKey) := by
        rw [hcycle, hdefault, hkey]
      rw [List.inj_on_of_nodup_map hunique hy hx hpair]

/-! ## §2. What an evaluation under the default key returns. -/

/-- The snapshot that `evaluate_department_mapping` returns under the default key. -/
inductive EvaluatedDefault (cycleId : Nat) (db : Database) : Database → MappingSnapshot → Prop
  | replayed (x : MappingSnapshot) (hx : x ∈ db.snapshots) (hcycle : x.cycleId = cycleId)
      (hkey : x.evaluationKey = "default") : EvaluatedDefault cycleId db db x
  /-- The oldest snapshot of the cycle, under another key. -/
  | fallback (x : MappingSnapshot) (hx : x ∈ db.snapshots) (hcycle : x.cycleId = cycleId)
      (hnone : ∀ y ∈ db.snapshots, ¬ (y.cycleId = cycleId ∧ y.evaluationKey = "default")) :
      EvaluatedDefault cycleId db db x
  | first (x : MappingSnapshot) (hnone : ∀ y ∈ db.snapshots, y.cycleId ≠ cycleId)
      (hcycle : x.cycleId = cycleId) (hkey : x.evaluationKey = "default") :
      EvaluatedDefault cycleId db { db with snapshots := db.snapshots ++ [x] } x

theorem evaluateMapping_default (hcycle : db.cycle? publicId = some cycle)
    (h : evaluateMapping none evaluatedAt publicId db = .ok (after, x)) :
    EvaluatedDefault cycle.id db after x := by
  unfold evaluateMapping at h
  split at h
  next => cases h
  next snapshots mapping hevaluate =>
    obtain ⟨rfl, rfl⟩ := Prod.mk.inj (Except.ok.inj h)
    unfold evaluateDepartmentMapping at hevaluate
    simp only [Option.getD_none] at hevaluate
    split at hevaluate
    next => cases hevaluate
    next found hfound =>
      obtain rfl : found = cycle := Option.some.inj (hfound.symm.trans hcycle)
      split at hevaluate
      next y hstored =>
        obtain ⟨rfl, rfl⟩ := Prod.mk.inj (Except.ok.inj hevaluate)
        unfold storedSnapshot at hstored
        rw [if_pos rfl] at hstored
        rcases Option.or_eq_some_iff.mp hstored with hexact | ⟨hnone, holdest⟩
        · obtain ⟨hy, hdefault⟩ := Table.select_mem hexact
          obtain ⟨hid, hkey⟩ := isDefaultOf_iff.mp hdefault
          exact .replayed y hy hid hkey
        · obtain ⟨hy, hid⟩ := List.mem_filter.mp (List.argmin_mem holdest)
          refine .fallback y hy (beq_iff_eq.mp hid) fun z hz hdefault => ?_
          have hno : isDefaultOf found.id z = false := Table.select_none hnone z hz
          rw [isDefaultOf_iff.mpr hdefault] at hno
          cases hno
      next hstored =>
        unfold persistEvaluation at hevaluate
        split at hevaluate
        next => cases hevaluate
        next =>
          obtain ⟨rfl, rfl⟩ := Prod.mk.inj (Except.ok.inj hevaluate)
          refine .first _ (fun y hy hid => ?_) rfl rfl
          unfold storedSnapshot at hstored
          rw [if_pos rfl, Option.or_eq_none_iff] at hstored
          have hempty := List.filter_eq_nil_iff.mp (List.argmin_eq_none.mp hstored.2)
          exact hempty y hy (beq_iff_eq.mpr hid)

/-- **One evaluation agrees with the next read exactly when the fallback is
    not taken.** -/
theorem EvaluatedDefault.read_iff (h : EvaluatedDefault cycle.id db after x)
    (hunique : SnapshotsUnique db) :
    mappingSnapshot after cycle.id = some x ↔ DefaultFirst db cycle.id := by
  cases h with
  | replayed x hx hcycle hkey =>
      refine iff_of_true ?_ (.inl ⟨x, hx, hcycle, hkey⟩)
      rw [← hcycle]
      exact mappingSnapshot_of_mem hunique hx hkey
  | fallback x hx hcycle hnone =>
      refine iff_of_false ?_ ?_
      · rw [mappingSnapshot_eq_none.mpr hnone]
        intro hsome
        cases hsome
      · rintro (⟨y, hy, hdefault⟩ | hempty)
        · exact hnone y hy hdefault
        · exact hempty x hx hcycle
  | first x hnone hcycle hkey =>
      refine iff_of_true ?_ (.inr hnone)
      -- the new snapshot is the only one of the cycle
      have hfilter : (db.snapshots ++ [x]).filter (isDefaultOf cycle.id) = [x] := by
        rw [List.filter_append, List.filter_eq_nil_iff.mpr fun y hy hdefault =>
          hnone y hy (isDefaultOf_iff.mp hdefault).1, List.nil_append,
          List.filter_cons_of_pos (isDefaultOf_iff.mpr ⟨hcycle, hkey⟩), List.filter_nil]
      show ((db.snapshots ++ [x]).filter (isDefaultOf cycle.id)).argmax (·.id) = some x
      rw [hfilter]
      rfl

/-! ## §3. The operation. -/

theorem payloadError_reason_ne (e : Request.PayloadError) : e.reason ≠ "mapping_missing" := by
  unfold Request.PayloadError.reason
  split
  next => decide
  next => split <;> decide

theorem confidence_reason_ne (value : Request.ConfidenceValue) :
    (Request.evaluateRequestConfidence value).reason ≠ "mapping_missing" := by
  unfold Request.evaluateRequestConfidence
  split
  next => decide
  next => decide
  next =>
    split
    next => decide
    next =>
      -- the score is not part of the reason
      simp only
      split <;> exact of_decide_eq_true rfl

/-- No check of a resolved mapping finds it missing. -/
theorem mappingState_ne_missing {facts : RequestFacts} {snapshot : CycleSnapshot}
    {mapping : Request.MappingSnapshot} (hresolved : mapping.state = "resolved") {reason : String}
    (h : Request.mappingState facts snapshot mapping = .error reason) :
    reason ≠ "mapping_missing" := by
  unfold Request.mappingState at h
  rw [if_neg (not_not.mpr hresolved)] at h
  split at h
  next =>
    split at h
    next => injection h with h; rw [← h]; decide
    next =>
      split at h
      next => injection h with h; rw [← h]; decide
      next =>
        split at h
        next e _ => injection h with h; rw [← h]; exact payloadError_reason_ne e
        next => cases h
  next => injection h with h; rw [← h]; decide

/-- A resolved mapping is not missing. -/
theorem operationState_ne_missing {facts : RequestFacts} {snapshot : CycleSnapshot}
    {mapping : Request.MappingSnapshot} (hmapping : facts.mapping = some mapping)
    (hresolved : mapping.state = "resolved") {reason : String}
    (h : operationState facts snapshot = .error reason) : reason ≠ "mapping_missing" := by
  rw [Request.operationState_eq, hmapping] at h
  split at h
  next => injection h with h; rw [← h]; decide
  next =>
  split at h
  next => injection h with h; rw [← h]; decide
  next =>
  split at h
  next => injection h with h; rw [← h]; exact confidence_reason_ne _
  next =>
  split at h
  next => injection h with h; rw [← h]; decide
  next =>
  split at h
  next => injection h with h; rw [← h]; decide
  next => exact mappingState_ne_missing hresolved h

/-- The operation that is created from a resolved mapping. -/
theorem created_ne_missing {facts : RequestFacts} {mapping : Request.MappingSnapshot}
    (hmapping : facts.mapping = some mapping) (hresolved : mapping.state = "resolved") {id : Nat}
    {op : Operation} (h : ensureOperation now id facts none = some op) :
    op.failureCategory ≠ some "mapping_missing" := by
  unfold ensureOperation at h
  obtain ⟨snapshot, -, rfl⟩ := Option.map_eq_some_iff.mp h
  rw [Option.getD_none]
  unfold newOperation
  simp only
  split
  next reason hreason =>
    intro hmissing
    injection hmissing with hmissing
    exact operationState_ne_missing hmapping hresolved hreason hmissing
  next => exact nofun

/-! ## §4. The preparation. -/

/-- What a preparation that ends ready went through. -/
structure Prepared (now resolvedAt evaluatedAt : Timestamp) (publicId : Nat)
    (db after : Database) (result : RequestPreparation) where
  cycle : CycleRow
  contactId : Nat
  mid : Database
  identity : Resolution
  mapping : MappingSnapshot
  found : db.cycle? publicId = some cycle
  loaded : loadCycleContact db publicId = .ok (.inr contactId)
  resolve : resolveIdentity now resolvedAt publicId contactId db = .ok (mid, identity)
  checked : checkIdentity contactId identity = none
  evaluate : evaluateMapping none evaluatedAt publicId mid = .ok (after, mapping)
  resolved : mapping.state = .resolved
  returned : result.mapping = some mapping

theorem prepared_of_ready
    (h : prepareCycleForRequest now resolvedAt evaluatedAt publicId db = (after, .ok result))
    (hready : result.ready = true) :
    Nonempty (Prepared now resolvedAt evaluatedAt publicId db after result) := by
  unfold prepareCycleForRequest at h
  split at h
  next => cases h
  next unready hload =>
    -- no early end is a ready one
    obtain ⟨rfl, hresult⟩ := Prod.mk.inj h
    obtain rfl := Except.ok.inj hresult
    unfold loadCycleContact at hload
    split at hload
    next => cases hload
    next =>
      split at hload
      next => obtain rfl := Sum.inl.inj (Except.ok.inj hload); cases hready
      next =>
        split at hload
        next => obtain rfl := Sum.inl.inj (Except.ok.inj hload); cases hready
        next =>
          split at hload
          next => obtain rfl := Sum.inl.inj (Except.ok.inj hload); cases hready
          next => cases hload
  next contactId hload =>
    split at h
    next => cases h
    next mid identity hresolve =>
      split at h
      next unready hcheck =>
        obtain ⟨rfl, hresult⟩ := Prod.mk.inj h
        obtain rfl := Except.ok.inj hresult
        unfold checkIdentity at hcheck
        split at hcheck
        next => obtain rfl := Option.some.inj hcheck; cases hready
        next =>
          split at hcheck
          next => obtain rfl := Option.some.inj hcheck; cases hready
          next => cases hcheck
      next hcheck =>
        split at h
        next => cases h
        next last mapping hevaluate =>
          obtain ⟨rfl, hresult⟩ := Prod.mk.inj h
          obtain rfl := Except.ok.inj hresult
          have hcycle : ∃ cycle, db.cycle? publicId = some cycle := by
            unfold loadCycleContact at hload
            split at hload
            next => cases hload
            next cycle hcycle => exact ⟨cycle, hcycle⟩
          obtain ⟨cycle, hcycle⟩ := hcycle
          unfold checkMapping at hready ⊢
          split at hready
          next => cases hready
          next hresolved =>
            rw [if_neg hresolved]
            exact ⟨⟨cycle, contactId, mid, identity, mapping, hcycle, hload, hresolve, hcheck,
              hevaluate, not_not.mp hresolved, rfl⟩⟩

/-- The Request reads the snapshot that the preparation returned, and the
    operation it creates has a mapping. -/
structure Agrees (publicId : Nat) (result : RequestPreparation) (after : Database) : Prop where
  read : ∃ cycle x, after.cycle? publicId = some cycle ∧ result.mapping = some x
    ∧ mappingSnapshot after cycle.id = some x
  created : ∀ now id op, ensureOperation now id (requestFacts after publicId) none = some op →
    op.failureCategory ≠ some "mapping_missing"

/-- A resolution leaves the cycles and the snapshots alone. -/
theorem resolveIdentity_same {contactId : Nat} {identity : Resolution} {mid : Database}
    (h : resolveIdentity now resolvedAt publicId contactId db = .ok (mid, identity)) :
    mid.cycles = db.cycles ∧ mid.snapshots = db.snapshots := by
  unfold resolveIdentity at h
  split at h
  next => cases h
  next =>
    obtain ⟨rfl, -⟩ := Prod.mk.inj (Except.ok.inj h)
    exact ⟨rfl, rfl⟩

/-- An evaluation leaves the cycles alone. -/
theorem evaluateMapping_cycles {key : Option String}
    (h : evaluateMapping key evaluatedAt publicId db = .ok (after, x)) :
    after.cycles = db.cycles := by
  unfold evaluateMapping at h
  split at h
  next => cases h
  next =>
    obtain ⟨rfl, -⟩ := Prod.mk.inj (Except.ok.inj h)
    rfl

/-- **Preparation and Request agree on the mapping** exactly when the cycle
    has a snapshot under the default key, or none at all, before the
    preparation. -/
theorem preparation_agrees_iff (hunique : SnapshotsUnique db)
    (h : prepareCycleForRequest now resolvedAt evaluatedAt publicId db = (after, .ok result))
    (hready : result.ready = true) :
    Agrees publicId result after
      ↔ ∃ cycle, db.cycle? publicId = some cycle ∧ DefaultFirst db cycle.id := by
  obtain ⟨p⟩ := prepared_of_ready h hready
  obtain ⟨hcycles, hsnapshots⟩ := resolveIdentity_same p.resolve
  have hmid : p.mid.cycle? publicId = some p.cycle := by
    unfold Database.cycle?
    rw [hcycles]
    exact p.found
  have hafter : after.cycle? publicId = some p.cycle := by
    unfold Database.cycle?
    rw [evaluateMapping_cycles p.evaluate]
    exact hmid
  have hfirst : DefaultFirst p.mid p.cycle.id ↔ DefaultFirst db p.cycle.id := by
    unfold DefaultFirst
    rw [hsnapshots]
  have huniqueMid : SnapshotsUnique p.mid := by
    unfold SnapshotsUnique
    rw [hsnapshots]
    exact hunique
  have hread := (evaluateMapping_default hmid p.evaluate).read_iff huniqueMid
  constructor
  · rintro ⟨⟨cycle, x, hcycle, hx, hsame⟩, -⟩
    obtain rfl : cycle = p.cycle := Option.some.inj (hcycle.symm.trans hafter)
    obtain rfl : x = p.mapping := Option.some.inj (hx.symm.trans p.returned)
    exact ⟨p.cycle, p.found, hfirst.mp (hread.mp hsame)⟩
  · rintro ⟨cycle, hcycle, hdefault⟩
    obtain rfl : cycle = p.cycle := Option.some.inj (hcycle.symm.trans p.found)
    have hsame : mappingSnapshot after p.cycle.id = some p.mapping :=
      hread.mpr (hfirst.mpr hdefault)
    refine ⟨⟨p.cycle, p.mapping, hafter, p.returned, hsame⟩, fun now id op hop => ?_⟩
    have hmapping : (requestFacts after publicId).mapping = some (snapshotFacts p.mapping) := by
      unfold requestFacts
      simp only [hafter, Option.bind_some, hsame, Option.map_some]
    refine created_ne_missing hmapping ?_ hop
    show stateText p.mapping.state = "resolved"
    rw [p.resolved]
    rfl

/-! ## §5. A cycle that is ready. -/

/-- A finished cycle of a known contact, from 0 to 10. -/
def finishedCycle : CycleRow :=
  { instantCycle "conversation" 10 with
    cycleStartedAt := some 0, digisacContactExternalId := some "contact-1"
    status := .completed, classificationId := some 1 }

/-- The fiscal department is routed to the one of the directory. -/
def fiscalRule : RuleColumns :=
  { acessoriasDepartmentExternalId := "7", state := .active, reason := "approved", actor := none
    metadata := [], effectiveAt := 0, createdAt := 0, updatedAt := 0
    target_ne_blank := by decide +kernel }

def oneCompany : DirectoryTables :=
  let present {φ : Type} (fields : φ) : DirectoryRow φ := ⟨⟨true, some true⟩, fields⟩
  { departments := Keyed.empty.insertNew "7" (present { name := "Fiscal" })
    companies := Keyed.empty.insertNew "42"
      (present { providerId := "p", legalName := "l", tradeName := "t" })
    relationships := Keyed.empty.insertNew (1, 1) (present ()) }

/-- The contact's link to the company is confirmed, and the cycle was with
    the fiscal department. -/
def readyTables : Database where
  identity :=
    { digisacContacts := Keyed.empty.insertNew "contact-1"
        { fields := { isGroup := some false }, lastSeenAt := 0, lastSource := "ticket_webhook" }
      directory := oneCompany
      links := Keyed.empty.insertNew (1, 1)
        { status := .confirmed .manualDb 0 none, source := .manualDb, createdAt := 0
          updatedAt := 0 } }
  cycles := [finishedCycle]
  rules :=
    { rules := Keyed.empty.insertNew ("fiscal", 1) fiscalRule, digisacDepartments := ["fiscal"] }
  history := [{ assigned 5 "key-1" with id := 1, createdAt := 5 }]
  classifications := [⟨1, .number 1, some "title", some "description"⟩]

/-- The first preparation of the cycle, and the Request that follows it. -/
theorem preparation_agrees_first :
    ∃ after result, prepareCycleForRequest 11 11 11 1 readyTables = (after, .ok result)
      ∧ result.ready = true ∧ Agrees 1 result after := by
  have hrun : (prepareCycleForRequest 11 11 11 1 readyTables).2.toOption.map (·.ready)
      = some true := by decide +kernel
  obtain ⟨result, hprepare, hready⟩ := exists_ok_of_map hrun
  have hunique : SnapshotsUnique readyTables := List.nodup_nil
  exact ⟨_, result, hprepare, hready, (preparation_agrees_iff hunique hprepare hready).mpr
    ⟨finishedCycle, rfl, .inr fun x hx => absurd hx List.not_mem_nil⟩⟩

/-- The identity of the cycle is resolved, and its mapping evaluated under a
    key of its own. -/
def refreshedTables : Database :=
  match resolveIdentity 11 11 1 1 readyTables with
  | .error _ => readyTables
  | .ok (db, _) =>
      match evaluateMapping (some "refresh-1") 12 1 db with
      | .error _ => db
      | .ok (db, _) => db

/-- What is seen of a preparation and of the operation that follows it. -/
def seen (after : Database) (result : RequestPreparation) : Bool × Option String × Option String :=
  (result.ready, result.mapping.map fun x : MappingSnapshot => x.evaluationKey,
    (ensureOperation 14 1 (requestFacts after 1) none).bind fun op : Operation => op.failureCategory)

/-- **Preparation and Request disagree**: the preparation is ready with the
    snapshot of another key, and the operation misses its mapping. -/
theorem preparation_disagrees :
    SnapshotsUnique refreshedTables
      ∧ ∃ after result, prepareCycleForRequest 13 13 13 1 refreshedTables = (after, .ok result)
        ∧ seen after result = (true, some "refresh-1", some "mapping_missing")
        ∧ ¬ Agrees 1 result after := by
  have hrun : (prepareCycleForRequest 13 13 13 1 refreshedTables).2.toOption.map
      (seen (prepareCycleForRequest 13 13 13 1 refreshedTables).1)
      = some (true, some "refresh-1", some "mapping_missing") := by decide +kernel
  obtain ⟨result, hprepare, hseen⟩ := exists_ok_of_map hrun
  refine ⟨by decide +kernel, _, result, hprepare, hseen, fun hagrees => ?_⟩
  unfold seen at hseen
  injection hseen with _ hseen
  injection hseen with _ hcategory
  obtain ⟨op, hop, hmissing⟩ := Option.bind_eq_some_iff.mp hcategory
  exact hagrees.created 14 1 op hop hmissing

end Cai.Preparation
