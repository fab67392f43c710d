/-
  Cai.Identity.Discovery — a discovery, repeated and reordered.

  `_discover_locked` of `src/core/identity_resolution.py` reads the
  directory without an ORDER BY.  The order decides about the numbers of new
  links and evidence, and about nothing else; and a second discovery finds
  everything there.

  Main results:
    * `renumbered_recordAll`, `recordAll_again` — what is recorded of the
      matches, in two orders and twice.
    * `discovery_repeated_reordered` — both, of whole discoveries.
-/
import Cai.Lib.Dictionary
import Cai.Lib.Lists
import Cai.Identity.Safety

namespace Cai.Identity

open Cai.Lib
open Cai.Cycle (Timestamp)
open Cai.Directory

/-! ## §1. The directory in any order. -/

/-- `DigiSacMatchInput(…)` of a row. -/
def matchInput (contact : DigisacRow) : DigisacMatchInput where
  normalizedNumber := contact.fields.normalizedNumber
  normalizedEmail := contact.fields.normalizedEmail
  isGroup := contact.fields.isGroup

/-- `_discover_locked`, when the rows of the directory are read in this order. -/
def discoverRows (now : Timestamp) (contactId : Nat) (ruleVersion : String)
    (observedAt : Timestamp) (rows : List AcessoriasMatchInput) (db : IdentityTables) :
    Except IdentityError (IdentityTables × IdentityDiscoveryResult) := do
  let contact ← lockContact db contactId
  let found := matchIdentity (matchInput contact.value) rows
  let after ← found.foldlM (recordMatch now contactId ruleVersion observedAt) db
  return (after, discoveryResult after contactId found)

variable {now now' observedAt observedAt' : Timestamp} {contactId : Nat} {ruleVersion : String}
  {db after : IdentityTables} {rows rows' : List AcessoriasMatchInput}
  {found found' : List MatchEvidence} {evidence e : MatchEvidence}

theorem discoverLocked_eq_rows :
    discoverLocked now contactId ruleVersion observedAt db
      = discoverRows now contactId ruleVersion observedAt (loadDirectoryContacts db.directory) db :=
  rfl

theorem matchIdentity_perm (digisac : DigisacMatchInput) (h : rows.Perm rows') :
    (matchIdentity digisac rows).Perm (matchIdentity digisac rows') := by
  unfold matchIdentity
  split
  next => exact .refl _
  next => exact h.flatMap_right _

/-- No contact of the directory is read twice. -/
theorem loadDirectoryContacts_inj {directory : DirectoryTables} {a b : AcessoriasMatchInput}
    (ha : a ∈ loadDirectoryContacts directory) (hb : b ∈ loadDirectoryContacts directory)
    (h : a.contactId = b.contactId) : a = b := by
  obtain ⟨row, hrow, hread⟩ := List.mem_filterMap.mp ha
  obtain ⟨row', hrow', hread'⟩ := List.mem_filterMap.mp hb
  rw [Option.ite_none_right_eq_some] at hread hread'
  -- the id of an input is that of its row
  obtain ⟨company, -, hinput⟩ := Option.map_eq_some_iff.mp hread.2
  obtain ⟨company', -, hinput'⟩ := Option.map_eq_some_iff.mp hread'.2
  have hid : row.id = a.contactId := by rw [← hinput]
  have hid' : row'.id = b.contactId := by rw [← hinput']
  have hsame : row = row' := Keyed.eq_of_id hrow hrow' (hid.trans (h.trans hid'.symm))
  rw [hsame] at hread
  exact Option.some.inj (hread.2.symm.trans hread'.2)

/-- The matches of a directory agree about the company of a contact. -/
def Agreeing (found : List MatchEvidence) : Prop :=
  ∀ e ∈ found, ∀ e' ∈ found, e.acessoriasContactId = e'.acessoriasContactId →
    e.acessoriasCompanyId = e'.acessoriasCompanyId

theorem agreeing_matchIdentity {directory : DirectoryTables} (digisac : DigisacMatchInput)
    (h : rows.Perm (loadDirectoryContacts directory)) : Agreeing (matchIdentity digisac rows) := by
  intro e he e' he' heq
  obtain ⟨contact, hcontact, hid, hcompany, -⟩ := matchIdentity_row he
  obtain ⟨contact', hcontact', hid', hcompany', -⟩ := matchIdentity_row he'
  have hsame : contact = contact' := loadDirectoryContacts_inj (h.mem_iff.mp hcontact)
    (h.mem_iff.mp hcontact') (hid.symm.trans (heq.trans hid'))
  rw [hcompany, hcompany', hsame]

/-! ## §2. What is recorded of a match. -/

/-- The key of the evidence of a match. -/
def MatchEvidence.rowKey (contactId : Nat) (ruleVersion : String) (evidence : MatchEvidence) :
    EvidenceKey :=
  ⟨contactId, evidence.acessoriasContactId, evidence.evidenceType, evidence.valueFingerprint,
    ruleVersion⟩

/-- The columns of the evidence after a match, given those before. -/
def MatchEvidence.observed (observedAt : Timestamp) (evidence : MatchEvidence)
    (before : Option EvidenceColumns) : EvidenceColumns :=
  before.elim ⟨evidence.acessoriasCompanyId, observedAt⟩ fun columns => { columns with observedAt }

/-- The columns of a new link. -/
def newCandidate (now : Timestamp) : LinkColumns :=
  { status := .candidate, source := .automatic, createdAt := now, updatedAt := now }

/-- A round of the loop, where the rule version is safe. -/
def record (now : Timestamp) (contactId : Nat) (ruleVersion : String) (observedAt : Timestamp)
    (db : IdentityTables) (evidence : MatchEvidence) : IdentityTables :=
  upsertCandidateLink now contactId evidence.acessoriasCompanyId
    { db with
      evidence := db.evidence.upsert (evidence.rowKey contactId ruleVersion)
        ⟨evidence.acessoriasCompanyId, observedAt⟩ fun columns => { columns with observedAt } }

theorem recordMatch_ok_iff :
    recordMatch now contactId ruleVersion observedAt db evidence = .ok after
      ↔ ruleVersionSafe ruleVersion = true
        ∧ after = record now contactId ruleVersion observedAt db evidence := by
  unfold recordMatch persistEvidence
  constructor
  · intro h
    obtain ⟨persisted, hpersist, h⟩ := bind_eq_ok_iff.mp h
    obtain ⟨u, hsafe, hpersist⟩ := bind_eq_ok_iff.mp hpersist
    rw [← pure_eq_ok_iff.mp hpersist] at h
    exact ⟨require_eq_ok_iff.mp hsafe, (pure_eq_ok_iff.mp h).symm⟩
  · intro ⟨hsafe, hafter⟩
    have hrequire : require (ruleVersionSafe ruleVersion = true) IdentityError.constraint = .ok () :=
      require_eq_ok_iff.mpr hsafe
    rw [hrequire, hafter]
    rfl

theorem foldlM_recordMatch_ok_iff :
    found.foldlM (recordMatch now contactId ruleVersion observedAt) db = .ok after
      ↔ (∀ e ∈ found, ruleVersionSafe ruleVersion = true)
        ∧ after = found.foldl (record now contactId ruleVersion observedAt) db :=
  foldlM_eq_ok_iff fun _ _ _ _ => recordMatch_ok_iff

/-- The evidence after a match. -/
theorem evidence_record (key : EvidenceKey) :
    (record now contactId ruleVersion observedAt db evidence).evidence.get? key
      = if key = evidence.rowKey contactId ruleVersion then
          some (evidence.observed observedAt (db.evidence.get? key))
        else db.evidence.get? key := by
  have hframe : ∀ db : IdentityTables,
      (upsertCandidateLink now contactId evidence.acessoriasCompanyId db).evidence = db.evidence := by
    intro db
    unfold upsertCandidateLink
    split
    next => rfl
    next => rfl
  unfold record
  rw [hframe]
  by_cases hkey : key = evidence.rowKey contactId ruleVersion
  · rw [if_pos hkey, hkey, Keyed.get?_upsert_self]
    rfl
  · rw [if_neg hkey, Keyed.get?_upsert_ne hkey]

/-- The links after a match. -/
theorem links_record (pair : Nat × Nat) :
    (record now contactId ruleVersion observedAt db evidence).links.get? pair
      = (db.links.get? pair).or
          (if pair = (contactId, evidence.acessoriasCompanyId) then some (newCandidate now)
          else none) := by
  unfold record upsertCandidateLink
  split
  next link hlink =>
    by_cases hpair : pair = (contactId, evidence.acessoriasCompanyId)
    · rw [hpair, Keyed.get?_of_find? hlink, Option.some_or]
    · rw [if_neg hpair, Option.or_none]
  next hnone =>
    show (db.links.insertNew (contactId, evidence.acessoriasCompanyId) (newCandidate now)).get? pair = _
    by_cases hpair : pair = (contactId, evidence.acessoriasCompanyId)
    · have hfree : db.links.get? pair = none := by
        unfold Keyed.get?
        rw [hpair, hnone]
        rfl
      rw [hfree, if_pos hpair, Option.none_or, hpair]
      exact Keyed.get?_of_find? (Keyed.find?_insertNew_self hnone)
    · rw [if_neg hpair, Option.or_none]
      unfold Keyed.get?
      rw [Keyed.find?_insertNew_ne hpair]

/-- The rows of links that were there stay as they are. -/
theorem rows_record (now : Timestamp) (contactId : Nat) (ruleVersion : String)
    (observedAt : Timestamp) (db : IdentityTables) (evidence : MatchEvidence) :
    ∃ new, (record now contactId ruleVersion observedAt db evidence).links.rows
      = db.links.rows ++ new := by
  unfold record upsertCandidateLink
  split
  next => exact ⟨[], (List.append_nil _).symm⟩
  next hnone => exact ⟨_, Keyed.rows_insertNew hnone⟩

/-! ## §3. What is recorded of all matches. -/

/-- All rounds of the loop. -/
def recordAll (now : Timestamp) (contactId : Nat) (ruleVersion : String) (observedAt : Timestamp)
    (found : List MatchEvidence) (db : IdentityTables) : IdentityTables :=
  found.foldl (record now contactId ruleVersion observedAt) db

theorem links_recordAll (pair : Nat × Nat) :
    (recordAll now contactId ruleVersion observedAt found db).links.get? pair
      = (db.links.get? pair).or
          (if pair.1 = contactId ∧ pair.2 ∈ found.map (·.acessoriasCompanyId) then
            some (newCandidate now)
          else none) := by
  unfold recordAll
  induction found generalizing db with
  | nil => simp
  | cons first found ih =>
      rw [List.foldl_cons, ih, links_record, Option.or_assoc, List.map_cons]
      congr 1
      by_cases hfirst : pair = (contactId, first.acessoriasCompanyId)
      · rw [if_pos hfirst, Option.some_or, if_pos ⟨by rw [hfirst], by rw [hfirst]; exact List.mem_cons_self⟩]
      · rw [if_neg hfirst, Option.none_or]
        refine if_congr ?_ rfl rfl
        rw [List.mem_cons]
        constructor
        · exact fun h => ⟨h.1, .inr h.2⟩
        · intro h
          rcases h.2 with hcompany | hrest
          · exact absurd (Prod.ext h.1 hcompany) hfirst
          · exact ⟨h.1, hrest⟩

theorem rows_recordAll (found : List MatchEvidence) (db : IdentityTables) :
    ∃ new, (recordAll now contactId ruleVersion observedAt found db).links.rows
      = db.links.rows ++ new := by
  unfold recordAll
  induction found generalizing db with
  | nil => exact ⟨[], (List.append_nil _).symm⟩
  | cons first found ih =>
      obtain ⟨new, hnew⟩ := rows_record now contactId ruleVersion observedAt db first
      obtain ⟨new', hnew'⟩ := ih (record now contactId ruleVersion observedAt db first)
      exact ⟨new ++ new', by rw [List.foldl_cons, hnew', hnew, List.append_assoc]⟩

theorem evidence_recordAll_of_not {key : EvidenceKey}
    (h : ∀ e ∈ found, e.rowKey contactId ruleVersion ≠ key) :
    (recordAll now contactId ruleVersion observedAt found db).evidence.get? key
      = db.evidence.get? key := by
  unfold recordAll
  induction found generalizing db with
  | nil => rfl
  | cons first found ih =>
      rw [List.foldl_cons, ih fun e he => h e (List.mem_cons_of_mem _ he), evidence_record,
        if_neg fun heq => h first List.mem_cons_self heq.symm]

/-- What is observed depends on the company only. -/
theorem observed_congr {e' : MatchEvidence} (before : Option EvidenceColumns)
    (h : e'.acessoriasCompanyId = e.acessoriasCompanyId) :
    e'.observed observedAt before = e.observed observedAt before := by
  unfold MatchEvidence.observed
  rw [h]

/-- Observing a row once more does not change it. -/
theorem observed_observed (before : Option EvidenceColumns) :
    e.observed observedAt (some (e.observed observedAt before)) = e.observed observedAt before := by
  unfold MatchEvidence.observed
  cases before with
  | none => rfl
  | some columns => rfl

theorem evidence_recordAll_of_mem (hagree : Agreeing found) (he : e ∈ found) :
    (recordAll now contactId ruleVersion observedAt found db).evidence.get?
        (e.rowKey contactId ruleVersion)
      = some (e.observed observedAt (db.evidence.get? (e.rowKey contactId ruleVersion))) := by
  induction found generalizing db e with
  | nil => cases he
  | cons first found ih =>
      have hrest : Agreeing found := fun a ha b hb =>
        hagree a (List.mem_cons_of_mem _ ha) b (List.mem_cons_of_mem _ hb)
      have hsame : ∀ e' ∈ first :: found, e'.rowKey contactId ruleVersion
          = e.rowKey contactId ruleVersion → e'.acessoriasCompanyId = e.acessoriasCompanyId := by
        intro e' he' hkey
        injection hkey with _ hcontact
        exact hagree e' he' e he hcontact
      show (recordAll now contactId ruleVersion observedAt found
        (record now contactId ruleVersion observedAt db first)).evidence.get? _ = _
      -- what the first round leaves under the key of `e`
      have hfirst : (record now contactId ruleVersion observedAt db first).evidence.get?
          (e.rowKey contactId ruleVersion)
          = if e.rowKey contactId ruleVersion = first.rowKey contactId ruleVersion then
              some (first.observed observedAt (db.evidence.get? (e.rowKey contactId ruleVersion)))
            else db.evidence.get? (e.rowKey contactId ruleVersion) := evidence_record _
      by_cases hlater : ∃ e' ∈ found, e'.rowKey contactId ruleVersion = e.rowKey contactId ruleVersion
      · obtain ⟨e', he', hkey⟩ := hlater
        have hmem : e' ∈ first :: found := List.mem_cons_of_mem _ he'
        rw [← hkey, ih hrest he', hkey, hfirst, observed_congr _ (hsame e' hmem hkey)]
        by_cases hnow : e.rowKey contactId ruleVersion = first.rowKey contactId ruleVersion
        · rw [if_pos hnow, observed_congr _ (hsame first List.mem_cons_self hnow.symm),
            observed_observed]
        · rw [if_neg hnow]
      · have hnone : ∀ e' ∈ found, e'.rowKey contactId ruleVersion ≠ e.rowKey contactId ruleVersion :=
          fun e' he' hkey => hlater ⟨e', he', hkey⟩
        have heq : e = first := by
          rcases List.mem_cons.mp he with heq | hmem
          · exact heq
          · exact absurd rfl (hnone e hmem)
        rw [evidence_recordAll_of_not hnone, hfirst, if_pos (by rw [heq]), heq]

/-! ## §4. Once more. -/

/-- The rows of evidence, without their times. -/
def timeless (t : Keyed EvidenceKey EvidenceColumns) : List (Nat × EvidenceKey × Nat) :=
  t.rows.map fun row => (row.id, row.key, row.value.acessoriasCompanyId)

/-- Nothing but `observed_at` is different. -/
structure SameButTimes (before after : IdentityTables) : Prop where
  links : after.links = before.links
  transitions : after.transitions = before.transitions
  evidence : timeless after.evidence = timeless before.evidence

/-- The rows that a match would insert are there. -/
def IdentityTables.has (db : IdentityTables) (contactId : Nat) (ruleVersion : String)
    (e : MatchEvidence) : Prop :=
  db.links.get? (contactId, e.acessoriasCompanyId) ≠ none
    ∧ db.evidence.get? (e.rowKey contactId ruleVersion) ≠ none

theorem mem_keys_timeless {t : Keyed EvidenceKey EvidenceColumns} {key : EvidenceKey} :
    key ∈ (timeless t).map (·.2.1) ↔ t.get? key ≠ none := by
  unfold timeless
  rw [List.map_map, List.mem_map, Option.ne_none_iff_exists']
  constructor
  · rintro ⟨row, hrow, rfl⟩
    exact ⟨row.value, Keyed.get?_eq_some_iff.mpr ⟨row, hrow, rfl, rfl⟩⟩
  · intro ⟨columns, hcolumns⟩
    obtain ⟨row, hrow, hkey, -⟩ := Keyed.get?_eq_some_iff.mp hcolumns
    exact ⟨row, hrow, hkey⟩

theorem SameButTimes.has (h : SameButTimes db after) (hhas : db.has contactId ruleVersion e) :
    after.has contactId ruleVersion e := by
  refine ⟨h.links ▸ hhas.1, ?_⟩
  rw [← mem_keys_timeless, h.evidence, mem_keys_timeless]
  exact hhas.2

/-- Observing a row leaves its company alone. -/
theorem timeless_upsert {t : Keyed EvidenceKey EvidenceColumns} {key : EvidenceKey}
    (h : t.get? key ≠ none) (new : EvidenceColumns) :
    timeless (t.upsert key new fun columns => { columns with observedAt }) = timeless t := by
  unfold Keyed.upsert
  split
  next hnone =>
    unfold Keyed.get? at h
    rw [hnone] at h
    exact absurd rfl h
  next =>
    unfold timeless Keyed.modify Keyed.mapRows
    rw [List.map_map]
    refine List.map_congr_left fun row _ => ?_
    by_cases hkey : row.key = key
    · simp [hkey]
    · simp [hkey]

/-- A match whose rows are there changes times only. -/
theorem record_again (h : db.has contactId ruleVersion e) :
    SameButTimes db (record now contactId ruleVersion observedAt db e) := by
  unfold record upsertCandidateLink
  split
  next => exact ⟨rfl, rfl, timeless_upsert h.2 _⟩
  next hnone =>
    have hlink := h.1
    unfold Keyed.get? at hlink
    rw [hnone] at hlink
    exact absurd rfl hlink

theorem recordAll_again (h : ∀ e ∈ found, db.has contactId ruleVersion e) :
    SameButTimes db (recordAll now contactId ruleVersion observedAt found db) := by
  unfold recordAll
  induction found generalizing db with
  | nil => exact ⟨rfl, rfl, rfl⟩
  | cons first found ih =>
      have hfirst : SameButTimes db (record now contactId ruleVersion observedAt db first) :=
        record_again (h first List.mem_cons_self)
      have hrest := ih fun e he => hfirst.has (h e (List.mem_cons_of_mem _ he))
      exact ⟨hrest.links.trans hfirst.links, hrest.transitions.trans hfirst.transitions,
        hrest.evidence.trans hfirst.evidence⟩

/-- After a discovery, the rows of its matches are there. -/
theorem has_recordAll (hagree : Agreeing found) (he : e ∈ found) :
    (recordAll now contactId ruleVersion observedAt found db).has contactId ruleVersion e := by
  constructor
  · rw [links_recordAll, if_pos ⟨rfl, List.mem_map_of_mem he⟩]
    cases db.links.get? (contactId, e.acessoriasCompanyId) with
    | none => exact Option.some_ne_none _
    | some columns => exact Option.some_ne_none _
  · rw [evidence_recordAll_of_mem hagree he]
    exact Option.some_ne_none _

/-! ## §5. The result. -/

/-- The companies of the matches, as the result has them. -/
theorem companyIds_perm (h : found.Perm found') :
    (found.map (·.acessoriasCompanyId)).dedup.insertionSort (· ≤ ·)
      = (found'.map (·.acessoriasCompanyId)).dedup.insertionSort (· ≤ ·) :=
  insertionSort_perm (h.map _).dedup fun _ _ _ _ => le_antisymm

/-- The result does not depend on the order of the matches. -/
theorem discoveryResult_perm (db : IdentityTables) (contactId : Nat) (h : found.Perm found') :
    discoveryResult db contactId found = discoveryResult db contactId found' := by
  unfold discoveryResult
  rw [companyIds_perm h, h.length_eq]

/-- The same result, up to the ids of the links. -/
structure SameResult (db db' : IdentityTables) (result result' : IdentityDiscoveryResult) : Prop where
  contact : result.digisacContactId = result'.digisacContactId
  state : result.state = result'.state
  companyIds : result.companyIds = result'.companyIds
  linkIds : (result.linkIds.map db.links.keyOf).Perm (result'.linkIds.map db'.links.keyOf)
  evidenceCount : result.evidenceCount = result'.evidenceCount

/-- Tables with the same columns under every key have the same rows but for the ids. -/
theorem rows_perm_of_get? {κ ν : Type} [DecidableEq κ] {t t' : Keyed κ ν}
    (h : ∀ k, t.get? k = t'.get? k) :
    (t.rows.map fun row => (row.key, row.value)).Perm
      (t'.rows.map fun row => (row.key, row.value)) := by
  have hnodup : ∀ t : Keyed κ ν, (t.rows.map fun row => (row.key, row.value)).Nodup := by
    intro t
    refine List.Nodup.of_map (·.1) ?_
    rw [List.map_map]
    exact t.keys
  have hmem : ∀ (t : Keyed κ ν) (p : κ × ν),
      p ∈ (t.rows.map fun row => (row.key, row.value)) ↔ t.get? p.1 = some p.2 := by
    intro t p
    rw [List.mem_map, Keyed.get?_eq_some_iff]
    constructor
    · rintro ⟨row, hrow, rfl⟩
      exact ⟨row, hrow, rfl, rfl⟩
    · intro ⟨row, hrow, hkey, hvalue⟩
      exact ⟨row, hrow, Prod.ext hkey hvalue⟩
  rw [List.perm_ext_iff_of_nodup (hnodup t) (hnodup t')]
  intro p
  rw [hmem, hmem, h]

/-- The rows that meet a condition on their columns, likewise. -/
theorem filter_perm_of_get? {κ ν : Type} [DecidableEq κ] {t t' : Keyed κ ν}
    (h : ∀ k, t.get? k = t'.get? k) (p : κ × ν → Bool) :
    ((t.rows.filter fun row => p (row.key, row.value)).map fun row => (row.key, row.value)).Perm
      ((t'.rows.filter fun row => p (row.key, row.value)).map fun row => (row.key, row.value)) := by
  have hfilter := (rows_perm_of_get? h).filter p
  rw [List.filter_map, List.filter_map] at hfilter
  exact hfilter

/-- `confirmed` -/
theorem filter_currentLinks :
    (currentLinks db contactId).filter (·.value.status.state == .confirmed)
      = confirmedLinks db contactId := by
  unfold currentLinks confirmedLinks
  rw [List.filter_filter]
  exact List.filter_congr fun link _ => Bool.and_comm _ _

/-- The result with one confirmed link, … -/
theorem discoveryResult_of_confirmed {link : Link} (h : confirmedLinks db contactId = [link]) :
    discoveryResult db contactId found
      = { digisacContactId := contactId, state := .confirmed, companyIds := [link.companyId]
          linkIds := [link.id], evidenceCount := found.length } := by
  rw [← filter_currentLinks] at h
  simp only [discoveryResult, h]

/-- … and with none, or with several. -/
theorem discoveryResult_of_not_confirmed (h : ∀ link, confirmedLinks db contactId ≠ [link]) :
    discoveryResult db contactId found
      = { digisacContactId := contactId
          state :=
            if 1 < (confirmedLinks db contactId).length then .conflict
            else match (found.map (·.acessoriasCompanyId)).dedup.insertionSort (· ≤ ·) with
              | [] => .unresolved
              | [_] => .candidate
              | _ => .ambiguous
          companyIds := (found.map (·.acessoriasCompanyId)).dedup.insertionSort (· ≤ ·)
          linkIds := ((currentLinks db contactId).filter fun link => link.companyId
            ∈ (found.map (·.acessoriasCompanyId)).dedup.insertionSort (· ≤ ·)).map (·.id)
          evidenceCount := found.length } := by
  cases hconfirmed : confirmedLinks db contactId with
  | nil =>
      rw [← filter_currentLinks] at hconfirmed
      unfold discoveryResult
      dsimp only
      rewrite [hconfirmed]
      rfl
  | cons link rest =>
      cases rest with
      | nil => exact absurd hconfirmed (h link)
      | cons link' rest =>
          rw [← filter_currentLinks] at hconfirmed
          unfold discoveryResult
          dsimp only
          rewrite [hconfirmed]
          rfl

/-- The keys of links that are named by their ids. -/
theorem map_keyOf {links : List Link} (h : ∀ link ∈ links, link ∈ db.links.rows) :
    (links.map (·.id)).map db.links.keyOf
      = (links.map fun link => (link.key, link.value)).map fun p => some p.1 := by
  rw [List.map_map, List.map_map]
  refine List.map_congr_left fun link hlink => ?_
  show (db.links.byId? link.id).map (·.key) = some link.key
  rw [Keyed.byId?_of_mem (h link hlink)]
  rfl

/-- **The result does not depend on the ids of the links.** -/
theorem discoveryResult_renumbered {db db' : IdentityTables}
    (hlinks : ∀ pair, db.links.get? pair = db'.links.get? pair) (h : found.Perm found') :
    SameResult db db' (discoveryResult db contactId found) (discoveryResult db' contactId found') := by
  rw [discoveryResult_perm db' contactId h.symm]
  -- the confirmed links are the same, but for their ids
  have hconfirmed : ((confirmedLinks db contactId).map fun link => (link.key, link.value)).Perm
      ((confirmedLinks db' contactId).map fun link => (link.key, link.value)) := by
    unfold confirmedLinks
    exact filter_perm_of_get? hlinks fun p => p.1.1 == contactId && p.2.status.state == .confirmed
  have hmember : ∀ (db : IdentityTables) (p : Link → Bool),
      ∀ link ∈ (currentLinks db contactId).filter p, link ∈ db.links.rows :=
    fun db p link hlink => (List.mem_filter.mp (List.mem_filter.mp hlink).1).1
  have hrow : ∀ (db : IdentityTables) (link : Link), confirmedLinks db contactId = [link] →
      ∀ l ∈ [link], l ∈ db.links.rows :=
    fun db link heq l hl => (List.mem_filter.mp (heq ▸ hl : l ∈ confirmedLinks db contactId)).1
  by_cases hone : ∃ link, confirmedLinks db contactId = [link]
  · obtain ⟨link, hlink⟩ := hone
    have hlength := hconfirmed.length_eq
    rw [List.length_map, List.length_map, hlink] at hlength
    obtain ⟨link', hlink'⟩ := List.length_eq_one_iff.mp hlength.symm
    have hkey : link.key = link'.key := by
      rw [hlink, hlink'] at hconfirmed
      exact congrArg Prod.fst (List.singleton_perm_singleton.mp hconfirmed)
    rw [discoveryResult_of_confirmed hlink, discoveryResult_of_confirmed hlink']
    refine ⟨rfl, rfl, ?_, ?_, rfl⟩
    · show [link.key.2] = [link'.key.2]
      rw [hkey]
    · have hid : ([link].map (·.id)).map db.links.keyOf = [some link.key] := by
        rw [map_keyOf (hrow db link hlink)]
        rfl
      have hid' : ([link'].map (·.id)).map db'.links.keyOf = [some link'.key] := by
        rw [map_keyOf (hrow db' link' hlink')]
        rfl
      show (([link].map (·.id)).map db.links.keyOf).Perm (([link'].map (·.id)).map db'.links.keyOf)
      rw [hid, hid', hkey]
  · have hlength : (confirmedLinks db contactId).length = (confirmedLinks db' contactId).length := by
      rw [← List.length_map (f := fun link : Link => (link.key, link.value)), hconfirmed.length_eq,
        List.length_map]
    have hnone : ∀ link, confirmedLinks db contactId ≠ [link] := fun link heq => hone ⟨link, heq⟩
    have hnone' : ∀ link, confirmedLinks db' contactId ≠ [link] := by
      intro link heq
      rw [heq] at hlength
      obtain ⟨link', heq'⟩ := List.length_eq_one_iff.mp hlength
      exact hnone link' heq'
    rw [discoveryResult_of_not_confirmed hnone, discoveryResult_of_not_confirmed hnone', hlength]
    refine ⟨rfl, rfl, rfl, ?_, rfl⟩
    show ((List.map _ _).map db.links.keyOf).Perm ((List.map _ _).map db'.links.keyOf)
    rw [map_keyOf (hmember db _), map_keyOf (hmember db' _)]
    refine List.Perm.map _ ?_
    unfold currentLinks
    rw [List.filter_filter, List.filter_filter]
    exact filter_perm_of_get? hlinks fun p => decide (p.1.2
      ∈ (found.map (·.acessoriasCompanyId)).dedup.insertionSort (· ≤ ·)) && p.1.1 == contactId

/-! ## §6. A discovery, repeated and reordered. -/

/-- What is not recorded stays. -/
theorem surroundings_recordAll :
    SameSurroundings db (recordAll now contactId ruleVersion observedAt found db) := by
  unfold recordAll
  induction found generalizing db with
  | nil => exact .refl _
  | cons first found ih =>
      have hfirst : SameSurroundings db (record now contactId ruleVersion observedAt db first) := by
        unfold record upsertCandidateLink
        split
        next => exact ⟨rfl, rfl⟩
        next => exact ⟨rfl, rfl⟩
      have hrest : SameSurroundings (record now contactId ruleVersion observedAt db first)
          (found.foldl (record now contactId ruleVersion observedAt)
            (record now contactId ruleVersion observedAt db first)) := ih
      exact ⟨hrest.digisacContacts.trans hfirst.digisacContacts,
        hrest.directory.trans hfirst.directory⟩

theorem discoverRows_ok_iff {result : IdentityDiscoveryResult} :
    discoverRows now contactId ruleVersion observedAt rows db = .ok (after, result)
      ↔ ∃ contact, lockContact db contactId = .ok contact
        ∧ (∀ e ∈ matchIdentity (matchInput contact.value) rows, ruleVersionSafe ruleVersion = true)
        ∧ after = recordAll now contactId ruleVersion observedAt
            (matchIdentity (matchInput contact.value) rows) db
        ∧ result = discoveryResult after contactId (matchIdentity (matchInput contact.value) rows) := by
  unfold discoverRows
  constructor
  · intro h
    obtain ⟨contact, hcontact, h⟩ := bind_eq_ok_iff.mp h
    obtain ⟨tables, hloop, h⟩ := bind_eq_ok_iff.mp h
    obtain ⟨hsafe, htables⟩ := foldlM_recordMatch_ok_iff.mp hloop
    obtain ⟨hafter, hresult⟩ := Prod.mk.inj (pure_eq_ok_iff.mp h)
    rw [← hresult, ← hafter]
    exact ⟨contact, hcontact, hsafe, htables, rfl⟩
  · intro ⟨contact, hcontact, hsafe, hafter, hresult⟩
    refine bind_eq_ok_iff.mpr ⟨contact, hcontact, bind_eq_ok_iff.mpr ⟨after, ?_, ?_⟩⟩
    · exact foldlM_recordMatch_ok_iff.mpr ⟨hsafe, hafter⟩
    · rw [hresult]
      rfl

/-- The rows that are written are the same, but for the ids of the new ones. -/
structure Renumbered (before after after' : IdentityTables) : Prop where
  /-- Links that were there are there, under their ids. -/
  kept : ∀ link ∈ before.links.rows, link ∈ after.links.rows ∧ link ∈ after'.links.rows
  links : ∀ pair, after.links.get? pair = after'.links.get? pair
  /-- Evidence that was there is there, under its id. -/
  keptEvidence : Keyed.Kept before.evidence after.evidence ∧ Keyed.Kept before.evidence after'.evidence
  evidence : ∀ key, after.evidence.get? key = after'.evidence.get? key

theorem kept_recordAll :
    Keyed.Kept db.evidence (recordAll now contactId ruleVersion observedAt found db).evidence := by
  unfold recordAll
  induction found generalizing db with
  | nil => exact .refl _
  | cons first found ih =>
      have hfirst : Keyed.Kept db.evidence
          (record now contactId ruleVersion observedAt db first).evidence := by
        unfold record upsertCandidateLink
        split
        next => exact Keyed.kept_upsert _ _ _ _
        next => exact Keyed.kept_upsert _ _ _ _
      exact hfirst.trans ih

/-- **The order of the matches** decides about the ids of new rows only. -/
theorem renumbered_recordAll (hagree : Agreeing found) (h : found.Perm found') :
    Renumbered db (recordAll now contactId ruleVersion observedAt found db)
      (recordAll now contactId ruleVersion observedAt found' db) := by
  have hagree' : Agreeing found' := fun e he e' he' =>
    hagree e (h.mem_iff.mpr he) e' (h.mem_iff.mpr he')
  refine ⟨fun link hlink => ⟨?_, ?_⟩, fun pair => ?_, ⟨kept_recordAll, kept_recordAll⟩, fun key => ?_⟩
  · obtain ⟨new, hnew⟩ := rows_recordAll found db
    rw [hnew]
    exact List.mem_append_left _ hlink
  · obtain ⟨new, hnew⟩ := rows_recordAll found' db
    rw [hnew]
    exact List.mem_append_left _ hlink
  · rw [links_recordAll, links_recordAll]
    simp only [(h.map (·.acessoriasCompanyId)).mem_iff]
  · by_cases hfound : ∃ e ∈ found, e.rowKey contactId ruleVersion = key
    · obtain ⟨e, he, rfl⟩ := hfound
      rw [evidence_recordAll_of_mem hagree he, evidence_recordAll_of_mem hagree' (h.mem_iff.mp he)]
    · rw [evidence_recordAll_of_not fun e he hkey => hfound ⟨e, he, hkey⟩,
        evidence_recordAll_of_not fun e he hkey => hfound ⟨e, h.mem_iff.mpr he, hkey⟩]

/-- **A discovery, repeated and reordered.**  The second of two discoveries changes times
    only and has the same result; and in whatever order the directory is read, the links,
    the evidence and the result are the same but for the ids of new rows. -/
theorem discovery_repeated_reordered {result : IdentityDiscoveryResult}
    (hrows : rows.Perm (loadDirectoryContacts db.directory))
    (hrows' : rows'.Perm (loadDirectoryContacts db.directory))
    (h : discoverRows now contactId ruleVersion observedAt rows db = .ok (after, result)) :
    (∀ now' observedAt', ∃ again,
        discoverRows now' contactId ruleVersion observedAt' rows' after = .ok (again, result)
          ∧ SameButTimes after again)
      ∧ ∃ after' result',
        discoverRows now contactId ruleVersion observedAt rows' db = .ok (after', result')
          ∧ Renumbered db after after' ∧ SameResult after after' result result' := by
  obtain ⟨contact, hcontact, hsafe, rfl, rfl⟩ := discoverRows_ok_iff.mp h
  have hperm : (matchIdentity (matchInput contact.value) rows).Perm
      (matchIdentity (matchInput contact.value) rows') :=
    matchIdentity_perm _ (hrows.trans hrows'.symm)
  have hagree := agreeing_matchIdentity (matchInput contact.value) hrows
  have hsafe' : ∀ e ∈ matchIdentity (matchInput contact.value) rows',
      ruleVersionSafe ruleVersion = true := fun e he => hsafe e (hperm.mem_iff.mpr he)
  constructor
  · intro now' observedAt'
    -- whatever the second discovery finds was recorded by the first one
    have hagain : SameButTimes
        (recordAll now contactId ruleVersion observedAt
          (matchIdentity (matchInput contact.value) rows) db)
        (recordAll now' contactId ruleVersion observedAt'
          (matchIdentity (matchInput contact.value) rows')
          (recordAll now contactId ruleVersion observedAt
            (matchIdentity (matchInput contact.value) rows) db)) :=
      recordAll_again fun e he => has_recordAll hagree (hperm.mem_iff.mpr he)
    refine ⟨_, discoverRows_ok_iff.mpr ⟨contact, ?_, hsafe', rfl, ?_⟩, ?_⟩
    · unfold lockContact at hcontact ⊢
      rw [surroundings_recordAll.digisacContacts]
      exact hcontact
    · rw [discoveryResult_perm _ contactId hperm]
      unfold discoveryResult currentLinks
      rw [hagain.links]
    · exact hagain
  · have hrenumbered : Renumbered db
        (recordAll now contactId ruleVersion observedAt
          (matchIdentity (matchInput contact.value) rows) db)
        (recordAll now contactId ruleVersion observedAt
          (matchIdentity (matchInput contact.value) rows') db) := renumbered_recordAll hagree hperm
    exact ⟨_, _, discoverRows_ok_iff.mpr ⟨contact, hcontact, hsafe', rfl, rfl⟩, hrenumbered,
      discoveryResult_renumbered hrenumbered.links hperm⟩

/-- The directory of two companies is read from its end. -/
theorem twoCompanies_repeated_reordered :
    ∃ after result, discoverRows 1 1 "spec0009-v1.1" 1
        (loadDirectoryContacts twoCompanies).reverse
        { digisacContacts := matchingContact, directory := twoCompanies } = .ok (after, result)
      ∧ after.links.rows.map (fun link => (link.id, link.key)) = [(1, (1, 2)), (2, (1, 1))]
      ∧ (∀ now observedAt, ∃ again, discoverRows now 1 "spec0009-v1.1" observedAt
          (loadDirectoryContacts twoCompanies) after = .ok (again, result) ∧ SameButTimes after again)
      ∧ ∃ after' result', discoverRows 1 1 "spec0009-v1.1" 1 (loadDirectoryContacts twoCompanies)
          { digisacContacts := matchingContact, directory := twoCompanies } = .ok (after', result')
        ∧ Renumbered { digisacContacts := matchingContact, directory := twoCompanies } after after'
        ∧ SameResult after after' result result' := by
  have hlinks : ((discoverRows 1 1 "spec0009-v1.1" 1 (loadDirectoryContacts twoCompanies).reverse
      { digisacContacts := matchingContact, directory := twoCompanies }).toOption.map fun r =>
        r.1.links.rows.map fun link => (link.id, link.key)) = some [(1, (1, 2)), (2, (1, 1))] := by
    decide +kernel
  obtain ⟨⟨after, result⟩, hdiscover, hrows⟩ := exists_ok_of_toOption hlinks
  obtain ⟨hagain, hreordered⟩ :=
    discovery_repeated_reordered (List.reverse_perm _) (.refl _) hdiscover
  exact ⟨after, result, hdiscover, hrows, hagain, hreordered⟩

end Cai.Identity
