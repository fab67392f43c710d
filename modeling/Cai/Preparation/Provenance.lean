/-
  Cai.Preparation.Provenance — where the facts of a Request come from.

  The company of a POST goes back to the link that the resolution of the
  cycle names, its department to the rule that the default evaluation
  used.  Both were written by other transactions, long before; `Sound`
  says that the log still has them, and that what was read then is still
  what its ids and keys name.

  Main result: `Sound`, with one lemma for each kind of step below it.
-/
import Cai.Preparation.Agreement
import Cai.Preparation.World
import Cai.Request.Targets

namespace Cai.Preparation

open Cai.Lib
open Cai.Cycle (Timestamp CycleRow Status)
open Cai.Directory
open Cai.Identity
open Cai.Mapping
open Cai.Request (CallerId ConfidenceValue RequestPayload evaluateRequestConfidence operationState)

/-! ## §1. Entries of the log. -/

/-- The resolution names a link that was confirmed, when it was written, for
    the contact of the cycle; the link's company has this external id. -/
structure ResolvedCompany (cycle : CycleRow) (tables : IdentityTables) (row : Resolution)
    (companyId : Nat) (company : String) : Prop where
  about : row.key = cycle.id
  link : ∃ contact ∈ tables.digisacContacts.rows,
    cycle.digisacContactExternalId = some contact.key
      ∧ ∃ link ∈ tables.links.rows, link.key = (contact.id, companyId)
        ∧ link.value.status.state = .confirmed ∧ row.value.outcome = .confirmed link.id
  company : ∃ c ∈ tables.directory.companies.rows, c.id = companyId ∧ c.key = company

/-- The default snapshot has the target of a rule that was active, when it was
    written, for the DigiSac department selected for the cycle. -/
structure EvaluatedDepartment (cycle : CycleRow) (tables : MappingTables)
    (snapshot : MappingSnapshot) (department : String) : Prop where
  about : snapshot.cycleId = cycle.id
  key : snapshot.evaluationKey = "default"
  rule : ∃ startedAt closedAt assignment d rule, cycle.cycleStartedAt = some startedAt
    ∧ cycle.ticketClosedAt = some closedAt
    ∧ selectAssignment tables.history cycle.conversationId startedAt closedAt = some assignment
    ∧ assignment.departmentId = some d ∧ rule ∈ tables.rules ∧ rule.active = true
    ∧ rule.digisacDepartmentExternalId = d ∧ rule.acessoriasDepartmentExternalId = department

/-- The log has the resolution of the cycle. -/
def CompanySourced (log : History Written) (publicId companyId : Nat) (company : String) : Prop :=
  ∃ cycle tables row, Written.resolved cycle tables row ∈ log ∧ cycle.publicId = publicId
    ∧ ResolvedCompany cycle tables row companyId company

/-- The log has the default evaluation of the cycle. -/
def DepartmentSourced (log : History Written) (publicId : Nat) (department : String) : Prop :=
  ∃ cycle tables snapshot, Written.evaluated cycle tables snapshot ∈ log
    ∧ cycle.publicId = publicId ∧ EvaluatedDepartment cycle tables snapshot department

/-- Company and department of a POST for the cycle. -/
structure Target (log : History Written) (publicId : Nat) (company department : String) : Prop where
  company : ∃ companyId, CompanySourced log publicId companyId company
  department : DepartmentSourced log publicId department

/-- The confidence lies in [0.5, 1]. -/
def InRange (confidence : ConfidenceValue) : Prop :=
  ∃ value, confidence = .number value ∧ 1 / 2 ≤ value ∧ value ≤ 1

/-- Call `c` of the cycle has marked, with a confidence in range. -/
def Marked (log : History Written) (publicId : Nat) (c : CallerId) : Prop :=
  ∃ confidence, Written.marked publicId c confidence ∈ log ∧ InRange confidence

/-- What stands before an entry. -/
def Licensed : Written → History Written → Prop
  | .posted publicId c payload, older =>
      Target older publicId payload.company payload.department ∧ Marked older publicId c
  | .marked _ _ confidence, _ => InRange confidence
  | _, _ => True

variable {log log' : History Written} {publicId companyId : Nat} {company department : String}

theorem CompanySourced.mono (h : CompanySourced log publicId companyId company)
    (hlog : ∀ e ∈ log, e ∈ log') : CompanySourced log' publicId companyId company := by
  obtain ⟨cycle, tables, row, hmem, hrest⟩ := h
  exact ⟨cycle, tables, row, hlog _ hmem, hrest⟩

theorem DepartmentSourced.mono (h : DepartmentSourced log publicId department)
    (hlog : ∀ e ∈ log, e ∈ log') : DepartmentSourced log' publicId department := by
  obtain ⟨cycle, tables, snapshot, hmem, hrest⟩ := h
  exact ⟨cycle, tables, snapshot, hlog _ hmem, hrest⟩

theorem Target.mono (h : Target log publicId company department) (hlog : ∀ e ∈ log, e ∈ log') :
    Target log' publicId company department := by
  obtain ⟨companyId, hcompany⟩ := h.company
  exact ⟨⟨companyId, hcompany.mono hlog⟩, h.department.mono hlog⟩

theorem Marked.mono {c : CallerId} (h : Marked log publicId c) (hlog : ∀ e ∈ log, e ∈ log') :
    Marked log' publicId c := by
  obtain ⟨confidence, hmem, hrange⟩ := h
  exact ⟨confidence, hlog _ hmem, hrange⟩

theorem Licensed.mono {e : Written} (h : Licensed e log) (hlog : ∀ e ∈ log, e ∈ log') :
    Licensed e log' := by
  cases e with
  | posted publicId c payload => exact ⟨h.1.mono hlog, h.2.mono hlog⟩
  | marked => exact h
  | resolved => exact trivial
  | evaluated => exact trivial

/-- Entries that are licensed by what stands before all of them. -/
theorem licensed_append {new : List Written} (h : History.Justified Licensed log)
    (hnew : ∀ e ∈ new, Licensed e log) : History.Justified Licensed (new ++ log) := by
  induction new with
  | nil => exact h
  | cons e new ih =>
      refine (History.justified_cons e (new ++ log)).mpr ⟨?_, ?_⟩
      · exact (hnew e List.mem_cons_self).mono fun _ he => List.mem_append_right new he
      · exact ih fun e' he' => hnew e' (List.mem_cons_of_mem e he')

/-- An allowed confidence is in range. -/
theorem inRange_of_allowed {confidence : ConfidenceValue}
    (h : (evaluateRequestConfidence confidence).state = .allowed) : InRange confidence := by
  unfold evaluateRequestConfidence at h
  split at h
  next => cases h
  next => cases h
  next value =>
    split at h
    next => cases h
    next hbounds =>
      simp only at h
      split at h
      next => cases h
      next hmin =>
        have hhalf : Request.requestConfidenceMinimum = 1 / 2 := by decide +kernel
        refine ⟨value, rfl, ?_, (not_not.mp hbounds).2⟩
        rw [← hhalf]
        exact Rat.not_lt.mp hmin

/-! ## §2. The invariant. -/

/-- What an entry of the log named is still there. -/
structure Lasting (s : World) (cycle : CycleRow) (tables : IdentityTables) : Prop where
  surroundings : SurroundingsKept tables s.identity.tables
  links : Keyed.Kept tables.links s.identity.tables.links
  cycle : ∃ r ∈ s.identity.cycles, r.id = cycle.id ∧ r.publicId = cycle.publicId

/-- The contact of the cycle has this id. -/
def ContactOf (s : World) (publicId contactId : Nat) : Prop :=
  ∃ cycle ∈ s.identity.cycles, cycle.publicId = publicId
    ∧ ∃ contact ∈ s.identity.tables.digisacContacts.rows,
      cycle.digisacContactExternalId = some contact.key ∧ contact.id = contactId

/-- Where a resolution that names a link comes from. -/
def ResolutionSourced (s : World) (row : Resolution) : Prop :=
  ∀ linkId, row.value.outcome = .confirmed linkId → ∃ cycle tables companyId company,
    Written.resolved cycle tables row ∈ s.log
      ∧ ResolvedCompany cycle tables row companyId company

/-- Where a snapshot that the Request may read comes from. -/
def SnapshotSourced (s : World) (x : MappingSnapshot) : Prop :=
  x.evaluationKey = "default" → x.state = .resolved →
    ∃ publicId companyId company department,
      (∃ r ∈ s.identity.cycles, r.id = x.cycleId ∧ r.publicId = publicId)
        ∧ x.companyId = some companyId ∧ x.acessoriasDepartmentExternalId = some department
        ∧ CompanySourced s.log publicId companyId company
        ∧ DepartmentSourced s.log publicId department ∧ Text.strip department = department

/-- What rows and payloads of the cycle name: a target, without spaces around it. -/
def targets (s : World) (publicId : Nat) (company department : String) : Prop :=
  Target s.log publicId company department ∧ Text.strip company = company
    ∧ Text.strip department = department

/-- The tables of the identities. -/
structure IdentityGrounds (identity : IdentityWorld) : Prop where
  cycleIds : (identity.cycles.map (·.id)).Nodup
  publicIds : (identity.cycles.map (·.publicId)).Nodup
  identifiers : IdentifiersStripped identity.tables.directory
  companies : ∀ link ∈ identity.tables.links.rows, link.value.status.state = .confirmed →
    ∃ company ∈ identity.tables.directory.companies.rows, company.id = link.key.2

/-- The tables of the rules. -/
structure RuleGrounds (rules : RuleTables) : Prop where
  inv : RuleInv rules
  targets : ∀ rule : Rule, rule ∈ rules.rules.rows → Text.strip rule.target = rule.target

/-- **The invariant.** -/
structure Sound (s : World) : Prop where
  identity : IdentityGrounds s.identity
  rules : RuleGrounds s.rules
  resolving : ∀ p ∈ s.preparations, ∀ contactId, p.phase = .resolve contactId →
    ContactOf s p.publicId contactId
  lasting : ∀ cycle tables row, Written.resolved cycle tables row ∈ s.log → Lasting s cycle tables
  resolutions : ∀ row ∈ s.identity.tables.resolutions.rows, ResolutionSourced s row
  snapshots : ∀ x ∈ s.snapshots, SnapshotSourced s x
  held : ∀ publicId, Request.Held (targets s publicId) (Marked s.log publicId) (s.requests publicId)
  licensed : History.Justified Licensed s.log

/-- What no step takes back. -/
structure Later (s t : World) : Prop where
  log : ∀ e ∈ s.log, e ∈ t.log
  surroundings : SurroundingsKept s.identity.tables t.identity.tables
  links : Keyed.Kept s.identity.tables.links t.identity.tables.links
  cycles : ∀ r ∈ s.identity.cycles, ∃ r' ∈ t.identity.cycles, r'.id = r.id
    ∧ r'.publicId = r.publicId
    ∧ (r.digisacContactExternalId = none
      ∨ r'.digisacContactExternalId = r.digisacContactExternalId)

variable {s t : World}

/-- A step that only adds to the log. -/
theorem Later.of_log (hidentity : t.identity = s.identity) (hlog : ∀ e ∈ s.log, e ∈ t.log) :
    Later s t := by
  refine ⟨hlog, ?_, ?_, ?_⟩
  · rw [hidentity]
    exact .refl _
  · rw [hidentity]
    exact .refl _
  · rw [hidentity]
    exact fun r hr => ⟨r, hr, rfl, rfl, .inr rfl⟩

theorem Lasting.later {cycle : CycleRow} {tables : IdentityTables} (h : Lasting s cycle tables)
    (hlater : Later s t) : Lasting t cycle tables := by
  obtain ⟨r, hr, hid, hpublic⟩ := h.cycle
  obtain ⟨r', hr', hid', hpublic', -⟩ := hlater.cycles r hr
  exact ⟨h.surroundings.trans hlater.surroundings, h.links.trans hlater.links,
    r', hr', hid'.trans hid, hpublic'.trans hpublic⟩

theorem ContactOf.later {contactId : Nat} (h : ContactOf s publicId contactId)
    (hlater : Later s t) : ContactOf t publicId contactId := by
  obtain ⟨cycle, hcycle, hpublic, contact, hcontact, hexternal, hid⟩ := h
  obtain ⟨cycle', hcycle', -, hpublic', hkept⟩ := hlater.cycles cycle hcycle
  obtain ⟨contact', hcontact', hid', hkey'⟩ := hlater.surroundings.digisacContacts contact hcontact
  refine ⟨cycle', hcycle', hpublic'.trans hpublic, contact', hcontact', ?_, hid'.trans hid⟩
  rcases hkept with hnone | hsame
  · rw [hnone] at hexternal
    cases hexternal
  · rw [hsame, hexternal, hkey']

theorem ResolutionSourced.later {row : Resolution} (h : ResolutionSourced s row)
    (hlater : Later s t) : ResolutionSourced t row := by
  intro linkId houtcome
  obtain ⟨cycle, tables, companyId, company, hmem, hresolved⟩ := h linkId houtcome
  exact ⟨cycle, tables, companyId, company, hlater.log _ hmem, hresolved⟩

theorem SnapshotSourced.later {x : MappingSnapshot} (h : SnapshotSourced s x)
    (hlater : Later s t) : SnapshotSourced t x := by
  intro hkey hresolved
  obtain ⟨publicId, companyId, company, department, ⟨r, hr, hid, hpublic⟩, hcompanyId, hdepartment,
    hcompanySourced, hdepartmentSourced, hstrip⟩ := h hkey hresolved
  obtain ⟨r', hr', hid', hpublic', -⟩ := hlater.cycles r hr
  exact ⟨publicId, companyId, company, department, ⟨r', hr', hid'.trans hid, hpublic'.trans hpublic⟩,
    hcompanyId, hdepartment, hcompanySourced.mono hlater.log, hdepartmentSourced.mono hlater.log,
    hstrip⟩

theorem targets_later (h : targets s publicId company department) (hlater : Later s t) :
    targets t publicId company department :=
  ⟨h.1.mono hlater.log, h.2⟩

/-! ## §3. What a resolved evaluation has read. -/

variable {db : MappingTables} {cycle : CycleRow} {validation : Validation} {d : String}

/-- The link of a confirmed resolution of the cycle, and an active rule of
    the DigiSac department. -/
structure ReadIdentity (db : MappingTables) (cycleId : Nat) (d : String) (f : Finding) where
  resolution : IdentityResolution
  linkId : Nat
  link : IdentityLink
  rule : MappingRule
  resolution_mem : resolution ∈ db.resolutions
  resolution_cycle : resolution.cycleId = cycleId
  resolution_link : resolution.linkId = some linkId
  confirmed : resolution.state = .confirmed
  link_mem : link ∈ db.links
  link_id : link.id = linkId
  rule_mem : rule ∈ db.rules
  active : rule.active = true
  department : rule.digisacDepartmentExternalId = d
  company : f.companyId = some link.acessoriasCompanyId
  target : f.acessoriasDepartmentExternalId = some rule.acessoriasDepartmentExternalId

theorem evaluateIdentity_resolved {cycleId : Nat}
    (h : (evaluateIdentity db cycleId d validation).state = .resolved) :
    Nonempty (ReadIdentity db cycleId d (evaluateIdentity db cycleId d validation)) := by
  unfold evaluateIdentity at h ⊢
  simp only at h ⊢
  split at h
  next id cycle' linkId companyId hidentity =>
    unfold cycleIdentity at hidentity
    obtain ⟨resolution, hresolution, hpair⟩ := Option.map_eq_some_iff.mp hidentity
    obtain ⟨rfl, hlink⟩ := Prod.mk.inj hpair
    obtain ⟨link, hselect, rfl⟩ := Option.map_eq_some_iff.mp hlink
    have hcycle := Table.select_mem hresolution
    have hlinkMem := Table.select_mem hselect
    split at h
    next => cases h
    next rule hrule =>
      have hruleMem := Table.select_mem hrule
      simp only [Bool.and_eq_true, beq_iff_eq] at hruleMem
      exact ⟨⟨_, linkId, link, rule, hcycle.1, beq_iff_eq.mp hcycle.2, rfl, rfl, hlinkMem.1,
        beq_iff_eq.mp hlinkMem.2, hruleMem.1, hruleMem.2.2, hruleMem.2.1, rfl, rfl⟩⟩
  next => cases h

/-- The assignment of the cycle, and what followed from its department. -/
structure ReadCycle (db : MappingTables) (cycle : CycleRow) (f : Finding) where
  startedAt : Timestamp
  closedAt : Timestamp
  assignment : AssignmentRow
  d : String
  started : cycle.cycleStartedAt = some startedAt
  closed : cycle.ticketClosedAt = some closedAt
  selected : selectAssignment db.history cycle.conversationId startedAt closedAt = some assignment
  assigned : assignment.departmentId = some d
  identity : ReadIdentity db cycle.id d f

theorem evaluateAssignment_resolved {row : Option AssignmentRow}
    (h : (evaluateAssignment db cycle validation row).state = .resolved) :
    ∃ assignment d, row = some assignment ∧ assignment.departmentId = some d
      ∧ Nonempty (ReadIdentity db cycle.id d (evaluateAssignment db cycle validation row)) := by
  unfold evaluateAssignment at h ⊢
  split at h
  next departmentId _ _ _ _ _ _ _ _ =>
    simp only at h ⊢
    split at h
    next hpresent =>
      rw [if_pos hpresent]
      exact ⟨_, departmentId, rfl, rfl, evaluateIdentity_resolved h⟩
    next => cases h
  next => cases h

/-- **A resolved evaluation** has found an assignment, a confirmed resolution
    with its link, and an active rule. -/
theorem evaluateCycle_resolved (h : (evaluateCycle db cycle).state = .resolved) :
    Nonempty (ReadCycle db cycle (evaluateCycle db cycle)) := by
  unfold evaluateCycle at h ⊢
  simp only at h ⊢
  split at h
  next startedAt closedAt hstarted hclosed =>
    split at h
    next => cases h
    next hbounds =>
      rw [if_neg hbounds]
      obtain ⟨assignment, d, hrow, hd, ⟨identity⟩⟩ := evaluateAssignment_resolved h
      exact ⟨⟨startedAt, closedAt, assignment, d, hstarted, hclosed, hrow, hd, identity⟩⟩
  next => cases h

end Cai.Preparation
