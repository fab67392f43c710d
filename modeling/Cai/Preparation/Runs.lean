/-
  Cai.Preparation.Runs — every POST has its provenance.

  Each kind of step keeps `Sound`.  The identity operations, the
  configurations and the other writers only have to leave what the log
  names where it is; a resolution and an evaluation write the entries that
  a later POST is traced back to; a step of a Request call may only take
  facts that lead to such entries.

  Main result: `posts_have_provenance`.
-/
import Cai.Mapping.RuleReplay
import Cai.Preparation.Provenance

namespace Cai.Preparation

open Cai.Lib
open Cai.Cycle (Timestamp CycleRow Status)
open Cai.Directory
open Cai.Identity
open Cai.Mapping
open Cai.Request (CallerId ConfidenceValue RequestPayload RequestFacts operationState)

variable {s t : World}

/-! ## §1. What is new. -/

/-- **A later world is sound** if what is new in it is. -/
theorem Sound.later (h : Sound s) (hlater : Later s t) (hidentity : IdentityGrounds t.identity)
    (hrules : RuleGrounds t.rules)
    (hresolving : ∀ p ∈ t.preparations, p ∈ s.preparations
      ∨ ∀ contactId, p.phase = .resolve contactId → ContactOf t p.publicId contactId)
    (hlasting : ∀ cycle tables row, Written.resolved cycle tables row ∈ t.log →
      Written.resolved cycle tables row ∈ s.log ∨ Lasting t cycle tables)
    (hresolutions : ∀ row ∈ t.identity.tables.resolutions.rows,
      row ∈ s.identity.tables.resolutions.rows ∨ ResolutionSourced t row)
    (hsnapshots : ∀ x ∈ t.snapshots, x ∈ s.snapshots ∨ SnapshotSourced t x)
    (hheld : ∀ publicId, t.requests publicId = s.requests publicId
      ∨ Request.Held (targets t publicId) (Marked t.log publicId) (t.requests publicId))
    (hlicensed : History.Justified Licensed t.log) : Sound t where
  identity := hidentity
  rules := hrules
  resolving := by
    intro p hp contactId hphase
    rcases hresolving p hp with hold | hnew
    · exact (h.resolving p hold contactId hphase).later hlater
    · exact hnew contactId hphase
  lasting := by
    intro cycle tables row hmem
    rcases hlasting cycle tables row hmem with hold | hnew
    · exact (h.lasting cycle tables row hold).later hlater
    · exact hnew
  resolutions := by
    intro row hrow
    rcases hresolutions row hrow with hold | hnew
    · exact (h.resolutions row hold).later hlater
    · exact hnew
  snapshots := by
    intro x hx
    rcases hsnapshots x hx with hold | hnew
    · exact (h.snapshots x hold).later hlater
    · exact hnew
  held := by
    intro publicId
    rcases hheld publicId with hold | hnew
    · rw [hold]
      exact (h.held publicId).mono (fun _ _ htarget => targets_later htarget hlater)
        fun _ hmarked => hmarked.mono hlater.log
    · exact hnew
  licensed := hlicensed

/-- A step that leaves the preparations, the snapshots, the Requests and the log alone. -/
structure SameWork (s t : World) : Prop where
  preparations : t.preparations = s.preparations
  snapshots : t.snapshots = s.snapshots
  requests : t.requests = s.requests
  log : t.log = s.log

/-- A step that leaves the work and the resolutions alone. -/
theorem Sound.surroundings (h : Sound s) (hlater : Later s t) (hwork : SameWork s t)
    (hidentity : IdentityGrounds t.identity) (hrules : RuleGrounds t.rules)
    (hresolutions : t.identity.tables.resolutions = s.identity.tables.resolutions) : Sound t := by
  refine h.later hlater hidentity hrules ?_ ?_ ?_ ?_ ?_ ?_
  · intro p hp
    rw [hwork.preparations] at hp
    exact .inl hp
  · intro cycle tables row hmem
    rw [hwork.log] at hmem
    exact .inl hmem
  · intro row hrow
    rw [hresolutions] at hrow
    exact .inl hrow
  · intro x hx
    rw [hwork.snapshots] at hx
    exact .inl hx
  · intro publicId
    rw [hwork.requests]
    exact .inl rfl
  · rw [hwork.log]
    exact h.licensed

/-! ## §2. The identity operations and the writers. -/

/-- A confirmed link has its company, also after a step. -/
theorem IdentityGrounds.companies_later {identity identity' : IdentityWorld} {a : IdentityAction}
    (h : IdentityGrounds identity) (hstep : TableStep identity a identity'.tables)
    (hkept : SurroundingsKept identity.tables identity'.tables) :
    ∀ link ∈ identity'.tables.links.rows, link.value.status.state = .confirmed →
      ∃ company ∈ identity'.tables.directory.companies.rows, company.id = link.key.2 := by
  intro link hlink hconfirmed
  have hcompany : ∃ company ∈ identity.tables.directory.companies.rows,
      company.id = link.key.2 := by
    rcases hstep.safe.confirmed link hlink hconfirmed with ⟨old, hold, -, hkey, hstate⟩ | hnew
    · rw [← hkey]
      exact h.companies old hold (hstate.trans hconfirmed)
    · obtain ⟨-, company, hcompany, hid, -⟩ := hnew
      exact ⟨company, hcompany, hid⟩
  obtain ⟨company, hmem, hid⟩ := hcompany
  obtain ⟨company', hmem', hid', -⟩ := hkept.directory.companies company hmem
  exact ⟨company', hmem', hid'.trans hid⟩

/-- **An identity operation, or a writer of contacts, directory or cycles.** -/
theorem Sound.identityStep (h : Sound s) {a : IdentityAction} {identity : IdentityWorld}
    (hallowed : identityAllowed s a) (hstep : Identity.identityStep s.identity a = some identity) :
    Sound { s with identity } := by
  obtain ⟨htable, hkept⟩ := identityStep_tables hstep
  have hresolve : a.isResolve = false := by
    cases a with
    | resolve => exact hallowed.elim
    | _ => rfl
  have hcompanies := h.identity.companies_later htable hkept
  cases identityStep_cases hstep with
  | operation htables hcycles =>
      have hlater : Later s { s with identity } := by
        refine ⟨fun e he => he, hkept, htable.linksKept, ?_⟩
        show ∀ r ∈ s.identity.cycles, ∃ r' ∈ identity.cycles, _
        rw [hcycles]
        exact fun r hr => ⟨r, hr, rfl, rfl, .inr rfl⟩
      refine h.surroundings hlater ⟨rfl, rfl, rfl, rfl⟩ ⟨?_, ?_, ?_, hcompanies⟩ h.rules
        (htable.resolutions_same hresolve)
      · show (identity.cycles.map (·.id)).Nodup
        rw [hcycles]
        exact h.identity.cycleIds
      · show (identity.cycles.map (·.publicId)).Nodup
        rw [hcycles]
        exact h.identity.publicIds
      · show IdentifiersStripped identity.tables.directory
        rw [htables.2.directory]
        exact h.identity.identifiers
  | environment digisacContacts directory cycles ha hcontacts hdirectory ht =>
      subst ha
      obtain ⟨hcycles, hidentifiers⟩ := hallowed
      have hsame : identity.cycles = cycles := by rw [ht]
      have hdir : identity.tables.directory = directory := by rw [ht]
      have hlater : Later s { s with identity } := by
        refine ⟨fun e he => he, hkept, htable.linksKept, ?_⟩
        show ∀ r ∈ s.identity.cycles, ∃ r' ∈ identity.cycles, _
        rw [hsame]
        exact hcycles.kept
      refine h.surroundings hlater ⟨rfl, rfl, rfl, rfl⟩ ⟨?_, ?_, ?_, hcompanies⟩ h.rules
        (htable.resolutions_same hresolve)
      · show (identity.cycles.map (·.id)).Nodup
        rw [hsame]
        exact hcycles.ids
      · show (identity.cycles.map (·.publicId)).Nodup
        rw [hsame]
        exact hcycles.publicIds
      · show IdentifiersStripped identity.tables.directory
        rw [hdir]
        exact hidentifiers

/-- **A configuration.** -/
theorem RuleGrounds.configure {rules : RuleTables} (h : RuleGrounds rules)
    {sha256 : String → String} {now clock : Timestamp} {call : ConfigureCall}
    {departments : List String} :
    RuleGrounds (tablesAfter rules (configureDepartmentMapping sha256 now clock call
      { rules with acessoriasDepartments := departments })) := by
  have hinv : RuleInv { rules with acessoriasDepartments := departments } :=
    h.inv.directories rules.digisacDepartments departments
  cases hcall : configureDepartmentMapping sha256 now clock call
      { rules with acessoriasDepartments := departments } with
  | error e => exact h
  | ok result =>
      obtain ⟨after, rule⟩ := result
      obtain ⟨r, hr, hcases⟩ := configure_cases hinv hcall
      refine ⟨hcases.inv hinv, fun e he => ?_⟩
      rcases hcases.targets e he with ⟨old, hold, htarget⟩ | hasked
      · rw [← htarget]
        exact h.targets old hold
      · obtain ⟨-, -, htargetId⟩ := checkArguments_ok hr
        rw [htargetId] at hasked
        obtain ⟨asked, -, hstrip⟩ := Option.map_eq_some_iff.mp hasked
        rw [← hstrip]
        exact Text.strip_strip asked

/-! ## §3. A resolution. -/

variable {cycle : CycleRow} {publicId contactId : Nat} {row : Resolution}

/-- A resolution that names a link has found it confirmed. -/
theorem resolutionOutcome_confirmed {tables : IdentityTables} {found : List MatchEvidence}
    {linkId : Nat}
    (h : resolutionOutcome (discoveryResult tables contactId found) = .confirmed linkId) :
    ∃ link : Link, link ∈ tables.links.rows ∧ link.key.1 = contactId
      ∧ link.value.status.state = .confirmed ∧ link.id = linkId := by
  unfold discoveryResult at h
  simp only at h
  split at h
  next link hconfirmed =>
    have hmem : link ∈ (currentLinks tables contactId).filter
        (·.value.status.state == .confirmed) := by
      rw [hconfirmed]
      exact List.mem_singleton_self link
    obtain ⟨hcurrent, hstate⟩ := List.mem_filter.mp hmem
    obtain ⟨hlink, hcontact⟩ := List.mem_filter.mp hcurrent
    exact ⟨link, hlink, beq_iff_eq.mp hcontact, beq_iff_eq.mp hstate,
      ResolutionOutcome.confirmed.inj h⟩
  next =>
    -- no other state of a discovery is `confirmed`
    unfold resolutionOutcome at h
    split at h
    next hstate _ =>
      simp only at hstate
      split at hstate
      next => cases hstate
      next => split at hstate <;> cases hstate
    next => cases h
    next => cases h
    next => cases h

/-- The cycle with a public id. -/
theorem mem_of_cycle? (h : s.database.cycle? publicId = some cycle) :
    cycle ∈ s.identity.cycles ∧ cycle.publicId = publicId := by
  obtain ⟨hmem, hpublic⟩ := Table.select_mem h
  exact ⟨hmem, beq_iff_eq.mp hpublic⟩

theorem resolveIdentity_ok {now resolvedAt : Timestamp} {db after : Database}
    (h : resolveIdentity now resolvedAt publicId contactId db = .ok (after, row)) :
    ∃ cycle, db.cycle? publicId = some cycle
      ∧ Resolved cycle.id contactId db.identity after.identity row := by
  unfold resolveIdentity at h
  split at h
  next => cases h
  next identity row' hresolve =>
    obtain ⟨rfl, rfl⟩ := Prod.mk.inj (Except.ok.inj h)
    unfold resolveCycleIdentity at hresolve
    obtain ⟨rule, -, hresolve⟩ := bind_eq_ok_iff.mp hresolve
    split at hresolve
    next => cases hresolve
    next cycle hcycle => exact ⟨cycle, hcycle, resolveCycleLocked_ok hresolve⟩

/-- A resolution that is found again changes nothing. -/
theorem commitResolution_found (hcycle : s.database.cycle? publicId = some cycle)
    (hrow : s.identity.tables.resolutions.find? cycle.id = some row) :
    s.commitResolution publicId s.identity.tables row = s := by
  unfold World.commitResolution
  simp only [hcycle, hrow, reduceCtorEq, if_false]

/-- One that is written gets its entry. -/
theorem commitResolution_written {after : IdentityTables}
    (hcycle : s.database.cycle? publicId = some cycle)
    (hfree : s.identity.tables.resolutions.find? cycle.id = none) :
    s.commitResolution publicId after row
      = { s with identity := { s.identity with tables := after }
                 log := .resolved cycle after row :: s.log } := by
  unfold World.commitResolution
  simp only [hcycle, hfree, if_true]

/-- The new resolution has its entry, with a link of the contact of the cycle. -/
theorem resolvedCompany_of_written (h : IdentityGrounds s.identity)
    (hcycle : s.database.cycle? publicId = some cycle) (hcontact : ContactOf s publicId contactId)
    {mid : IdentityTables} (hmid : Discovered s.identity.tables mid)
    (hsame : SameSurroundings s.identity.tables mid) {found : List MatchEvidence}
    {columns : ResolutionColumns} {linkId : Nat}
    (houtcome : columns.outcome = resolutionOutcome (discoveryResult mid contactId found))
    (hconfirmed : columns.outcome = .confirmed linkId) :
    ∃ companyId company, ResolvedCompany cycle
      { mid with resolutions := mid.resolutions.insertNew cycle.id columns }
      ⟨mid.resolutions.freshId, cycle.id, columns⟩ companyId company := by
  obtain ⟨hmem, hpublic⟩ := mem_of_cycle? hcycle
  obtain ⟨link, hlink, hlinkContact, hstate, rfl⟩ :=
    resolutionOutcome_confirmed (houtcome.symm.trans hconfirmed)
  -- the link was there before the discovery
  have hold : link ∈ s.identity.tables.links.rows := by
    rcases hmid.links.2 link hlink with hold | ⟨hcandidate, -⟩
    · exact hold
    · rw [hcandidate] at hstate
      cases hstate
  obtain ⟨company, hcompany, hcompanyId⟩ := h.companies link hold hstate
  obtain ⟨cycle', hmem', hpublic', contact, hcontactMem, hexternal, hid⟩ := hcontact
  obtain rfl : cycle' = cycle :=
    List.inj_on_of_nodup_map h.publicIds hmem' hmem (hpublic'.trans hpublic.symm)
  refine ⟨link.key.2, company.key, rfl, ⟨contact, ?_, hexternal, link, hlink, ?_, hstate,
    hconfirmed⟩, company, ?_, hcompanyId, rfl⟩
  · show contact ∈ mid.digisacContacts.rows
    rw [hsame.digisacContacts]
    exact hcontactMem
  · rw [hid, ← hlinkContact]
  · show company ∈ mid.directory.companies.rows
    rw [hsame.directory]
    exact hcompany

/-- **A resolution** that is committed, for the contact of its cycle. -/
theorem Sound.commitResolution (h : Sound s) {after : IdentityTables}
    (hcycle : s.database.cycle? publicId = some cycle) (hcontact : ContactOf s publicId contactId)
    (hresolved : Resolved cycle.id contactId s.identity.tables after row) :
    Sound (s.commitResolution publicId after row) := by
  obtain ⟨hmem, hpublic⟩ := mem_of_cycle? hcycle
  cases hresolved with
  | found row hrow =>
      rw [commitResolution_found hcycle hrow]
      exact h
  | written hfree mid hmid hsame hres found columns hcolumns houtcome =>
      rw [commitResolution_written hcycle hfree]
      have hcompanies : ∀ link ∈ mid.links.rows, link.value.status.state = .confirmed →
          ∃ company ∈ mid.directory.companies.rows, company.id = link.key.2 := by
        intro link hlink hconfirmed
        rw [hsame.directory]
        rcases hmid.links.2 link hlink with hold | ⟨hcandidate, -⟩
        · exact h.identity.companies link hold hconfirmed
        · rw [hcandidate] at hconfirmed
          cases hconfirmed
      refine h.later ⟨fun e he => List.mem_cons_of_mem _ he,
          ⟨hsame.kept.digisacContacts, hsame.kept.directory⟩, hmid.linksKept,
          fun r hr => ⟨r, hr, rfl, rfl, .inr rfl⟩⟩
        ⟨h.identity.cycleIds, h.identity.publicIds, ?_, hcompanies⟩ h.rules
        (fun p hp => .inl hp) ?_ ?_ (fun x hx => .inl hx) (fun _ => .inl rfl) ?_
      · show IdentifiersStripped mid.directory
        rw [hsame.directory]
        exact h.identity.identifiers
      · intro cycle' tables row hentry
        rcases List.mem_cons.mp hentry with hnew | hold
        · obtain ⟨rfl, rfl, rfl⟩ := Written.resolved.inj hnew
          exact .inr ⟨.refl _, .refl _, cycle', hmem, rfl, rfl⟩
        · exact .inl hold
      · intro row hrow
        rcases Keyed.mem_insertNew.mp hrow with hold | ⟨-, rfl⟩
        · rw [hres] at hold
          exact .inl hold
        · refine .inr fun linkId hconfirmed => ?_
          obtain ⟨companyId, company, hcompany⟩ := resolvedCompany_of_written h.identity hcycle
            hcontact hmid hsame houtcome hconfirmed
          exact ⟨cycle, _, companyId, company, List.mem_cons_self, hcompany⟩
      · exact (History.justified_cons _ _).mpr ⟨trivial, h.licensed⟩

/-! ## §4. An evaluation. -/

variable {snapshots : List MappingSnapshot} {x : MappingSnapshot} {key : Option String}
  {evaluatedAt : Timestamp}

/-- What an evaluation returns: a snapshot that was there, or a new one. -/
inductive Evaluated (db : MappingTables) (publicId : Nat) (key : String) :
    List MappingSnapshot → MappingSnapshot → Prop
  | replayed (x : MappingSnapshot) : Evaluated db publicId key db.snapshots x
  | written (cycle : CycleRow) (hcycle : Table.select (·.publicId == publicId) db.cycles = some cycle)
      (x : MappingSnapshot) (hfinding : x.toFinding = evaluateCycle db cycle)
      (hid : x.cycleId = cycle.id) (hkey : x.evaluationKey = key) :
      Evaluated db publicId key (db.snapshots ++ [x]) x

theorem evaluateDepartmentMapping_ok {db : MappingTables}
    (h : evaluateDepartmentMapping db publicId key evaluatedAt = .ok (snapshots, x)) :
    Evaluated db publicId (key.getD "default") snapshots x := by
  unfold evaluateDepartmentMapping at h
  simp only at h
  split at h
  next => cases h
  next cycle hcycle =>
    split at h
    next =>
      obtain ⟨rfl, rfl⟩ := Prod.mk.inj (Except.ok.inj h)
      exact .replayed _
    next =>
      unfold persistEvaluation at h
      split at h
      next => cases h
      next =>
        obtain ⟨rfl, rfl⟩ := Prod.mk.inj (Except.ok.inj h)
        exact .written cycle hcycle _ rfl rfl rfl

/-- The confirmed resolution that an evaluation reads names its link. -/
theorem outcome_of_resolutionRow {linkId : Nat} (hstate : (resolutionRow row).state = .confirmed)
    (hlink : (resolutionRow row).linkId = some linkId) : row.value.outcome = .confirmed linkId := by
  unfold resolutionRow at hstate hlink
  cases houtcome : row.value.outcome with
  | confirmed id =>
      rw [houtcome] at hlink
      rw [Option.some.inj hlink]
  | ambiguous => rw [houtcome] at hstate; cases hstate
  | unresolved => rw [houtcome] at hstate; cases hstate
  | conflict => rw [houtcome] at hstate; cases hstate

/-- The company of a new snapshot is that of the resolution. -/
theorem Sound.companySourced (h : Sound s) (hcycle : cycle ∈ s.identity.cycles) {d : String}
    {f : Finding} (read : ReadIdentity s.database.mappingTables cycle.id d f) :
    ∃ company, CompanySourced s.log cycle.publicId read.link.acessoriasCompanyId company := by
  obtain ⟨row, hrow, hrowEq⟩ := List.mem_map.mp read.resolution_mem
  obtain ⟨link, hlink, hlinkEq⟩ := List.mem_map.mp read.link_mem
  have houtcome : row.value.outcome = .confirmed read.linkId := by
    apply outcome_of_resolutionRow
    · rw [hrowEq]
      exact read.confirmed
    · rw [hrowEq]
      exact read.resolution_link
  obtain ⟨cycle', tables, companyId, company, hentry, hresolved⟩ :=
    h.resolutions row hrow read.linkId houtcome
  have hlasting := h.lasting cycle' tables row hentry
  -- the cycle of the entry is the one that is evaluated
  obtain ⟨r, hr, hid, hpublic⟩ := hlasting.cycle
  have hcycleId : cycle'.id = cycle.id := by
    rw [← hresolved.about, ← read.resolution_cycle, ← hrowEq]
    rfl
  obtain rfl : r = cycle :=
    List.inj_on_of_nodup_map h.identity.cycleIds hr hcycle (hid.trans hcycleId)
  -- the link of the entry is the one that is read
  obtain ⟨contact, -, -, link', hlink', hpair, -, hnamed⟩ := hresolved.link
  obtain ⟨now, hnow, hnowId, hnowKey⟩ := hlasting.links link' hlink'
  have hlinkId : link.id = now.id := by
    have hread : link.id = read.linkId := by
      rw [← read.link_id, ← hlinkEq]
      rfl
    rw [hread, hnowId]
    exact ResolutionOutcome.confirmed.inj (houtcome.symm.trans hnamed)
  obtain rfl : link = now := Keyed.eq_of_id hlink hnow hlinkId
  have hcompany : read.link.acessoriasCompanyId = companyId := by
    rw [← hlinkEq]
    show link.key.2 = companyId
    rw [hnowKey, hpair]
  rw [hcompany]
  exact ⟨company, cycle', tables, row, hentry, hpublic.symm, hresolved⟩

/-- The department of a new default snapshot. -/
theorem evaluatedDepartment_of_written {db : MappingTables}
    (hfinding : x.toFinding = evaluateCycle db cycle) (hid : x.cycleId = cycle.id)
    (hkey : x.evaluationKey = "default") (read : ReadCycle db cycle (evaluateCycle db cycle)) :
    x.acessoriasDepartmentExternalId = some read.identity.rule.acessoriasDepartmentExternalId
      ∧ EvaluatedDepartment cycle db x read.identity.rule.acessoriasDepartmentExternalId := by
  refine ⟨?_, hid, hkey, read.startedAt, read.closedAt, read.assignment, read.d,
    read.identity.rule, read.started, read.closed, read.selected, read.assigned,
    read.identity.rule_mem, read.identity.active, read.identity.department, rfl⟩
  rw [hfinding]
  exact read.identity.target

/-- **An evaluation** that is committed. -/
theorem Sound.commitEvaluation (h : Sound s)
    (hevaluate : evaluateDepartmentMapping s.database.mappingTables publicId key evaluatedAt
      = .ok (snapshots, x)) :
    Sound (s.commitEvaluation publicId snapshots x) := by
  cases evaluateDepartmentMapping_ok hevaluate with
  | replayed =>
      have hsame : s.commitEvaluation publicId s.database.mappingTables.snapshots x = s := by
        show s.commitEvaluation publicId s.snapshots x = s
        unfold World.commitEvaluation
        split
        next => rw [if_pos rfl]
        next => rfl
      rw [hsame]
      exact h
  | written cycle hselect x hfinding hid hkey =>
      have hcycle : s.database.cycle? publicId = some cycle := hselect
      obtain ⟨hmem, hpublic⟩ := mem_of_cycle? hcycle
      have hgrown : s.snapshots ++ [x] ≠ s.snapshots := by simp
      have hcommit : s.commitEvaluation publicId (s.snapshots ++ [x]) x
          = { s with snapshots := s.snapshots ++ [x]
                     log := .evaluated cycle s.database.mappingTables x :: s.log } := by
        unfold World.commitEvaluation
        simp only [hcycle, hgrown, if_false]
      have hgoal : s.database.mappingTables.snapshots = s.snapshots := rfl
      rw [hgoal, hcommit]
      refine h.later (.of_log rfl fun e he => List.mem_cons_of_mem _ he) h.identity h.rules
        (fun p hp => .inl hp) ?_ (fun row hrow => .inl hrow) ?_ (fun _ => .inl rfl) ?_
      · intro cycle' tables row hentry
        rcases List.mem_cons.mp hentry with hnew | hold
        · cases hnew
        · exact .inl hold
      · intro y hy
        rcases List.mem_append.mp hy with hold | hnew
        · exact .inl hold
        · obtain rfl := List.mem_singleton.mp hnew
          refine .inr fun hdefault hresolved => ?_
          rw [hfinding] at hresolved
          obtain ⟨read⟩ := evaluateCycle_resolved hresolved
          obtain ⟨company, hcompany⟩ := h.companySourced hmem read.identity
          obtain ⟨hdepartment, hevaluated⟩ :=
            evaluatedDepartment_of_written hfinding hid hdefault read
          obtain ⟨rule, hrule, hruleEq⟩ := List.mem_map.mp read.identity.rule_mem
          refine ⟨cycle.publicId, _, company, _, ⟨cycle, hmem, hid.symm, rfl⟩, ?_, hdepartment,
            hcompany.mono fun e he => List.mem_cons_of_mem _ he,
            ⟨cycle, _, y, List.mem_cons_self, rfl, hevaluated⟩, ?_⟩
          · rw [hfinding]
            exact read.identity.company
          · rw [← hruleEq]
            exact h.rules.targets rule hrule
      · exact (History.justified_cons _ _).mpr ⟨trivial, h.licensed⟩

/-- `evaluate_department_mapping`, also one that raises. -/
theorem Sound.evaluate (h : Sound s) (key : Option String) (evaluatedAt : Timestamp)
    (publicId : Nat) : Sound (s.evaluate key evaluatedAt publicId).1 := by
  unfold World.evaluate
  split
  next => exact h
  next snapshots row hevaluate => exact h.commitEvaluation hevaluate

/-! ## §5. A preparation. -/

/-- A preparation that goes on to a phase for which its contact is found. -/
theorem Sound.proceed (h : Sound s) {i : Nat} {p : PrepareCall} {phase : PreparePhase}
    (hphase : ∀ contactId, phase = .resolve contactId → ContactOf s p.publicId contactId) :
    Sound (s.proceed i p phase) := by
  refine h.later (.of_log rfl fun e he => he) h.identity h.rules ?_ (fun _ _ _ he => .inl he)
    (fun row hrow => .inl hrow) (fun x hx => .inl hx) (fun _ => .inl rfl) h.licensed
  intro q hq
  rcases List.mem_or_eq_of_mem_set hq with hold | rfl
  · exact .inl hold
  · exact .inr hphase

/-- `_load_cycle_contact` finds the contact of the cycle. -/
theorem contactOf_of_load (hload : loadCycleContact s.database publicId = .ok (.inr contactId)) :
    ContactOf s publicId contactId := by
  unfold loadCycleContact at hload
  split at hload
  next => cases hload
  next cycle hcycle =>
    obtain ⟨hmem, hpublic⟩ := mem_of_cycle? hcycle
    split at hload
    next => cases hload
    next =>
      split at hload
      next => cases hload
      next =>
        split at hload
        next => cases hload
        next contact hcontact =>
          obtain rfl := Sum.inr.inj (Except.ok.inj hload)
          obtain ⟨external, hexternal, hfind⟩ := Option.bind_eq_some_iff.mp hcontact
          refine ⟨cycle, hmem, hpublic, contact, Keyed.mem_of_find? hfind, ?_, rfl⟩
          rw [hexternal, Keyed.key_of_find? hfind]

/-- A phase that resolves no contact. -/
theorem Sound.proceedPast (h : Sound s) {i : Nat} {p : PrepareCall} {phase : PreparePhase}
    (hphase : ∀ contactId, phase ≠ .resolve contactId) : Sound (s.proceed i p phase) :=
  h.proceed fun contactId heq => absurd heq (hphase contactId)

/-- **A transaction of a preparation.** -/
theorem Sound.advancePreparation (h : Sound s) {i : Nat} {p : PrepareCall}
    (hp : p ∈ s.preparations) {now clock : Timestamp}
    (hstep : s.advancePreparation i p now clock = some t) : Sound t := by
  unfold World.advancePreparation at hstep
  split at hstep
  · -- load
    split at hstep
    next =>
      obtain rfl := Option.some.inj hstep
      exact h.proceedPast nofun
    next =>
      obtain rfl := Option.some.inj hstep
      exact h.proceedPast nofun
    next contactId hload =>
      obtain rfl := Option.some.inj hstep
      refine h.proceed fun contactId' heq => ?_
      obtain rfl := PreparePhase.resolve.inj heq
      exact contactOf_of_load hload
  · -- resolve
    next contactId hphase =>
      split at hstep
      next =>
        obtain rfl := Option.some.inj hstep
        exact h.proceedPast nofun
      next after row hresolve =>
        obtain ⟨cycle, hcycle, hresolved⟩ := resolveIdentity_ok hresolve
        have hcommit : Sound (s.commitResolution p.publicId after.identity row) :=
          h.commitResolution hcycle (h.resolving p hp contactId hphase) hresolved
        simp only at hstep
        split at hstep
        next =>
          obtain rfl := Option.some.inj hstep
          exact hcommit.proceedPast nofun
        next =>
          obtain rfl := Option.some.inj hstep
          exact hcommit.proceedPast nofun
  · -- evaluate
    next identity _ =>
      have hevaluated : Sound (s.evaluate none clock p.publicId).1 := h.evaluate none clock p.publicId
      split at hstep
      next s' e heq =>
        obtain rfl := Option.some.inj hstep
        rw [heq] at hevaluated
        exact hevaluated.proceedPast nofun
      next s' mapping heq =>
        obtain rfl := Option.some.inj hstep
        rw [heq] at hevaluated
        exact hevaluated.proceedPast nofun
  · cases hstep
  · cases hstep

/-! ## §6. A step of a Request call. -/

theorem stateText_resolved {state : MappingState} (h : stateText state = "resolved") :
    state = .resolved := by
  cases state with
  | resolved => rfl
  | unresolved => exact absurd h (by decide)
  | invalid => exact absurd h (by decide)

/-- **What a Request may take from the tables leads to a target.** -/
theorem Sound.factsLead (h : Sound s) (publicId : Nat) {snapshot : Request.CycleSnapshot}
    {facts : Request.OperationFacts} {payload : RequestPayload}
    (hstate : operationState (requestFacts s.database publicId) snapshot = .ok (facts, payload)) :
    targets s publicId facts.companyExternalId facts.departmentExternalId := by
  obtain ⟨mapping, hfrom⟩ := Request.operationState_ok hstate
  obtain ⟨x, hx, rfl⟩ := Option.map_eq_some_iff.mp hfrom.read
  obtain ⟨cycle, hcycle, hread⟩ := Option.bind_eq_some_iff.mp hx
  obtain ⟨hmem, hpublic⟩ := mem_of_cycle? hcycle
  obtain ⟨hxmem, hxcycle, hxkey⟩ := mappingSnapshot_mem hread
  obtain ⟨publicId', companyId, company, department, ⟨r, hr, hrid, hrpublic⟩, hcompanyId,
    hdepartment, hcompany, hdepartmentSourced, hstrip⟩ :=
    h.snapshots x hxmem hxkey (stateText_resolved hfrom.resolved)
  -- the snapshot is one of the cycle
  obtain rfl : r = cycle :=
    List.inj_on_of_nodup_map h.identity.cycleIds hr hmem (hrid.trans hxcycle)
  obtain rfl : publicId' = publicId := hrpublic.symm.trans hpublic
  have hdepartmentEq : facts.departmentExternalId = department :=
    Option.some.inj (hfrom.departmentExternalId.symm.trans hdepartment)
  -- the company that is read is that of the resolution
  have hexternal : companyExternalId s.database companyId = some facts.companyExternalId := by
    have hbind : ((some x).bind (·.companyId)).bind (companyExternalId s.database)
        = some facts.companyExternalId := hx ▸ hfrom.companyExternalId
    rw [Option.bind_some, hcompanyId, Option.bind_some] at hbind
    exact hbind
  unfold companyExternalId at hexternal
  split at hexternal
  next found hfound =>
    split at hexternal
    next =>
      have hkey : found.key = facts.companyExternalId := Option.some.inj hexternal
      obtain ⟨cycle', tables, row, hentry, hcyclePublic, hresolved⟩ := hcompany
      obtain ⟨old, hold, holdId, holdKey⟩ := hresolved.company
      have hkept := (h.lasting cycle' tables row hentry).surroundings.directory.companies
      obtain ⟨now, hnow, hnowId, hnowKey⟩ := hkept old hold
      obtain rfl : found = now :=
        Keyed.eq_of_id (Keyed.mem_of_byId? hfound) hnow
          ((Keyed.id_of_byId? hfound).trans (holdId.symm.trans hnowId.symm))
      have hcompanyEq : facts.companyExternalId = company := by
        rw [← hkey, hnowKey, holdKey]
      rw [hcompanyEq, hdepartmentEq]
      refine ⟨⟨⟨companyId, cycle', tables, row, hentry, hcyclePublic, hresolved⟩,
        hdepartmentSourced⟩, ?_, hstrip⟩
      rw [← holdKey, ← hnowKey]
      exact h.identity.identifiers found hnow
    next => cases hexternal
  next => cases hexternal

/-- The input of a step is what the tables say, so that it leads to a target. -/
theorem Sound.inputLeads (h : Sound s) {publicId : Nat} {c : CallerId} {input : Request.Input}
    (htrue : s.inputTrue publicId c input = true) : input.leadsTo (targets s publicId) := by
  cases input with
  | ensure now id facts | facts now facts =>
      obtain rfl : facts = requestFacts s.database publicId := beq_iff_eq.mp htrue
      intro snapshot opFacts payload hstate
      exact h.factsLead publicId hstate
  | _ => exact trivial

theorem targets_strip {company department : String} (h : targets s publicId company department) :
    targets s publicId (Text.strip company) (Text.strip department) := by
  rw [h.2.1, h.2.2]
  exact h

section Entries

variable {before after : Request.State} {c : CallerId} {caller : Request.Caller}
  {input : Request.Input}

/-- A mark that is recorded has found the confidence allowed. -/
theorem markStep_allowed {now : Timestamp} {value : ConfidenceValue} {payload : RequestPayload}
    {op : Request.Operation}
    (h : (Request.markStep before c caller now value payload op).log ≠ before.log) :
    (Request.evaluateRequestConfidence value).state = .allowed := by
  unfold Request.markStep at h
  simp only at h
  split at h
  next hstarted => exact Request.markPostStarted_allowed hstarted
  next => exact absurd rfl h

/-- The transaction of the mark. -/
theorem marked_allowed {payload : RequestPayload} {now : Timestamp} {value : ConfidenceValue}
    (hcaller : before.callers c = some caller) (hstage : caller.stage = .markPostStarted payload)
    (hstep : Request.step before (.advance c (.confidence now value)) = some after)
    (hlog : after.log ≠ before.log) :
    (Request.evaluateRequestConfidence value).state = .allowed := by
  obtain ⟨x, hx, hadvance⟩ := Option.bind_eq_some_iff.mp hstep
  obtain rfl : caller = x := Option.some.inj (hcaller.symm.trans hx)
  rcases Request.advanceStep_cases hadvance with ⟨op, -, hrow⟩ | ⟨hrecovery, -⟩ | hlocal
  · rw [hstage] at hrow
    obtain rfl := Option.some.inj hrow
    exact markStep_allowed hlog
  · rw [hstage] at hrecovery
    cases hrecovery
  · rw [hstage] at hlocal
    cases hlocal

/-- The entries of a step: a mark that was recorded, or a POST. -/
theorem mem_entries {e : Written} (he : e ∈ World.entries publicId before after c input) :
    (∃ payload now value, (before.callers c).map Request.Caller.stage
          = some (.markPostStarted payload)
        ∧ input = .confidence now value ∧ after.log ≠ before.log ∧ e = .marked publicId c value)
      ∨ ∃ payload attempt, (before.callers c).map Request.Caller.stage
          = some (.provider payload attempt) ∧ e = .posted publicId c payload := by
  unfold World.entries at he
  split at he
  next payload now value hstage =>
    split at he
    next => exact absurd he List.not_mem_nil
    next hlog => exact .inl ⟨payload, now, value, hstage, rfl, hlog, List.mem_singleton.mp he⟩
  next => exact absurd he List.not_mem_nil
  next payload attempt hstage _ => exact .inr ⟨payload, attempt, hstage, List.mem_singleton.mp he⟩
  next => exact absurd he List.not_mem_nil

/-- **The entries of a step are licensed.** -/
theorem Sound.entriesLicensed (h : Sound s)
    (hstep : Request.step (s.requests publicId) (.advance c input) = some after) :
    ∀ e ∈ World.entries publicId (s.requests publicId) after c input, Licensed e s.log := by
  intro e he
  rcases mem_entries he with ⟨payload, now, value, hstage, rfl, hlog, rfl⟩
    | ⟨payload, attempt, hstage, rfl⟩
  · obtain ⟨caller, hcaller, hstage⟩ := Option.map_eq_some_iff.mp hstage
    exact inRange_of_allowed (marked_allowed hcaller hstage hstep hlog)
  · obtain ⟨caller, hcaller, hstage⟩ := Option.map_eq_some_iff.mp hstage
    have hheld := (h.held publicId).callers c caller hcaller
    rw [hstage] at hheld
    exact ⟨(hheld.payload payload rfl).1, hheld.posting rfl⟩

end Entries

/-- **A step of the calls of one cycle.** -/
theorem Sound.putRequest (h : Sound s) {a : Request.Action} {after : Request.State}
    {new : List Written} (hstep : Request.step (s.requests publicId) a = some after)
    (hleads : a.leadsTo (targets s publicId)) (hnew : ∀ e ∈ new, Licensed e s.log)
    (hresolved : ∀ cycle tables row, Written.resolved cycle tables row ∉ new)
    (hmarks : ∀ c input, a = .advance c input → Request.Marks (s.requests publicId) after c input →
      Marked new publicId c) : Sound (s.putRequest publicId after new) := by
  have hlog : ∀ e ∈ s.log, e ∈ new ++ s.log := fun e he => List.mem_append_right new he
  have hlater : Later s (s.putRequest publicId after new) := .of_log rfl hlog
  refine h.later hlater h.identity h.rules (fun p hp => .inl hp) ?_ (fun row hrow => .inl hrow)
    (fun x hx => .inl hx) ?_ (licensed_append h.licensed hnew)
  · intro cycle tables row hentry
    rcases List.mem_append.mp hentry with hentry | hold
    · exact absurd hentry (hresolved cycle tables row)
    · exact .inl hold
  · intro other
    by_cases hother : other = publicId
    · subst hother
      refine .inr ?_
      show Request.Held _ _ (Function.update s.requests other after other)
      rw [Function.update_self]
      have hheld : Request.Held (targets s other) (Marked (new ++ s.log) other) after :=
        (h.held other).step (fun _ _ => targets_strip) hleads (fun _ hmarked => hmarked.mono hlog)
          (fun c input ha hmark => (hmarks c input ha hmark).mono fun e he =>
            List.mem_append_left s.log he) hstep
      exact hheld.mono (fun _ _ htarget => targets_later htarget hlater) fun _ hmarked => hmarked
    · refine .inl ?_
      show Function.update s.requests publicId after other = s.requests other
      exact Function.update_of_ne hother after s.requests

/-- An action that takes no input. -/
theorem Sound.putRequest_plain (h : Sound s) {a : Request.Action} {after : Request.State}
    (ha : ∀ c input, a ≠ .advance c input)
    (hstep : Request.step (s.requests publicId) a = some after) :
    Sound (s.putRequest publicId after []) := by
  refine h.putRequest hstep ?_ (fun e he => absurd he List.not_mem_nil)
    (fun _ _ _ => List.not_mem_nil) fun c input heq => absurd heq (ha c input)
  cases a with
  | advance c input => exact absurd rfl (ha c input)
  | _ => exact trivial

theorem Sound.requestStep (h : Sound s) {a : Request.Action}
    (hstep : s.requestStep publicId a = some t) : Sound t := by
  cases a with
  | create => cases hstep
  | advance c input =>
      simp only [World.requestStep, Option.ite_none_right_eq_some] at hstep
      obtain ⟨htrue, hstep⟩ := hstep
      obtain ⟨after, hafter, rfl⟩ := Option.map_eq_some_iff.mp hstep
      refine h.putRequest hafter (h.inputLeads htrue) (h.entriesLicensed hafter) ?_ ?_
      · intro cycle tables row hentry
        rcases mem_entries hentry with ⟨_, _, _, _, _, _, heq⟩ | ⟨_, _, _, heq⟩
        · cases heq
        · cases heq
      · intro d input' ha hmark
        obtain ⟨rfl, rfl⟩ := Request.Action.advance.inj ha
        obtain ⟨x, payload, now, value, hx, hstage, rfl, hallowed, hlog⟩ := hmark
        refine ⟨value, ?_, inRange_of_allowed hallowed⟩
        unfold World.entries
        simp only [hx, Option.map_some, hstage, if_neg hlog]
        exact List.mem_singleton_self _
  | recover | manual | crash =>
      simp only [World.requestStep] at hstep
      obtain ⟨after, hafter, rfl⟩ := Option.map_eq_some_iff.mp hstep
      exact h.putRequest_plain (fun c input heq => by cases heq) hafter

/-! ## §7. Runs. -/

variable {sha256 : String → String}

theorem Sound.init (h : (worldMachine sha256).init s) : Sound s := by
  obtain ⟨⟨hlinks, -, hresolutions, -⟩, hids, hpublicIds, hidentifiers, hrules, htransitions,
    hsnapshots, hrequests, hpreparations, hlog⟩ := h
  have hinv : RuleInv s.rules := by
    have hempty : s.rules = { digisacDepartments := s.rules.digisacDepartments
                              acessoriasDepartments := s.rules.acessoriasDepartments } := by
      cases hs : s.rules
      rw [hs] at hrules htransitions
      simp only at hrules htransitions
      rw [hrules, htransitions]
    rw [hempty]
    exact RuleInv.init _ _
  refine ⟨⟨hids, hpublicIds, hidentifiers, ?_⟩, ⟨hinv, ?_⟩, ?_, ?_, ?_, ?_, ?_, ?_⟩
  · rw [hlinks]
    exact fun link hlink => absurd hlink List.not_mem_nil
  · rw [hrules]
    exact fun rule hrule => absurd hrule List.not_mem_nil
  · rw [hpreparations]
    exact fun p hp => absurd hp List.not_mem_nil
  · rw [hlog]
    exact fun _ _ _ he => absurd he List.not_mem_nil
  · rw [hresolutions]
    exact fun row hrow => absurd hrow List.not_mem_nil
  · rw [hsnapshots]
    exact fun x hx => absurd hx List.not_mem_nil
  · intro publicId
    rw [hrequests]
    refine ⟨fun op hop => ?_, fun c x hx => ?_⟩
    · have hop : (none : Option Request.Operation) = some op := hop
      cases hop
    · have hx : (none : Option Request.Caller) = some x := hx
      cases hx
  · rw [hlog]
    exact History.justified_nil

/-- **One step keeps the invariant.** -/
theorem Sound.step (h : Sound s) {a : WorldAction} (hstep : worldStep sha256 s a = some t) :
    Sound t := by
  cases a with
  | identity a =>
      simp only [worldStep, Option.ite_none_right_eq_some] at hstep
      obtain ⟨hallowed, hstep⟩ := hstep
      obtain ⟨identity, hidentity, rfl⟩ := Option.map_eq_some_iff.mp hstep
      exact h.identityStep hallowed hidentity
  | configure now clock call =>
      obtain rfl := Option.some.inj hstep
      exact h.surroundings (.of_log rfl fun e he => he) ⟨rfl, rfl, rfl, rfl⟩ h.identity
        h.rules.configure rfl
  | others history classifications digisacDepartments =>
      obtain rfl := Option.some.inj hstep
      refine h.surroundings (.of_log rfl fun e he => he) ⟨rfl, rfl, rfl, rfl⟩ h.identity
        ⟨?_, h.rules.targets⟩ rfl
      exact h.rules.inv.directories digisacDepartments s.rules.acessoriasDepartments
  | evaluate key evaluatedAt publicId =>
      obtain rfl := Option.some.inj hstep
      exact h.evaluate key evaluatedAt publicId
  | prepare publicId purpose =>
      obtain rfl := Option.some.inj hstep
      refine h.later (.of_log rfl fun e he => he) h.identity h.rules ?_ (fun _ _ _ he => .inl he)
        (fun row hrow => .inl hrow) (fun x hx => .inl hx) (fun _ => .inl rfl) h.licensed
      intro p hp
      rcases List.mem_append.mp hp with hold | hnew
      · exact .inl hold
      · obtain rfl := List.mem_singleton.mp hnew
        exact .inr nofun
  | advance i now clock =>
      obtain ⟨p, hp, hadvance⟩ := Option.bind_eq_some_iff.mp hstep
      exact h.advancePreparation (List.mem_of_getElem? hp) hadvance
  | create i c owner provider =>
      unfold worldStep at hstep
      simp only at hstep
      split at hstep
      next publicId result _ =>
        split at hstep
        next =>
          obtain ⟨after, hafter, rfl⟩ := Option.map_eq_some_iff.mp hstep
          exact h.putRequest_plain (fun c input heq => by cases heq) hafter
        next => cases hstep
      next => cases hstep
  | request publicId a => exact h.requestStep hstep

theorem reachable_sound (h : (worldMachine sha256).Reachable s) : Sound s :=
  h.invariant (fun _ hinit => .init hinit) fun _ _ _ hsound _ hstep => hsound.step hstep

/-- **Provenance of every POST**: its company is that of a link that was
    confirmed for the contact of the cycle when the resolution of the cycle
    was written, its department the target of an active rule for the selected
    department when the default snapshot of the cycle was written, and the
    call has marked with a confidence in range. -/
theorem posts_have_provenance (h : (worldMachine sha256).Reachable s) :
    (∀ newer older publicId c payload,
      s.log = newer ++ .posted publicId c payload :: older →
        Target older publicId payload.company payload.department ∧ Marked older publicId c)
      ∧ ∀ publicId c confidence, .marked publicId c confidence ∈ s.log → InRange confidence := by
  have hlicensed := (reachable_sound h).licensed
  refine ⟨fun newer older publicId c payload hlog => hlicensed newer older _ hlog, ?_⟩
  intro publicId c confidence hmem
  obtain ⟨newer, older, hlog⟩ := List.append_of_mem hmem
  exact hlicensed newer older _ hlog

/-! A run with a POST. -/

/-- The facts of the cycle, once it is prepared. -/
def preparedFacts : RequestFacts where
  cycle := some
    { id := 1, conversationId := "conversation", status := .completed, classificationId := some 1
      protocol := none, confidence := .number 1, title := some "title"
      description := some "description" }
  mapping := some
    { id := 1, state := "resolved", reason := some "mapping_validated", companyId := some 1
      acessoriasDepartmentExternalId := some "7" }
  companyExternalId := some "42"
  relationship := true

/-- The contact is confirmed and the department routed, the cycle prepared,
    and its Request created. -/
def postedRun : List WorldAction :=
  [.identity (.environment readyTables.identity.digisacContacts oneCompany [finishedCycle]),
    .identity (.confirm 1 1 1 (some 1) none),
    .others readyTables.history readyTables.classifications ["fiscal"],
    .configure 1 1
      { digisacDepartmentExternalId := "fiscal", acessoriasDepartmentExternalId := some "7"
        reason := "approved", operationKey := some "route-1" },
    .prepare 1 .worker, .advance 0 11 11, .advance 0 11 11, .advance 0 11 11,
    .create 0 0 "worker" (.adapter 1)]
    ++ [.ensure 12 1 preparedFacts, .lease 12 12 60,
        .classification (some ⟨none, some "title", some "description"⟩),
        .confidence 12 (.number 1), .clock 12, .setup true, .confidence 12 (.number 1),
        .post .timeout].map fun input => .request 1 (.advance 0 input)

/-- The newest entry, if it is a POST. -/
def lastPost (s : World) : Option (Nat × CallerId × String × String) :=
  match s.log with
  | .posted publicId c payload :: _ => some (publicId, c, payload.company, payload.department)
  | _ => none

/-- The Request goes to the company of the confirmed link and to the
    department that the fiscal one is routed to. -/
theorem posts_have_provenance_first :
    ∃ s older, (worldMachine hexdigests).Reachable s
      ∧ s.log.tail = older ∧ Target older 1 "42" "7" ∧ Marked older 1 0 := by
  have hrun : ((worldMachine hexdigests).exec {} postedRun).map lastPost
      = some (some (1, 0, "42", "7")) := by decide +kernel
  obtain ⟨s, hexec, hpost⟩ := Option.map_eq_some_iff.mp hrun
  have hinit : (worldMachine hexdigests).init {} := by
    refine ⟨⟨rfl, rfl, rfl, rfl, rfl, rfl, rfl⟩, List.nodup_nil, List.nodup_nil, ?_, rfl, rfl, rfl,
      rfl, rfl, rfl⟩
    exact fun company hcompany => absurd hcompany List.not_mem_nil
  have hreach : (worldMachine hexdigests).Reachable s := Machine.reachable_of_exec hinit hexec
  unfold lastPost at hpost
  split at hpost
  next publicId c payload older hlog =>
    simp only [Option.some.injEq, Prod.mk.injEq] at hpost
    obtain ⟨rfl, rfl, hcompany, hdepartment⟩ := hpost
    obtain ⟨htarget, hmarked⟩ := (posts_have_provenance hreach).1 [] older 1 0 payload hlog
    rw [hcompany, hdepartment] at htarget
    exact ⟨s, older, hreach, by rw [hlog]; rfl, htarget, hmarked⟩
  next => cases hpost

end Cai.Preparation
