/-
  Cai.Identity.Steps — what one step does to the identity tables.

  A discovery only inserts candidate links (`Discovered`); a confirmation
  and a rejection touch one link (`Confirmed`, `Rejected`).  `TableStep`
  says which of these a step of the machine is, with everything the later
  invariants need of it.
-/
import Cai.Identity.Commands

namespace Cai.Identity

open Cai.Lib
open Cai.Cycle (Timestamp CycleRow)
open Cai.Directory

variable {db mid after : IdentityTables} {contactId companyId : Nat} {now : Timestamp}
  {ruleVersion : String} {observedAt : Timestamp}

/-! ## §1. The transactions. -/

/-- Tables that a transaction left as they were. -/
structure SameLinks (before after : IdentityTables) : Prop where
  links : after.links = before.links
  transitions : after.transitions = before.transitions

/-- Any number of candidate links, each inserted with its first transition. -/
inductive Discovered (before : IdentityTables) : IdentityTables → Prop
  | none (after : IdentityTables) (h : SameLinks before after) : Discovered before after
  | candidate (mid after : IdentityTables) (hmid : Discovered before mid) (pair : Nat × Nat)
      (hfree : mid.links.find? pair = .none) (now : Timestamp)
      (hafter : SameLinks (mid.addLink pair.1 pair.2
        { status := .candidate, source := .automatic, createdAt := now, updatedAt := now }
        (.candidate mid.links.freshId)
        { linkId := mid.links.freshId, fromState := .none, toState := .candidate
          source := .automatic, reason := "discovery" }) after) : Discovered before after

/-- What a transaction of this module leaves alone. -/
structure SameSurroundings (before after : IdentityTables) : Prop where
  digisacContacts : after.digisacContacts = before.digisacContacts
  directory : after.directory = before.directory

/-- No contact and no directory row is lost. -/
structure SurroundingsKept (before after : IdentityTables) : Prop where
  digisacContacts : Keyed.Kept before.digisacContacts after.digisacContacts
  directory : DirectoryTables.Kept before.directory after.directory

theorem SurroundingsKept.refl (db : IdentityTables) : SurroundingsKept db db :=
  ⟨.refl _, .refl _⟩

theorem SurroundingsKept.trans {a b c : IdentityTables} (h : SurroundingsKept a b)
    (h' : SurroundingsKept b c) : SurroundingsKept a c :=
  ⟨h.digisacContacts.trans h'.digisacContacts, h.directory.trans h'.directory⟩

theorem SameSurroundings.refl (db : IdentityTables) : SameSurroundings db db := ⟨rfl, rfl⟩

theorem SameSurroundings.kept (h : SameSurroundings db after) : SurroundingsKept db after := by
  refine ⟨?_, ?_⟩
  · rw [h.digisacContacts]
    exact .refl _
  · rw [h.directory]
    exact .refl _

theorem Discovered.same (h : Discovered db mid) (hsame : SameLinks mid after) :
    Discovered db after := by
  cases h with
  | none _ h =>
      exact .none _ ⟨hsame.links.trans h.links, hsame.transitions.trans h.transitions⟩
  | candidate mid' _ hmid pair hfree now hafter =>
      exact .candidate mid' _ hmid pair hfree now
        ⟨hsame.links.trans hafter.links, hsame.transitions.trans hafter.transitions⟩

theorem upsertCandidateLink_discovered (h : Discovered db mid) (now : Timestamp)
    (contactId companyId : Nat) :
    Discovered db (upsertCandidateLink now contactId companyId mid) := by
  unfold upsertCandidateLink
  split
  next => exact h
  next hfree => exact .candidate mid _ h (contactId, companyId) hfree now ⟨rfl, rfl⟩

/-- One round of the loop over the matches. -/
theorem recordMatch_discovered {evidence : MatchEvidence} (h : Discovered db mid)
    (hok : recordMatch now contactId ruleVersion observedAt mid evidence = .ok after) :
    Discovered db after := by
  unfold recordMatch at hok
  obtain ⟨persisted, hpersist, hok⟩ := bind_eq_ok_iff.mp hok
  unfold persistEvidence at hpersist
  obtain ⟨-, -, hpersist⟩ := bind_eq_ok_iff.mp hpersist
  have hsame : SameLinks mid persisted := by
    rw [← pure_eq_ok_iff.mp hpersist]
    exact ⟨rfl, rfl⟩
  rw [← pure_eq_ok_iff.mp hok]
  exact upsertCandidateLink_discovered (h.same hsame) now contactId _

theorem recordMatch_surroundings {evidence : MatchEvidence}
    (hok : recordMatch now contactId ruleVersion observedAt mid evidence = .ok after) :
    SameSurroundings mid after ∧ after.resolutions = mid.resolutions := by
  unfold recordMatch at hok
  obtain ⟨persisted, hpersist, hok⟩ := bind_eq_ok_iff.mp hok
  unfold persistEvidence at hpersist
  obtain ⟨-, -, hpersist⟩ := bind_eq_ok_iff.mp hpersist
  rw [← pure_eq_ok_iff.mp hok, ← pure_eq_ok_iff.mp hpersist]
  unfold upsertCandidateLink
  simp only
  split
  next => exact ⟨⟨rfl, rfl⟩, rfl⟩
  next => exact ⟨⟨rfl, rfl⟩, rfl⟩

/-- **A discovery** inserts candidate links and leaves the rest alone. -/
theorem discoverLocked_ok {discovery : IdentityDiscoveryResult}
    (h : discoverLocked now contactId ruleVersion observedAt db = .ok (after, discovery)) :
    Discovered db after ∧ SameSurroundings db after ∧ after.resolutions = db.resolutions
      ∧ ∃ found, discovery = discoveryResult after contactId found := by
  unfold discoverLocked at h
  obtain ⟨contact, -, h⟩ := bind_eq_ok_iff.mp h
  obtain ⟨end', hloop, h⟩ := bind_eq_ok_iff.mp h
  obtain ⟨rfl, rfl⟩ := Prod.mk.inj (pure_eq_ok_iff.mp h)
  have hdiscovered : Discovered db end' :=
    foldlM_ok (fun _ _ _ _ hd hok => recordMatch_discovered hd hok) (.none _ ⟨rfl, rfl⟩) hloop
  have hsame : SameSurroundings db end' ∧ end'.resolutions = db.resolutions := by
    refine foldlM_ok (P := fun x => SameSurroundings db x ∧ x.resolutions = db.resolutions)
      ?_ ⟨⟨rfl, rfl⟩, rfl⟩ hloop
    intro a evidence a' _ ha hok
    obtain ⟨hsur, hres⟩ := recordMatch_surroundings hok
    exact ⟨⟨hsur.digisacContacts.trans ha.1.digisacContacts,
      hsur.directory.trans ha.1.directory⟩, hres.trans ha.2⟩
  exact ⟨hdiscovered, hsame.1, hsame.2, _, rfl⟩

/-- What a confirmation that returns has done to the link of its pair. -/
inductive Confirmed (contactId companyId : Nat) (c : Confirmation) (before : IdentityTables) :
    IdentityTables → Prop
  /-- The link was confirmed before. -/
  | kept : Confirmed contactId companyId c before before
  | added (hfree : before.links.find? (contactId, companyId) = none) (columns : LinkColumns)
      (hstate : columns.status.state = .confirmed) :
      Confirmed contactId companyId c before (before.addLink contactId companyId columns
        (.confirm c.source before.links.freshId c.confirmedAt)
        (c.transition before.links.freshId none))
  | changed (link : Link) (hlink : before.links.find? (contactId, companyId) = some link)
      (hnot : link.value.status.state ≠ .confirmed) (columns : LinkColumns)
      (hstate : columns.status.state = .confirmed) :
      Confirmed contactId companyId c before (before.changeLink link.id columns
        (.confirm c.source link.id c.confirmedAt)
        (c.transition link.id (some link.value.status.state)))

theorem lockContact_ok_iff {contact : Entry String DigisacRow} :
    lockContact db contactId = .ok contact ↔ db.digisacContacts.byId? contactId = some contact := by
  unfold lockContact
  cases db.digisacContacts.byId? contactId with
  | none => simp only [reduceCtorEq]
  | some found => simp only [Except.ok.injEq, Option.some.injEq]

/-- What a confirmation checks: the contact is there, the company can be
    confirmed, and no other company of the contact is. -/
structure Confirmable (db : IdentityTables) (contactId companyId : Nat) : Prop where
  contact : (db.digisacContacts.byId? contactId).isSome = true
  company : ∃ company ∈ db.directory.companies.rows, company.id = companyId
    ∧ company.value.isPresent = true ∧ company.value.isActive ≠ some false
  alone : ∀ link ∈ db.links.rows, link.key.1 = contactId → link.value.status.state = .confirmed →
    link.key.2 = companyId

/-- **A confirmation** that returns. -/
theorem confirmLocked_ok {c : Confirmation} {link : Link}
    (h : confirmLocked now contactId companyId c db = .ok (after, link)) :
    Confirmable db contactId companyId ∧ Confirmed contactId companyId c db after
      ∧ SameSurroundings db after ∧ after.resolutions = db.resolutions := by
  unfold confirmLocked at h
  obtain ⟨contact, hcontact, h⟩ := bind_eq_ok_iff.mp h
  have hsome : (db.digisacContacts.byId? contactId).isSome = true :=
    Option.isSome_iff_exists.mpr ⟨contact, lockContact_ok_iff.mp hcontact⟩
  split at h
  next => cases h
  next company hcompany =>
    obtain ⟨_, havailable, h⟩ := bind_eq_ok_iff.mp h
    obtain ⟨_, halone, h⟩ := bind_eq_ok_iff.mp h
    refine ⟨⟨hsome, ⟨company, Keyed.mem_of_byId? hcompany, Keyed.id_of_byId? hcompany,
      require_eq_ok_iff.mp havailable⟩, require_eq_ok_iff.mp halone⟩, ?_⟩
    split at h
    next hfree =>
      obtain ⟨rfl, -⟩ := Prod.mk.inj (pure_eq_ok_iff.mp h)
      exact ⟨.added hfree _ rfl, ⟨rfl, rfl⟩, rfl⟩
    next existing hexisting =>
      split at h
      next =>
        obtain ⟨rfl, -⟩ := Prod.mk.inj (pure_eq_ok_iff.mp h)
        exact ⟨.kept, ⟨rfl, rfl⟩, rfl⟩
      next hnot =>
        obtain ⟨rfl, -⟩ := Prod.mk.inj (pure_eq_ok_iff.mp h)
        exact ⟨.changed existing hexisting hnot _ rfl, ⟨rfl, rfl⟩, rfl⟩

/-- What a rejection that returns has done to the link of its pair. -/
inductive Rejected (now : Timestamp) (contactId companyId : Nat) (r : Rejection)
    (before : IdentityTables) : IdentityTables → Prop
  /-- The link was rejected for that reason before. -/
  | kept : Rejected now contactId companyId r before before
  | changed (link : Link) (hlink : before.links.find? (contactId, companyId) = some link)
      (columns : LinkColumns) (hstate : columns.status.state = .rejected) (t : LinkTransition)
      (hid : t.linkId = link.id)
      (hchange : t.change = (some link.value.status.state, .rejected)) :
      Rejected now contactId companyId r before
        (before.changeLink link.id columns (.reject r.source link.id r.reason now) t)

/-- **A rejection** that returns. -/
theorem rejectLocked_ok {r : Rejection} {link : Link}
    (h : rejectLocked now contactId companyId r db = .ok (after, link)) :
    (db.digisacContacts.byId? contactId).isSome = true
      ∧ Rejected now contactId companyId r db after ∧ SameSurroundings db after
      ∧ after.resolutions = db.resolutions := by
  unfold rejectLocked at h
  obtain ⟨contact, hcontact, h⟩ := bind_eq_ok_iff.mp h
  refine ⟨Option.isSome_iff_exists.mpr ⟨contact, lockContact_ok_iff.mp hcontact⟩, ?_⟩
  split at h
  next => cases h
  next existing hexisting =>
    split at h
    next =>
      obtain ⟨rfl, -⟩ := Prod.mk.inj (pure_eq_ok_iff.mp h)
      exact ⟨.kept, ⟨rfl, rfl⟩, rfl⟩
    next =>
      obtain ⟨rfl, -⟩ := Prod.mk.inj (pure_eq_ok_iff.mp h)
      exact ⟨.changed existing hexisting _ rfl _ rfl rfl, ⟨rfl, rfl⟩, rfl⟩

/-- What a resolution that returns has done: it was there, or it is inserted
    after a discovery. -/
inductive Resolved (cycleId contactId : Nat) (before : IdentityTables) :
    IdentityTables → Entry Nat ResolutionColumns → Prop
  | found (row : Entry Nat ResolutionColumns) (hrow : before.resolutions.find? cycleId = some row) :
      Resolved cycleId contactId before before row
  | written (hfree : before.resolutions.find? cycleId = none) (mid : IdentityTables)
      (hmid : Discovered before mid) (hsame : SameSurroundings before mid)
      (hres : mid.resolutions = before.resolutions) (found : List MatchEvidence)
      (columns : ResolutionColumns) (hcontact : columns.digisacContactId = contactId)
      (houtcome : columns.outcome = resolutionOutcome (discoveryResult mid contactId found)) :
      Resolved cycleId contactId before
        { mid with resolutions := mid.resolutions.insertNew cycleId columns }
        ⟨mid.resolutions.freshId, cycleId, columns⟩

theorem Resolved.same {cycleId : Nat} {row : Entry Nat ResolutionColumns}
    (h : Resolved cycleId contactId db after row) : SameSurroundings db after := by
  cases h with
  | found => exact .refl _
  | written _ mid _ hsame => exact ⟨hsame.digisacContacts, hsame.directory⟩

/-- **A resolution** that returns. -/
theorem resolveCycleLocked_ok {cycleId : Nat} {row : Entry Nat ResolutionColumns}
    (h : resolveCycleLocked now cycleId contactId ruleVersion observedAt db = .ok (after, row)) :
    Resolved cycleId contactId db after row := by
  unfold resolveCycleLocked at h
  split at h
  next existing hexisting =>
    obtain ⟨rfl, rfl⟩ := Prod.mk.inj (Except.ok.inj h)
    exact .found existing hexisting
  next hfree =>
    obtain ⟨⟨mid, discovery⟩, hdiscover, h⟩ := bind_eq_ok_iff.mp h
    obtain ⟨contact, -, h⟩ := bind_eq_ok_iff.mp h
    obtain ⟨rfl, rfl⟩ := Prod.mk.inj (pure_eq_ok_iff.mp h)
    obtain ⟨hmid, hsame, hres, found, rfl⟩ := discoverLocked_ok hdiscover
    exact .written hfree mid hmid hsame hres found _ rfl rfl

/-! ## §2. The steps of the machine. -/

/-- What a step asks of a link. -/
inductive LinkRequest
  | confirm (contactId companyId : Nat) (c : Confirmation)
  | reject (now : Timestamp) (contactId companyId : Nat) (r : Rejection)
  deriving DecidableEq

/-- The request of the command that is being finished. -/
def CommandPhase.linkRequest (now clock : Timestamp) : CommandPhase → Option LinkRequest
  | .reserved call contactId (some companyId) =>
      match call.operation with
      | .confirmation _ reason => some (.confirm contactId companyId
          { confirmedAt := clock, confirmedBy := some adminActor, source := .adminApi, reason })
      | .rejection _ reason => some (.reject now contactId companyId
          { reason, source := .adminApi, actor := some adminActor
            appendSameStateTransition := true })
      | .discovery => none
  | _ => none

/-- The confirmation or rejection that a step performs, if its arguments pass. -/
def IdentityAction.linkRequest (s : IdentityWorld) : IdentityAction → Option LinkRequest
  | .confirm _ contactId companyId confirmedAt confirmedBy =>
      (checkConfirmation confirmedAt confirmedBy).toOption.map (.confirm contactId companyId)
  | .confirmByExternalIds _ contact company confirmedAt confirmedBy => do
      let c ← (checkConfirmation confirmedAt confirmedBy).toOption
      let contact ← s.tables.digisacContacts.find? contact
      let company ← s.tables.directory.companies.find? company
      return .confirm contact.id company.id c
  | .reject now contactId companyId reason =>
      (safeReason reason).toOption.map fun reason => .reject now contactId companyId { reason }
  | .finish i now clock => s.commands[i]?.bind (·.linkRequest now clock)
  | _ => none

/-- The step is a resolution. -/
def IdentityAction.isResolve : IdentityAction → Bool
  | .resolve .. => true
  | _ => false

/-- What a step does to the identity tables. -/
inductive TableStep (s : IdentityWorld) (a : IdentityAction) : IdentityTables → Prop
  | same (after : IdentityTables) (h : SameLinks s.tables after)
      (hres : after.resolutions = s.tables.resolutions) : TableStep s a after
  | discovered (hnone : a.linkRequest s = none) (after : IdentityTables)
      (h : Discovered s.tables after) (hres : after.resolutions = s.tables.resolutions) :
      TableStep s a after
  | resolved (hresolve : a.isResolve = true) (cycleId contactId : Nat) (after : IdentityTables)
      (row : Entry Nat ResolutionColumns) (h : Resolved cycleId contactId s.tables after row) :
      TableStep s a after
  | confirmed (contactId companyId : Nat) (c : Confirmation)
      (hrequest : a.linkRequest s = some (.confirm contactId companyId c)) (after : IdentityTables)
      (hable : Confirmable s.tables contactId companyId)
      (h : Confirmed contactId companyId c s.tables after)
      (hres : after.resolutions = s.tables.resolutions) : TableStep s a after
  | rejected (now : Timestamp) (contactId companyId : Nat) (r : Rejection)
      (hrequest : a.linkRequest s = some (.reject now contactId companyId r))
      (after : IdentityTables) (h : Rejected now contactId companyId r s.tables after)
      (hres : after.resolutions = s.tables.resolutions)
      (hcontact : (s.tables.digisacContacts.byId? contactId).isSome = true) : TableStep s a after

variable {s t : IdentityWorld} {a : IdentityAction}

/-- Nothing happened to the tables. -/
theorem TableStep.refl (s : IdentityWorld) (a : IdentityAction) : TableStep s a s.tables :=
  .same _ ⟨rfl, rfl⟩ rfl

/-- A step of an operation leaves the contacts, the directory and the cycles
    alone; a writer of these writes nothing else. -/
inductive WorldStep (s : IdentityWorld) (a : IdentityAction) (t : IdentityWorld) : Prop
  | operation (htables : TableStep s a t.tables ∧ SameSurroundings s.tables t.tables)
      (hcycles : t.cycles = s.cycles)
  | environment (digisacContacts : DigisacContacts) (directory : DirectoryTables)
      (cycles : List CycleRow) (ha : a = .environment digisacContacts directory cycles)
      (hcontacts : Keyed.Kept s.tables.digisacContacts digisacContacts)
      (hdirectory : DirectoryTables.Kept s.tables.directory directory)
      (ht : t = { s with tables := { s.tables with digisacContacts, directory }, cycles })

/-- A transaction that raises changes nothing; one that returns is looked at. -/
theorem transact_cases {α : Type}
    {body : IdentityTables → Except IdentityError (IdentityTables × α)}
    (hok : ∀ after result, body s.tables = .ok (after, result) →
      TableStep s a after ∧ SameSurroundings s.tables after) : WorldStep s a (s.transact body) := by
  unfold IdentityWorld.transact
  cases h : body s.tables with
  | error e => exact .operation ⟨.refl s a, .refl _⟩ rfl
  | ok result => exact .operation (hok result.1 result.2 h) rfl

theorem confirm_tableStep {c : Confirmation} {link : Link}
    (hrequest : a.linkRequest s = some (.confirm contactId companyId c))
    (h : confirmLocked now contactId companyId c s.tables = .ok (after, link)) :
    TableStep s a after ∧ SameSurroundings s.tables after := by
  obtain ⟨hable, hconfirmed, hsame, hres⟩ := confirmLocked_ok h
  exact ⟨.confirmed contactId companyId c hrequest after hable hconfirmed hres, hsame⟩

theorem reject_tableStep {r : Rejection} {link : Link}
    (hrequest : a.linkRequest s = some (.reject now contactId companyId r))
    (h : rejectLocked now contactId companyId r s.tables = .ok (after, link)) :
    TableStep s a after ∧ SameSurroundings s.tables after := by
  obtain ⟨hcontact, hrejected, hsame, hres⟩ := rejectLocked_ok h
  exact ⟨.rejected now contactId companyId r hrequest after hrejected hres hcontact, hsame⟩

/-- The operation of a command, once it is committed. -/
theorem finish_tableStep {i : Nat} {call : AdminCall} {company : Option Nat} {clock : Timestamp}
    {result : AdminResult} (hphase : s.commands[i]? = some (.reserved call contactId company))
    (h : performCommand now clock call.toAdminRequest contactId company s.tables
      = .ok (after, result)) :
    TableStep s (.finish i now clock) after ∧ SameSurroundings s.tables after := by
  have hrequest : (IdentityAction.finish i now clock).linkRequest s
      = (CommandPhase.reserved call contactId company).linkRequest now clock := by
    show s.commands[i]?.bind (·.linkRequest now clock) = _
    rw [hphase]
    rfl
  unfold performCommand at h
  split at h
  next hop =>
    obtain ⟨⟨after', discovery⟩, hdiscover, h⟩ := bind_eq_ok_iff.mp h
    obtain ⟨rfl, -⟩ := Prod.mk.inj (pure_eq_ok_iff.mp h)
    obtain ⟨hdiscovered, hsame, hres, -⟩ := discoverLocked_ok hdiscover
    refine ⟨.discovered ?_ _ hdiscovered hres, hsame⟩
    rw [hrequest]
    unfold CommandPhase.linkRequest
    split
    next hcall =>
      injection hcall with hcall
      rw [← hcall, hop]
    next => rfl
  next external reason companyId hop =>
    obtain ⟨⟨after', link⟩, hconfirm, h⟩ := bind_eq_ok_iff.mp h
    obtain ⟨rfl, -⟩ := Prod.mk.inj (pure_eq_ok_iff.mp h)
    refine confirm_tableStep ?_ hconfirm
    rw [hrequest]
    unfold CommandPhase.linkRequest
    simp only [hop]
  next external reason companyId hop =>
    obtain ⟨⟨after', link⟩, hreject, h⟩ := bind_eq_ok_iff.mp h
    obtain ⟨rfl, -⟩ := Prod.mk.inj (pure_eq_ok_iff.mp h)
    refine reject_tableStep ?_ hreject
    rw [hrequest]
    unfold CommandPhase.linkRequest
    simp only [hop]
  next => cases h

/-- **What one step does to the tables.** -/
theorem identityStep_cases (h : identityStep s a = some t) : WorldStep s a t := by
  have hrefl : TableStep s a s.tables ∧ SameSurroundings s.tables s.tables :=
    ⟨.refl s a, .refl _⟩
  cases a with
  | discover now contactId ruleVersion observedAt =>
      obtain rfl := Option.some.inj h
      refine transact_cases fun after discovery hok => ?_
      unfold discoverIdentity at hok
      obtain ⟨rule, -, hok⟩ := bind_eq_ok_iff.mp hok
      obtain ⟨hdiscovered, hsame, hres, -⟩ := discoverLocked_ok hok
      exact ⟨.discovered rfl _ hdiscovered hres, hsame⟩
  | resolve now cyclePublicId contactId ruleVersion resolvedAt =>
      obtain rfl := Option.some.inj h
      refine transact_cases fun after row hok => ?_
      unfold resolveCycleIdentity at hok
      obtain ⟨rule, -, hok⟩ := bind_eq_ok_iff.mp hok
      split at hok
      next => cases hok
      next cycle _ =>
        have hresolved := resolveCycleLocked_ok hok
        exact ⟨.resolved rfl cycle.id contactId after row hresolved, hresolved.same⟩
  | confirm now contactId companyId confirmedAt confirmedBy =>
      obtain rfl := Option.some.inj h
      refine transact_cases fun after link hok => ?_
      unfold confirmIdentityLink at hok
      obtain ⟨c, hc, hok⟩ := bind_eq_ok_iff.mp hok
      refine confirm_tableStep ?_ hok
      simp only [IdentityAction.linkRequest, hc]
      rfl
  | confirmByExternalIds now contact company confirmedAt confirmedBy =>
      obtain rfl := Option.some.inj h
      refine transact_cases fun after link hok => ?_
      unfold confirmIdentityByExternalIds at hok
      obtain ⟨c, hc, hok⟩ := bind_eq_ok_iff.mp hok
      split at hok
      next contact company hcontact hcompany =>
        refine confirm_tableStep ?_ hok
        simp only [IdentityAction.linkRequest, hc, hcontact, hcompany]
        rfl
      next => cases hok
  | reject now contactId companyId reason =>
      obtain rfl := Option.some.inj h
      refine transact_cases fun after link hok => ?_
      unfold rejectIdentityLink at hok
      obtain ⟨safe, hsafe, hok⟩ := bind_eq_ok_iff.mp hok
      refine reject_tableStep ?_ hok
      simp only [IdentityAction.linkRequest, hsafe]
      rfl
  | call call =>
      obtain rfl := Option.some.inj h
      exact .operation hrefl rfl
  | lookup i =>
      unfold identityStep at h
      simp only at h
      split at h
      next =>
        obtain rfl := Option.some.inj h
        exact .operation hrefl rfl
      next => cases h
  | reserve i =>
      unfold identityStep at h
      simp only at h
      split at h
      next =>
        unfold IdentityWorld.reserveCommand at h
        split at h
        next => cases h
        next =>
          split at h
          next =>
            obtain rfl := Option.some.inj h
            exact .operation hrefl rfl
          next =>
            obtain rfl := Option.some.inj h
            exact .operation hrefl rfl
      next => cases h
  | finish i now clock =>
      unfold identityStep at h
      simp only at h
      split at h
      next call contactId company hphase =>
        obtain rfl := Option.some.inj h
        unfold IdentityWorld.finishCommand
        split
        next => exact .operation hrefl rfl
        next after result hok => exact .operation (finish_tableStep hphase hok) rfl
      next => cases h
  | abort i error =>
      unfold identityStep at h
      simp only at h
      split at h
      next => cases h
      next =>
        obtain rfl := Option.some.inj h
        exact .operation hrefl rfl
      next => cases h
  | environment digisacContacts directory cycles =>
      simp only [identityStep, Option.ite_none_right_eq_some] at h
      obtain ⟨⟨hcontacts, hdirectory⟩, h⟩ := h
      obtain rfl := Option.some.inj h
      exact .environment digisacContacts directory cycles rfl hcontacts hdirectory rfl

/-- A step loses no contact and no directory row. -/
theorem identityStep_tables (h : identityStep s a = some t) :
    TableStep s a t.tables ∧ SurroundingsKept s.tables t.tables := by
  cases identityStep_cases h with
  | operation htables => exact ⟨htables.1, htables.2.kept⟩
  | environment digisacContacts directory cycles ha hcontacts hdirectory ht =>
      rw [ht]
      exact ⟨.same _ ⟨rfl, rfl⟩ rfl, hcontacts, hdirectory⟩

end Cai.Identity
