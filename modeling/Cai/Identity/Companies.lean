/-
  Cai.Identity.Companies — every link is about a company of the directory.

  The foreign key of `identity_company_links`: the readers of the links join
  them with the companies.  It is a case of a rule: what the four functions
  that hold the lock of a contact keep, and the writers of the directory,
  every run of the machine keeps.

  Main results:
    * `KeptByWriters.reachable` — the rule.
    * `reachable_companiesKnown` — the foreign key.
-/
import Cai.Identity.Discovery

namespace Cai.Identity

open Cai.Lib
open Cai.Cycle (Timestamp CycleRow)
open Cai.Directory

/-! ## §1. The rule. -/

/-- What every writer of the tables keeps. -/
structure KeptByWriters (P : IdentityTables → Prop) : Prop where
  discover : ∀ now contactId ruleVersion observedAt db after result, P db →
    discoverLocked now contactId ruleVersion observedAt db = .ok (after, result) → P after
  resolution : ∀ db resolutions, P db → P { db with resolutions }
  confirm : ∀ now contactId companyId c db after link, P db →
    confirmLocked now contactId companyId c db = .ok (after, link) → P after
  reject : ∀ now contactId companyId r db after link, P db →
    rejectLocked now contactId companyId r db = .ok (after, link) → P after
  environment : ∀ db digisacContacts directory, P db →
    Keyed.Kept db.digisacContacts digisacContacts → DirectoryTables.Kept db.directory directory →
    P { db with digisacContacts, directory }

variable {P : IdentityTables → Prop} {s t : IdentityWorld} {a : IdentityAction}
  {db after : IdentityTables}

theorem tables_transact {α : Type}
    {body : IdentityTables → Except IdentityError (IdentityTables × α)} (hs : P s.tables)
    (hok : ∀ after result, body s.tables = .ok (after, result) → P after) :
    P (s.transact body).tables := by
  show P (tablesAfter s.tables (body s.tables))
  cases h : body s.tables with
  | error e => exact hs
  | ok result => exact hok result.1 result.2 h

theorem tables_reserveCommand {i : Nat} {call : AdminCall} {contactId : Nat}
    {companyId : Option Nat} (h : s.reserveCommand i call contactId companyId = some t) :
    t.tables = s.tables := by
  unfold IdentityWorld.reserveCommand at h
  split at h
  next => cases h
  next =>
    split at h
    next =>
      obtain rfl := Option.some.inj h
      rfl
    next =>
      obtain rfl := Option.some.inj h
      rfl

namespace KeptByWriters

variable (hP : KeptByWriters P)

include hP

theorem resolve {now : Timestamp} {cycleId contactId : Nat} {ruleVersion : String}
    {resolvedAt : Timestamp} {row : Entry Nat ResolutionColumns} (hdb : P db)
    (h : resolveCycleLocked now cycleId contactId ruleVersion resolvedAt db = .ok (after, row)) :
    P after := by
  unfold resolveCycleLocked at h
  split at h
  next =>
    obtain ⟨rfl, -⟩ := Prod.mk.inj (Except.ok.inj h)
    exact hdb
  next =>
    obtain ⟨⟨mid, discovery⟩, hdiscover, h⟩ := bind_eq_ok_iff.mp h
    obtain ⟨contact, -, h⟩ := bind_eq_ok_iff.mp h
    obtain ⟨rfl, -⟩ := Prod.mk.inj (pure_eq_ok_iff.mp h)
    exact hP.resolution _ _ (hP.discover _ _ _ _ _ _ _ hdb hdiscover)

theorem perform {now clock : Timestamp} {request : AdminRequest} {contactId : Nat}
    {companyId : Option Nat} {result : AdminResult} (hdb : P db)
    (h : performCommand now clock request contactId companyId db = .ok (after, result)) :
    P after := by
  unfold performCommand at h
  split at h
  next =>
    obtain ⟨⟨after', discovery⟩, hdiscover, h⟩ := bind_eq_ok_iff.mp h
    obtain ⟨rfl, -⟩ := Prod.mk.inj (pure_eq_ok_iff.mp h)
    exact hP.discover _ _ _ _ _ _ _ hdb hdiscover
  next =>
    obtain ⟨⟨after', link⟩, hconfirm, h⟩ := bind_eq_ok_iff.mp h
    obtain ⟨rfl, -⟩ := Prod.mk.inj (pure_eq_ok_iff.mp h)
    exact hP.confirm _ _ _ _ _ _ _ hdb hconfirm
  next =>
    obtain ⟨⟨after', link⟩, hreject, h⟩ := bind_eq_ok_iff.mp h
    obtain ⟨rfl, -⟩ := Prod.mk.inj (pure_eq_ok_iff.mp h)
    exact hP.reject _ _ _ _ _ _ _ hdb hreject
  next => cases h

/-- **One step.** -/
theorem step (h : identityStep s a = some t) (hs : P s.tables) : P t.tables := by
  cases a with
  | discover now contactId ruleVersion observedAt =>
      obtain rfl := Option.some.inj h
      refine tables_transact hs fun after result hok => ?_
      unfold discoverIdentity at hok
      obtain ⟨rule, -, hok⟩ := bind_eq_ok_iff.mp hok
      exact hP.discover _ _ _ _ _ _ _ hs hok
  | resolve now cyclePublicId contactId ruleVersion resolvedAt =>
      obtain rfl := Option.some.inj h
      refine tables_transact hs fun after row hok => ?_
      unfold resolveCycleIdentity at hok
      obtain ⟨rule, -, hok⟩ := bind_eq_ok_iff.mp hok
      split at hok
      next => cases hok
      next => exact hP.resolve hs hok
  | confirm now contactId companyId confirmedAt confirmedBy =>
      obtain rfl := Option.some.inj h
      refine tables_transact hs fun after link hok => ?_
      unfold confirmIdentityLink at hok
      obtain ⟨c, -, hok⟩ := bind_eq_ok_iff.mp hok
      exact hP.confirm _ _ _ _ _ _ _ hs hok
  | confirmByExternalIds now contact company confirmedAt confirmedBy =>
      obtain rfl := Option.some.inj h
      refine tables_transact hs fun after link hok => ?_
      unfold confirmIdentityByExternalIds at hok
      obtain ⟨c, -, hok⟩ := bind_eq_ok_iff.mp hok
      split at hok
      next => exact hP.confirm _ _ _ _ _ _ _ hs hok
      next => cases hok
  | reject now contactId companyId reason =>
      obtain rfl := Option.some.inj h
      refine tables_transact hs fun after link hok => ?_
      unfold rejectIdentityLink at hok
      obtain ⟨safe, -, hok⟩ := bind_eq_ok_iff.mp hok
      exact hP.reject _ _ _ _ _ _ _ hs hok
  | call call =>
      obtain rfl := Option.some.inj h
      exact hs
  | finish i now clock =>
      unfold identityStep at h
      simp only at h
      split at h
      next =>
        obtain rfl := Option.some.inj h
        unfold IdentityWorld.finishCommand
        split
        next => exact hs
        next after result hok => exact hP.perform hs hok
      next => cases h
  | environment digisacContacts directory cycles =>
      simp only [identityStep, Option.ite_none_right_eq_some] at h
      obtain ⟨⟨hcontacts, hdirectory⟩, h⟩ := h
      obtain rfl := Option.some.inj h
      exact hP.environment _ _ _ hs hcontacts hdirectory
  | lookup i =>
      unfold identityStep at h
      simp only at h
      split at h
      next =>
        obtain rfl := Option.some.inj h
        exact hs
      next => cases h
  | reserve i =>
      unfold identityStep at h
      simp only at h
      split at h
      next =>
        rw [tables_reserveCommand h]
        exact hs
      next => cases h
  | abort i error =>
      unfold identityStep at h
      simp only at h
      split at h
      next => cases h
      next =>
        obtain rfl := Option.some.inj h
        exact hs
      next => cases h

/-- **Every run.** -/
theorem reachable {ok : IdentityWorld → IdentityAction → Prop}
    (hinit : ∀ s, identityMachine.init s → P s.tables) (h : identityMachine.ReachableWhere ok s) :
    P s.tables :=
  h.invariant (I := fun s => P s.tables) hinit fun _ _ _ hs _ hstep => hP.step hstep hs

end KeptByWriters

/-! ## §2. The foreign key. -/

/-- Every link is about a company of the directory. -/
def CompaniesKnown (db : IdentityTables) : Prop :=
  ∀ link ∈ db.links.rows, ∃ company ∈ db.directory.companies.rows, company.id = link.key.2

variable {now observedAt : Timestamp} {contactId companyId linkId : Nat} {ruleVersion : String}

theorem CompaniesKnown.add (hdb : CompaniesKnown db) {columns : LinkColumns} {key : TransitionKey}
    {t : LinkTransition}
    (hcompany : ∃ company ∈ db.directory.companies.rows, company.id = companyId) :
    CompaniesKnown (db.addLink contactId companyId columns key t) := by
  intro link hlink
  rcases mem_addLink hlink with hold | rfl
  · exact hdb link hold
  · exact hcompany

theorem CompaniesKnown.change (hdb : CompaniesKnown db) {link : Link} {columns : LinkColumns}
    {key : TransitionKey} {t : LinkTransition} (hlink : link ∈ db.links.rows) :
    CompaniesKnown (db.changeLink link.id columns key t) := by
  intro e he
  rcases mem_changeLink hlink he with ⟨hold, -⟩ | rfl
  · exact hdb e hold
  · exact hdb link hlink

/-- The tables after a discovery. -/
theorem discoverLocked_eq_recordAll {result : IdentityDiscoveryResult}
    (h : discoverLocked now contactId ruleVersion observedAt db = .ok (after, result)) :
    ∃ contact, db.digisacContacts.byId? contactId = some contact
      ∧ after = recordAll now contactId ruleVersion observedAt
          (matchIdentity (matchInput contact.value) (loadDirectoryContacts db.directory)) db
      ∧ result = discoveryResult after contactId
          (matchIdentity (matchInput contact.value) (loadDirectoryContacts db.directory)) := by
  rw [discoverLocked_eq_rows] at h
  obtain ⟨contact, hcontact, -, hafter, hresult⟩ := discoverRows_ok_iff.mp h
  refine ⟨contact, ?_, hafter, hresult⟩
  unfold lockContact at hcontact
  split at hcontact
  next found hfound =>
    cases hcontact
    exact hfound
  next => cases hcontact

/-- A company that is recorded is one of the matches. -/
theorem companiesKnown_recordAll {found : List MatchEvidence} (hdb : CompaniesKnown db)
    (hfound : ∀ e ∈ found, ∃ company ∈ db.directory.companies.rows,
      company.id = e.acessoriasCompanyId) :
    CompaniesKnown (recordAll now contactId ruleVersion observedAt found db) := by
  intro link hlink
  have hsame : SameSurroundings db (recordAll now contactId ruleVersion observedAt found db) :=
    surroundings_recordAll
  have hget : (recordAll now contactId ruleVersion observedAt found db).links.get? link.key
      = (db.links.get? link.key).or
          (if link.key.1 = contactId ∧ link.key.2 ∈ found.map (·.acessoriasCompanyId) then
            some (newCandidate now)
          else none) := links_recordAll link.key
  rw [hsame.directory]
  rw [Keyed.get?_of_find? (Keyed.find?_of_mem hlink)] at hget
  cases hold : db.links.get? link.key with
  | some columns =>
      obtain ⟨old, hmem, hkey, -⟩ := Keyed.get?_eq_some_iff.mp hold
      rw [← hkey]
      exact hdb old hmem
  | none =>
      rw [hold, Option.none_or] at hget
      split at hget
      next hnew =>
        obtain ⟨e, he, hcompany⟩ := List.mem_map.mp hnew.2
        rw [← hcompany]
        exact hfound e he
      next => cases hget

theorem companiesKnown_kept : KeptByWriters CompaniesKnown where
  discover now contactId ruleVersion observedAt db after result hdb h := by
    obtain ⟨contact, -, rfl, -⟩ := discoverLocked_eq_recordAll h
    refine companiesKnown_recordAll hdb fun e he => ?_
    obtain ⟨company, hcompany, hid, -⟩ := matchIdentity_company he
    exact ⟨company, hcompany, hid⟩
  resolution db resolutions hdb := hdb
  confirm now contactId companyId c db after link hdb h := by
    obtain ⟨hable, hconfirmed, -⟩ := confirmLocked_ok h
    cases hconfirmed with
    | kept => exact hdb
    | added hfree columns hstate =>
        obtain ⟨company, hcompany, hid, -⟩ := hable.company
        exact hdb.add ⟨company, hcompany, hid⟩
    | changed existing hexisting hnot columns hstate =>
        exact hdb.change (Keyed.mem_of_find? hexisting)
  reject now contactId companyId r db after link hdb h := by
    obtain ⟨-, hrejected, -⟩ := rejectLocked_ok h
    cases hrejected with
    | kept => exact hdb
    | changed existing hexisting columns hstate t hid hchange =>
        exact hdb.change (Keyed.mem_of_find? hexisting)
  environment db digisacContacts directory hdb hcontacts hdirectory := by
    intro link hlink
    obtain ⟨company, hcompany, hid⟩ := hdb link hlink
    obtain ⟨company', hcompany', hid', -⟩ := hdirectory.companies company hcompany
    exact ⟨company', hcompany', hid'.trans hid⟩

/-- **The foreign key** holds after every run. -/
theorem reachable_companiesKnown (h : identityMachine.Reachable s) : CompaniesKnown s.tables := by
  refine companiesKnown_kept.reachable ?_ h
  intro s hinit link hlink
  rw [hinit.1] at hlink
  exact absurd hlink List.not_mem_nil

end Cai.Identity
