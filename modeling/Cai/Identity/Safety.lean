/-
  Cai.Identity.Safety — no contact has two confirmed companies.

  No index of the table says so: it follows from the check for a competing
  link, which every confirmation makes under the lock of its contact, and
  from the fact that no other operation writes `confirmed`.

  Main result: `identity_link_safety`.
-/
import Cai.Identity.Steps

namespace Cai.Identity

open Cai.Lib
open Cai.Cycle (Timestamp CycleRow)
open Cai.Directory

/-! ## §1. The invariant of the links. -/

structure LinkInv (db : IdentityTables) : Prop where
  oneConfirmed : ∀ a ∈ db.links.rows, ∀ b ∈ db.links.rows, a.key.1 = b.key.1 →
    a.value.status.state = .confirmed → b.value.status.state = .confirmed → a = b
  /-- Every transition belongs to a link, and its key names that link. -/
  owned : ∀ t ∈ db.transitions.rows, t.key.linkId = t.value.linkId
    ∧ ∃ link ∈ db.links.rows, link.id = t.value.linkId

variable {db mid after : IdentityTables} {contactId companyId linkId : Nat} {link : Link}
  {columns : LinkColumns} {key : TransitionKey} {t : LinkTransition}

theorem LinkInv.same (hinv : LinkInv db) (h : SameLinks db after) : LinkInv after := by
  refine ⟨?_, ?_⟩
  · rw [h.links]
    exact hinv.oneConfirmed
  · rw [h.links, h.transitions]
    exact hinv.owned

/-- The rows after a link was inserted. -/
theorem mem_addLink {e : Link} (he : e ∈ (db.addLink contactId companyId columns key t).links.rows) :
    e ∈ db.links.rows ∨ e = ⟨db.links.freshId, (contactId, companyId), columns⟩ :=
  (Keyed.mem_insertNew.mp he).imp_right And.right

/-- The rows after a link was written. -/
theorem mem_changeLink {e : Link} (hlink : link ∈ db.links.rows)
    (he : e ∈ (db.changeLink link.id columns key t).links.rows) :
    (e ∈ db.links.rows ∧ e.id ≠ link.id) ∨ e = { link with value := columns } := by
  rcases Keyed.mem_modifyId.mp he with h | ⟨e₀, he₀, hid, rfl⟩
  · exact .inl h
  · rw [Keyed.eq_of_id he₀ hlink hid]
    exact .inr rfl

/-- **A new link keeps the invariant**, if it is no second confirmed one. -/
theorem LinkInv.add (hinv : LinkInv db) (hfree : db.links.find? (contactId, companyId) = none)
    (hkey : key.linkId = db.links.freshId) (hid : t.linkId = db.links.freshId)
    (halone : columns.status.state = .confirmed → ∀ other ∈ db.links.rows,
      other.key.1 = contactId → other.value.status.state ≠ .confirmed) :
    LinkInv (db.addLink contactId companyId columns key t) := by
  refine ⟨?_, ?_⟩
  · intro a ha b hb hsame hacon hbcon
    rcases mem_addLink ha with ha | rfl <;> rcases mem_addLink hb with hb | rfl
    · exact hinv.oneConfirmed a ha b hb hsame hacon hbcon
    · exact absurd hacon (halone hbcon a ha hsame)
    · exact absurd hbcon (halone hacon b hb hsame.symm)
    · rfl
  · intro x hx
    rcases Keyed.mem_insertNew.mp hx with hx | ⟨-, rfl⟩
    · obtain ⟨hxkey, e, he, heid⟩ := hinv.owned x hx
      exact ⟨hxkey, e, Keyed.mem_insertNew.mpr (.inl he), heid⟩
    · exact ⟨hkey.trans hid.symm, _, Keyed.mem_insertNew.mpr (.inr ⟨hfree, rfl⟩), hid.symm⟩

/-- **A written link keeps the invariant**, if it is no second confirmed one. -/
theorem LinkInv.change (hinv : LinkInv db) (hlink : link ∈ db.links.rows)
    (hkey : key.linkId = link.id) (hid : t.linkId = link.id)
    (halone : columns.status.state = .confirmed → ∀ other ∈ db.links.rows,
      other.key.1 = link.key.1 → other.value.status.state = .confirmed → other = link) :
    LinkInv (db.changeLink link.id columns key t) := by
  have hkept : Keyed.Kept db.links (db.changeLink link.id columns key t).links :=
    Keyed.kept_mapRows _ _
  refine ⟨?_, ?_⟩
  · intro a ha b hb hsame hacon hbcon
    rcases mem_changeLink hlink ha with ⟨ha, hane⟩ | rfl <;>
      rcases mem_changeLink hlink hb with ⟨hb, hbne⟩ | rfl
    · exact hinv.oneConfirmed a ha b hb hsame hacon hbcon
    · exact absurd (congrArg (·.id) (halone hbcon a ha hsame hacon)) hane
    · exact absurd (congrArg (·.id) (halone hacon b hb hsame.symm hbcon)) hbne
    · rfl
  · intro x hx
    have hrow : ∃ e ∈ db.links.rows, e.id = x.value.linkId := by
      rcases Keyed.mem_insertNew.mp hx with hx | ⟨-, rfl⟩
      · exact (hinv.owned x hx).2
      · exact ⟨link, hlink, hid.symm⟩
    obtain ⟨e, he, heid⟩ := hrow
    obtain ⟨e', he', heid', -⟩ := hkept e he
    refine ⟨?_, e', he', heid'.trans heid⟩
    rcases Keyed.mem_insertNew.mp hx with hx | ⟨-, rfl⟩
    · exact (hinv.owned x hx).1
    · exact hkey.trans hid.symm

/-! ## §2. One step. -/

theorem LinkInv.discovered (hinv : LinkInv db) (h : Discovered db after) : LinkInv after := by
  induction h with
  | none after h => exact hinv.same h
  | candidate mid after _ pair hfree now hafter ih =>
      exact (ih.add hfree rfl rfl fun hcon => LinkState.noConfusion hcon).same hafter

theorem LinkInv.confirmed {c : Confirmation} (hinv : LinkInv db)
    (hable : Confirmable db contactId companyId) (h : Confirmed contactId companyId c db after) :
    LinkInv after := by
  -- a confirmed link of the contact is the one of the pair
  have hpair : ∀ other ∈ db.links.rows, other.key.1 = contactId →
      other.value.status.state = .confirmed → other.key = (contactId, companyId) :=
    fun other hother hcontact hcon => Prod.ext hcontact (hable.alone other hother hcontact hcon)
  cases h with
  | kept => exact hinv
  | added hfree columns hstate =>
      refine hinv.add hfree rfl rfl fun _ other hother hcontact hcon => ?_
      exact Keyed.find?_eq_none_iff.mp hfree other hother (hpair other hother hcontact hcon)
  | changed link hlink hnot columns hstate =>
      have hmem := Keyed.mem_of_find? hlink
      have hkey := Keyed.key_of_find? hlink
      refine hinv.change hmem rfl rfl fun _ other hother hcontact hcon => ?_
      refine Keyed.eq_of_key hother hmem ?_
      rw [hkey]
      refine hpair other hother ?_ hcon
      rw [hcontact, hkey]

theorem LinkInv.rejected {now : Timestamp} {r : Rejection} (hinv : LinkInv db)
    (h : Rejected now contactId companyId r db after) : LinkInv after := by
  cases h with
  | kept => exact hinv
  | changed link hlink columns hstate t hid hchange =>
      refine hinv.change (Keyed.mem_of_find? hlink) rfl hid fun hcon => ?_
      rw [hstate] at hcon
      cases hcon

variable {s s' : IdentityWorld} {a : IdentityAction}

/-- **One step keeps the invariant.** -/
theorem LinkInv.tableStep (hinv : LinkInv s.tables) (h : TableStep s a after) : LinkInv after := by
  cases h with
  | same _ h => exact hinv.same h
  | discovered _ _ h => exact hinv.discovered h
  | resolved _ cycleId contactId _ row h =>
      cases h with
      | found => exact hinv
      | written _ mid hmid => exact (hinv.discovered hmid).same ⟨rfl, rfl⟩
  | confirmed contactId companyId c _ _ hable h => exact hinv.confirmed hable h
  | rejected now contactId companyId r _ _ h => exact hinv.rejected h

theorem reachable_linkInv {ok : IdentityWorld → IdentityAction → Prop}
    (h : identityMachine.ReachableWhere ok s) : LinkInv s.tables := by
  refine h.invariant (I := fun s => LinkInv s.tables) ?_ ?_
  · rintro s ⟨hlinks, htransitions, -⟩
    refine ⟨?_, ?_⟩
    · rw [hlinks]
      exact fun a ha => absurd ha List.not_mem_nil
    · rw [htransitions]
      exact fun x hx => absurd hx List.not_mem_nil
  · intro s a t hinv _ hstep
    exact hinv.tableStep (identityStep_tables hstep).1

/-- The confirmed links of a contact. -/
def confirmedLinks (db : IdentityTables) (contactId : Nat) : List Link :=
  db.links.rows.filter fun link => link.key.1 == contactId && link.value.status.state == .confirmed

theorem confirmedLinks_length_le (hinv : LinkInv db) (contactId : Nat) :
    (confirmedLinks db contactId).length ≤ 1 := by
  refine Keyed.length_filter_le fun a ha b hb hacon hbcon => ?_
  simp only [Bool.and_eq_true, beq_iff_eq] at hacon hbcon
  exact hinv.oneConfirmed a ha b hb (hacon.1.trans hbcon.1.symm) hacon.2 hbcon.2

/-! ## §3. Who writes which state. -/

/-- The link with that id and key was there, in that state. -/
def Had (db : IdentityTables) (link : Link) : Prop :=
  ∃ old ∈ db.links.rows, old.id = link.id ∧ old.key = link.key
    ∧ old.value.status.state = link.value.status.state

theorem Had.of_mem {e : Link} (he : e ∈ db.links.rows) : Had db e := ⟨e, he, rfl, rfl, rfl⟩

/-- **A discovery** leaves every link there is, and its new ones are candidates. -/
theorem Discovered.links (h : Discovered db after) :
    (∀ link ∈ db.links.rows, link ∈ after.links.rows)
      ∧ ∀ link ∈ after.links.rows, link ∈ db.links.rows
        ∨ (link.value.status.state = .candidate ∧ db.links.find? link.key = Option.none) := by
  induction h with
  | none after h =>
      rw [h.links]
      exact ⟨fun link hlink => hlink, fun link hlink => .inl hlink⟩
  | candidate mid after _ pair hfree now hafter ih =>
      rw [hafter.links]
      refine ⟨fun link hlink => Keyed.mem_insertNew.mpr (.inl (ih.1 link hlink)), ?_⟩
      intro link hlink
      rcases mem_addLink hlink with hlink | rfl
      · exact ih.2 link hlink
      · refine .inr ⟨rfl, Keyed.find?_eq_none_iff.mpr fun old hold => ?_⟩
        exact Keyed.find?_eq_none_iff.mp hfree old (ih.1 old hold)

/-- What a step may do to the links. -/
structure StepSafe (s : IdentityWorld) (a : IdentityAction) (after : IdentityTables) : Prop where
  /-- A link is confirmed by a confirmation of its contact and company only,
      and while the company is present and not inactive. -/
  confirmed : ∀ link ∈ after.links.rows, link.value.status.state = .confirmed →
    Had s.tables link ∨
      (∃ c, a.linkRequest s = some (.confirm link.key.1 link.key.2 c))
        ∧ ∃ company ∈ s.tables.directory.companies.rows, company.id = link.key.2
          ∧ company.value.isPresent = true ∧ company.value.isActive ≠ some false
  /-- Without a confirmation or a rejection every link stays as it is, and new
      ones are candidates. -/
  others : a.linkRequest s = none →
    (∀ link ∈ s.tables.links.rows, link ∈ after.links.rows)
      ∧ ∀ link ∈ after.links.rows, link ∈ s.tables.links.rows
        ∨ (link.value.status.state = .candidate ∧ s.tables.links.find? link.key = none)

/-- A step that inserts candidates only. -/
theorem StepSafe.of_discovered (h : Discovered s.tables after) : StepSafe s a after := by
  refine ⟨fun link hlink hcon => ?_, fun _ => h.links⟩
  rcases h.links.2 link hlink with hlink | ⟨hcand, -⟩
  · exact .inl (.of_mem hlink)
  · rw [hcand] at hcon
    cases hcon

theorem TableStep.safe (h : TableStep s a after) : StepSafe s a after := by
  cases h with
  | same _ h => exact .of_discovered (.none _ h)
  | discovered _ _ h => exact .of_discovered h
  | resolved _ cycleId contactId _ row h =>
      cases h with
      | found => exact .of_discovered (.none _ ⟨rfl, rfl⟩)
      | written _ mid hmid => exact .of_discovered (hmid.same ⟨rfl, rfl⟩)
  | confirmed contactId companyId c hrequest _ hable h =>
      refine ⟨fun link hlink hcon => ?_, fun hnone => by rw [hrequest] at hnone; cases hnone⟩
      cases h with
      | kept => exact .inl (.of_mem hlink)
      | added hfree columns hstate =>
          rcases mem_addLink hlink with hlink | rfl
          · exact .inl (.of_mem hlink)
          · exact .inr ⟨⟨c, hrequest⟩, hable.company⟩
      | changed old hold hnot columns hstate =>
          rcases mem_changeLink (Keyed.mem_of_find? hold) hlink with ⟨hlink, -⟩ | rfl
          · exact .inl (.of_mem hlink)
          · have hkey : old.key = (contactId, companyId) := Keyed.key_of_find? hold
            refine .inr ⟨⟨c, ?_⟩, ?_⟩
            · show a.linkRequest s = some (.confirm old.key.1 old.key.2 c)
              rw [hkey]
              exact hrequest
            · show ∃ company ∈ s.tables.directory.companies.rows, company.id = old.key.2 ∧ _
              rw [hkey]
              exact hable.company
  | rejected now contactId companyId r hrequest _ h =>
      refine ⟨fun link hlink hcon => ?_, fun hnone => by rw [hrequest] at hnone; cases hnone⟩
      cases h with
      | kept => exact .inl (.of_mem hlink)
      | changed old hold columns hstate t hid hchange =>
          rcases mem_changeLink (Keyed.mem_of_find? hold) hlink with ⟨hlink, -⟩ | rfl
          · exact .inl (.of_mem hlink)
          · have hcon : columns.status.state = .confirmed := hcon
            rw [hstate] at hcon
            cases hcon

/-! ## §4. Resolutions and lookups. -/

/-- A resolution once written is never changed. -/
theorem TableStep.resolution_stays (h : TableStep s a after) {cycleId : Nat}
    {row : Entry Nat ResolutionColumns} (hrow : s.tables.resolutions.find? cycleId = some row) :
    after.resolutions.find? cycleId = some row := by
  have hmem := Keyed.mem_of_find? hrow
  have hkey := Keyed.key_of_find? hrow
  cases h with
  | same _ _ hres => rw [hres]; exact hrow
  | discovered _ _ _ hres => rw [hres]; exact hrow
  | resolved _ other contactId _ written h =>
      cases h with
      | found => exact hrow
      | written _ mid _ _ hres =>
          refine Keyed.find?_eq_some_iff.mpr ⟨Keyed.mem_insertNew.mpr (.inl ?_), hkey⟩
          rw [hres]
          exact hmem
  | confirmed _ _ _ _ _ _ _ hres => rw [hres]; exact hrow
  | rejected _ _ _ _ _ _ _ hres => rw [hres]; exact hrow

/-- Only a resolution writes a resolution. -/
theorem TableStep.resolutions_same (h : TableStep s a after) (ha : a.isResolve = false) :
    after.resolutions = s.tables.resolutions := by
  cases h with
  | same _ _ hres => exact hres
  | discovered _ _ _ hres => exact hres
  | resolved hresolve => rw [ha] at hresolve; cases hresolve
  | confirmed _ _ _ _ _ _ _ hres => exact hres
  | rejected _ _ _ _ _ _ _ hres => exact hres

/-- A discovery loses no link. -/
theorem Discovered.linksKept (h : Discovered db after) : Keyed.Kept db.links after.links :=
  fun link hlink => ⟨link, h.links.1 link hlink, rfl, rfl⟩

/-- **A link keeps its id, its contact and its company.** -/
theorem TableStep.linksKept (h : TableStep s a after) : Keyed.Kept s.tables.links after.links := by
  cases h with
  | same _ h => rw [h.links]; exact .refl _
  | discovered _ _ h => exact h.linksKept
  | resolved _ cycleId contactId _ row h =>
      cases h with
      | found => exact .refl _
      | written _ mid hmid => exact hmid.linksKept
  | confirmed contactId companyId c _ _ _ h =>
      cases h with
      | kept => exact .refl _
      | added => exact Keyed.kept_insertNew _ _ _
      | changed => exact Keyed.kept_mapRows _ _
  | rejected now contactId companyId r _ _ h =>
      cases h with
      | kept => exact .refl _
      | changed => exact Keyed.kept_mapRows _ _

/-- What a lookup found is still what it would find. -/
theorem lookupCommand_kept {call : AdminCall} {found : Nat × Option Nat}
    (h : lookupCommand db call = .ok found) (hkept : SurroundingsKept db after) :
    lookupCommand after call = .ok found := by
  unfold lookupCommand at h ⊢
  split at h
  next => cases h
  next contact hcontact =>
    obtain ⟨contact', hcontact', hid⟩ := hkept.digisacContacts.find? hcontact
    simp only [hcontact', hid]
    split at h
    next hnone => exact h
    next external hsome =>
      split at h
      next => cases h
      next company hcompany =>
        obtain ⟨company', hcompany', hid'⟩ := hkept.directory.companies.find? hcompany
        simp only [hcompany', hid']
        exact h

/-- The contact and company that a command has looked up. -/
def CommandPhase.lookedUp : CommandPhase → Option (AdminCall × Nat × Option Nat)
  | .found call contactId companyId | .reserved call contactId companyId =>
      some (call, contactId, companyId)
  | _ => none

/-- Every command works on the contact and company its references name. -/
def LookupsCurrent (s : IdentityWorld) : Prop :=
  ∀ phase ∈ s.commands, ∀ call contactId companyId,
    phase.lookedUp = some (call, contactId, companyId) →
      lookupCommand s.tables call = .ok (contactId, companyId)

/-- A command that has looked up did so in this step or before it. -/
theorem lookedUp_step (h : identityStep s a = some s') {phase : CommandPhase} {call : AdminCall}
    {contactId : Nat} {companyId : Option Nat} (hphase : phase ∈ s'.commands)
    (hlooked : phase.lookedUp = some (call, contactId, companyId)) :
    (∃ old ∈ s.commands, old.lookedUp = some (call, contactId, companyId))
      ∨ lookupCommand s.tables call = .ok (contactId, companyId) := by
  -- a command that proceeds to `next` changes its own entry only
  have hproceed : ∀ i next, phase ∈ (s.commands.set i next) →
      (next.lookedUp = some (call, contactId, companyId) →
        (∃ old ∈ s.commands, old.lookedUp = some (call, contactId, companyId))
          ∨ lookupCommand s.tables call = .ok (contactId, companyId)) →
      (∃ old ∈ s.commands, old.lookedUp = some (call, contactId, companyId))
        ∨ lookupCommand s.tables call = .ok (contactId, companyId) := by
    intro i next hmem hnext
    rcases List.mem_or_eq_of_mem_set hmem with hmem | rfl
    · exact .inl ⟨phase, hmem, hlooked⟩
    · exact hnext hlooked
  cases a with
  | discover | resolve | confirm | confirmByExternalIds | reject =>
      obtain rfl := Option.some.inj h
      rw [IdentityWorld.commands_transact] at hphase
      exact .inl ⟨phase, hphase, hlooked⟩
  | environment =>
      simp only [identityStep, Option.ite_none_right_eq_some] at h
      obtain ⟨-, h⟩ := h
      obtain rfl := Option.some.inj h
      exact .inl ⟨phase, hphase, hlooked⟩
  | call called =>
      obtain rfl := Option.some.inj h
      rcases List.mem_append.mp hphase with hphase | hphase
      · exact .inl ⟨phase, hphase, hlooked⟩
      · rw [List.mem_singleton.mp hphase] at hlooked
        unfold IdentityWorld.firstPhase at hlooked
        split at hlooked
        next => cases hlooked
        next => split at hlooked <;> cases hlooked
  | lookup i =>
      unfold identityStep at h
      simp only at h
      split at h
      next called hi =>
        obtain rfl := Option.some.inj h
        refine hproceed i _ hphase fun hnext => ?_
        split at hnext
        next contact company hfound =>
          injection hnext with hnext
          obtain ⟨rfl, rfl, rfl⟩ : called = call ∧ contact = contactId ∧ company = companyId := by
            simpa using hnext
          exact .inr hfound
        next => cases hnext
      next => cases h
  | reserve i =>
      unfold identityStep at h
      simp only at h
      split at h
      next called contact company hi =>
        unfold IdentityWorld.reserveCommand at h
        split at h
        next => cases h
        next =>
          split at h
          next =>
            obtain rfl := Option.some.inj h
            exact hproceed i _ hphase fun hnext => by cases hnext
          next =>
            obtain rfl := Option.some.inj h
            exact hproceed i _ hphase fun hnext => .inl ⟨_, List.mem_of_getElem? hi, hnext⟩
      next => cases h
  | finish i now clock =>
      unfold identityStep at h
      simp only at h
      split at h
      next called contact company hi =>
        obtain rfl := Option.some.inj h
        unfold IdentityWorld.finishCommand at hphase
        split at hphase
        next => exact hproceed i _ hphase fun hnext => by cases hnext
        next => exact hproceed i _ hphase fun hnext => by cases hnext
      next => cases h
  | abort i error =>
      unfold identityStep at h
      simp only at h
      split at h
      next => cases h
      next =>
        obtain rfl := Option.some.inj h
        exact hproceed i _ hphase fun hnext => by cases hnext
      next => cases h

theorem LookupsCurrent.step (hcur : LookupsCurrent s) (h : identityStep s a = some s') :
    LookupsCurrent s' := by
  intro phase hphase call contactId companyId hlooked
  have hkept : SurroundingsKept s.tables s'.tables := (identityStep_tables h).2
  rcases lookedUp_step h hphase hlooked with ⟨old, hold, hlooked⟩ | hfound
  · exact lookupCommand_kept (hcur old hold call contactId companyId hlooked) hkept
  · exact lookupCommand_kept hfound hkept

theorem reachable_lookupsCurrent {ok : IdentityWorld → IdentityAction → Prop}
    (h : identityMachine.ReachableWhere ok s) : LookupsCurrent s := by
  refine h.invariant ?_ fun s a t hcur _ hstep => hcur.step hstep
  rintro s ⟨-, -, -, -, -, hcommands, -⟩ phase hphase
  rw [hcommands] at hphase
  exact absurd hphase List.not_mem_nil

/-- **Identity link safety**: a contact has at most one confirmed link; a link
    is confirmed only by a confirmation of its contact and company, an
    administrative one being of the contact and company it was called for; a
    step that is no confirmation or rejection changes no link and inserts
    candidates only; and a resolution never changes. -/
theorem identity_link_safety {s : IdentityWorld} (h : identityMachine.Reachable s) :
    (∀ contactId, (confirmedLinks s.tables contactId).length ≤ 1)
      ∧ LookupsCurrent s
      ∧ (∀ a t, identityStep s a = some t → StepSafe s a t.tables)
      ∧ ∀ t, identityMachine.RunWhere Machine.anyStep s t → ∀ cycleId row,
          s.tables.resolutions.find? cycleId = some row →
            t.tables.resolutions.find? cycleId = some row := by
  refine ⟨confirmedLinks_length_le (reachable_linkInv h), reachable_lookupsCurrent h, ?_, ?_⟩
  · exact fun a t hstep => (identityStep_tables hstep).1.safe
  · intro t hrun cycleId row hrow
    exact h.stable (P := fun t => t.tables.resolutions.find? cycleId = some row) hrow hrun
      fun s a t _ hrow _ hstep => (identityStep_tables hstep).1.resolution_stays hrow

/-! A run with a discovery, a confirmation and a resolution. -/

/-- A contact whose number is that of two companies. -/
def matchingContact : DigisacContacts :=
  Keyed.empty.insertNew "contact-1"
    { fields := { normalizedNumber := some "5561988887777", isGroup := some false }
      lastSeenAt := 1, lastSource := "ticket_webhook" }

def twoCompanies : DirectoryTables :=
  let company (provider : String) : DirectoryRow CompanyFields :=
    { isPresent := true, isActive := some true
      fields := { providerId := provider, legalName := provider, tradeName := provider } }
  let contact : DirectoryRow ContactFields :=
    { isPresent := true, isActive := some true
      fields := { name := "main", normalizedMobile := some "5561988887777" } }
  { companies := (Keyed.empty.insertNew "company-1" (company "p1")).insertNew "company-2"
      (company "p2")
    contacts := (Keyed.empty.insertNew (1, "main") contact).insertNew (2, "main") contact }

/-- Both companies are discovered, and the administrator confirms the second. -/
def confirmSecond : List IdentityAction :=
  [.environment matchingContact twoCompanies [], .discover 1 1 "spec0009-v1.1" 1,
    .call ⟨⟨.confirmation "company-2" "checked", "contact-1"⟩, "key-1"⟩, .lookup 0, .reserve 0,
    .finish 0 2 2]

/-- The confirmed link is the second one, and it is the only one. -/
theorem identity_link_safety_second :
    ∃ s, identityMachine.Reachable s
      ∧ s.tables.links.rows.map (fun link => (link.key, link.value.status.state))
          = [((1, 1), .candidate), ((1, 2), .confirmed)]
      ∧ (confirmedLinks s.tables 1).length ≤ 1 ∧ LookupsCurrent s := by
  have hrun : (identityMachine.exec {} confirmSecond).map
      (fun s => s.tables.links.rows.map fun link => (link.key, link.value.status.state))
      = some [((1, 1), .candidate), ((1, 2), .confirmed)] := by decide +kernel
  obtain ⟨s, hexec, hobs⟩ := Option.map_eq_some_iff.mp hrun
  have hreach : identityMachine.Reachable s :=
    Machine.reachable_of_exec ⟨rfl, rfl, rfl, rfl, rfl, rfl, rfl⟩ hexec
  have hsafe := identity_link_safety hreach
  exact ⟨s, hreach, hobs, hsafe.1 1, hsafe.2.1⟩

end Cai.Identity
