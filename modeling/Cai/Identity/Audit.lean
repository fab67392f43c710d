/-
  Cai.Identity.Audit — the audit trail of the links.

  A transition is inserted with ON CONFLICT (transition_key) DO NOTHING,
  and the key of a confirmation is made of the link, the source and the
  time of the confirmation.  The first transition of a link is never lost,
  since its key names a new link.  A later one is lost when its key is
  known, and then the trail no longer leads to the state of the link.

  Main results: `identity_audit_complete` for the runs that lose no
  transition, and `auditComplete_step_iff`, which says exactly when a step
  loses one; the failing run is `identity_audit_incomplete`.
-/
import Cai.Identity.Safety

namespace Cai.Identity

open Cai.Lib
open Cai.Cycle (Timestamp CycleRow)
open Cai.Directory

/-! ## §1. Complete trails. -/

/-- The transitions of a link, in the order of their ids. -/
def linkChanges (db : IdentityTables) (linkId : Nat) : List (Option LinkState × LinkState) :=
  db.transitions.history (·.linkId) LinkTransition.change linkId

/-- The transitions of every link lead from nothing to its state. -/
def AuditComplete (db : IdentityTables) : Prop :=
  ∀ link ∈ db.links.rows, Leads none (linkChanges db link.id) (some link.value.status.state)

variable {db after : IdentityTables} {contactId companyId : Nat} {link : Link}
  {columns : LinkColumns} {key : TransitionKey} {t : LinkTransition}

theorem AuditComplete.same (haudit : AuditComplete db) (h : SameLinks db after) :
    AuditComplete after := by
  unfold AuditComplete linkChanges
  rw [h.links, h.transitions]
  exact haudit

/-- The key of the first transition of a link is not known. -/
theorem find?_first (hinv : LinkInv db) (hkey : key.linkId = db.links.freshId) :
    db.transitions.find? key = none := by
  cases hfind : db.transitions.find? key with
  | none => rfl
  | some x =>
      obtain ⟨hxkey, e, he, heid⟩ := hinv.owned x (Keyed.mem_of_find? hfind)
      have hlt : e.id < db.links.freshId := Keyed.id_lt_freshId he
      rw [Keyed.key_of_find? hfind, hkey] at hxkey
      omega

/-- **A new link has a complete trail.** -/
theorem AuditComplete.add (haudit : AuditComplete db) (hinv : LinkInv db)
    (hkey : key.linkId = db.links.freshId) (hid : t.linkId = db.links.freshId)
    (hchange : t.change = (none, columns.status.state)) :
    AuditComplete (db.addLink contactId companyId columns key t) := by
  intro e he
  rcases mem_addLink he with he | rfl
  · have hne : t.linkId ≠ e.id := by
      rw [hid]
      exact Ne.symm (Nat.ne_of_lt (Keyed.id_lt_freshId he))
    have hchanges : linkChanges (db.addLink contactId companyId columns key t) e.id
        = linkChanges db e.id := Keyed.history_insertNew_ne hne
    rw [hchanges]
    exact haudit e he
  · have hchanges : linkChanges (db.addLink contactId companyId columns key t) db.links.freshId
        = linkChanges db db.links.freshId ++ [t.change] :=
      Keyed.history_insertNew_self (find?_first hinv hkey) hid
    have hnil : linkChanges db db.links.freshId = [] := by
      refine Keyed.history_eq_nil fun x hx heq => ?_
      obtain ⟨-, e, he, heid⟩ := hinv.owned x hx
      exact absurd (heid.trans heq) (Nat.ne_of_lt (Keyed.id_lt_freshId he))
    show Leads none (linkChanges (db.addLink contactId companyId columns key t) db.links.freshId)
      (some columns.status.state)
    rw [hchanges, hnil, hchange]
    exact ⟨rfl, rfl⟩

/-- The trails of the other links do not change. -/
theorem linkChanges_other (hid : t.linkId = link.id) {e : Link} (hne : e.id ≠ link.id) :
    linkChanges (db.changeLink link.id columns key t) e.id = linkChanges db e.id :=
  Keyed.history_insertNew_ne (by rw [hid]; exact Ne.symm hne)

/-- **A written link keeps a complete trail**, if its state is the same or the
    key of the transition is not known. -/
theorem AuditComplete.change (haudit : AuditComplete db) (hlink : link ∈ db.links.rows)
    (hid : t.linkId = link.id)
    (hchange : t.change = (some link.value.status.state, columns.status.state))
    (hkey : link.value.status.state ≠ columns.status.state → db.transitions.find? key = none) :
    AuditComplete (db.changeLink link.id columns key t) := by
  intro e he
  rcases mem_changeLink hlink he with ⟨he, hne⟩ | rfl
  · rw [linkChanges_other hid hne]
    exact haudit e he
  · show Leads none (linkChanges (db.changeLink link.id columns key t) link.id)
      (some columns.status.state)
    cases hfind : db.transitions.find? key with
    | none =>
        have hchanges : linkChanges (db.changeLink link.id columns key t) link.id
            = linkChanges db link.id ++ [t.change] := Keyed.history_insertNew_self hfind hid
        rw [hchanges, hchange]
        exact (haudit link hlink).append _
    | some x =>
        -- the row is not inserted, and need not be: the state is the same
        have hsame : link.value.status.state = columns.status.state := by
          by_contra hne
          rw [hkey hne] at hfind
          cases hfind
        have hchanges : linkChanges (db.changeLink link.id columns key t) link.id
            = linkChanges db link.id := by
          unfold linkChanges IdentityTables.changeLink
          rw [Keyed.insertNew_of_some hfind]
        rw [hchanges, ← hsame]
        exact haudit link hlink

/-- **A lost transition**: a change of state whose key is known leaves the
    trail of the link at its old state. -/
theorem changeLink_breaks_audit (haudit : AuditComplete db) (hlink : link ∈ db.links.rows)
    (hne : link.value.status.state ≠ columns.status.state)
    (hkey : db.transitions.find? key ≠ none) :
    ¬ AuditComplete (db.changeLink link.id columns key t) := by
  intro hafter
  obtain ⟨x, hfind⟩ := Option.ne_none_iff_exists'.mp hkey
  have hchanges : linkChanges (db.changeLink link.id columns key t) link.id
      = linkChanges db link.id := by
    unfold linkChanges IdentityTables.changeLink
    rw [Keyed.insertNew_of_some hfind]
  have hnew : Leads none (linkChanges (db.changeLink link.id columns key t) link.id)
      (some columns.status.state) :=
    hafter _ (Keyed.mem_modifyId.mpr (.inr ⟨link, hlink, rfl, rfl⟩))
  rw [hchanges] at hnew
  exact hne (Option.some.inj ((haudit link hlink).unique hnew))

/-! ## §2. The condition on a step. -/

/-- The link a request is about, and the key of the transition it inserts. -/
def LinkRequest.transitionKey (db : IdentityTables) : LinkRequest → Option (Link × TransitionKey)
  | .confirm contactId companyId c =>
      (db.links.find? (contactId, companyId)).map fun link =>
        (link, .confirm c.source link.id c.confirmedAt)
  | .reject now contactId companyId r =>
      (db.links.find? (contactId, companyId)).map fun link =>
        (link, .reject r.source link.id r.reason now)

/-- The state a request is for. -/
def LinkRequest.target : LinkRequest → LinkState
  | .confirm .. => .confirmed
  | .reject .. => .rejected

instance (db : IdentityTables) (contactId companyId : Nat) :
    Decidable (Confirmable db contactId companyId) :=
  decidable_of_iff ((db.digisacContacts.byId? contactId).isSome = true
      ∧ (∃ company ∈ db.directory.companies.rows, company.id = companyId
        ∧ company.value.isPresent = true ∧ company.value.isActive ≠ some false)
      ∧ ∀ link ∈ db.links.rows, link.key.1 = contactId → link.value.status.state = .confirmed →
        link.key.2 = companyId)
    ⟨fun h => ⟨h.1, h.2.1, h.2.2⟩, fun h => ⟨h.contact, h.company, h.alone⟩⟩

/-- The checks of a request pass: it does not raise before it writes. -/
def LinkRequest.Passes (db : IdentityTables) : LinkRequest → Prop
  | .confirm contactId companyId _ => Confirmable db contactId companyId
  | .reject _ contactId _ _ => (db.digisacContacts.byId? contactId).isSome = true

instance (db : IdentityTables) : (request : LinkRequest) → Decidable (request.Passes db)
  | .confirm contactId companyId _ => inferInstanceAs (Decidable (Confirmable db contactId companyId))
  | .reject _ contactId _ _ =>
      inferInstanceAs (Decidable ((db.digisacContacts.byId? contactId).isSome = true))

/-- A request that passes, for another state than the link has, finds its
    transition key unused. -/
def KeyUnused (s : IdentityWorld) (a : IdentityAction) : Prop :=
  ∀ request ∈ a.linkRequest s, request.Passes s.tables →
    ∀ found ∈ request.transitionKey s.tables,
      found.1.value.status.state ≠ request.target → s.tables.transitions.find? found.2 = none

instance (s : IdentityWorld) (a : IdentityAction) : Decidable (KeyUnused s a) :=
  inferInstanceAs (Decidable (∀ request ∈ a.linkRequest s, _))

variable {s s' : IdentityWorld} {a : IdentityAction}

theorem AuditComplete.discovered (haudit : AuditComplete db) (hinv : LinkInv db)
    (h : Discovered db after) : AuditComplete after := by
  induction h with
  | none after h => exact haudit.same h
  | candidate mid after hmid pair hfree now hafter ih =>
      exact (ih.add (hinv.discovered hmid) rfl rfl rfl).same hafter

/-- **One step keeps the trails complete**, if its key is unused. -/
theorem AuditComplete.tableStep (haudit : AuditComplete s.tables) (hinv : LinkInv s.tables)
    (hunused : KeyUnused s a) (h : TableStep s a after) : AuditComplete after := by
  cases h with
  | same _ h => exact haudit.same h
  | discovered _ _ h => exact haudit.discovered hinv h
  | resolved _ cycleId contactId _ row h =>
      cases h with
      | found => exact haudit
      | written _ mid hmid => exact (haudit.discovered hinv hmid).same ⟨rfl, rfl⟩
  | confirmed contactId companyId c hrequest _ hable h =>
      cases h with
      | kept => exact haudit
      | added hfree columns hstate =>
          refine haudit.add hinv rfl rfl ?_
          rw [hstate]
          rfl
      | changed link hlink hnot columns hstate =>
          refine haudit.change (Keyed.mem_of_find? hlink) rfl (by rw [hstate]; rfl) fun _ => ?_
          refine hunused _ hrequest hable (link, .confirm c.source link.id c.confirmedAt) ?_ hnot
          unfold LinkRequest.transitionKey
          simp only [hlink]
          rfl
  | rejected now contactId companyId r hrequest _ h _ hcontact =>
      cases h with
      | kept => exact haudit
      | changed link hlink columns hstate t hid hchange =>
          refine haudit.change (Keyed.mem_of_find? hlink) hid (by rw [hstate]; exact hchange)
            fun hne => ?_
          rw [hstate] at hne
          refine hunused _ hrequest hcontact (link, .reject r.source link.id r.reason now) ?_ hne
          unfold LinkRequest.transitionKey
          simp only [hlink]
          rfl

/-! ## §3. The condition is exact. -/

/-- A confirmation whose checks pass writes a link that is not confirmed. -/
theorem confirmLocked_changes {c : Confirmation} (hable : Confirmable db contactId companyId)
    (hlink : db.links.find? (contactId, companyId) = some link)
    (hnot : link.value.status.state ≠ .confirmed) (now : Timestamp) :
    ∃ columns t, columns.status.state = .confirmed
      ∧ tablesAfter db (confirmLocked now contactId companyId c db)
          = db.changeLink link.id columns (.confirm c.source link.id c.confirmedAt) t := by
  obtain ⟨contact, hcontact⟩ := Option.isSome_iff_exists.mp hable.contact
  obtain ⟨company, hmem, hid, havailable⟩ := hable.company
  have hcompany : db.directory.companies.byId? companyId = some company :=
    Keyed.byId?_eq_some_iff.mpr ⟨hmem, hid⟩
  have hchecked : companyConfirmable company.value := havailable
  refine ⟨{ link.value with
      status := .confirmed c.source c.confirmedAt c.confirmedBy, source := c.source
      updatedAt := now }, c.transition link.id (some link.value.status.state), rfl, ?_⟩
  -- no check raises, and the link that is found is not confirmed
  unfold confirmLocked
  simp only [lockContact_ok_iff.mpr hcontact, hcompany, hlink, if_neg hnot, require,
    if_pos hchecked, if_pos hable.alone]
  rfl

/-- A rejection of a contact that is there writes a link that is not rejected. -/
theorem rejectLocked_changes {r : Rejection}
    (hcontact : (db.digisacContacts.byId? contactId).isSome = true)
    (hlink : db.links.find? (contactId, companyId) = some link)
    (hnot : link.value.status.state ≠ .rejected) (now : Timestamp) :
    ∃ columns t, columns.status.state = .rejected
      ∧ tablesAfter db (rejectLocked now contactId companyId r db)
          = db.changeLink link.id columns (.reject r.source link.id r.reason now) t := by
  obtain ⟨contact, hcontact⟩ := Option.isSome_iff_exists.mp hcontact
  -- a link that is not rejected is not returned as it is
  have hother : ¬ (r.appendSameStateTransition = false
      ∧ link.value.status = .rejected r.reason) := by
    rintro ⟨-, hstatus⟩
    rw [hstatus] at hnot
    exact hnot rfl
  refine ⟨{ link.value with
      status := .rejected r.reason, source := r.source, updatedAt := now },
    { linkId := link.id, fromState := some link.value.status.state, toState := .rejected
      source := r.source, reason := r.reason, confirmedBy := r.actor }, rfl, ?_⟩
  unfold rejectLocked
  simp only [lockContact_ok_iff.mpr hcontact, hlink, if_neg hother]
  rfl

/-- The tables once a request was performed. -/
def LinkRequest.perform (now : Timestamp) (db : IdentityTables) : LinkRequest → IdentityTables
  | .confirm contactId companyId c => tablesAfter db (confirmLocked now contactId companyId c db)
  | .reject now contactId companyId r => tablesAfter db (rejectLocked now contactId companyId r db)

/-- **A request that passes** writes its link and offers its transition, if the
    link is in another state. -/
theorem perform_changes {request : LinkRequest} (hpasses : request.Passes db)
    (hfound : request.transitionKey db = some (link, key))
    (hne : link.value.status.state ≠ request.target) (now : Timestamp) :
    link ∈ db.links.rows ∧ ∃ columns t, columns.status.state = request.target
      ∧ request.perform now db = db.changeLink link.id columns key t := by
  cases request with
  | confirm contactId companyId c =>
      obtain ⟨found, hlink, hpair⟩ := Option.map_eq_some_iff.mp hfound
      obtain ⟨rfl, rfl⟩ := Prod.mk.inj hpair
      exact ⟨Keyed.mem_of_find? hlink, confirmLocked_changes hpasses hlink hne now⟩
  | reject now' contactId companyId r =>
      obtain ⟨found, hlink, hpair⟩ := Option.map_eq_some_iff.mp hfound
      obtain ⟨rfl, rfl⟩ := Prod.mk.inj hpair
      exact ⟨Keyed.mem_of_find? hlink, rejectLocked_changes hpasses hlink hne now'⟩

/-- The command that is finished performs its request. -/
theorem finish_perform {call : AdminCall} {company : Option Nat} {i : Nat}
    {now clock : Timestamp} {request : LinkRequest}
    (hrequest : (CommandPhase.reserved call contactId company).linkRequest now clock
      = some request) :
    (s.finishCommand i call contactId company now clock).tables = request.perform now s.tables := by
  cases company with
  | none => cases hrequest
  | some companyId =>
      cases hop : call.operation with
      | confirmation external reason =>
          simp only [CommandPhase.linkRequest, hop, Option.some.injEq] at hrequest
          subst hrequest
          unfold IdentityWorld.finishCommand performCommand LinkRequest.perform
          simp only [hop]
          cases confirmLocked now contactId companyId _ s.tables with
          | error e => rfl
          | ok result => rfl
      | rejection external reason =>
          simp only [CommandPhase.linkRequest, hop, Option.some.injEq] at hrequest
          subst hrequest
          unfold IdentityWorld.finishCommand performCommand LinkRequest.perform
          simp only [hop]
          cases rejectLocked now contactId companyId _ s.tables with
          | error e => rfl
          | ok result => rfl
      | discovery =>
          simp only [CommandPhase.linkRequest, hop] at hrequest
          cases hrequest

/-- **A step performs its request.** -/
theorem identityStep_perform {request : LinkRequest} (hstep : identityStep s a = some s')
    (hrequest : a.linkRequest s = some request) :
    ∃ now, s'.tables = request.perform now s.tables := by
  cases a with
  | confirm now contactId companyId confirmedAt confirmedBy =>
      obtain rfl := Option.some.inj hstep
      simp only [IdentityAction.linkRequest] at hrequest
      obtain ⟨c, hc, rfl⟩ := exists_ok_of_toOption hrequest
      refine ⟨now, ?_⟩
      show tablesAfter s.tables (confirmIdentityLink now contactId companyId confirmedAt
        confirmedBy s.tables) = _
      unfold confirmIdentityLink
      rw [hc]
      rfl
  | confirmByExternalIds now contact company confirmedAt confirmedBy =>
      obtain rfl := Option.some.inj hstep
      -- the arguments pass and both external ids are found, since there is a request
      simp only [IdentityAction.linkRequest, Option.bind_eq_bind, Option.bind_eq_some_iff,
        Option.pure_def, Option.some.injEq] at hrequest
      obtain ⟨c, hc, contactRow, hcontact, companyRow, hcompany, rfl⟩ := hrequest
      refine ⟨now, ?_⟩
      show tablesAfter s.tables (confirmIdentityByExternalIds now contact company confirmedAt
        confirmedBy s.tables) = _
      unfold confirmIdentityByExternalIds
      cases hcheck : checkConfirmation confirmedAt confirmedBy with
      | error e =>
          rw [hcheck] at hc
          cases hc
      | ok c' =>
          rw [hcheck] at hc
          obtain rfl := Option.some.inj hc
          simp only [hcontact, hcompany]
          rfl
  | reject now contactId companyId reason =>
      simp only [identityStep, Option.some.injEq] at hstep
      simp only [IdentityAction.linkRequest] at hrequest
      obtain ⟨safe, hsafe, rfl⟩ := exists_ok_of_toOption hrequest
      have hbody : rejectIdentityLink now contactId companyId reason s.tables
          = rejectLocked now contactId companyId { reason := safe } s.tables := by
        unfold rejectIdentityLink
        rw [hsafe]
        rfl
      refine ⟨now, ?_⟩
      rw [← hstep]
      unfold IdentityWorld.transact
      dsimp only
      rw [hbody]
      rfl
  | finish i now clock =>
      unfold identityStep at hstep
      simp only at hstep
      split at hstep
      next call contactId company hphase =>
        obtain rfl := Option.some.inj hstep
        refine ⟨now, finish_perform ?_⟩
        rw [← hrequest]
        show _ = s.commands[i]?.bind (·.linkRequest now clock)
        rw [hphase]
        rfl
      next => cases hstep
  | discover | resolve | call | lookup | reserve | abort | environment => cases hrequest

/-- **One step** from complete trails leaves them complete exactly when its key
    is unused. -/
theorem auditComplete_step_iff (haudit : AuditComplete s.tables) (hinv : LinkInv s.tables)
    (hstep : identityStep s a = some s') : AuditComplete s'.tables ↔ KeyUnused s a := by
  constructor
  · intro hafter request hrequest hpasses found hfound hne
    -- the request writes the link, and a known key would lose its transition
    obtain ⟨now, hperform⟩ := identityStep_perform hstep hrequest
    obtain ⟨hmem, columns, t, hstate, hchange⟩ := perform_changes hpasses hfound hne now
    by_contra hkey
    rw [hperform, hchange] at hafter
    rw [← hstate] at hne
    exact changeLink_breaks_audit haudit hmem hne hkey hafter
  · intro hunused
    exact haudit.tableStep hinv hunused (identityStep_tables hstep).1

/-- **The audit trail is complete** in every run whose confirmations and
    rejections find their transition keys unused. -/
theorem identity_audit_complete {s : IdentityWorld}
    (h : identityMachine.ReachableWhere KeyUnused s) :
    ∀ link ∈ s.tables.links.rows,
      Leads none (linkChanges s.tables link.id) (some link.value.status.state) := by
  refine h.invariant_of_reachable (I := fun s => AuditComplete s.tables) ?_ ?_
  · rintro s ⟨hlinks, -⟩ link hlink
    rw [hlinks] at hlink
    exact absurd hlink List.not_mem_nil
  · intro s a t hreach haudit hunused hstep
    exact haudit.tableStep (reachable_linkInv hreach) hunused (identityStep_tables hstep).1

/-! ## §4. A run that loses a transition. -/

/-- One contact and one company, confirmed at time 7 and rejected again. -/
def confirmReject : List IdentityAction :=
  [.environment matchingContact twoCompanies [], .confirm 10 1 1 (some 7) none,
    .reject 11 1 1 "wrong_company"]

/-- A confirmation at another time is recorded. -/
theorem identity_audit_complete_reconfirmed :
    ∃ s, identityMachine.ReachableWhere KeyUnused s
      ∧ s.tables.links.rows.map (·.value.status.state) = [.confirmed]
      ∧ ∀ link ∈ s.tables.links.rows,
          Leads none (linkChanges s.tables link.id) (some link.value.status.state) := by
  have hrun : (identityMachine.execWhere (fun s a => decide (KeyUnused s a)) {}
      (confirmReject ++ [.confirm 12 1 1 (some 8) none])).map
        (fun s => s.tables.links.rows.map (·.value.status.state)) = some [.confirmed] := by
    decide +kernel
  obtain ⟨s, hexec, hobs⟩ := Option.map_eq_some_iff.mp hrun
  have hreach : identityMachine.ReachableWhere KeyUnused s :=
    ⟨{}, ⟨rfl, rfl, rfl, rfl, rfl, rfl, rfl⟩,
      Machine.runWhere_of_execWhere (I := fun _ => True) (fun _ _ _ h => of_decide_eq_true h)
        (fun _ _ _ _ _ _ => trivial) trivial hexec⟩
  exact ⟨s, hreach, hobs, identity_audit_complete hreach⟩

/-- The same confirmation once more: the link is confirmed, its trail ends in
    `rejected`. -/
theorem identity_audit_incomplete :
    ∃ s, identityMachine.Reachable s
      ∧ s.tables.links.rows.map (fun link => (link.id, link.value.status.state))
          = [(1, .confirmed)]
      ∧ linkChanges s.tables 1
          = [(none, .confirmed), (some .confirmed, .rejected)]
      ∧ ¬ ∀ link ∈ s.tables.links.rows,
          Leads none (linkChanges s.tables link.id) (some link.value.status.state) := by
  have hrun : (identityMachine.exec {} (confirmReject ++ [.confirm 12 1 1 (some 7) none])).map
      (fun s => (s.tables.links.rows.map fun link => (link.id, link.value.status.state),
        linkChanges s.tables 1,
        decide (∀ link ∈ s.tables.links.rows,
          Leads none (linkChanges s.tables link.id) (some link.value.status.state))))
      = some ([(1, .confirmed)], [(none, .confirmed), (some .confirmed, .rejected)], false) := by
    decide +kernel
  obtain ⟨s, hexec, hobs⟩ := Option.map_eq_some_iff.mp hrun
  simp only [Prod.mk.injEq, decide_eq_false_iff_not] at hobs
  have hreach : identityMachine.Reachable s :=
    Machine.reachable_of_exec ⟨rfl, rfl, rfl, rfl, rfl, rfl, rfl⟩ hexec
  exact ⟨s, hreach, hobs.1, hobs.2.1, hobs.2.2⟩

end Cai.Identity
