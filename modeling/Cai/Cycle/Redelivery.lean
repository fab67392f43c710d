/-
  Cai.Cycle.Redelivery — delivering a ticket event again.

  A closing always writes its event key, so a redelivery finds it.  An
  opening writes its key only when it creates the cycle: one that joined
  an open cycle leaves no key behind, and is recognised again only while
  that very cycle is open.

  Main result: `redelivery_idempotent_iff`; the failing run is
  `redelivery_not_idempotent`.
-/
import Cai.Cycle.Structure

namespace Cai.Cycle

open Cai.Lib

/-! ## §1. The property and its condition. -/

/-- The row without `updated_at`. -/
def CycleRow.forget (r : CycleRow) : CycleRow := { r with updatedAt := 0 }

/-- Repeating `call` on this table creates no cycle, changes at most
    `updated_at`, and returns the cycle the first delivery returned. -/
def Idempotent (call : TicketCall) (first : CycleResult) (rows : List CycleRow) : Prop :=
  ∀ now delaySeconds fresh, ∃ result, call.perform now delaySeconds fresh rows = .ok result
    ∧ result.rows.map CycleRow.forget = rows.map CycleRow.forget
    ∧ result.cycle.publicId = first.cycle.publicId

/-- The opening finds the open cycle `x`, and its own key nowhere. -/
def Joins (args : CreateArgs) (rows : List CycleRow) (x : CycleRow) : Prop :=
  x ∈ rows ∧ x.openConversation = some args.conversationId
    ∧ ∀ y ∈ rows, y.openEventKey ≠ some args.openEventKey

/-- When a call first made on `before` is still recognised on `later`. -/
def Recognised (call : TicketCall) (before later : List CycleRow) : Prop :=
  match call with
  | .close _ => True
  | .create args => ∀ x, Joins args before x →
      (∃ x' ∈ later, x'.publicId = x.publicId ∧ x'.ticketClosedAt = none)
        ∧ ∀ y ∈ later, y.openEventKey ≠ some args.openEventKey

/-- The conversation of a ticket event. -/
def TicketCall.conversationId : TicketCall → String
  | .create args => args.conversationId
  | .close args => args.conversationId

/-- Only ticket events of one conversation are delivered. -/
def ticketsOf (conversationId : String) : CycleState → CycleAction → Prop := fun _ a =>
  ∃ now delaySeconds fresh call, a = .ticket now delaySeconds fresh call
    ∧ call.conversationId = conversationId

/-! ## §2. What the first delivery leaves. -/

variable {now : Timestamp} {delaySeconds : Nat} {fresh : Fresh} {rows later : List CycleRow}
  {first result : CycleResult}

/-- A closing leaves its key on the closed cycle it returns. -/
theorem closeCycle_trace {args : CloseArgs} (hinv : TableInv rows)
    (h : closeCycle now delaySeconds fresh args rows = .ok first) :
    ∃ r ∈ first.rows, r.publicId = first.cycle.publicId ∧ r.ticketClosedAt ≠ none
      ∧ r.closeEventKey = some args.closeEventKey := by
  obtain ⟨contact, closedAt, -, -, hbranch⟩ := closeCycle_cases h
  rcases hbranch with ⟨d, hd, hkey, hret⟩ | ⟨-, ⟨x, hx, -, hret⟩ | ⟨-, hret⟩⟩
  · -- the key was there already, and only closed cycles have one
    obtain ⟨hrows, -, hid, -⟩ := returning_spec hret
    have hclosed : d.ticketClosedAt ≠ none := by
      intro hn
      rw [hinv.openNoKey d hd hn] at hkey
      cases hkey
    exact ⟨d, hrows ▸ hd, hid.symm, hclosed, hkey⟩
  · obtain ⟨hrows, -, hid, -⟩ := returning_spec hret
    have hmem := Table.mem_update_of_mem (p := (·.id == x.id))
      (f := closeRow now delaySeconds args closedAt contact) hx
    rw [if_pos (beq_self_eq_true x.id)] at hmem
    exact ⟨closeRow now delaySeconds args closedAt contact x, hrows ▸ hmem, hid.symm,
      (fun hn => nomatch hn), rfl⟩
  · obtain ⟨hrows, -, hid, -⟩ := returning_spec hret
    refine ⟨closedRow now delaySeconds fresh args closedAt contact rows, ?_, hid.symm,
      (fun hn => nomatch hn), rfl⟩
    rw [hrows]
    exact List.mem_append_right _ (List.mem_singleton_self _)

/-- An opening leaves its key on the cycle it returns, unless it joined one;
    then it leaves the contact, if it brings any. -/
theorem createOpenCycle_trace {args : CreateArgs}
    (h : createOpenCycle now fresh args rows = .ok first) :
    (∃ r ∈ first.rows, r.publicId = first.cycle.publicId
        ∧ r.openEventKey = some args.openEventKey ∧ ∀ x, ¬ Joins args rows x)
    ∨ ∃ x contact, Joins args rows x ∧ first.cycle.publicId = x.publicId
        ∧ normalizeContact args.contactExternalId = .ok contact
        ∧ ∃ x' ∈ first.rows, RowLater x x' ∧ (contact = none ∨ ∃ v, x'.digisacContactExternalId = some v) := by
  obtain ⟨contact, hcontact, hbranch⟩ := createOpenCycle_cases h
  rcases hbranch with ⟨d, hd, hkey, hret⟩ | ⟨hnokey, ⟨x, hx, hopen, hjoin⟩ | ⟨hnone, startedAt, -, hret⟩⟩
  · obtain ⟨hrows, -, hid, -⟩ := returning_spec hret
    exact .inl ⟨d, hrows ▸ hd, hid.symm, hkey, fun x hx => hx.2.2 d hd hkey⟩
  · have hjoins : Joins args rows x := ⟨hx, hopen, hnokey⟩
    rcases hjoin with ⟨hcn, hret⟩ | ⟨hsome, hret⟩
    · obtain ⟨hrows, -, hid, -⟩ := returning_spec hret
      exact .inr ⟨x, contact, hjoins, hid, hcontact, x, hrows ▸ hx, .refl x, .inl hcn⟩
    · obtain ⟨hrows, -, hid, -⟩ := returning_spec hret
      have hmem := Table.mem_update_of_mem (p := (·.publicId == x.publicId))
        (f := joinRow now contact) hx
      rw [if_pos (beq_self_eq_true x.publicId)] at hmem
      refine .inr ⟨x, contact, hjoins, hid, hcontact, joinRow now contact x, hrows ▸ hmem,
        joinRow_later now contact x, .inr ?_⟩
      -- COALESCE: the contact of the row, or else the one of the event
      show ∃ v, x.digisacContactExternalId.or contact = some v
      obtain ⟨v, rfl⟩ := Option.isSome_iff_exists.mp hsome
      cases x.digisacContactExternalId with
      | none => exact ⟨v, rfl⟩
      | some w => exact ⟨w, rfl⟩
  · obtain ⟨hrows, -, hid, -⟩ := returning_spec hret
    refine .inl ⟨openRow now fresh args startedAt contact rows, ?_, hid.symm, rfl,
      fun x hx => hnone x hx.1 hx.2.1⟩
    rw [hrows]
    exact List.mem_append_right _ (List.mem_singleton_self _)

/-! ## §3. What the redelivery finds. -/

/-- The row of a unique column. -/
theorem select_unique {κ : Type*} [BEq κ] [LawfulBEq κ] {key : CycleRow → Option κ} {k : κ}
    {r : CycleRow} (hunique : Table.Unique key later) (hr : r ∈ later) (hk : key r = some k) :
    Table.select (fun a => key a == some k) later = some r := by
  cases hsel : Table.select (fun a => key a == some k) later with
  | none =>
      have hne := Table.select_none hsel r hr
      simp [hk] at hne
  | some r₁ =>
      obtain ⟨hmem, hk₁⟩ := Table.select_mem hsel
      rw [hunique.eq_of_key hmem hr (beq_iff_eq.mp hk₁) hk]

/-- Returning a row that is there. -/
theorem returning_of_mem {r : CycleRow} {created : Bool} (hinv : TableInv later)
    (hr : r ∈ later) : returning later r.publicId created = .ok ⟨later, r, created⟩ := by
  unfold returning
  have hsel : Table.select (·.publicId == r.publicId) later = some r := by
    refine Eq.trans ?_ (select_unique hinv.publicIds hr rfl)
    rfl
  rw [hsel]

/-- A closing whose key is in the table is a duplicate. -/
theorem closeCycle_duplicate {args : CloseArgs} {contact : Option String} {closedAt : Timestamp}
    (hinv : TableInv later) (hcontact : normalizeContact args.contactExternalId = .ok contact)
    (hclosedAt : args.closedAt = some closedAt) {r : CycleRow} (hr : r ∈ later)
    (hkey : r.closeEventKey = some args.closeEventKey) :
    closeCycle now delaySeconds fresh args later = .ok ⟨later, r, false⟩ := by
  unfold closeCycle
  have hsel : Table.select (·.closeEventKey == some args.closeEventKey) later = some r :=
    select_unique hinv.closeKeys hr hkey
  simp only [hcontact, hclosedAt, hsel]
  exact returning_of_mem hinv hr

/-- An opening whose key is in the table is a duplicate. -/
theorem createOpenCycle_duplicate {args : CreateArgs} {contact : Option String}
    (hinv : TableInv later) (hcontact : normalizeContact args.contactExternalId = .ok contact)
    {r : CycleRow} (hr : r ∈ later) (hkey : r.openEventKey = some args.openEventKey) :
    createOpenCycle now fresh args later = .ok ⟨later, r, false⟩ := by
  unfold createOpenCycle
  have hsel : Table.select (·.openEventKey == some args.openEventKey) later = some r :=
    select_unique hinv.openKeys hr hkey
  simp only [hcontact, hsel]
  exact returning_of_mem hinv hr

theorem joinRow_forget {r : CycleRow} {v : String} {contact : Option String}
    (hv : r.digisacContactExternalId = some v) : (joinRow now contact r).forget = r.forget := by
  have hsame : r.digisacContactExternalId.or contact = r.digisacContactExternalId := by
    rw [hv, Option.some_or]
  show { r with digisacContactExternalId := r.digisacContactExternalId.or contact, updatedAt := 0 }
    = r.forget
  rw [hsame]
  rfl

/-- Joining the same cycle again only touches `updated_at`: the contact that
    the event brings is filled in already. -/
theorem createOpenCycle_rejoin (now : Timestamp) (fresh : Fresh) {args : CreateArgs} {contact : Option String}
    (hinv : TableInv later) (hcontact : normalizeContact args.contactExternalId = .ok contact)
    {x : CycleRow} (hjoins : Joins args later x)
    (hfilled : contact = none ∨ ∃ v, x.digisacContactExternalId = some v) :
    ∃ result, createOpenCycle now fresh args later = .ok result
      ∧ result.rows.map CycleRow.forget = later.map CycleRow.forget
      ∧ result.cycle.publicId = x.publicId := by
  obtain ⟨hx, hopen, hnokey⟩ := hjoins
  have hkey : Table.select (·.openEventKey == some args.openEventKey) later = none := by
    refine List.find?_eq_none.mpr fun r hr => ?_
    simpa using hnokey r hr
  have hsel : Table.select (·.openConversation == some args.conversationId) later = some x :=
    select_unique hinv.oneOpen hx hopen
  unfold createOpenCycle
  simp only [hcontact, hkey, hsel]
  cases contact with
  | none => exact ⟨_, returning_of_mem hinv hx, rfl, rfl⟩
  | some c =>
      obtain ⟨v, hv⟩ := hfilled.resolve_left (fun hn => nomatch hn)
      have hmem := Table.mem_update_of_mem (p := (·.publicId == x.publicId))
        (f := joinRow now (some c)) hx
      rw [if_pos (beq_self_eq_true x.publicId)] at hmem
      have hinv' := hinv.write (.join now (some c) x.publicId)
      have hret : returning (Table.update (·.publicId == x.publicId) (joinRow now (some c)) later)
          x.publicId false = .ok ⟨_, joinRow now (some c) x, false⟩ :=
        returning_of_mem hinv' hmem
      refine ⟨_, hret, ?_, rfl⟩
      refine Table.map_update_of_mem fun r hr hp => ?_
      -- the updated row is `x` itself
      have heq : r = x := hinv.publicIds.eq_of_key hr hx (congrArg some (beq_iff_eq.mp hp)) rfl
      rw [heq]
      exact joinRow_forget hv

/-! ## §4. Redelivery. -/

variable {s t : CycleState} {ok : CycleState → CycleAction → Prop} {call : TicketCall}

/-- An opening that returns the cycle of `x`, which has not its key, joined it. -/
theorem createOpenCycle_joined {args : CreateArgs} {x x' : CycleRow} (hinv : TableInv later)
    (hx' : x' ∈ later) (hxx' : x'.publicId = x.publicId)
    (hnokey : x'.openEventKey ≠ some args.openEventKey)
    (h : createOpenCycle now fresh args later = .ok result)
    (hid : result.cycle.publicId = x.publicId) :
    (∃ x' ∈ later, x'.publicId = x.publicId ∧ x'.ticketClosedAt = none)
      ∧ ∀ y ∈ later, y.openEventKey ≠ some args.openEventKey := by
  obtain ⟨contact, -, hbranch⟩ := createOpenCycle_cases h
  rcases hbranch with ⟨d, hd, hkey, hret⟩ | ⟨hnone, ⟨y, hy, hopen, hret⟩ | ⟨-, startedAt, hins, hret⟩⟩
  · -- a duplicate: the row with the key is not `x`
    have hdx : d.publicId = x.publicId := (returning_spec hret).2.2.1.symm.trans hid
    have heq : d = x' :=
      hinv.publicIds.eq_of_key hd hx' (congrArg some hdx) (congrArg some hxx')
    exact absurd (heq ▸ hkey) hnokey
  · have hyx : result.cycle.publicId = y.publicId := by
      rcases hret with ⟨-, hret⟩ | ⟨-, hret⟩ <;> exact (returning_spec hret).2.2.1
    exact ⟨⟨y, hy, hyx.symm.trans hid, (openConversation_eq_some.mp hopen).1⟩, hnone⟩
  · -- a new row has a new id
    have hfresh : fresh.publicId = x.publicId := (returning_spec hret).2.2.1.symm.trans hid
    exact absurd (hxx'.trans hfresh.symm) (insertable_spec hins x' hx').2.1

/-- **When a redelivered ticket event is idempotent**: at any later point of
    any run, exactly when the event is still recognised. -/
theorem redelivery_idempotent_iff (hreach : cycleMachine.ReachableWhere ok s)
    (hfirst : call.perform now delaySeconds fresh s.cycles = .ok first)
    (hrun : cycleMachine.RunWhere ok { s with cycles := first.rows } t) :
    Idempotent call first t.cycles ↔ Recognised call s.cycles t.cycles := by
  have hstep : cycleMachine.step s (.ticket now delaySeconds fresh call)
      = some { s with cycles := first.rows } := by
    show cycleStep s (.ticket now delaySeconds fresh call) = some ⟨first.rows, s.claimed⟩
    simp only [cycleStep, hfirst]
  have hreach₁ : cycleMachine.Reachable { s with cycles := first.rows } :=
    hreach.reachable.step trivial hstep
  have hrun : cycleMachine.RunWhere Machine.anyStep { s with cycles := first.rows } t :=
    hrun.mono fun _ _ _ => trivial
  have hinv₀ := (reachable_cycleInv hreach).table
  have hinv := (reachable_cycleInv (hreach₁.run hrun)).table
  cases call with
  | close args =>
      refine iff_of_true ?_ trivial
      obtain ⟨contact, closedAt, hcontact, hclosedAt, -⟩ := closeCycle_cases hfirst
      obtain ⟨r, hr, hid, hclosed, hkey⟩ := closeCycle_trace hinv₀ hfirst
      obtain ⟨r', hr', hlater⟩ := run_later hreach₁ hrun hr
      have hkey' : r'.closeEventKey = some args.closeEventKey :=
        (hlater.closeEventKey hclosed).trans hkey
      intro now delaySeconds fresh
      exact ⟨_, closeCycle_duplicate hinv hcontact hclosedAt hr' hkey', rfl,
        hlater.publicId.trans hid⟩
  | create args =>
      rcases createOpenCycle_trace hfirst with
        ⟨r, hr, hid, hkey, hnojoin⟩ | ⟨x, contact, hjoins, hid, hcontact, x₁, hx₁, hlater₁, hfilled⟩
      · -- the key was recorded
        refine iff_of_true ?_ fun x hx => absurd hx (hnojoin x)
        obtain ⟨contact, hcontact, -⟩ := createOpenCycle_cases hfirst
        obtain ⟨r', hr', hlater⟩ := run_later hreach₁ hrun hr
        intro now delaySeconds fresh
        exact ⟨_, createOpenCycle_duplicate hinv hcontact hr' (hlater.openEventKey.trans hkey), rfl,
          hlater.publicId.trans hid⟩
      · -- the opening joined `x`, which is `x'` by now
        obtain ⟨x', hx', hlater₂⟩ := run_later hreach₁ hrun hx₁
        have hlater := hlater₁.trans hlater₂
        constructor
        · intro hidem y hy
          have hyx : y = x := hinv₀.oneOpen.eq_of_key hy.1 hjoins.1 hy.2.1 hjoins.2.1
          obtain ⟨result, hresult, -, hret⟩ := hidem 0 0 ⟨0, 0⟩
          rw [hyx]
          refine createOpenCycle_joined hinv hx' hlater.publicId ?_ hresult (hret.trans hid)
          rw [hlater.openEventKey]
          exact hjoins.2.2 x hjoins.1
        · intro hrec
          obtain ⟨⟨x₂, hx₂, hx₂x, hopen⟩, hnone⟩ := hrec x hjoins
          have heq : x₂ = x' :=
            hinv.publicIds.eq_of_key hx₂ hx' (congrArg some hx₂x) (congrArg some hlater.publicId)
          have hjoins' : Joins args t.cycles x' := by
            refine ⟨hx', openConversation_eq_some.mpr ⟨heq ▸ hopen, ?_⟩, hnone⟩
            exact hlater.conversationId.trans (openConversation_eq_some.mp hjoins.2.1).2
          have hfilled' : contact = none ∨ ∃ v, x'.digisacContactExternalId = some v := by
            rcases hfilled with hn | ⟨v, hv⟩
            · exact .inl hn
            · exact .inr ⟨v, hlater₂.contact v hv⟩
          intro now delaySeconds fresh
          obtain ⟨result, hresult, hrows, hret⟩ :=
            createOpenCycle_rejoin now fresh hinv hcontact hjoins' hfilled'
          exact ⟨result, hresult, hrows, hret.trans (hlater.publicId.trans hid.symm)⟩

/-! ## §5. Two runs. -/

/-- The events of one conversation: an opening, a second event that says the
    ticket is open, a closing. -/
def opening : TicketCall := .create ⟨"conversation", some 0, "key-1", "ticket_created_event", none⟩

def reopening : TicketCall :=
  .create ⟨"conversation", some 5, "key-2", "ticket_reopened_event", some "contact"⟩

def closing : TicketCall :=
  .close { conversationId := "conversation", protocol := "P-1", closedAt := some 10
           closeEventKey := "key-3", contactExternalId := none }

/-- The delivery of `call` at `now`, with fresh keys `n`. -/
def delivery (now : Timestamp) (n : Nat) (call : TicketCall) : CycleAction :=
  .ticket now 45 ⟨n, 100 + n⟩ call

/-- The test of `ticketsOf`. -/
def isTicketOf (conversationId : String) (_ : CycleState) (a : CycleAction) : Bool :=
  match a with
  | .ticket _ _ _ call => call.conversationId == conversationId
  | _ => false

/-- An evaluated list of deliveries is a run of deliveries. -/
theorem ticketRun_of_exec {conversationId : String} {as : List CycleAction}
    (h : cycleMachine.execWhere (isTicketOf conversationId) s as = some t) :
    cycleMachine.RunWhere (ticketsOf conversationId) s t := by
  refine Machine.runWhere_of_execWhere (I := fun _ => True) ?_ (fun _ _ _ _ _ _ => trivial)
    trivial h
  intro s a _ hcheck
  cases a with
  | ticket now delaySeconds fresh call =>
      exact ⟨now, delaySeconds, fresh, call, rfl, by simpa [isTicketOf] using hcheck⟩
  | claim => cases hcheck
  | work => cases hcheck
  | wake => cases hcheck

/-- The result of a delivery, if it commits. -/
def delivered (now : Timestamp) (n : Nat) (call : TicketCall) (rows : List CycleRow) :
    Option CycleResult :=
  (call.perform now 45 ⟨n, 100 + n⟩ rows).toOption

theorem delivered_eq_some {n : Nat} (h : delivered now n call rows = some result) :
    call.perform now 45 ⟨n, 100 + n⟩ rows = .ok result := by
  unfold delivered at h
  cases hp : call.perform now 45 ⟨n, 100 + n⟩ rows with
  | error e =>
      rw [hp] at h
      cases h
  | ok r =>
      rw [hp] at h
      injection h with h
      rw [h]

/-- A closing is redelivered after the next ticket of the conversation was opened. -/
theorem redelivery_idempotent_closing : ∃ (s t : CycleState) (first : CycleResult),
    closing.perform 10 45 ⟨2, 102⟩ s.cycles = .ok first
      ∧ cycleMachine.exec { s with cycles := first.rows } [delivery 20 3 reopening] = some t
      ∧ t.cycles.length = 2 ∧ Idempotent closing first t.cycles := by
  have hrun : ((cycleMachine.exec ⟨[], []⟩ [delivery 1 1 opening]).bind fun s =>
      (delivered 10 2 closing s.cycles).bind fun first =>
        (cycleMachine.exec { s with cycles := first.rows } [delivery 20 3 reopening]).map
          fun t => t.cycles.length) = some 2 := by
    decide +kernel
  obtain ⟨s, hs, hrun⟩ := Option.bind_eq_some_iff.mp hrun
  obtain ⟨first, hfirst, hrun⟩ := Option.bind_eq_some_iff.mp hrun
  obtain ⟨t, ht, hlength⟩ := Option.map_eq_some_iff.mp hrun
  refine ⟨s, t, first, delivered_eq_some hfirst, ht, hlength, ?_⟩
  exact (redelivery_idempotent_iff (Machine.reachable_of_exec rfl hs) (delivered_eq_some hfirst)
    (Machine.run_of_exec ht)).mpr trivial

/-- **Redelivery is not idempotent.**  The reopening joins the open cycle, and
    its key is stored nowhere; delivered again after the closing it opens a
    second cycle. -/
theorem redelivery_not_idempotent :
    ¬ ∀ (conversationId : String) (s t : CycleState) (call : TicketCall) (first : CycleResult)
        (now : Timestamp) (delaySeconds : Nat) (fresh : Fresh),
      cycleMachine.ReachableWhere (ticketsOf conversationId) s →
      call.conversationId = conversationId →
      call.perform now delaySeconds fresh s.cycles = .ok first →
      cycleMachine.RunWhere (ticketsOf conversationId) { s with cycles := first.rows } t →
      Idempotent call first t.cycles := by
  intro hclaim
  have hrun : ((cycleMachine.execWhere (isTicketOf "conversation") ⟨[], []⟩
      [delivery 1 1 opening]).bind fun s =>
      (delivered 5 2 reopening s.cycles).bind fun first =>
        (cycleMachine.execWhere (isTicketOf "conversation") { s with cycles := first.rows }
          [delivery 10 2 closing]).map fun t =>
            (t.cycles.length, (delivered 20 3 reopening t.cycles).map (·.rows.length)))
      = some (1, some 2) := by
    decide +kernel
  obtain ⟨s, hs, hrun⟩ := Option.bind_eq_some_iff.mp hrun
  obtain ⟨first, hfirst, hrun⟩ := Option.bind_eq_some_iff.mp hrun
  obtain ⟨t, ht, hobs⟩ := Option.map_eq_some_iff.mp hrun
  injection hobs with hbefore hafter
  obtain ⟨again, hagain, hlength⟩ := Option.map_eq_some_iff.mp hafter
  have hidem := hclaim "conversation" s t reopening first 5 45 ⟨2, 102⟩
    ⟨_, rfl, ticketRun_of_exec hs⟩ rfl (delivered_eq_some hfirst) (ticketRun_of_exec ht)
  obtain ⟨result, hresult, hrows, -⟩ := hidem 20 45 ⟨3, 103⟩
  -- the redelivery has two rows where there was one
  have heq : again = result := by
    have hok : (Except.ok again : Except CycleError CycleResult) = .ok result :=
      (delivered_eq_some hagain).symm.trans hresult
    injection hok
  have hsame : result.rows.length = t.cycles.length := by
    rw [← List.length_map CycleRow.forget, hrows, List.length_map]
  rw [heq] at hlength
  omega

end Cai.Cycle
