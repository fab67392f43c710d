/-
  Cai.Identity.Ledger — an administrative command runs once per key.

  A command looks at the ledger twice, before it starts and when its
  reservation meets a row.  Between them it may be overtaken; it is then
  the second look that replays.  A command that has reserved its key is
  alone with it until it commits or raises.

  Main result: `admin_command_once`.
-/
import Cai.Identity.Safety

namespace Cai.Identity

open Cai.Lib
open Cai.Cycle (Timestamp CycleRow)
open Cai.Directory

variable {s t u : IdentityWorld} {a : IdentityAction} {i j : Nat} {key : String}

/-! ## §1. What a step does to the commands and the ledger. -/

/-- A step of an administrative command. -/
def IdentityAction.isCommand : IdentityAction → Bool
  | .call _ | .lookup _ | .reserve _ | .finish .. | .abort .. => true
  | _ => false

/-- The commands, the ledger and the commits are as before. -/
structure SameCommands (s t : IdentityWorld) : Prop where
  commands : t.commands = s.commands
  ledger : t.ledger = s.ledger
  committed : t.committed = s.committed

/-- The steps of the commands, and the others. -/
inductive CommandStep (s : IdentityWorld) : IdentityAction → IdentityWorld → Prop
  | other (a : IdentityAction) (t : IdentityWorld) (ha : a.isCommand = false)
      (h : SameCommands s t) : CommandStep s a t
  | called (call : AdminCall) :
      CommandStep s (.call call) { s with commands := s.commands ++ [s.firstPhase call] }
  /-- A command proceeds and holds no key. -/
  | proceeded (a : IdentityAction) (i : Nat) (phase : CommandPhase)
      (hfree : ∀ key, phase.holds key = false) : CommandStep s a (s.proceed i phase)
  | reserved (i : Nat) (call : AdminCall) (contactId : Nat) (companyId : Option Nat)
      (halone : s.commands.any (·.holds call.idempotencyKey) = false)
      (hnone : s.ledger.find? call.idempotencyKey = none) :
      CommandStep s (.reserve i) (s.proceed i (.reserved call contactId companyId))
  | committed (i : Nat) (now clock : Timestamp) (call : AdminCall) (contactId : Nat)
      (companyId : Option Nat) (hphase : s.commands[i]? = some (.reserved call contactId companyId))
      (after : IdentityTables) (result : AdminResult)
      (hperform : performCommand now clock call.toAdminRequest contactId companyId s.tables
        = .ok (after, result))
      (row : CommandColumns) (hrequest : row.request = call.toAdminRequest)
      (hresult : row.result = some result) :
      CommandStep s (.finish i now clock)
        { s with
          tables := after
          ledger := s.ledger.insertNew call.idempotencyKey row
          commands := s.commands.set i (.done call (.returned false result))
          committed := s.committed ++ [⟨call.idempotencyKey, call.toAdminRequest, result⟩] }

theorem identityStep_commands (h : identityStep s a = some t) : CommandStep s a t := by
  cases a with
  | discover | resolve | confirm | confirmByExternalIds | reject =>
      obtain rfl := Option.some.inj h
      exact .other _ _ rfl ⟨IdentityWorld.commands_transact s _, IdentityWorld.ledger_transact s _,
        IdentityWorld.committed_transact s _⟩
  | environment =>
      simp only [identityStep, Option.ite_none_right_eq_some] at h
      obtain ⟨-, h⟩ := h
      obtain rfl := Option.some.inj h
      exact .other _ _ rfl ⟨rfl, rfl, rfl⟩
  | call call =>
      obtain rfl := Option.some.inj h
      exact .called call
  | lookup i =>
      unfold identityStep at h
      simp only at h
      split at h
      next call hi =>
        obtain rfl := Option.some.inj h
        refine .proceeded _ i _ fun key => ?_
        split <;> rfl
      next => cases h
  | reserve i =>
      unfold identityStep at h
      simp only at h
      split at h
      next call contactId companyId hi =>
        unfold IdentityWorld.reserveCommand at h
        split at h
        next => cases h
        next halone =>
          split at h
          next =>
            obtain rfl := Option.some.inj h
            exact .proceeded _ i _ fun key => rfl
          next hnone =>
            obtain rfl := Option.some.inj h
            exact .reserved i call contactId companyId (by simpa using halone) hnone
      next => cases h
  | finish i now clock =>
      unfold identityStep at h
      simp only at h
      split at h
      next call contactId companyId hi =>
        obtain rfl := Option.some.inj h
        unfold IdentityWorld.finishCommand
        split
        next => exact .proceeded _ i _ fun key => rfl
        next after result hperform =>
          exact .committed i now clock call contactId companyId hi after result hperform _ rfl rfl
      next => cases h
  | abort i error =>
      unfold identityStep at h
      simp only at h
      split at h
      next => cases h
      next =>
        obtain rfl := Option.some.inj h
        exact .proceeded _ i _ fun key => rfl
      next => cases h

/-! ## §2. The invariant. -/

/-- Command number `i` holds the key. -/
def Holds (s : IdentityWorld) (i : Nat) (key : String) : Prop :=
  ∃ phase, s.commands[i]? = some phase ∧ phase.holds key = true

/-- What the ledger keeps of a commit. -/
def Committed.entry (c : Committed) : String × AdminRequest × Option AdminResult :=
  (c.idempotencyKey, c.request, some c.result)

/-- **The invariant**: the ledger has exactly the committed commands, and a
    key that is held is held once and is not in the ledger. -/
structure LedgerInv (s : IdentityWorld) : Prop where
  ledger : s.ledger.rows.map (fun e => (e.key, e.value.request, e.value.result))
    = s.committed.map Committed.entry
  alone : ∀ i j key, Holds s i key → Holds s j key → i = j
  unused : ∀ i key, Holds s i key → s.ledger.find? key = none

/-- A key that is held after a command proceeds without one was held before. -/
theorem holds_of_set {phase : CommandPhase} (hfree : phase.holds key = false)
    (hset : t.commands = s.commands.set i phase) (h : Holds t j key) : j ≠ i ∧ Holds s j key := by
  obtain ⟨p, hp, hholds⟩ := h
  rw [hset] at hp
  by_cases hj : j = i
  · subst hj
    have hlen : j < s.commands.length := by
      simpa using (List.getElem?_eq_some_iff.mp hp).1
    rw [List.getElem?_set_self hlen] at hp
    obtain rfl := Option.some.inj hp
    rw [hfree] at hholds
    cases hholds
  · rw [List.getElem?_set_ne (Ne.symm hj)] at hp
    exact ⟨hj, p, hp, hholds⟩

theorem firstPhase_holds (s : IdentityWorld) (call : AdminCall) (key : String) :
    (s.firstPhase call).holds key = false := by
  unfold IdentityWorld.firstPhase
  split
  next => rfl
  next => split <;> rfl

/-- A key is held by one of the commands. -/
theorem Holds.any (h : Holds s i key) : s.commands.any (·.holds key) = true := by
  obtain ⟨phase, hphase, hholds⟩ := h
  exact List.any_eq_true.mpr ⟨phase, List.mem_of_getElem? hphase, hholds⟩

/-- **One step keeps the invariant.** -/
theorem LedgerInv.step (hinv : LedgerInv s) (h : CommandStep s a t) : LedgerInv t := by
  cases h with
  | other a t _ h =>
      have hholds : ∀ i key, Holds t i key → Holds s i key := by
        rintro i key ⟨phase, hphase, hkey⟩
        rw [h.commands] at hphase
        exact ⟨phase, hphase, hkey⟩
      refine ⟨?_, fun i j key hi hj => hinv.alone i j key (hholds i key hi) (hholds j key hj), ?_⟩
      · rw [h.ledger, h.committed]
        exact hinv.ledger
      · intro i key hi
        rw [h.ledger]
        exact hinv.unused i key (hholds i key hi)
  | called call =>
      have hholds : ∀ i key, Holds { s with commands := s.commands ++ [s.firstPhase call] } i key →
          Holds s i key := by
        rintro i key ⟨phase, hphase, hkey⟩
        have hphase : (s.commands ++ [s.firstPhase call])[i]? = some phase := hphase
        by_cases hi : i < s.commands.length
        · rw [List.getElem?_append_left hi] at hphase
          exact ⟨phase, hphase, hkey⟩
        · rw [List.getElem?_append_right (Nat.le_of_not_lt hi)] at hphase
          have hmem : phase ∈ [s.firstPhase call] := List.mem_of_getElem? hphase
          rw [List.mem_singleton.mp hmem, firstPhase_holds] at hkey
          cases hkey
      exact ⟨hinv.ledger, fun i j key hi hj => hinv.alone i j key (hholds i key hi) (hholds j key hj),
        fun i key hi => hinv.unused i key (hholds i key hi)⟩
  | proceeded a i phase hfree =>
      have hholds : ∀ j key, Holds (s.proceed i phase) j key → Holds s j key :=
        fun j key hj => (holds_of_set (hfree key) rfl hj).2
      exact ⟨hinv.ledger, fun i j key hi hj => hinv.alone i j key (hholds i key hi) (hholds j key hj),
        fun i key hi => hinv.unused i key (hholds i key hi)⟩
  | reserved i call contactId companyId halone hnone =>
      -- the only key that is new is that of command `i`
      have hholds : ∀ j key, Holds (s.proceed i (.reserved call contactId companyId)) j key →
          (j = i ∧ key = call.idempotencyKey) ∨ (Holds s j key ∧ key ≠ call.idempotencyKey) := by
        intro j key hj
        by_cases hkey : key = call.idempotencyKey
        · by_cases hji : j = i
          · exact .inl ⟨hji, hkey⟩
          · obtain ⟨p, hp, hpkey⟩ := hj
            have hp : (s.commands.set i (.reserved call contactId companyId))[j]? = some p := hp
            rw [List.getElem?_set_ne (Ne.symm hji)] at hp
            have hany := Holds.any ⟨p, hp, hpkey⟩
            rw [hkey, halone] at hany
            cases hany
        · have hfree : (CommandPhase.reserved call contactId companyId).holds key = false := by
            show (call.idempotencyKey == key) = false
            simpa using Ne.symm hkey
          exact .inr ⟨(holds_of_set hfree rfl hj).2, hkey⟩
      refine ⟨hinv.ledger, ?_, ?_⟩
      · intro j k key hj hk
        rcases hholds j key hj with ⟨rfl, hkey⟩ | ⟨hj, hne⟩ <;>
          rcases hholds k key hk with ⟨rfl, hkey'⟩ | ⟨hk, hne'⟩
        · rfl
        · exact absurd hkey hne'
        · exact absurd hkey' hne
        · exact hinv.alone j k key hj hk
      · intro j key hj
        rcases hholds j key hj with ⟨-, rfl⟩ | ⟨hj, -⟩
        · exact hnone
        · exact hinv.unused j key hj
  | committed i now clock call contactId companyId hphase after result _ row hrequest hresult =>
      have hself : Holds s i call.idempotencyKey := ⟨_, hphase, by simp [CommandPhase.holds]⟩
      have hnone : s.ledger.find? call.idempotencyKey = none := hinv.unused i _ hself
      refine ⟨?_, ?_, ?_⟩
      · rw [Keyed.rows_insertNew hnone, List.map_append, List.map_append, hinv.ledger]
        simp [Committed.entry, hrequest, hresult]
      · intro j k key hj hk
        exact hinv.alone j k key (holds_of_set rfl rfl hj).2 (holds_of_set rfl rfl hk).2
      · intro j key hj
        have hfree : (CommandPhase.done call (.returned false result)).holds key = false := rfl
        obtain ⟨hji, hj⟩ := holds_of_set hfree rfl hj
        have hne : key ≠ call.idempotencyKey := by
          rintro rfl
          exact hji (hinv.alone j i _ hj hself)
        show (s.ledger.insertNew call.idempotencyKey row).find? key = none
        rw [Keyed.find?_insertNew_ne hne]
        exact hinv.unused j key hj

theorem reachable_ledgerInv {ok : IdentityWorld → IdentityAction → Prop}
    (h : identityMachine.ReachableWhere ok s) : LedgerInv s := by
  refine h.invariant ?_ fun s a t hinv _ hstep => hinv.step (identityStep_commands hstep)
  rintro s ⟨-, -, -, -, hledger, hcommands, hcommitted⟩
  have hholds : ∀ i key, ¬ Holds s i key := by
    rintro i key ⟨phase, hphase, -⟩
    rw [hcommands] at hphase
    cases hphase
  refine ⟨?_, fun i j key hi => absurd hi (hholds i key), fun i key hi => absurd hi (hholds i key)⟩
  rw [hledger, hcommitted]
  rfl

/-! ## §3. What a commit leaves behind. -/

/-- The answer to a command under the key of a commit. -/
def Committed.reply (c : Committed) (request : AdminRequest) : Outcome :=
  if c.request ≠ request then .raised .incompatibleCommand else .returned true c.result

/-- The ledger's row of a commit. -/
theorem LedgerInv.find? (hinv : LedgerInv s) {c : Committed} (hc : c ∈ s.committed) :
    ∃ row, s.ledger.find? c.idempotencyKey = some row
      ∧ row.value.request = c.request ∧ row.value.result = some c.result := by
  have hmem : c.entry ∈ s.ledger.rows.map fun e => (e.key, e.value.request, e.value.result) := by
    rw [hinv.ledger]
    exact List.mem_map_of_mem hc
  obtain ⟨row, hrow, hentry⟩ := List.mem_map.mp hmem
  injection hentry with hkey hentry
  injection hentry with hrequest hresult
  exact ⟨row, Keyed.find?_eq_some_iff.mpr ⟨hrow, hkey⟩, hrequest, hresult⟩

/-- A key without a commit has no row. -/
theorem LedgerInv.find?_none (hinv : LedgerInv s)
    (hnone : ∀ c ∈ s.committed, c.idempotencyKey ≠ key) : s.ledger.find? key = none := by
  refine Option.eq_none_iff_forall_ne_some.mpr fun row hrow => ?_
  have hmem : (row.key, row.value.request, row.value.result)
      ∈ s.committed.map Committed.entry := by
    rw [← hinv.ledger]
    exact List.mem_map_of_mem (Keyed.mem_of_find? hrow)
  obtain ⟨c, hc, hentry⟩ := List.mem_map.mp hmem
  injection hentry with hkey _
  exact hnone c hc (hkey.trans (Keyed.key_of_find? hrow))

/-- The keys of the commits are those of the ledger. -/
theorem LedgerInv.nodup (hinv : LedgerInv s) : (s.committed.map (·.idempotencyKey)).Nodup := by
  have hkeys : s.committed.map (·.idempotencyKey) = s.ledger.rows.map (·.key) := by
    have hmap := congrArg (List.map Prod.fst) hinv.ledger
    simpa [List.map_map, Function.comp_def, Committed.entry] using hmap.symm
  rw [hkeys]
  exact s.ledger.keys

/-- The reply is what the replay of the row gives. -/
theorem LedgerInv.replay (hinv : LedgerInv s) {c : Committed} (hc : c ∈ s.committed) :
    ∃ row, s.ledger.find? c.idempotencyKey = some row
      ∧ ∀ request, adminCommandReplay row.value request = c.reply request := by
  obtain ⟨row, hrow, hrequest, hresult⟩ := hinv.find? hc
  refine ⟨row, hrow, fun request => ?_⟩
  unfold adminCommandReplay Committed.reply
  rw [hrequest, hresult]

/-- A commit is never lost. -/
theorem CommandStep.committed_mono (h : CommandStep s a t) {c : Committed} (hc : c ∈ s.committed) :
    c ∈ t.committed := by
  cases h with
  | other a t _ h => rw [h.committed]; exact hc
  | called | proceeded | reserved => exact hc
  | committed => exact List.mem_append_left _ hc

/-- The tables, the ledger and the commits are as before. -/
structure NothingChanged (s t : IdentityWorld) : Prop where
  tables : t.tables = s.tables
  ledger : t.ledger = s.ledger
  committed : t.committed = s.committed

/-- A step of a command changes nothing, or it is the one that commits. -/
def CommitsOnce (s : IdentityWorld) (a : IdentityAction) (t : IdentityWorld) : Prop :=
  NothingChanged s t ∨ ∃ i now clock call contactId companyId result,
    a = .finish i now clock ∧ s.commands[i]? = some (.reserved call contactId companyId)
      ∧ performCommand now clock call.toAdminRequest contactId companyId s.tables
        = .ok (t.tables, result)
      ∧ t.commands[i]? = some (.done call (.returned false result))
      ∧ t.committed = s.committed ++ [⟨call.idempotencyKey, call.toAdminRequest, result⟩]

/-- Command number `i` raises in the step. -/
def Raises (s t : IdentityWorld) (i : Nat) : Prop :=
  s.commands[i]? ≠ t.commands[i]? ∧ ∃ call e, t.commands[i]? = some (.done call (.raised e))

/-- A command proceeds, and nothing else happens. -/
theorem nothingChanged_proceed (s : IdentityWorld) (i : Nat) (phase : CommandPhase) :
    NothingChanged s (s.proceed i phase) :=
  ⟨rfl, rfl, rfl⟩

theorem CommandStep.commitsOnce (h : CommandStep s a t) (ha : a.isCommand = true) :
    CommitsOnce s a t := by
  cases h with
  | other a t hother => rw [ha] at hother; cases hother
  | called => exact .inl ⟨rfl, rfl, rfl⟩
  | proceeded a i phase => exact .inl (nothingChanged_proceed s i phase)
  | reserved i call contactId companyId =>
      exact .inl (nothingChanged_proceed s i (.reserved call contactId companyId))
  | committed i now clock call contactId companyId hphase after result hperform row =>
      have hlen : i < s.commands.length := (List.getElem?_eq_some_iff.mp hphase).1
      refine .inr ⟨i, now, clock, call, contactId, companyId, result, rfl, hphase, hperform, ?_, rfl⟩
      exact List.getElem?_set_self hlen

/-- **A command that raises changes nothing.** -/
theorem CommandStep.raises (h : CommandStep s a t) (hraises : Raises s t i) :
    NothingChanged s t := by
  obtain ⟨hnew, raised, e, hraised⟩ := hraises
  cases h with
  | other a t _ h => exact absurd (by rw [h.commands]) hnew
  | called => exact ⟨rfl, rfl, rfl⟩
  | proceeded a i phase => exact nothingChanged_proceed s i phase
  | reserved i call contactId companyId =>
      exact nothingChanged_proceed s i (.reserved call contactId companyId)
  | committed j now clock call contactId companyId hphase after result _ row =>
      -- the one command that moves has returned
      have hset : (s.commands.set j (.done call (.returned false result)))[i]?
          = some (.done raised (.raised e)) := hraised
      by_cases hj : j = i
      · subst hj
        rw [List.getElem?_set_self (List.getElem?_eq_some_iff.mp hphase).1] at hset
        injection hset with hset
        injection hset with _ hset
        cases hset
      · refine absurd ?_ hnew
        show s.commands[i]? = (s.commands.set j _)[i]?
        rw [List.getElem?_set_ne hj]

/-- What the commit does to the commands that come under its key. -/
structure Replies (c : Committed) (t : IdentityWorld) : Prop where
  /-- A command that is called now is answered at once. -/
  called : ∀ call checked, checkCall call = .ok checked →
    checked.idempotencyKey = c.idempotencyKey → identityStep t (.call call)
      = some { t with commands := t.commands ++ [.done checked (c.reply checked.toAdminRequest)] }
  /-- One that was overtaken is answered when it comes to reserve the key. -/
  overtaken : ∀ i call contactId companyId,
    t.commands[i]? = some (.found call contactId companyId) →
      call.idempotencyKey = c.idempotencyKey → identityStep t (.reserve i)
        = some (t.proceed i (.done call (c.reply call.toAdminRequest)))

theorem LedgerInv.replies (hinv : LedgerInv s) {c : Committed} (hc : c ∈ s.committed) :
    Replies c s := by
  obtain ⟨row, hrow, hreply⟩ := hinv.replay hc
  constructor
  · intro call checked hchecked hkey
    rw [← hkey] at hrow
    show some { s with commands := s.commands ++ [s.firstPhase call] } = _
    unfold IdentityWorld.firstPhase
    simp only [hchecked, hrow, hreply]
  · intro i call contactId companyId hi hkey
    have hfree : s.commands.any (·.holds call.idempotencyKey) = false := by
      refine Bool.eq_false_iff.mpr fun hany => ?_
      obtain ⟨phase, hphase, hholds⟩ := List.any_eq_true.mp hany
      obtain ⟨j, hj⟩ := List.mem_iff_getElem?.mp hphase
      have hunused := hinv.unused j call.idempotencyKey ⟨phase, hj, hholds⟩
      rw [hkey, hrow] at hunused
      cases hunused
    rw [← hkey] at hrow
    unfold identityStep
    simp only [hi]
    unfold IdentityWorld.reserveCommand
    simp only [hfree, hrow, hreply, Bool.false_eq_true, if_false]

/-- **An administrative command runs at most once per key**: no two commits
    have a key in common; a step of a command changes the tables and the
    ledger only where it commits, and not where it raises; a key without a
    commit has no row; and from a commit on, every command under its key is
    answered with the stored result, or with a conflict where its request is
    another one, and changes nothing. -/
theorem admin_command_once {s : IdentityWorld} (h : identityMachine.Reachable s) :
    (s.committed.map (·.idempotencyKey)).Nodup
      ∧ (∀ a t, identityStep s a = some t →
          (a.isCommand = true → CommitsOnce s a t) ∧ ∀ i, Raises s t i → NothingChanged s t)
      ∧ (∀ key, (∀ c ∈ s.committed, c.idempotencyKey ≠ key) → s.ledger.find? key = none)
      ∧ ∀ c ∈ s.committed, ∀ t, identityMachine.RunWhere Machine.anyStep s t →
          c ∈ t.committed ∧ Replies c t := by
  have hinv : LedgerInv s := reachable_ledgerInv h
  refine ⟨hinv.nodup, fun a t hstep => ?_, fun key => hinv.find?_none, fun c hc t hrun => ?_⟩
  · have hcommand := identityStep_commands hstep
    exact ⟨hcommand.commitsOnce, fun i => hcommand.raises⟩
  · have hkept : c ∈ t.committed :=
      h.stable (P := fun t => c ∈ t.committed) hc hrun
        fun s a t _ hc _ hstep => (identityStep_commands hstep).committed_mono hc
    exact ⟨hkept, (reachable_ledgerInv (h.run hrun)).replies hkept⟩

/-- The confirmation of `confirmSecond`, and one of the other company under
    its key. -/
def confirmation (company : String) : AdminCall :=
  ⟨⟨.confirmation company "checked", "contact-1"⟩, "key-1"⟩

/-- After `confirmSecond`, the same command returns the stored result, and
    one for the other company is a conflict. -/
theorem admin_command_once_second :
    ∃ s c, identityMachine.Reachable s ∧ s.committed = [c]
      ∧ identityStep s (.call (confirmation "company-2")) = some { s with
          commands := s.commands ++ [.done (confirmation "company-2") (.returned true c.result)] }
      ∧ identityStep s (.call (confirmation "company-1")) = some { s with
          commands := s.commands ++ [.done (confirmation "company-1")
            (.raised .incompatibleCommand)] } := by
  have hrun : (identityMachine.exec {} confirmSecond).map
      (fun s => s.committed.map fun c => (c.idempotencyKey, c.request))
      = some [("key-1", (confirmation "company-2").toAdminRequest)] := by decide +kernel
  obtain ⟨s, hexec, hobs⟩ := Option.map_eq_some_iff.mp hrun
  have hreach : identityMachine.Reachable s :=
    Machine.reachable_of_exec ⟨rfl, rfl, rfl, rfl, rfl, rfl, rfl⟩ hexec
  obtain ⟨c, hc, hkey⟩ := List.map_eq_singleton_iff.mp hobs
  injection hkey with hkey hrequest
  have honce := (admin_command_once hreach).2.2.2 c (by rw [hc]; exact List.mem_singleton_self c)
    s .refl
  refine ⟨s, c, hreach, hc, ?_, ?_⟩
  · have hreply : c.reply (confirmation "company-2").toAdminRequest = .returned true c.result :=
      if_neg (by rw [hrequest]; decide)
    rw [honce.2.called _ (confirmation "company-2") (by decide +kernel) hkey.symm, hreply]
  · have hreply : c.reply (confirmation "company-1").toAdminRequest = .raised .incompatibleCommand :=
      if_pos (by rw [hrequest]; decide)
    rw [honce.2.called _ (confirmation "company-1") (by decide +kernel) hkey.symm, hreply]

end Cai.Identity
