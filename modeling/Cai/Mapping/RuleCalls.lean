/-
  Cai.Mapping.RuleCalls — the calls of `configure_department_mapping`.

  A call that returns has done one of five things (`Configured`).  The
  checks before the statements rule the silent branch of `_transition` out:
  its key is unused, or it is the derived key of a rule that is being
  retired, and an active rule has no transition to `inactive` yet.

  The machine runs the calls in any order, each as one transaction.  A call
  that raises changes nothing, and so does one that loses the race for its
  operation key to a call for another department.

  Main result: `rule_history_wellFormed`.
-/
import Cai.Lib.Transition
import Cai.Mapping.RuleHistory

namespace Cai.Mapping

open Cai.Lib
open Cai.Cycle (Timestamp pgBlank)

/-! ## §1. What a call does. -/

variable {sha256 : String → String} {now clock : Timestamp} {r : ConfigureRequest}
  {call : ConfigureCall} {db after : RuleTables} {rule e : Rule} {f : RuleColumns → RuleColumns}
  {d key target reason : String} {actor : Option String} {t : RuleTransition}
  {fromState : Option RuleState} {toState : RuleState} {ruleId : Nat}
  {transitions transitions' : Keyed String RuleTransition}

/-- `_transition` inserts a row, or has found the very row it would insert. -/
theorem transition_cases
    (h : transition now transitions ruleId fromState toState reason key actor = .ok transitions') :
    (transitions.find? key = none ∧ transitions'
        = transitions.insertNew key { ruleId, fromState, toState, reason, actor, createdAt := now })
      ∨ (transitions' = transitions ∧ ∃ e ∈ transitions.rows, e.value.ruleId = ruleId
          ∧ e.value.toState = toState) := by
  unfold transition at h
  obtain ⟨-, -, h⟩ := bind_eq_ok_iff.mp h
  split at h
  next hnone => exact .inl ⟨hnone, (pure_eq_ok_iff.mp h).symm⟩
  next existing hsome =>
    obtain ⟨_, hcheck, h⟩ := bind_eq_ok_iff.mp h
    have hsame := require_eq_ok_iff.mp hcheck
    simp only [Prod.mk.injEq] at hsame
    exact .inr ⟨(pure_eq_ok_iff.mp h).symm, existing, Keyed.mem_of_find? hsome, hsame.1,
      hsame.2.1⟩

/-- Under a key no transition has, `_transition` inserts its row. -/
theorem transition_fresh (hfresh : transitions.find? key = none)
    (h : transition now transitions ruleId fromState toState reason key actor = .ok transitions') :
    transitions' = transitions.insertNew key
      { ruleId, fromState, toState, reason, actor, createdAt := now } := by
  unfold transition at h
  obtain ⟨-, -, h⟩ := bind_eq_ok_iff.mp h
  rw [hfresh] at h
  exact (pure_eq_ok_iff.mp h).symm

/-- A call that replays nothing finds its key unused. -/
theorem find?_of_not_replayed (hinv : RuleInv db) (h : replayed db key = none) :
    db.transitions.find? key = none := by
  unfold replayed at h
  cases hfind : db.transitions.find? key with
  | none => rfl
  | some t =>
      obtain ⟨rule, hrule, hid⟩ := hinv.owned t (Keyed.mem_of_find? hfind)
      rw [hfind, Option.bind_some, ← hid, Keyed.byId?_of_mem hrule] at h
      cases h

/-- The UPDATE that retires a rule: the state goes, the target stays. -/
structure Retires (f : RuleColumns → RuleColumns) : Prop where
  state : ∀ c, (f c).state = .inactive
  target : ∀ c, (f c).acessoriasDepartmentExternalId = c.acessoriasDepartmentExternalId

/-- What a call that returns has done to the tables, and the row it returns. -/
inductive Configured (now : Timestamp) (r : ConfigureRequest) (key : String) (db : RuleTables) :
    RuleTables → Rule → Prop
  | replayed (replay : RuleTransition × Rule) (hreplay : replayed db key = some replay)
      (hmatch : ReplayMatches r replay) : Configured now r key db db replay.2
  /-- The rule is already in the requested state. -/
  | noted (rule : Rule) (hrule : rule ∈ db.rules.rows) (hd : rule.key.1 = r.digisacId)
      (hstate : rule.value.state = .requested r.active)
      (htarget : r.active = true → ∀ target ∈ r.targetId, rule.target = target)
      (hnone : r.active = false → activeRule db.rules r.digisacId = none)
      (hfresh : db.transitions.find? key = none) :
      Configured now r key db
        (db.changeRule rule id key
          ⟨rule.id, some rule.value.state, .requested r.active, r.reason, r.actor, now⟩) rule
  | retired (rule : Rule) (hactive : r.active = false)
      (hcurrent : activeRule db.rules r.digisacId = some rule) (f : RuleColumns → RuleColumns)
      (hf : Retires f) (hfresh : db.transitions.find? key = none) :
      Configured now r key db
        (db.changeRule rule f key
          ⟨rule.id, some .active, .inactive, r.reason, r.actor, now⟩)
        { rule with value := f rule.value }
  | created (columns : RuleColumns) (hstate : columns.state = .requested r.active)
      (htarget : ∀ target ∈ r.targetId, columns.acessoriasDepartmentExternalId = target)
      (hgiven : r.targetId ≠ none)
      (hnone : activeRule db.rules r.digisacId = none)
      (hkey : db.rules.find? (r.digisacId, nextVersion db.rules r.digisacId) = none)
      (hfresh : db.transitions.find? key = none) :
      Configured now r key db
        (db.addRule (r.digisacId, nextVersion db.rules r.digisacId) columns key
          ⟨db.rules.freshId, none, .requested r.active, r.reason, r.actor, now⟩)
        ⟨db.rules.freshId, (r.digisacId, nextVersion db.rules r.digisacId), columns⟩
  /-- The active rule is retired, under a key of its own, and a new one created. -/
  | replaced (old : Rule) (hactive : r.active = true)
      (hcurrent : activeRule db.rules r.digisacId = some old) (f : RuleColumns → RuleColumns)
      (hf : Retires f) (retireKey : String)
      (hretireKey : db.transitions.find? retireKey = none)
      (hfresh : db.transitions.find? key = none) (hne : key ≠ retireKey) (mid : RuleTables)
      (hmid : mid = db.changeRule old f retireKey
        ⟨old.id, some .active, .inactive, "mapping_replaced", r.actor, now⟩)
      (columns : RuleColumns) (hstate : columns.state = .active)
      (htarget : ∀ target ∈ r.targetId, columns.acessoriasDepartmentExternalId = target)
      (hgiven : r.targetId ≠ none)
      (hnone : activeRule mid.rules r.digisacId = none)
      (hkey : mid.rules.find? (r.digisacId, nextVersion mid.rules r.digisacId) = none) :
      Configured now r key db
        (mid.addRule (r.digisacId, nextVersion mid.rules r.digisacId) columns key
          ⟨mid.rules.freshId, none, .active, r.reason, r.actor, now⟩)
        ⟨mid.rules.freshId, (r.digisacId, nextVersion mid.rules r.digisacId), columns⟩

/-- A rule that is already in the requested state is left alone, and the
    call is noted. -/
theorem Configured.unchanged {state : RuleState} (rule : Rule) (hrule : rule ∈ db.rules.rows)
    (hd : rule.key.1 = r.digisacId) (hstate : rule.value.state = state)
    (hreq : RuleState.requested r.active = state)
    (htarget : r.active = true → ∀ target ∈ r.targetId, rule.target = target)
    (hnone : r.active = false → activeRule db.rules r.digisacId = none)
    (hfresh : db.transitions.find? key = none) :
    Configured now r key db
      { db with
        transitions := db.transitions.insertNew key
          ⟨rule.id, some state, state, r.reason, r.actor, now⟩ } rule := by
  have hnoted : Configured now r key db _ rule :=
    .noted rule hrule hd (hstate.trans hreq.symm) htarget hnone hfresh
  rw [hreq, hstate] at hnoted
  unfold RuleTables.changeRule at hnoted
  rw [Keyed.modifyId_id] at hnoted
  exact hnoted

/-- What `createRule` wrote. -/
theorem createRule_cases {state : RuleState} (hfresh : db.transitions.find? key = none)
    (h : createRule now r key target state db = .ok (after, rule)) :
    ∃ columns : RuleColumns, columns.state = state
      ∧ columns.acessoriasDepartmentExternalId = target
      ∧ db.rules.find? (r.digisacId, nextVersion db.rules r.digisacId) = none
      ∧ after = db.addRule (r.digisacId, nextVersion db.rules r.digisacId) columns key
          ⟨db.rules.freshId, none, state, r.reason, r.actor, now⟩
      ∧ rule = ⟨db.rules.freshId, (r.digisacId, nextVersion db.rules r.digisacId), columns⟩ := by
  unfold createRule at h
  obtain ⟨⟨rules, row⟩, hinsert, h⟩ := bind_eq_ok_iff.mp h
  obtain ⟨transitions, htransition, h⟩ := bind_eq_ok_iff.mp h
  obtain ⟨rfl, rfl⟩ := Prod.mk.inj (pure_eq_ok_iff.mp h)
  unfold insertRule at hinsert
  simp only at hinsert
  split at hinsert
  next hchecks =>
    obtain ⟨rfl, rfl⟩ := Prod.mk.inj (Except.ok.inj hinsert)
    rw [transition_fresh hfresh htransition]
    exact ⟨_, rfl, rfl, hchecks.2.2.1, rfl, rfl⟩
  next => cases hinsert

/-- The derived key of the replaced rule is another key. -/
theorem ne_append_deactivate (key : String) : key ≠ key ++ ":deactivate" := by
  intro h
  have hlen : key.length = (key ++ ":deactivate").length := congrArg String.length h
  rw [String.length_append] at hlen
  have hpos : ":deactivate".length = 11 := by decide
  omega

/-- After the active rule of a department is retired, the department has none. -/
theorem activeRule_retired (hinv : RuleInv db) (hcurrent : activeRule db.rules d = some rule)
    (hf : ∀ c, (f c).state = .inactive) :
    activeRule (db.rules.modifyId rule.id f) d = none := by
  obtain ⟨hrule, hd, hactive⟩ := activeRule_some hcurrent
  refine activeRule_eq_none_iff.mpr fun e he hed => ?_
  rcases changeRule_cases hrule he with ⟨he, hne⟩ | rfl
  · cases hstate : e.value.state with
    | inactive => rfl
    | active =>
        have heq : e = rule := hinv.oneActive e he rule hrule (hed.trans hd.symm) hstate hactive
        exact absurd (congrArg (·.id) heq) hne
  · exact hf _

/-- An active rule has no transition to `inactive`. -/
theorem not_retired (hinv : RuleInv db) (hrule : rule ∈ db.rules.rows)
    (hactive : rule.value.state = .active) :
    ¬ ∃ t ∈ db.transitions.rows, t.value.ruleId = rule.id ∧ t.value.toState = .inactive := by
  rintro ⟨t, ht, hid, hto⟩
  rw [hinv.retired t ht hto rule hrule hid.symm] at hactive
  cases hactive

/-- The branch `if active`. -/
theorem activate_cases (hinv : RuleInv db) (hactive : r.active = true)
    (htarget : r.targetId.or ((activeRule db.rules r.digisacId).map (·.target)) = some target)
    (hfresh : db.transitions.find? key = none)
    (h : activate now r key target (activeRule db.rules r.digisacId) db = .ok (after, rule)) :
    Configured now r key db after rule := by
  have hgiven : ∀ asked ∈ r.targetId, target = asked := by
    intro asked hasked
    rw [Option.mem_def] at hasked
    rw [hasked, Option.some_or] at htarget
    exact (Option.some.inj htarget).symm
  cases hcurrent : activeRule db.rules r.digisacId with
  | none =>
      rw [hcurrent] at h
      obtain ⟨columns, hstate, hcol, hkey, rfl, rfl⟩ := createRule_cases hfresh h
      have hsome : r.targetId ≠ none := by
        intro hnone
        rw [hnone, hcurrent] at htarget
        cases htarget
      have hreq : RuleState.requested r.active = .active := by rw [hactive]; rfl
      rw [← hreq]
      exact .created columns (hstate.trans hreq.symm) (fun asked ha => hcol.trans (hgiven asked ha))
        hsome hcurrent hkey hfresh
  | some current =>
      obtain ⟨hrule, hd, hstate⟩ := activeRule_some hcurrent
      rw [hcurrent] at h
      unfold activate at h
      simp only at h
      split at h
      next hsame =>
        obtain ⟨transitions, htransition, h⟩ := bind_eq_ok_iff.mp h
        obtain ⟨rfl, rfl⟩ := Prod.mk.inj (pure_eq_ok_iff.mp h)
        rw [transition_fresh hfresh htransition]
        have hreq : RuleState.requested r.active = .active := by rw [hactive]; rfl
        exact .unchanged current hrule hd hstate hreq
          (fun _ asked ha => hsame.trans (hgiven asked ha))
          (fun hfalse => by rw [hactive] at hfalse; cases hfalse) hfresh
      next hdiff =>
        obtain ⟨transitions, htransition, h⟩ := bind_eq_ok_iff.mp h
        rcases transition_cases htransition with ⟨hretireKey, rfl⟩ | ⟨-, hexists⟩
        · have hfresh' : (db.transitions.insertNew (key ++ ":deactivate")
              ⟨current.id, some .active, .inactive, "mapping_replaced", r.actor, now⟩).find? key
                = none := by
            rw [Keyed.find?_insertNew_ne (ne_append_deactivate key)]
            exact hfresh
          obtain ⟨columns, hcstate, hcol, hkey, rfl, rfl⟩ := createRule_cases hfresh' h
          have hsome : r.targetId ≠ none := by
            intro hnone
            rw [hnone, hcurrent] at htarget
            exact hdiff (Option.some.inj htarget)
          have hretires : Retires fun c => { c with state := .inactive, updatedAt := now } :=
            ⟨fun _ => rfl, fun _ => rfl⟩
          exact .replaced current hactive hcurrent _ hretires _ hretireKey hfresh
            (ne_append_deactivate key) _ rfl columns hcstate
            (fun asked ha => hcol.trans (hgiven asked ha)) hsome
            (activeRule_retired hinv hcurrent fun _ => rfl) hkey
        · exact absurd hexists (not_retired hinv hrule hstate)

/-- The branch after `if active`. -/
theorem inactivate_cases (hinactive : r.active = false)
    (htarget : r.targetId.or ((activeRule db.rules r.digisacId).map (·.target)) = some target)
    (hfresh : db.transitions.find? key = none)
    (h : inactivate now r key target (activeRule db.rules r.digisacId) db = .ok (after, rule)) :
    Configured now r key db after rule := by
  have hreq : RuleState.requested r.active = .inactive := by rw [hinactive]; rfl
  cases hcurrent : activeRule db.rules r.digisacId with
  | none =>
      rw [hcurrent] at h
      unfold inactivate at h
      simp only at h
      split at h
      next =>
        obtain ⟨columns, hstate, hcol, hkey, rfl, rfl⟩ := createRule_cases hfresh h
        have hasked : r.targetId = some target := by
          rw [hcurrent, Option.map_none, Option.or_none] at htarget
          exact htarget
        rw [← hreq]
        refine .created columns (hstate.trans hreq.symm) ?_ ?_ hcurrent hkey hfresh
        · intro asked ha
          rw [Option.mem_def, hasked] at ha
          exact hcol.trans (Option.some.inj ha)
        · rw [hasked]
          exact Option.some_ne_none target
      next latest hlatest =>
        obtain ⟨transitions, htransition, h⟩ := bind_eq_ok_iff.mp h
        obtain ⟨rfl, rfl⟩ := Prod.mk.inj (pure_eq_ok_iff.mp h)
        rw [transition_fresh hfresh htransition]
        obtain ⟨hrule, hd⟩ := List.mem_filter.mp (List.argmax_mem hlatest)
        have hd : latest.key.1 = r.digisacId := by simpa using hd
        have hstate : latest.value.state = .inactive := activeRule_none hcurrent latest hrule hd
        exact .unchanged latest hrule hd hstate hreq
          (fun htrue => by rw [hinactive] at htrue; cases htrue) (fun _ => hcurrent) hfresh
  | some current =>
      obtain ⟨hrule, -, -⟩ := activeRule_some hcurrent
      rw [hcurrent] at h
      unfold inactivate at h
      obtain ⟨transitions, htransition, h⟩ := bind_eq_ok_iff.mp h
      rw [transition_fresh hfresh htransition, Keyed.byId?_modifyId_self,
        Keyed.byId?_of_mem hrule] at h
      obtain ⟨rfl, rfl⟩ := Prod.mk.inj (pure_eq_ok_iff.mp h)
      have hretires : Retires fun c =>
          { c with state := .inactive, reason := r.reason, actor := r.actor
                   metadata := r.metadata, updatedAt := now } :=
        ⟨fun _ => rfl, fun _ => rfl⟩
      exact .retired current hinactive hcurrent _ hretires hfresh

/-- **The cases of a call that returns.** -/
theorem configureRequest_cases (hinv : RuleInv db)
    (h : configureRequest sha256 now r db = .ok (after, rule)) :
    Configured now r (effectiveKey sha256 r) db after rule := by
  unfold configureRequest at h
  simp only at h
  split at h
  next replay hreplay =>
    obtain ⟨_, hcheck, h⟩ := bind_eq_ok_iff.mp h
    obtain ⟨rfl, rfl⟩ := Prod.mk.inj (pure_eq_ok_iff.mp h)
    exact .replayed replay hreplay (require_eq_ok_iff.mp hcheck)
  next hreplay =>
    have hfresh := find?_of_not_replayed hinv hreplay
    obtain ⟨-, -, h⟩ := bind_eq_ok_iff.mp h
    obtain ⟨-, -, h⟩ := bind_eq_ok_iff.mp h
    split at h
    next => cases h
    next target htarget =>
      obtain ⟨-, -, h⟩ := bind_eq_ok_iff.mp h
      split at h
      next hactive => exact activate_cases hinv hactive htarget hfresh h
      next hinactive =>
        exact inactivate_cases (by simpa using hinactive) htarget hfresh h

/-- **A call keeps the invariant.** -/
theorem Configured.inv (hinv : RuleInv db) (h : Configured now r key db after rule) :
    RuleInv after := by
  cases h with
  | replayed => exact hinv
  | noted _ hrule hd hstate htarget hnone hfresh =>
      exact hinv.change hrule hfresh rfl rfl hstate.symm fun h => h
  | retired rule hactive hcurrent f hf hfresh =>
      obtain ⟨hrule, -, hstate⟩ := activeRule_some hcurrent
      exact hinv.change hrule hfresh rfl (congrArg some hstate.symm) (hf.state _).symm fun _ => hf.state _
  | created columns hstate htarget hgiven hnone hkey hfresh =>
      exact hinv.add hnone hkey hfresh rfl rfl hstate.symm
  | replaced old hactive hcurrent f hf retireKey hretireKey hfresh hne mid hmid columns hstate
      htarget hgiven hnone hkey =>
      obtain ⟨hold, -, hostate⟩ := activeRule_some hcurrent
      have hmidInv : RuleInv mid := by
        rw [hmid]
        exact hinv.change hold hretireKey rfl (congrArg some hostate.symm) (hf.state _).symm
          fun _ => hf.state _
      have hfresh' : mid.transitions.find? key = none := by
        rw [hmid]
        exact (Keyed.find?_insertNew_ne hne).trans hfresh
      exact hmidInv.add hnone hkey hfresh' rfl rfl hstate.symm

/-- **Every target** was there before the call, or is the one it asked for. -/
theorem Configured.targets (h : Configured now r key db after rule) :
    ∀ e : Rule, e ∈ after.rules.rows →
      (∃ old : Rule, old ∈ db.rules.rows ∧ old.target = e.target) ∨ e.target ∈ r.targetId := by
  -- a rule that is written keeps its target
  have hchange : ∀ (old : Rule) (f : RuleColumns → RuleColumns),
      (∀ c, (f c).acessoriasDepartmentExternalId = c.acessoriasDepartmentExternalId) →
        ∀ e : Rule, e ∈ (db.rules.modifyId old.id f).rows →
          ∃ old : Rule, old ∈ db.rules.rows ∧ old.target = e.target := by
    intro old f hf e he
    rcases Keyed.mem_modifyId.mp he with ⟨he, -⟩ | ⟨e₀, he₀, -, rfl⟩
    · exact ⟨e, he, rfl⟩
    · exact ⟨e₀, he₀, (hf e₀.value).symm⟩
  -- the target of a new rule is the one that was asked for
  have hasked : ∀ columns : RuleColumns, r.targetId ≠ none →
      (∀ target ∈ r.targetId, columns.acessoriasDepartmentExternalId = target) →
        columns.acessoriasDepartmentExternalId ∈ r.targetId := by
    intro columns hgiven htarget
    obtain ⟨target, hsome⟩ := Option.ne_none_iff_exists'.mp hgiven
    rw [htarget target hsome]
    exact hsome
  intro e he
  cases h with
  | replayed => exact .inl ⟨e, he, rfl⟩
  | noted => exact .inl (hchange rule id (fun _ => rfl) e he)
  | retired old _ _ f hf => exact .inl (hchange old f hf.target e he)
  | created columns _ htarget hgiven =>
      rcases Keyed.mem_insertNew.mp he with he | ⟨-, rfl⟩
      · exact .inl ⟨e, he, rfl⟩
      · exact .inr (hasked columns hgiven htarget)
  | replaced old _ _ f hf _ _ _ _ mid hmid columns _ htarget hgiven =>
      rcases Keyed.mem_insertNew.mp he with he | ⟨-, rfl⟩
      · rw [hmid] at he
        exact .inl (hchange old f hf.target e he)
      · exact .inr (hasked columns hgiven htarget)

/-! ## §2. Runs. -/

inductive RuleAction
  | configure (now clock : Timestamp) (call : ConfigureCall)
  /-- A synchronisation of the two directories. -/
  | directories (digisac acessorias : List String)

/-- Calls in any order, each one transaction; a call that raises changes nothing. -/
def ruleMachine (sha256 : String → String) : Machine RuleTables RuleAction where
  init db := db.rules = .empty ∧ db.transitions = .empty
  step db
    | .configure now clock call =>
        some (tablesAfter db (configureDepartmentMapping sha256 now clock call db))
    | .directories digisac acessorias =>
        some { db with digisacDepartments := digisac, acessoriasDepartments := acessorias }

/-- A call that returned passed its checks and is one of the five cases. -/
theorem configure_cases (hinv : RuleInv db)
    (h : configureDepartmentMapping sha256 now clock call db = .ok (after, rule)) :
    ∃ r, checkArguments clock call = .ok r
      ∧ Configured now r (effectiveKey sha256 r) db after rule := by
  unfold configureDepartmentMapping at h
  obtain ⟨r, hr, h⟩ := bind_eq_ok_iff.mp h
  exact ⟨r, hr, configureRequest_cases hinv h⟩

theorem RuleInv.directories (hinv : RuleInv db) (digisac acessorias : List String) :
    RuleInv { db with digisacDepartments := digisac, acessoriasDepartments := acessorias } :=
  ⟨hinv.owned, hinv.retired, hinv.trail, hinv.oneActive, hinv.versions, hinv.activeLast⟩

variable {s : RuleTables} {a : RuleAction}

theorem RuleInv.step {s' : RuleTables} (hinv : RuleInv s)
    (h : (ruleMachine sha256).step s a = some s') : RuleInv s' := by
  cases a with
  | configure now clock call =>
      obtain rfl := Option.some.inj h
      cases hcall : configureDepartmentMapping sha256 now clock call s with
      | error e => exact hinv
      | ok result =>
          obtain ⟨after, rule⟩ := result
          obtain ⟨r, -, hcases⟩ := configure_cases hinv hcall
          exact hcases.inv hinv
  | directories digisac acessorias =>
      obtain rfl := Option.some.inj h
      exact hinv.directories digisac acessorias

theorem reachable_ruleInv (h : (ruleMachine sha256).Reachable s) : RuleInv s := by
  refine h.invariant ?_ fun s a t hs _ hstep => hs.step hstep
  rintro ⟨rules, transitions, digisac, acessorias⟩ ⟨hrules, htransitions⟩
  have hrules : rules = .empty := hrules
  have htransitions : transitions = .empty := htransitions
  subst hrules htransitions
  exact RuleInv.init digisac acessorias

/-- The rule with that id and key is inactive. -/
def Retired (rule : Rule) (db : RuleTables) : Prop :=
  ∃ e ∈ db.rules.rows, e.id = rule.id ∧ e.key = rule.key ∧ e.value.state = .inactive

theorem Retired.change (h : Retired e db) (hrule : rule ∈ db.rules.rows)
    (hf : rule.value.state = .inactive → (f rule.value).state = .inactive) :
    Retired e (db.changeRule rule f key t) := by
  obtain ⟨x, hx, hid, hkey, hstate⟩ := h
  by_cases hxid : x.id = rule.id
  · have heq : x = rule := Keyed.eq_of_id hx hrule hxid
    subst heq
    exact ⟨_, Keyed.mem_modifyId.mpr (.inr ⟨x, hx, rfl, rfl⟩), hid, hkey, hf hstate⟩
  · exact ⟨x, Keyed.mem_modifyId.mpr (.inl ⟨hx, hxid⟩), hid, hkey, hstate⟩

theorem Retired.add {ruleKey : String × Nat} {columns : RuleColumns} (h : Retired e db) :
    Retired e (db.addRule ruleKey columns key t) := by
  obtain ⟨x, hx, hrest⟩ := h
  exact ⟨x, Keyed.mem_insertNew.mpr (.inl hx), hrest⟩

/-- **A retired rule stays retired**, in one call. -/
theorem Configured.retired_stays (h : Configured now r key db after rule) (he : Retired e db) :
    Retired e after := by
  cases h with
  | replayed => exact he
  | noted _ hrule => exact he.change hrule fun h => h
  | retired rule hactive hcurrent f hf hfresh =>
      exact he.change (activeRule_some hcurrent).1 fun _ => hf.state _
  | created => exact he.add
  | replaced old hactive hcurrent f hf retireKey hretireKey hfresh hne mid hmid =>
      subst hmid
      exact (he.change (activeRule_some hcurrent).1 fun _ => hf.state _).add

/-- A retired rule stays retired, in one step. -/
theorem Retired.step {s' : RuleTables} (hinv : RuleInv s) (he : Retired e s)
    (h : (ruleMachine sha256).step s a = some s') : Retired e s' := by
  cases a with
  | configure now clock call =>
      obtain rfl := Option.some.inj h
      cases hcall : configureDepartmentMapping sha256 now clock call s with
      | error e => exact he
      | ok result =>
          obtain ⟨after, rule⟩ := result
          obtain ⟨r, -, hcases⟩ := configure_cases hinv hcall
          exact hcases.retired_stays he
  | directories digisac acessorias =>
      obtain rfl := Option.some.inj h
      exact he

/-- What the two tables say about every department and every rule. -/
structure RuleHistory (db : RuleTables) : Prop where
  oneActive : ∀ d, (activeRules db.rules d).length ≤ 1
  versions : ∀ d, ruleVersions db.rules d = List.range' 1 (ruleVersions db.rules d).length
  activeLast : ∀ d, ∀ rule ∈ activeRules db.rules d,
    rule.version = (ruleVersions db.rules d).length
  trail : ∀ rule ∈ db.rules.rows, Leads none (ruleChanges db rule.id) (some rule.value.state)

/-- **Well-formed histories**: in every reachable state, and a rule once
    inactive is inactive in every later one. -/
theorem rule_history_wellFormed (sha256 : String → String) {s : RuleTables}
    (h : (ruleMachine sha256).Reachable s) :
    RuleHistory s ∧ ∀ t, (ruleMachine sha256).RunWhere Machine.anyStep s t →
      ∀ rule ∈ s.rules.rows, rule.value.state = .inactive → Retired rule t := by
  have hinv := reachable_ruleInv h
  refine ⟨⟨activeRules_length_le hinv, hinv.versions, ?_, hinv.trail⟩, ?_⟩
  · intro d rule hrule
    obtain ⟨hrow, rfl, hactive⟩ := mem_activeRules.mp hrule
    exact hinv.activeLast rule hrow hactive
  · intro t hrun rule hrule hinactive
    exact h.stable (P := Retired rule) ⟨rule, hrule, rfl, rfl, hinactive⟩ hrun
      fun s a t hs he _ hstep => he.step (reachable_ruleInv hs) hstep

/-! A run with a replaced rule. -/

/-- The digests of the two operations of the run. -/
def hexdigests (text : String) : String :=
  if text = "manual_db|active|fiscal|acessorias-fiscal|approved_route" then
    "803112bfea632f433e395054e7b65a6858fe2597309b9e2a33e05d3b99616ce0"
  else if text = "manual_db|active|fiscal|acessorias-tax|reorganised" then
    "51c917127c49aef2b3157f01488da615e2e12d47504ee2946755a5b8e221db7e"
  else ""

/-- Route the department `fiscal` to its first target. -/
def routeFiscal : ConfigureCall where
  digisacDepartmentExternalId := "fiscal"
  acessoriasDepartmentExternalId := some "acessorias-fiscal"
  reason := "approved_route"

/-- Route it to another one. -/
def rerouteFiscal : ConfigureCall where
  digisacDepartmentExternalId := "fiscal"
  acessoriasDepartmentExternalId := some "acessorias-tax"
  reason := "reorganised"

def rerouted : List RuleAction :=
  [.directories ["fiscal"] ["acessorias-fiscal", "acessorias-tax"], .configure 1 1 routeFiscal,
    .configure 2 2 rerouteFiscal]

/-- After the second call the first rule is retired and stays so. -/
theorem rule_history_wellFormed_rerouted :
    ∃ s, (ruleMachine hexdigests).Reachable s
      ∧ s.rules.rows.map (fun rule : Rule => (rule.version, rule.value.state))
          = [(1, .inactive), (2, .active)]
      ∧ RuleHistory s ∧ ∀ rule ∈ s.rules.rows, rule.value.state = .inactive → Retired rule s := by
  have hrun : ((ruleMachine hexdigests).exec {} rerouted).map
      (fun s => s.rules.rows.map fun rule : Rule => (rule.version, rule.value.state))
      = some [(1, .inactive), (2, .active)] := by decide +kernel
  obtain ⟨s, hexec, hobs⟩ := Option.map_eq_some_iff.mp hrun
  have hreach : (ruleMachine hexdigests).Reachable s :=
    Machine.reachable_of_exec ⟨rfl, rfl⟩ hexec
  have hwell := rule_history_wellFormed hexdigests hreach
  exact ⟨s, hreach, hobs, hwell.1, hwell.2 s .refl⟩

end Cai.Mapping
