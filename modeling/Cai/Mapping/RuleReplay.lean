/-
  Cai.Mapping.RuleReplay — whether a call does what it was asked for.

  A call whose operation key is known returns the rule of the earlier
  transition and changes nothing.  The key says which operation was asked
  for, not whether what it left is still so: the rule may have been
  replaced since, or belong to another department.

  Main result: `configure_as_asked_iff`; the failing call is
  `configure_replays_retired_rule`.
-/
import Cai.Mapping.RuleCalls

namespace Cai.Mapping

open Cai.Lib
open Cai.Cycle (Timestamp pgBlank)

variable {sha256 : String → String} {now clock : Timestamp} {r : ConfigureRequest}
  {call : ConfigureCall} {db after : RuleTables} {rule : Rule} {key : String}

/-! ## §1. The promise and the replay. -/

/-- A call that returns leaves exactly what it was asked for. -/
def AsAsked (call : ConfigureCall) (before : RuleTables)
    (result : Except ConfigureError (RuleTables × Rule)) : Prop :=
  ∀ after rule, result = .ok (after, rule) →
    let d := Text.strip call.digisacDepartmentExternalId
    if call.active then
      activeRules after.rules d = [rule]
        ∧ some rule.target = (call.acessoriasDepartmentExternalId.map Text.strip).or
            ((activeRule before.rules d).map (·.target))
    else activeRules after.rules d = []

/-- If the call would replay an operation, what that operation left is still in force. -/
def ReplayInForce (sha256 : String → String) (clock : Timestamp) (call : ConfigureCall)
    (db : RuleTables) : Prop :=
  ∀ r, checkArguments clock call = .ok r →
    ∀ replay, replayed db (effectiveKey sha256 r) = some replay → ReplayMatches r replay →
      if call.active then
        replay.2.department = r.digisacId ∧ replay.2.value.state = .active
      else activeRule db.rules r.digisacId = none

theorem externalId_ok {value field normalized : String}
    (h : externalId value field = .ok normalized) : normalized = Text.strip value := by
  unfold externalId at h
  obtain ⟨-, -, h⟩ := bind_eq_ok_iff.mp h
  exact (pure_eq_ok_iff.mp h).symm

/-- What the checks keep of the arguments. -/
theorem checkArguments_ok (h : checkArguments clock call = .ok r) :
    r.active = call.active ∧ r.digisacId = Text.strip call.digisacDepartmentExternalId
      ∧ r.targetId = call.acessoriasDepartmentExternalId.map Text.strip := by
  unfold checkArguments at h
  obtain ⟨d, hd, h⟩ := bind_eq_ok_iff.mp h
  obtain ⟨target, htarget, h⟩ := bind_eq_ok_iff.mp h
  obtain ⟨reason, -, h⟩ := bind_eq_ok_iff.mp h
  obtain ⟨actor, -, h⟩ := bind_eq_ok_iff.mp h
  obtain ⟨metadata, -, h⟩ := bind_eq_ok_iff.mp h
  obtain ⟨operation, -, h⟩ := bind_eq_ok_iff.mp h
  have hr := pure_eq_ok_iff.mp h
  subst hr
  refine ⟨rfl, externalId_ok hd, ?_⟩
  show target = call.acessoriasDepartmentExternalId.map Text.strip
  cases hasked : call.acessoriasDepartmentExternalId with
  | none =>
      rw [hasked] at htarget
      exact (Except.ok.inj htarget).symm
  | some asked =>
      rw [hasked] at htarget
      obtain ⟨normalized, hn, hsome⟩ := bind_eq_ok_iff.mp htarget
      rw [← pure_eq_ok_iff.mp hsome, externalId_ok hn]
      rfl

/-- What a call that returns leaves, unless it is a replay. -/
theorem asAsked_of_configured (hinv : RuleInv db) (h : Configured now r key db after rule)
    (hreplay : ∀ replay, replayed db key = some replay → ReplayMatches r replay →
      if r.active then replay.2.key.1 = r.digisacId ∧ replay.2.value.state = .active
      else activeRule db.rules r.digisacId = none) :
    if r.active then
      activeRules after.rules r.digisacId = [rule]
        ∧ some rule.target = r.targetId.or ((activeRule db.rules r.digisacId).map (·.target))
    else activeRules after.rules r.digisacId = [] := by
  have hafter : RuleInv after := h.inv hinv
  -- a given target is the rule's; without one the rule is the one active before
  have htargetOr : ∀ rule : Rule, (∀ target ∈ r.targetId, rule.target = target) →
      (r.targetId = none → activeRule db.rules r.digisacId = some rule) →
      some rule.target = r.targetId.or ((activeRule db.rules r.digisacId).map (·.target)) := by
    intro rule hgiven hcurrent
    cases htarget : r.targetId with
    | none => rw [hcurrent htarget, Option.none_or, Option.map_some]
    | some target => rw [hgiven target htarget, Option.some_or]
  cases hactive : r.active with
  | true =>
      rw [if_pos rfl, activeRules_eq_singleton_iff hafter]
      cases h with
      | replayed replay hfound hmatch =>
          have hforce := hreplay replay hfound hmatch
          rw [hactive, if_pos rfl] at hforce
          have hrow : replay.2 ∈ db.rules.rows := by
            obtain ⟨t, -, ht⟩ := Option.bind_eq_some_iff.mp hfound
            obtain ⟨rule, hrule, rfl⟩ := Option.map_eq_some_iff.mp ht
            exact Keyed.mem_of_byId? hrule
          exact ⟨⟨hrow, hforce⟩, htargetOr _ hmatch.2.2 fun _ =>
            (activeRule_eq_some_iff hinv).mpr ⟨hrow, hforce⟩⟩
      | noted _ hrule hd hstate htarget hnone hfresh =>
          have hstate : rule.value.state = .active := by rw [hstate, hactive]; rfl
          refine ⟨⟨?_, hd, hstate⟩, htargetOr _ (htarget hactive) fun _ =>
            (activeRule_eq_some_iff hinv).mpr ⟨hrule, hd, hstate⟩⟩
          show rule ∈ (db.rules.modifyId rule.id id).rows
          rw [Keyed.modifyId_id]
          exact hrule
      | retired _ hfalse =>
          rw [hactive] at hfalse
          cases hfalse
      | created columns hstate htarget hgiven hnone hkey hfresh =>
          have hstate : columns.state = .active := by rw [hstate, hactive]; rfl
          refine ⟨⟨?_, rfl, hstate⟩, htargetOr _ htarget fun h => absurd h hgiven⟩
          exact Keyed.mem_insertNew.mpr (.inr ⟨hkey, rfl⟩)
      | replaced old _ hcurrent f hf retireKey hretireKey hfresh hne mid hmid columns hstate
          htarget hgiven hnone hkey =>
          refine ⟨⟨?_, rfl, hstate⟩, htargetOr _ htarget fun h => absurd h hgiven⟩
          exact Keyed.mem_insertNew.mpr (.inr ⟨hkey, rfl⟩)
  | false =>
      rw [if_neg Bool.false_ne_true, activeRules_eq_nil_iff]
      cases h with
      | replayed replay hfound hmatch =>
          have hforce := hreplay replay hfound hmatch
          rw [hactive, if_neg Bool.false_ne_true] at hforce
          exact hforce
      | noted _ hrule hd hstate htarget hnone hfresh =>
          show activeRule (db.rules.modifyId rule.id id) r.digisacId = none
          rw [Keyed.modifyId_id]
          exact hnone hactive
      | retired _ hfalse hcurrent f hf => exact activeRule_retired hinv hcurrent hf.state
      | created columns hstate htarget hgiven hnone hkey hfresh =>
          refine activeRule_eq_none_iff.mpr fun e he hd => ?_
          rcases Keyed.mem_insertNew.mp he with he | ⟨-, rfl⟩
          · exact activeRule_none hnone e he hd
          · show columns.state = .inactive
            rw [hstate, hactive]
            rfl
      | replaced _ htrue =>
          rw [hactive] at htrue
          cases htrue

/-- **A call does what it says exactly when what it would replay is in force.** -/
theorem configure_as_asked_iff (sha256 : String → String) {s : RuleTables}
    (h : (ruleMachine sha256).Reachable s) (now clock : Timestamp) (call : ConfigureCall) :
    AsAsked call s (configureDepartmentMapping sha256 now clock call s)
      ↔ ReplayInForce sha256 clock call s := by
  have hinv := reachable_ruleInv h
  constructor
  · intro hasked r hr replay hfound hmatch
    obtain ⟨hactive, hd, -⟩ := checkArguments_ok hr
    have hresult : configureDepartmentMapping sha256 now clock call s = .ok (s, replay.2) := by
      unfold configureDepartmentMapping configureRequest
      refine bind_eq_ok_iff.mpr ⟨r, hr, ?_⟩
      simp only [hfound]
      exact bind_eq_ok_iff.mpr ⟨(), require_eq_ok_iff.mpr hmatch, rfl⟩
    have hafter := hasked s replay.2 hresult
    simp only at hafter
    rw [← hd] at hafter
    cases hcall : call.active with
    | true =>
        rw [hcall, if_pos rfl] at hafter
        rw [if_pos rfl]
        exact ((activeRules_eq_singleton_iff hinv).mp hafter.1).2
    | false =>
        rw [hcall, if_neg Bool.false_ne_true] at hafter
        rw [if_neg Bool.false_ne_true]
        exact activeRules_eq_nil_iff.mp hafter
  · intro hforce after rule hresult
    obtain ⟨r, hr, hcases⟩ := configure_cases hinv hresult
    obtain ⟨hactive, hd, htarget⟩ := checkArguments_ok hr
    have hdone := asAsked_of_configured hinv hcases fun replay hfound hmatch => by
      have := hforce r hr replay hfound hmatch
      rwa [← hactive] at this
    simp only
    rw [← hactive, ← hd, ← htarget]
    exact hdone

/-- The second route is asked for once more, while it is the active one. -/
theorem configure_as_asked_iff_rerouted :
    ∃ s, (ruleMachine hexdigests).Reachable s
      ∧ (AsAsked rerouteFiscal s (configureDepartmentMapping hexdigests 3 3 rerouteFiscal s)
        ↔ ReplayInForce hexdigests 3 rerouteFiscal s) := by
  have hrun : ((ruleMachine hexdigests).exec {} rerouted).isSome = true := by decide +kernel
  obtain ⟨s, hexec⟩ := Option.isSome_iff_exists.mp hrun
  have hreach : (ruleMachine hexdigests).Reachable s :=
    Machine.reachable_of_exec ⟨rfl, rfl⟩ hexec
  exact ⟨s, hreach, configure_as_asked_iff hexdigests hreach 3 3 rerouteFiscal⟩

/-- The first route is asked for again, without a key: the call returns the
    rule that was replaced, and the other route stays active. -/
theorem configure_replays_retired_rule :
    ∃ s, (ruleMachine hexdigests).Reachable s ∧ routeFiscal.operationKey = none
      ∧ (∃ rule, configureDepartmentMapping hexdigests 3 3 routeFiscal s = .ok (s, rule)
          ∧ rule.value.state = .inactive
          ∧ (activeRules s.rules "fiscal").map (·.target) = ["acessorias-tax"])
      ∧ ¬ AsAsked routeFiscal s (configureDepartmentMapping hexdigests 3 3 routeFiscal s) := by
  have hrun : ((ruleMachine hexdigests).exec {} rerouted).map
      (fun s => ((activeRules s.rules "fiscal").map (·.target),
        match configureDepartmentMapping hexdigests 3 3 routeFiscal s with
        | .ok (after, rule) => some (rule.value.state, rule.target,
            decide (after.rules = s.rules ∧ after.transitions = s.transitions
              ∧ after.digisacDepartments = s.digisacDepartments
              ∧ after.acessoriasDepartments = s.acessoriasDepartments))
        | .error _ => none))
      = some (["acessorias-tax"], some (.inactive, "acessorias-fiscal", true)) := by decide +kernel
  obtain ⟨s, hexec, hobs⟩ := Option.map_eq_some_iff.mp hrun
  obtain ⟨hactive, hcall⟩ := Prod.mk.inj hobs
  have hreach : (ruleMachine hexdigests).Reachable s :=
    Machine.reachable_of_exec ⟨rfl, rfl⟩ hexec
  split at hcall
  next after rule hresult =>
    simp only [Option.some.injEq, Prod.mk.injEq, decide_eq_true_eq] at hcall
    obtain ⟨hstate, htarget, hrules, htransitions, hdigisac, hacessorias⟩ := hcall
    have hafter : after = s := by
      cases after
      cases s
      simp only at hrules htransitions hdigisac hacessorias
      rw [hrules, htransitions, hdigisac, hacessorias]
    rw [hafter] at hresult
    refine ⟨s, hreach, rfl, ⟨rule, hresult, hstate, hactive⟩, fun hasked => ?_⟩
    have hone : activeRules s.rules "fiscal" = [rule] := (hasked s rule hresult).1
    rw [hone, List.map_singleton, htarget] at hactive
    exact absurd (List.singleton_injective hactive) (by decide)
  next => cases hcall

end Cai.Mapping
