/-
  Cai.Mapping.RuleHistory — what the rules and their transitions keep.

  Everything a call does to the two tables is made of two audited changes:
  a rule is inserted with its first transition, or the state of a rule is
  written with one more transition.  Both keep `RuleInv`: the versions of a
  department count up from 1, at most its last rule is active, and the
  transitions of every rule lead from nothing to its state.

  Main results: `RuleInv.change` and `RuleInv.add`.
-/
import Cai.Mapping.Rules

namespace Cai.Mapping

open Cai.Lib
open Cai.Cycle (Timestamp pgBlank)

/-! ## §1. The invariant. -/

/-- The transitions of a rule, in the order of their ids. -/
def ruleChanges (db : RuleTables) (ruleId : Nat) : List (Option RuleState × RuleState) :=
  db.transitions.history (·.ruleId) RuleTransition.change ruleId

/-- **The invariant** of the two tables. -/
structure RuleInv (db : RuleTables) : Prop where
  owned : ∀ t ∈ db.transitions.rows, ∃ rule ∈ db.rules.rows, rule.id = t.value.ruleId
  /-- A rule with a transition to `inactive` is inactive. -/
  retired : ∀ t ∈ db.transitions.rows, t.value.toState = .inactive →
    ∀ rule ∈ db.rules.rows, rule.id = t.value.ruleId → rule.value.state = .inactive
  trail : ∀ rule ∈ db.rules.rows, Leads none (ruleChanges db rule.id) (some rule.value.state)
  oneActive : ∀ a ∈ db.rules.rows, ∀ b ∈ db.rules.rows, a.key.1 = b.key.1 →
    a.value.state = .active → b.value.state = .active → a = b
  versions : ∀ d, ruleVersions db.rules d = List.range' 1 (ruleVersions db.rules d).length
  activeLast : ∀ rule ∈ db.rules.rows, rule.value.state = .active →
    rule.key.2 = (ruleVersions db.rules rule.key.1).length

theorem RuleInv.init (digisac acessorias : List String) :
    RuleInv { digisacDepartments := digisac, acessoriasDepartments := acessorias } where
  owned := fun _ h => absurd h List.not_mem_nil
  retired := fun _ h => absurd h List.not_mem_nil
  trail := fun _ h => absurd h List.not_mem_nil
  oneActive := fun _ h => absurd h List.not_mem_nil
  versions := fun _ => rfl
  activeLast := fun _ h => absurd h List.not_mem_nil

/-! ## §2. The active rule and the versions. -/

variable {db after : RuleTables} {rule : Rule} {rules : Keyed (String × Nat) RuleColumns}
  {d : String}

theorem activeFor_iff : Rule.activeFor d rule = true ↔ rule.key.1 = d ∧ rule.value.state = .active := by
  unfold Rule.activeFor
  rw [Bool.and_eq_true, beq_iff_eq, beq_iff_eq]

theorem activeRule_some (h : activeRule rules d = some rule) :
    rule ∈ rules.rows ∧ rule.key.1 = d ∧ rule.value.state = .active :=
  ⟨List.mem_of_find?_eq_some h, activeFor_iff.mp (List.find?_some h)⟩

theorem activeRule_none (h : activeRule rules d = none) :
    ∀ rule ∈ rules.rows, rule.key.1 = d → rule.value.state = .inactive := by
  intro rule hrule hd
  have hnot : Rule.activeFor d rule = false := by
    simpa using List.find?_eq_none.mp h rule hrule
  cases hstate : rule.value.state with
  | inactive => rfl
  | active =>
      rw [activeFor_iff.mpr ⟨hd, hstate⟩] at hnot
      cases hnot

theorem activeRule_eq_none_iff : activeRule rules d = none ↔
    ∀ rule ∈ rules.rows, rule.key.1 = d → rule.value.state = .inactive := by
  refine ⟨activeRule_none, fun h => List.find?_eq_none.mpr fun rule hrule => ?_⟩
  intro hactive
  obtain ⟨hd, hstate⟩ := activeFor_iff.mp hactive
  rw [h rule hrule hd] at hstate
  cases hstate

/-- The active rules of a department. -/
def activeRules (rules : Keyed (String × Nat) RuleColumns) (d : String) : List Rule :=
  rules.rows.filter (Rule.activeFor d)

theorem mem_activeRules : rule ∈ activeRules rules d ↔
    rule ∈ rules.rows ∧ rule.key.1 = d ∧ rule.value.state = .active := by
  unfold activeRules
  rw [List.mem_filter, activeFor_iff]

/-- A department has at most one active rule. -/
theorem activeRules_length_le (hinv : RuleInv db) (d : String) :
    (activeRules db.rules d).length ≤ 1 := by
  refine Keyed.length_filter_le fun a ha b hb hacta hactb => ?_
  obtain ⟨hda, hacta⟩ := activeFor_iff.mp hacta
  obtain ⟨hdb, hactb⟩ := activeFor_iff.mp hactb
  exact hinv.oneActive a ha b hb (hda.trans hdb.symm) hacta hactb

/-- With at most one active rule, being active is being the only one. -/
theorem activeRules_eq_singleton_iff (hinv : RuleInv db) :
    activeRules db.rules d = [rule] ↔
      rule ∈ db.rules.rows ∧ rule.key.1 = d ∧ rule.value.state = .active := by
  rw [← mem_activeRules]
  constructor
  · intro h
    rw [h]
    exact List.mem_singleton_self rule
  · intro hmem
    have hlen := activeRules_length_le hinv d
    match hrules : activeRules db.rules d with
    | [] =>
        rw [hrules] at hmem
        exact absurd hmem List.not_mem_nil
    | [a] =>
        rw [hrules] at hmem
        rw [List.mem_singleton.mp hmem]
    | a :: b :: rest =>
        rw [hrules, List.length_cons, List.length_cons] at hlen
        omega

theorem activeRule_eq_some_iff (hinv : RuleInv db) : activeRule db.rules d = some rule ↔
    rule ∈ db.rules.rows ∧ rule.key.1 = d ∧ rule.value.state = .active := by
  refine ⟨activeRule_some, fun ⟨hrule, hd, hstate⟩ => ?_⟩
  cases hcurrent : activeRule db.rules d with
  | none =>
      rw [activeRule_none hcurrent rule hrule hd] at hstate
      cases hstate
  | some other =>
      obtain ⟨hother, hd', hstate'⟩ := activeRule_some hcurrent
      rw [hinv.oneActive other hother rule hrule (hd'.trans hd.symm) hstate' hstate]

theorem activeRules_eq_nil_iff : activeRules rules d = [] ↔ activeRule rules d = none := by
  unfold activeRules activeRule
  rw [List.filter_eq_nil_iff, List.find?_eq_none]

theorem ruleVersions_mapRows (f : Rule → RuleColumns) :
    ruleVersions (rules.mapRows f) d = ruleVersions rules d := by
  unfold ruleVersions Keyed.mapRows
  rw [List.filter_map, List.map_map]
  rfl

theorem foldr_max_range' (n : Nat) : (List.range' 1 n).foldr max 0 = n := by
  induction n with
  | zero => rfl
  | succ n ih =>
      have hbase : ∀ (l : List Nat) (m : Nat), l.foldr max m = max (l.foldr max 0) m := by
        intro l m
        induction l with
        | nil => simp
        | cons a l ihl => rw [List.foldr_cons, List.foldr_cons, ihl, max_assoc]
      rw [List.range'_1_concat, List.foldr_append, hbase, ih]
      simp only [List.foldr_cons, List.foldr_nil]
      omega

theorem nextVersion_eq (hinv : RuleInv db) (d : String) :
    nextVersion db.rules d = (ruleVersions db.rules d).length + 1 := by
  unfold nextVersion
  rw [hinv.versions d, foldr_max_range', List.length_range']

/-! ## §3. The two audited changes. -/

/-- The state of a rule is written, and the transition says so. -/
def RuleTables.changeRule (db : RuleTables) (rule : Rule) (f : RuleColumns → RuleColumns)
    (key : String) (t : RuleTransition) : RuleTables :=
  { db with
    rules := db.rules.modifyId rule.id f
    transitions := db.transitions.insertNew key t }

/-- A rule is inserted, and its first transition. -/
def RuleTables.addRule (db : RuleTables) (ruleKey : String × Nat) (columns : RuleColumns)
    (key : String) (t : RuleTransition) : RuleTables :=
  { db with
    rules := db.rules.insertNew ruleKey columns
    transitions := db.transitions.insertNew key t }

variable {f : RuleColumns → RuleColumns} {key : String} {t : RuleTransition} {e : Rule}

/-- A row after a change of `rule` comes from the row with its id and key. -/
theorem changeRule_cases (hrule : rule ∈ db.rules.rows)
    (he : e ∈ (db.rules.modifyId rule.id f).rows) :
    (e ∈ db.rules.rows ∧ e.id ≠ rule.id) ∨ e = { rule with value := f rule.value } := by
  rcases Keyed.mem_modifyId.mp he with h | ⟨e₀, he₀, hid, rfl⟩
  · exact .inl h
  · rw [Keyed.eq_of_id he₀ hrule hid]
    exact .inr rfl

/-- **A change of state keeps the invariant**, when a retired rule stays retired. -/
theorem RuleInv.change (hinv : RuleInv db) (hrule : rule ∈ db.rules.rows)
    (hfresh : db.transitions.find? key = none) (hid : t.ruleId = rule.id)
    (hfrom : t.fromState = some rule.value.state) (hto : t.toState = (f rule.value).state)
    (hretired : rule.value.state = .inactive → (f rule.value).state = .inactive) :
    RuleInv (db.changeRule rule f key t) := by
  have hold : ∀ e ∈ (db.rules.modifyId rule.id f).rows, ∃ e₀ ∈ db.rules.rows,
      e₀.id = e.id ∧ e₀.key = e.key ∧ (e.value.state = .active → e₀.value.state = .active) := by
    intro e he
    rcases changeRule_cases hrule he with ⟨he, -⟩ | rfl
    · exact ⟨e, he, rfl, rfl, fun h => h⟩
    · refine ⟨rule, hrule, rfl, rfl, fun hactive => ?_⟩
      cases hstate : rule.value.state with
      | active => rfl
      | inactive =>
          have hactive : (f rule.value).state = .active := hactive
          rw [hretired hstate] at hactive
          cases hactive
  have hversions : ∀ d, ruleVersions (db.changeRule rule f key t).rules d = ruleVersions db.rules d :=
    fun d => ruleVersions_mapRows _
  refine ⟨?_, ?_, ?_, ?_, ?_, ?_⟩
  · intro x hx
    have hkept : Keyed.Kept db.rules (db.rules.modifyId rule.id f) := Keyed.kept_mapRows _ _
    have hrow : ∃ r ∈ db.rules.rows, r.id = x.value.ruleId := by
      rcases Keyed.mem_insertNew.mp hx with hx | ⟨-, rfl⟩
      · exact hinv.owned x hx
      · exact ⟨rule, hrule, hid.symm⟩
    obtain ⟨r, hr, hrid⟩ := hrow
    obtain ⟨r', hr', hid', -⟩ := hkept r hr
    exact ⟨r', hr', hid'.trans hrid⟩
  · intro x hx hinactive r hr hrid
    rcases changeRule_cases hrule hr with ⟨hr, hne⟩ | rfl
    · rcases Keyed.mem_insertNew.mp hx with hx | ⟨-, rfl⟩
      · exact hinv.retired x hx hinactive r hr hrid
      · exact absurd (hrid.trans hid) hne
    · rcases Keyed.mem_insertNew.mp hx with hx | ⟨-, rfl⟩
      · exact hretired (hinv.retired x hx hinactive rule hrule hrid)
      · exact hto.symm.trans hinactive
  · intro r hr
    rcases changeRule_cases hrule hr with ⟨hr, hne⟩ | rfl
    · have hother : ruleChanges (db.changeRule rule f key t) r.id = ruleChanges db r.id :=
        Keyed.history_insertNew_ne (by rw [hid]; exact Ne.symm hne)
      rw [hother]
      exact hinv.trail r hr
    · have hself : ruleChanges (db.changeRule rule f key t) rule.id
          = ruleChanges db rule.id ++ [t.change] := Keyed.history_insertNew_self hfresh hid
      have hchange : t.change = (some rule.value.state, (f rule.value).state) := by
        unfold RuleTransition.change
        rw [hfrom, hto]
      show Leads none (ruleChanges (db.changeRule rule f key t) rule.id)
        (some (f rule.value).state)
      rw [hself, hchange]
      exact (hinv.trail rule hrule).append _
  · intro a ha b hb hd hactive hactive'
    obtain ⟨a₀, ha₀, hida, hkeya, hacta⟩ := hold a ha
    obtain ⟨b₀, hb₀, hidb, hkeyb, hactb⟩ := hold b hb
    have heq : a₀ = b₀ := hinv.oneActive a₀ ha₀ b₀ hb₀ (by rw [hkeya, hkeyb]; exact hd)
      (hacta hactive) (hactb hactive')
    exact Keyed.eq_of_id ha hb (by rw [← hida, ← hidb, heq])
  · intro d
    rw [hversions]
    exact hinv.versions d
  · intro r hr hactive
    obtain ⟨r₀, hr₀, -, hkey, hact⟩ := hold r hr
    rw [hversions, ← hkey]
    exact hinv.activeLast r₀ hr₀ (hact hactive)

/-- **A new rule keeps the invariant**, when its department has no active one. -/
theorem RuleInv.add {columns : RuleColumns} (hinv : RuleInv db)
    (hnone : activeRule db.rules d = none)
    (hkey : db.rules.find? (d, nextVersion db.rules d) = none)
    (hfresh : db.transitions.find? key = none) (hid : t.ruleId = db.rules.freshId)
    (hfrom : t.fromState = none) (hto : t.toState = columns.state) :
    RuleInv (db.addRule (d, nextVersion db.rules d) columns key t) := by
  have hrows : (db.addRule (d, nextVersion db.rules d) columns key t).rules.rows
      = db.rules.rows ++ [⟨db.rules.freshId, (d, nextVersion db.rules d), columns⟩] :=
    Keyed.rows_insertNew hkey
  have hcases : ∀ r ∈ (db.addRule (d, nextVersion db.rules d) columns key t).rules.rows,
      r ∈ db.rules.rows ∨ r = ⟨db.rules.freshId, (d, nextVersion db.rules d), columns⟩ := by
    intro r hr
    rw [hrows] at hr
    exact (List.mem_append.mp hr).imp_right List.mem_singleton.mp
  have hlt : ∀ r ∈ db.rules.rows, r.id ≠ db.rules.freshId :=
    fun r hr => Nat.ne_of_lt (Keyed.id_lt_freshId hr)
  -- no earlier transition belongs to the new rule
  have hunowned : ∀ x ∈ db.transitions.rows, x.value.ruleId ≠ db.rules.freshId := by
    intro x hx heq
    obtain ⟨r, hr, hrid⟩ := hinv.owned x hx
    exact hlt r hr (hrid.trans heq)
  have hself : ruleVersions (db.addRule (d, nextVersion db.rules d) columns key t).rules d
      = ruleVersions db.rules d ++ [nextVersion db.rules d] := by
    unfold ruleVersions
    rw [hrows, List.filter_append, List.map_append]
    simp
  have hother : ∀ d', d' ≠ d →
      ruleVersions (db.addRule (d, nextVersion db.rules d) columns key t).rules d'
        = ruleVersions db.rules d' := by
    intro d' hne
    unfold ruleVersions
    rw [hrows, List.filter_append]
    simp [Ne.symm hne]
  refine ⟨?_, ?_, ?_, ?_, ?_, ?_⟩
  · intro x hx
    rcases Keyed.mem_insertNew.mp hx with hx | ⟨-, rfl⟩
    · obtain ⟨r, hr, hrid⟩ := hinv.owned x hx
      exact ⟨r, by rw [hrows]; exact List.mem_append_left _ hr, hrid⟩
    · refine ⟨_, by rw [hrows]; exact List.mem_append_right _ (List.mem_singleton_self _), ?_⟩
      exact hid.symm
  · intro x hx hinactive r hr hrid
    rcases hcases r hr with hr | rfl
    · rcases Keyed.mem_insertNew.mp hx with hx | ⟨-, rfl⟩
      · exact hinv.retired x hx hinactive r hr hrid
      · exact absurd (hrid.trans hid) (hlt r hr)
    · rcases Keyed.mem_insertNew.mp hx with hx | ⟨-, rfl⟩
      · exact absurd hrid.symm (hunowned x hx)
      · exact hto.symm.trans hinactive
  · intro r hr
    rcases hcases r hr with hr | rfl
    · have hchanges : ruleChanges (db.addRule (d, nextVersion db.rules d) columns key t) r.id
          = ruleChanges db r.id :=
        Keyed.history_insertNew_ne (by rw [hid]; exact Ne.symm (hlt r hr))
      rw [hchanges]
      exact hinv.trail r hr
    · have hchanges : ruleChanges (db.addRule (d, nextVersion db.rules d) columns key t)
          db.rules.freshId = ruleChanges db db.rules.freshId ++ [t.change] :=
        Keyed.history_insertNew_self hfresh hid
      have hnil : ruleChanges db db.rules.freshId = [] := Keyed.history_eq_nil hunowned
      rw [hchanges, hnil]
      exact ⟨hfrom, congrArg some hto⟩
  · intro a ha b hb hd hactive hactive'
    have hnew : ∀ r ∈ db.rules.rows, r.key.1 = d → r.value.state ≠ .active := by
      intro r hr hrd hact
      rw [activeRule_none hnone r hr hrd] at hact
      cases hact
    rcases hcases a ha with ha | rfl <;> rcases hcases b hb with hb | rfl
    · exact hinv.oneActive a ha b hb hd hactive hactive'
    · exact absurd hactive (hnew a ha hd)
    · exact absurd hactive' (hnew b hb hd.symm)
    · rfl
  · intro d'
    by_cases hd : d' = d
    · subst hd
      rw [hself, List.length_append, List.length_singleton, List.range'_1_concat,
        ← hinv.versions, nextVersion_eq hinv, Nat.add_comm]
    · rw [hother d' hd]
      exact hinv.versions d'
  · intro r hr hactive
    rcases hcases r hr with hr | rfl
    · have hne : r.key.1 ≠ d := by
        intro hrd
        rw [activeRule_none hnone r hr hrd] at hactive
        cases hactive
      rw [hother _ hne]
      exact hinv.activeLast r hr hactive
    · rw [hself, List.length_append, List.length_singleton]
      exact nextVersion_eq hinv d

end Cai.Mapping
