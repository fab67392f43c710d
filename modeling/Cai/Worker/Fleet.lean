/-
  Cai.Worker.Fleet — passes over all cycles.

  The cycles share `conversation_cycle_messages` and the two media tables,
  and nothing else that their passes write.  The fleet runs the machine of
  one cycle for every cycle: what a pass learns of the others when it
  saves its messages, it reads from the shared table.

  Main result: `classification_covers_owned`.
-/
import Cai.Worker.Coverage
import Cai.Worker.Decision
import Cai.Worker.Neighbours

namespace Cai.Worker

open Cai.Lib
open Cai.Cycle Cai.Media Cai.Finalization

/-! ## §1. The machine. -/

/-- The rows of `conversation_cycle_messages`, and the cycles by their ids. -/
structure Fleet where
  table : CycleMessages
  cycles : Nat → World

/-- The messages that a call saves. -/
def PC.saves : PC → Answer → Option (List Message)
  | .saveMessages _ _ normalized, .saved _ => some normalized.messages
  | _, _ => none

/-- The messages that an action saves. -/
def World.saves (s : World) : WorkerAction → Option (List Message)
  | .step w answer => (s.passes w).bind fun p => p.pc.saves answer
  | _ => none

/-- The messages that other cycles own are those of the table. -/
def Fleet.answered (s : Fleet) (cycleId : Nat) : WorkerAction → WorkerAction
  | .step w (.saved _) => .step w (.saved (ownedElsewhere cycleId s.table.rows))
  | a => a

/-- An action in one cycle; the others see what it does to the media tables. -/
def fleetStep (settings : Settings) (s : Fleet) (a : Nat × WorkerAction) : Option Fleet :=
  (workerStep settings (s.cycles a.1) (s.answered a.1 a.2)).map fun world =>
    { table := match (s.cycles a.1).saves a.2 with
        | some messages => s.table.save a.1 messages
        | none => s.table
      cycles := fun cycleId =>
        if cycleId = a.1 then world
        else { s.cycles cycleId with audio := world.audio, images := world.images } }

/-- **The passes over all cycles.** -/
def fleetMachine (settings : Settings) : Machine Fleet (Nat × WorkerAction) where
  init s := s.table.rows = [] ∧ ∀ cycleId, ∃ cycle contact, cycle.id = cycleId
    ∧ cycle.status = .pending ∧ cycle.snapshotJson = none
    ∧ s.cycles cycleId = World.fresh cycle contact
  step := fleetStep settings

/-- Passes over one cycle follow one another; passes over different cycles
    interleave in any way. -/
def Sequential (s : Fleet) (a : Nat × WorkerAction) : Prop := Follows (s.cycles a.1) a.2

/-- The message ids of a cycle, in the order of the positions. -/
def CycleMessages.inPositionOrder (table : CycleMessages) (cycleId : Nat) : List String :=
  ((table.rowsOf cycleId).insertionSort fun a b => a.position ≤ b.position).map (·.messageId)

variable {settings : Settings} {s t : World} {w : WorkerId} {p : Pass} {pc : PC} {answer : Answer}

/-! ## §2. What an action does to the rows. -/

theorem saves_step (s : World) (w : WorkerId) (answer : Answer) :
    s.saves (.step w answer) = (s.passes w).bind fun p => p.pc.saves answer := rfl

/-- A call that saves. -/
theorem passStep_saves {messages : List Message} (hsaves : pc.saves answer = some messages)
    (h : passStep settings s w p pc answer = some t) :
    ∃ taken, answer = .saved taken ∧ t.messages = (saveCycleMessages taken messages).rows := by
  unfold PC.saves at hsaves
  split at hsaves
  next closedAt history normalized taken =>
    injection hsaves with hsaves
    injection h with h
    subst h
    rw [← hsaves]
    exact ⟨taken, rfl, rfl⟩
  next => cases hsaves

/-- A call that does not. -/
theorem passStep_keeps (hsaves : pc.saves answer = none)
    (h : passStep settings s w p pc answer = some t) : t.messages = s.messages := by
  obtain ⟨next, heffect⟩ := passStep_effect h
  rcases heffect.messages with hsame | ⟨closedAt, history, normalized, rfl⟩
  · exact hsame
  · -- only `.saved` answers this call
    cases answer with
    | saved taken => cases hsaves
    | _ => cases h

/-- An action that saves nothing leaves the rows of its cycle. -/
theorem workerStep_keeps {a : WorkerAction} (hsaves : s.saves a = none)
    (h : workerStep settings s a = some t) : t.messages = s.messages := by
  cases workerStep_effect h with
  | media kind messageId st audio images htables => rfl
  | wake now cycle hwake => rfl
  | claim w now cycle hidle hclaim => rfl
  | call w answer p t next hp hcall heffect =>
      have hnone : p.pc.saves answer = none := by
        rwa [saves_step, hp, Option.bind_some] at hsaves
      exact passStep_keeps hnone hcall
  | stop w a p next hact hp hend hnext => rfl

/-- What is saved does not depend on what the others own. -/
theorem saves_saved (pc : PC) (taken taken' : List String) :
    pc.saves (.saved taken) = pc.saves (.saved taken') := by
  cases pc with
  | saveMessages closedAt history normalized => rfl
  | _ => rfl

theorem saves_answered (fleet : Fleet) (cycleId : Nat) (a : WorkerAction) :
    s.saves (fleet.answered cycleId a) = s.saves a := by
  unfold Fleet.answered
  split
  next w taken =>
    rw [saves_step, saves_step]
    congr 1
    funext p
    exact saves_saved p.pc _ taken
  next => rfl

/-- An action that saves is answered by the table. -/
theorem answered_of_saves (fleet : Fleet) (cycleId : Nat) {a : WorkerAction} {messages : List Message}
    (hsaves : s.saves a = some messages) :
    ∃ w, fleet.answered cycleId a = .step w (.saved (ownedElsewhere cycleId fleet.table.rows)) := by
  cases a with
  | step w answer =>
      rw [saves_step] at hsaves
      obtain ⟨p, -, hcall⟩ := Option.bind_eq_some_iff.mp hsaves
      unfold PC.saves at hcall
      split at hcall
      next => exact ⟨w, rfl⟩
      next => cases hcall
  | _ => cases hsaves

/-- Answering leaves the claims alone. -/
theorem follows_answered {fleet : Fleet} {cycleId : Nat} {a : WorkerAction} (h : Follows s a) :
    Follows s (fleet.answered cycleId a) := by
  unfold Fleet.answered
  split
  next => exact nofun
  next => exact h

/-! ## §3. Whole runs. -/

/-- Every cycle is covered, and the shared table has its rows. -/
structure FleetInv (s : Fleet) : Prop where
  covered : ∀ cycleId, Covered (s.cycles cycleId)
  rows : ∀ cycleId, (s.cycles cycleId).messages = s.table.rowsOf cycleId

variable {f g : Fleet}

/-- The rows after an action. -/
theorem fleet_rows {cycleId : Nat} {a : WorkerAction} {world : World}
    (hrows : ∀ c, (f.cycles c).messages = f.table.rowsOf c)
    (h : workerStep settings (f.cycles cycleId) (f.answered cycleId a) = some world) :
    let table := match (f.cycles cycleId).saves a with
      | some messages => f.table.save cycleId messages
      | none => f.table
    world.messages = table.rowsOf cycleId
      ∧ ∀ other, other ≠ cycleId → table.rowsOf other = f.table.rowsOf other := by
  cases hsaves : (f.cycles cycleId).saves a with
  | none =>
      have hkept := workerStep_keeps ((saves_answered f cycleId a).trans hsaves) h
      exact ⟨hkept.trans (hrows cycleId), fun other _ => rfl⟩
  | some messages =>
      obtain ⟨w, hanswered⟩ := answered_of_saves f cycleId hsaves
      have hcalled := (saves_answered f cycleId a).trans hsaves
      rw [hanswered, saves_step] at hcalled
      rw [hanswered] at h
      obtain ⟨p, hp, hcall⟩ := Option.bind_eq_some_iff.mp hcalled
      obtain ⟨p', hp', hstep⟩ := Option.bind_eq_some_iff.mp h
      rw [hp] at hp'
      obtain rfl := Option.some.inj hp'
      obtain ⟨taken, htaken, hmessages⟩ := passStep_saves hcall hstep
      injection htaken with htaken
      refine ⟨?_, fun other hne => CycleMessages.rowsOf_save_other hne⟩
      rw [hmessages, ← htaken]
      exact (CycleMessages.rowsOf_save_self f.table cycleId messages).symm

/-- **The step lemma of `FleetInv`.** -/
theorem fleetInv_step {a : Nat × WorkerAction} (hinv : FleetInv f) (hseq : Sequential f a)
    (h : fleetStep settings f a = some g) : FleetInv g := by
  obtain ⟨world, hstep, rfl⟩ := Option.map_eq_some_iff.mp h
  obtain ⟨hown, hothers⟩ := fleet_rows hinv.rows hstep
  constructor
  · intro cycleId
    by_cases hc : cycleId = a.1
    · show Covered (if cycleId = a.1 then _ else _)
      rw [if_pos hc]
      exact covered_step (hinv.covered a.1) (follows_answered hseq) hstep
    · -- the other cycles see the media tables change, no more
      show Covered (if cycleId = a.1 then _ else _)
      rw [if_neg hc]
      have hcovered := hinv.covered cycleId
      exact ⟨hcovered.inStep.of_eq rfl rfl rfl, hcovered.alone, hcovered.passes⟩
  · intro cycleId
    by_cases hc : cycleId = a.1
    · show World.messages (if cycleId = a.1 then world else _) = _
      rw [if_pos hc, hc]
      exact hown
    · show World.messages (if cycleId = a.1 then world else _) = _
      rw [if_neg hc]
      exact (hinv.rows cycleId).trans (hothers cycleId hc).symm

theorem fleetInv_reachable (h : (fleetMachine settings).ReachableWhere Sequential f) : FleetInv f := by
  refine Machine.ReachableWhere.invariant h ?_ fun f a g hinv hseq hstep => fleetInv_step hinv hseq hstep
  intro f hinit
  obtain ⟨hempty, hcycles⟩ := hinit
  constructor
  · intro cycleId
    obtain ⟨cycle, contact, -, hstatus, hsnapshot, hfresh⟩ := hcycles cycleId
    rw [hfresh]
    exact covered_fresh contact hstatus hsnapshot
  · intro cycleId
    obtain ⟨cycle, contact, -, -, -, hfresh⟩ := hcycles cycleId
    rw [hfresh]
    unfold CycleMessages.rowsOf
    rw [hempty]
    rfl

/-! ## §4. The main result. -/

/-- The classification of a cycle has the messages of its rows, in order. -/
theorem classification_inPositionOrder (hinv : FleetInv f) {cycleId : Nat} {row : Classification}
    (h : (f.cycles cycleId).classification = some row) :
    row.messageIds = f.table.inPositionOrder cycleId := by
  have hin := (hinv.covered cycleId).inStep
  have hsorted : (f.table.rowsOf cycleId).Pairwise fun a b => a.position ≤ b.position := by
    rw [← hinv.rows cycleId]
    exact hin.sorted.imp fun hlt => Nat.le_of_lt hlt
  unfold CycleMessages.inPositionOrder
  rw [hsorted.insertionSort_eq, ← hinv.rows cycleId]
  exact (hin.classification row h).2

/-- **A classification covers the messages its cycle owns.**  In every run in
    which passes over one cycle follow one another, wherever they stop: the
    classification of a finished cycle has exactly the messages of its rows,
    in the order of their positions, and no message is in two classifications. -/
theorem classification_covers_owned (settings : Settings) {f : Fleet}
    (h : (fleetMachine settings).ReachableWhere Sequential f) :
    (∀ cycleId, (f.cycles cycleId).finished → ∃ row, (f.cycles cycleId).classification = some row
        ∧ row.messageIds = f.table.inPositionOrder cycleId)
      ∧ ∀ cycleId other row row', cycleId ≠ other →
          (f.cycles cycleId).classification = some row →
          (f.cycles other).classification = some row' →
          ∀ messageId ∈ row.messageIds, messageId ∉ row'.messageIds := by
  have hinv := fleetInv_reachable h
  constructor
  · intro cycleId hfinished
    obtain ⟨row, hrow⟩ := Option.isSome_iff_exists.mp
      ((hinv.covered cycleId).inStep.finished hfinished)
    exact ⟨row, hrow, classification_inPositionOrder hinv hrow⟩
  · intro cycleId other row row' hne hrow hrow' messageId hmem hmem'
    -- the table gives a message one owner
    have howner {c : Nat} {r : Classification} (hr : (f.cycles c).classification = some r)
        (hm : messageId ∈ r.messageIds) : f.table.owner? messageId = some c := by
      have hids := ((hinv.covered c).inStep.classification r hr).2
      rw [hids] at hm
      unfold World.ids at hm
      rw [hinv.rows c] at hm
      exact CycleMessages.mem_rowsOf_iff.mp hm
    have heq := (howner hrow hmem).symm.trans (howner hrow' hmem')
    exact hne (Option.some.inj heq)

/-- Two cycles that nobody has claimed. -/
def freshFleet : Fleet :=
  ⟨noMessages, fun cycleId => World.fresh (if cycleId = 2 then secondCycle else { firstCycle with
    id := cycleId }) none⟩

/-- The worker of a cycle goes through a pass over the history with the late thanks. -/
def passOver (cycleId : Nat) (w : WorkerId) (previousClosedAt : Option Timestamp) :
    List (Nat × WorkerAction) :=
  ([.step w (.transition 100 0), .step w (.history lateHistory previousClosedAt), .step w (.saved []),
    .step w (.names [] [] []), .step w (.transition 100 0), .step w .read, .step w .read,
    .step w .read, .step w .read, .step w .read, .step w (.transition 100 0), .step w .analyzed,
    .step w (.inserted (cycleId + 10)), .step w (.transition 100 0)] : List WorkerAction).map
      fun a => (cycleId, a)

/-- What follows the claims: worker 0 is done first. -/
def bothPasses : List (Nat × WorkerAction) := passOver 2 0 (some 10000000) ++ passOver 1 1 none

theorem sequential_of_not_claim {a : Nat × WorkerAction} (h : (a.2 matches .claim ..) = false)
    (f : Fleet) : Sequential f a := by
  intro w now hclaim
  rw [hclaim] at h
  cases h

/-- Worker 0 claims the second cycle, worker 1 the first one. -/
theorem bothPasses_reachable
    (h : (fleetMachine settings).exec freshFleet ((2, .claim 0 100) :: (1, .claim 1 100) :: bothPasses)
      = some f) : (fleetMachine settings).ReachableWhere Sequential f := by
  simp only [Machine.exec, Option.bind_eq_some_iff] at h
  obtain ⟨f₁, hfirst, f₂, hsecond, hrest⟩ := h
  have hinit : (fleetMachine settings).init freshFleet := by
    refine ⟨rfl, fun cycleId => ?_⟩
    by_cases hc : cycleId = 2
    · exact ⟨secondCycle, none, hc.symm, rfl, rfl, by simp [freshFleet, hc]⟩
    · exact ⟨{ firstCycle with id := cycleId }, none, rfl, rfl, rfl, by simp [freshFleet, hc]⟩
  have hpasses : ∀ a ∈ bothPasses, (a.2 matches .claim ..) = false := by
    have hall : bothPasses.all (fun a => !(a.2 matches .claim ..)) = true := rfl
    intro a ha
    simpa using List.all_eq_true.mp hall a ha
  have hstart : Sequential freshFleet (2, .claim 0 100) := fun _ _ _ _ => rfl
  have hnext : Sequential f₁ (1, .claim 1 100) := by
    -- the first claim was one of the other cycle
    have hstep : fleetStep settings freshFleet (2, .claim 0 100) = some f₁ := hfirst
    obtain ⟨world, -, rfl⟩ := Option.map_eq_some_iff.mp hstep
    exact fun _ _ _ _ => rfl
  have hrun := Machine.runWhere_of_exec (fun a ha f => sequential_of_not_claim (hpasses a ha) f) hrest
  exact (((Machine.ReachableWhere.init hinit).step hstart hfirst).step hnext hsecond).run hrun

/-- Each of the two classifications has the message of its cycle. -/
theorem classification_covers_owned_both :
    ∃ (f : Fleet) (row row' : Classification), (fleetMachine defaultSettings).ReachableWhere Sequential f
      ∧ (f.cycles 1).finished ∧ row.messageIds = ["question"]
      ∧ f.table.inPositionOrder 1 = ["question"] ∧ row'.messageIds = ["thanks"]
      ∧ (∀ messageId ∈ row.messageIds, messageId ∉ row'.messageIds) := by
  have hrun : ((fleetMachine defaultSettings).exec freshFleet
      ((2, .claim 0 100) :: (1, .claim 1 100) :: bothPasses)).map (fun f =>
        ((f.cycles 1).cycle.status, (f.cycles 1).classification.map (·.messageIds),
          (f.cycles 2).classification.map (·.messageIds)))
      = some (.completedWithWarnings, some ["question"], some ["thanks"]) := by decide +kernel
  obtain ⟨f, hexec, hobs⟩ := Option.map_eq_some_iff.mp hrun
  simp only [Prod.mk.injEq] at hobs
  obtain ⟨hstatus, hfirst, hsecond⟩ := hobs
  obtain ⟨row', hrow', hids'⟩ := Option.map_eq_some_iff.mp hsecond
  have hreach := bothPasses_reachable hexec
  have hfinished : (f.cycles 1).finished := .inr hstatus
  obtain ⟨hcovers, hdisjoint⟩ := classification_covers_owned defaultSettings hreach
  obtain ⟨row, hrow, hordered⟩ := hcovers 1 hfinished
  have hids : row.messageIds = ["question"] := by
    rw [hrow, Option.map_some] at hfirst
    exact Option.some.inj hfirst
  exact ⟨f, row, row', hreach, hfinished, hids, hordered.symm.trans hids, hids',
    hdisjoint 1 2 row row' (by decide) hrow hrow'⟩

end Cai.Worker
