/-
  Cai.Webhook.Server — deliveries and workers on the same tables.

  A request of the webhook is its calls (`webhookCalls`), each a
  transaction of its own.  Any number of requests are in progress; between
  two calls of one, other requests make theirs, workers claim and write
  rows, and a request may be cut off.  Each table is one of the machines
  of the earlier modules.

  Main results:
    * `undisturbed_delivery` — a request whose calls are made in a row does
      what `digisac_webhook` does.
    * `server_sound` — what holds of the tables, whatever interleaves.
-/
import Cai.Cycle.Structure
import Cai.Directory.Attempts
import Cai.Lib.Simulation
import Cai.Media.Fleet
import Cai.Webhook.Decisions
import Cai.Webhook.Restart

namespace Cai.Webhook

open Cai.Lib
open Cai.Cycle (Timestamp Fresh CycleRow CycleState CycleAction cycleStep cycleMachine TableInv)
open Cai.Directory (HydrationSettings HydrationState HydrationAction hydrationStep hydrationMachine)
open Cai.Mapping (AssignmentTables recordTicketAssignment)
open Cai.Media (FleetSettings FleetState FleetAction fleetStep fleetMachine MediaInv MediaTable
  ContentTable reserveContent reserveContentSync runStatement)

/-! ## §1. The machine. -/

structure ServerSettings where
  webhook : WebhookSettings
  hydration : HydrationSettings
  audio : FleetSettings
  images : FleetSettings
  collation : LinearOrder String

structure Server where
  hydration : HydrationState
  assignments : AssignmentTables
  cycles : CycleState
  audio : FleetState
  images : FleetState
  ledger : LedgerState
  /-- The calls that each request has still to make. -/
  requests : List (List Call)

/-- The tables of the webhook. -/
def Server.tables (s : Server) : Tables
  | .contacts => s.hydration.tables
  | .assignments => s.assignments
  | .cycles => s.cycles.cycles
  | .audio => s.audio.table.get?
  | .images => s.images.table.get?
  | .ledger => s.ledger.ledger

inductive ServerAction
  /-- A body arrives. -/
  | deliver (now : Timestamp) (body : Json)
  /-- The next call of the `k`-th request. -/
  | call (k : Nat) (now : Timestamp) (fresh : Fresh)
  /-- The `k`-th request is cut off. -/
  | crash (k : Nat)
  /-- The workers of the tables. -/
  | hydration (a : HydrationAction)
  | cycles (a : CycleAction)
  | audio (a : FleetAction)
  | images (a : FleetAction)
  | ledger (a : LedgerAction)

variable (lib : Library) (settings : ServerSettings) (now : Timestamp) (fresh : Fresh)

/-- One call, on the table that it is about. -/
def makeCall (s : Server) : Call → Option Server
  | .contact o =>
      (hydrationStep settings.hydration s.hydration (.write now (.upsert o))).map
        fun hydration => { s with hydration }
  | .sender request =>
      (hydrationStep settings.hydration s.hydration (.request now request.1 request.2)).map
        fun hydration => { s with hydration }
  | .assignment e =>
      some { s with assignments := tablesAfter s.assignments (recordTicketAssignment now e s.assignments) }
  | .ticket call =>
      (cycleStep s.cycles (.ticket now settings.webhook.initialDelaySeconds fresh call)).map
        fun cycles => { s with cycles }
  | .audio messageId conversationId =>
      (fleetStep settings.audio settings.collation s.audio
        (.reserve messageId now (some conversationId) settings.webhook.audioModel false)).map
        fun audio => { s with audio }
  | .image messageId conversationId =>
      (fleetStep settings.images settings.collation s.images
        (.reserve messageId now (some conversationId) settings.webhook.imageModel false)).map
        fun images => { s with images }
  | .event digest =>
      (ledgerStep s.ledger ⟨now, .record digest⟩).map fun ledger => { s with ledger }

def serverStep (s : Server) : ServerAction → Option Server
  | .deliver now body => some { s with requests := s.requests ++ [webhookCalls lib now body] }
  | .call k now fresh =>
      match s.requests[k]? with
      | some (call :: rest) =>
          (makeCall settings now fresh s call).map
            fun t => { t with requests := s.requests.set k rest }
      | _ => none
  | .crash k => some { s with requests := s.requests.set k [] }
  | .hydration a =>
      (hydrationStep settings.hydration s.hydration a).map fun hydration => { s with hydration }
  | .cycles a => (cycleStep s.cycles a).map fun cycles => { s with cycles }
  | .audio a => (fleetStep settings.audio settings.collation s.audio a).map fun audio => { s with audio }
  | .images a =>
      (fleetStep settings.images settings.collation s.images a).map fun images => { s with images }
  | .ledger a => (ledgerStep s.ledger a).map fun ledger => { s with ledger }

/-- **The webhook and the workers**: known contacts and markers, nothing else yet. -/
def serverMachine : Machine Server ServerAction where
  init s := (hydrationMachine settings.hydration).init s.hydration ∧ s.cycles = ⟨[], []⟩
    ∧ s.audio = FleetState.empty ∧ s.images = FleetState.empty ∧ s.ledger.log = []
    ∧ s.requests = []
  step := serverStep lib settings

/-! ## §2. A call is a write of its table. -/

variable {lib settings now fresh} {s t : Server} {call : Call} {calls : List Call}

/-- A reservation, as the other tables of the webhook see it. -/
theorem get?_reserve (table : ContentTable) (messageId conversationId model : String) :
    (reserveContentSync now messageId (some conversationId) model false table).1.get?
      = runStatement messageId (reserve now conversationId model) table.get? := by
  funext id
  show _ = Function.update table.get? messageId ((reserveContent now (some conversationId) model
    false (table.get? messageId)).or (table.get? messageId)) id
  unfold reserveContentSync
  by_cases hid : id = messageId
  · subst hid
    rw [Function.update_self]
    cases hres : reserveContent now (some conversationId) model false (table.get? id) with
    | none => rfl
    | some r =>
        rw [Option.some_or]
        exact ContentTable.get?_put_self
  · rw [Function.update_of_ne hid]
    cases hres : reserveContent now (some conversationId) model false (table.get? messageId) with
    | none => rfl
    | some r => exact ContentTable.get?_put_ne hid

/-- What the calls change of the other tables. -/
theorem tables_update (part : Part) {value : part.Table} (hself : t.tables part = value)
    (hother : ∀ other, other ≠ part → t.tables other = s.tables other) :
    t.tables = Function.update s.tables part value := by
  funext other
  by_cases hpart : other = part
  · subst hpart
    rw [Function.update_self, hself]
  · rw [Function.update_of_ne hpart, hother other hpart]

/-- The ledger after an event was recorded. -/
theorem ledgerStep_record {l l' : LedgerState} {digest : String}
    (h : ledgerStep l ⟨now, .record digest⟩ = some l') :
    l'.ledger = tablesAfter l.ledger (recordWebhookEvent now digest l.ledger) ∧ l'.clock = now := by
  unfold ledgerStep at h
  split at h
  next =>
    dsimp only [LedgerStatement.execute] at h
    cases hrecord : recordWebhookEvent now digest l.ledger with
    | error e =>
        rw [hrecord] at h
        injection h with h
        subst h
        exact ⟨rfl, rfl⟩
    | ok result =>
        rw [hrecord] at h
        injection h with h
        subst h
        exact ⟨rfl, rfl⟩
  next => cases h

/-- The cycles after a ticket call. -/
theorem cycleStep_ticket {c c' : CycleState} {delaySeconds : Nat} {call : Cycle.TicketCall}
    (h : cycleStep c (.ticket now delaySeconds fresh call) = some c') :
    c'.cycles = committed c.cycles ((call.perform now delaySeconds fresh c.cycles).map (·.rows)) := by
  unfold cycleStep at h
  dsimp only at h
  cases hperform : call.perform now delaySeconds fresh c.cycles with
  | error e =>
      rw [hperform] at h
      injection h with h
      rw [← h]
      rfl
  | ok result =>
      rw [hperform] at h
      injection h with h
      rw [← h]
      rfl

/-- **A call writes what the webhook writes.** -/
theorem makeCall_tables (h : makeCall settings now fresh s call = some t) :
    t.tables = (call.write settings.webhook fresh).run now s.tables := by
  cases call with
  | contact o =>
      obtain rfl := Option.some.inj h
      exact tables_update .contacts rfl (fun other hne => by cases other <;> trivial)
  | sender request =>
      obtain rfl := Option.some.inj h
      exact tables_update .contacts rfl (fun other hne => by cases other <;> trivial)
  | assignment e =>
      injection h with h
      subst h
      exact tables_update .assignments rfl (fun other hne => by cases other <;> trivial)
  | ticket call =>
      obtain ⟨cycles, hstep, rfl⟩ := Option.map_eq_some_iff.mp h
      exact tables_update .cycles (cycleStep_ticket hstep)
        (fun other hne => by cases other <;> trivial)
  | audio messageId conversationId =>
      obtain rfl := Option.some.inj h
      exact tables_update .audio (get?_reserve _ _ _ _)
        (fun other hne => by cases other <;> trivial)
  | image messageId conversationId =>
      obtain rfl := Option.some.inj h
      exact tables_update .images (get?_reserve _ _ _ _)
        (fun other hne => by cases other <;> trivial)
  | event digest =>
      obtain ⟨ledger, hstep, rfl⟩ := Option.map_eq_some_iff.mp h
      exact tables_update .ledger (ledgerStep_record hstep).1
        (fun other hne => by cases other <;> trivial)

/-! ## §3. A request without interruption. -/

/-- A call can be made when the clock of the markers does not go back. -/
theorem makeCall_made (settings : ServerSettings) (fresh : Fresh) (hclock : s.ledger.clock ≤ now)
    (call : Call) :
    ∃ t, makeCall settings now fresh s call = some t ∧ t.requests = s.requests
      ∧ t.ledger.clock ≤ now := by
  cases call with
  | contact o => exact ⟨_, rfl, rfl, hclock⟩
  | sender request => exact ⟨_, rfl, rfl, hclock⟩
  | assignment e => exact ⟨_, rfl, rfl, hclock⟩
  | audio messageId conversationId => exact ⟨_, rfl, rfl, hclock⟩
  | image messageId conversationId => exact ⟨_, rfl, rfl, hclock⟩
  | ticket call =>
      have hmade : ∃ cycles, cycleStep s.cycles
          (.ticket now settings.webhook.initialDelaySeconds fresh call) = some cycles := by
        unfold cycleStep
        dsimp only
        split
        next result _ => exact ⟨_, rfl⟩
        next => exact ⟨_, rfl⟩
      obtain ⟨cycles, hstep⟩ := hmade
      exact ⟨{ s with cycles }, by simp only [makeCall, hstep, Option.map_some], rfl, hclock⟩
  | event digest =>
      have hmade : ∃ ledger, ledgerStep s.ledger ⟨now, .record digest⟩ = some ledger := by
        unfold ledgerStep
        rw [if_pos hclock]
        split
        next ledger event _ => exact ⟨_, rfl⟩
        next => exact ⟨_, rfl⟩
      obtain ⟨ledger, hstep⟩ := hmade
      exact ⟨{ s with ledger }, by simp only [makeCall, hstep, Option.map_some], rfl,
        (ledgerStep_record hstep).2.le⟩

theorem exec_calls (lib : Library) (settings : ServerSettings) (fresh : Fresh) {k : Nat}
    (hclock : s.ledger.clock ≤ now) (hk : s.requests[k]? = some calls) :
    ∃ t, (serverMachine lib settings).exec s (List.replicate calls.length (.call k now fresh)) = some t
      ∧ t.tables = runWrites now (calls.map (Call.write settings.webhook fresh)) s.tables := by
  induction calls generalizing s with
  | nil => exact ⟨s, rfl, rfl⟩
  | cons call rest ih =>
      obtain ⟨u, hu, hrequests, hclock'⟩ := makeCall_made settings fresh hclock call
      have hlength : k < s.requests.length := (List.getElem?_eq_some_iff.mp hk).1
      obtain ⟨t, ht, htables⟩ := ih (s := { u with requests := s.requests.set k rest }) hclock'
        (List.getElem?_set_self hlength)
      refine ⟨t, ?_, ?_⟩
      · show (serverStep lib settings s (.call k now fresh)).bind _ = some t
        simp only [serverStep, hk, hu, Option.map_some, Option.bind_some]
        exact ht
      · rw [htables]
        show runWrites now _ u.tables = _
        rw [makeCall_tables hu]
        rfl

/-- **A request whose calls are made in a row** does what `digisac_webhook`
    does in one go. -/
theorem undisturbed_delivery (hclock : s.ledger.clock ≤ now) (body : Json) :
    ∃ t, (serverMachine lib settings).exec s (.deliver now body
        :: List.replicate (webhookCalls lib now body).length (.call s.requests.length now fresh))
          = some t
      ∧ t.tables = (digisacWebhook lib settings.webhook fresh now body s.tables).1 := by
  have hk : (s.requests ++ [webhookCalls lib now body])[s.requests.length]?
      = some (webhookCalls lib now body) := by simp
  obtain ⟨t, ht, htables⟩ := exec_calls lib settings fresh
    (s := { s with requests := s.requests ++ [webhookCalls lib now body] }) hclock hk
  exact ⟨t, ht, by rw [htables, digisacWebhook_tables]; rfl⟩

/-! ## §4. Each table is its machine. -/

/-- What a step does to one of the machines: nothing, or one of its steps. -/
def Seen {σ α : Type} (step : σ → α → Option σ) (c c' : σ) : Prop := c' = c ∨ ∃ a, step c a = some c'

/-- What a step does to all of them. -/
structure ServerMove (settings : ServerSettings) (s t : Server) : Prop where
  hydration : Seen (hydrationStep settings.hydration) s.hydration t.hydration
  cycles : Seen cycleStep s.cycles t.cycles
  audio : Seen (fleetStep settings.audio settings.collation) s.audio t.audio
  images : Seen (fleetStep settings.images settings.collation) s.images t.images
  ledger : Seen ledgerStep s.ledger t.ledger

theorem ServerMove.still : ServerMove settings s s := by
  constructor <;> exact .inl rfl

theorem makeCall_move (h : makeCall settings now fresh s call = some t) : ServerMove settings s t := by
  cases call with
  | contact o =>
      obtain rfl := Option.some.inj h
      exact { ServerMove.still with hydration := .inr ⟨.write now (.upsert o), rfl⟩ }
  | sender request =>
      obtain rfl := Option.some.inj h
      exact { ServerMove.still with hydration := .inr ⟨.request now request.1 request.2, rfl⟩ }
  | assignment e =>
      injection h with h
      subst h
      constructor <;> exact .inl rfl
  | ticket call =>
      obtain ⟨cycles, hstep, rfl⟩ := Option.map_eq_some_iff.mp h
      exact { ServerMove.still with cycles := .inr ⟨_, hstep⟩ }
  | audio messageId conversationId =>
      obtain rfl := Option.some.inj h
      exact { ServerMove.still with audio := .inr ⟨.reserve messageId now _ _ false, rfl⟩ }
  | image messageId conversationId =>
      obtain rfl := Option.some.inj h
      exact { ServerMove.still with images := .inr ⟨.reserve messageId now _ _ false, rfl⟩ }
  | event digest =>
      obtain ⟨ledger, hstep, rfl⟩ := Option.map_eq_some_iff.mp h
      exact { ServerMove.still with ledger := .inr ⟨_, hstep⟩ }

/-- **One step of the server** is at most one step of each table. -/
theorem serverStep_move {a : ServerAction} (h : serverStep lib settings s a = some t) :
    ServerMove settings s t := by
  cases a with
  | deliver now body =>
      injection h with h
      subst h
      constructor <;> exact .inl rfl
  | call k now fresh =>
      simp only [serverStep] at h
      split at h
      next call rest _ =>
        obtain ⟨u, hu, rfl⟩ := Option.map_eq_some_iff.mp h
        exact ⟨(makeCall_move hu).hydration, (makeCall_move hu).cycles, (makeCall_move hu).audio,
          (makeCall_move hu).images, (makeCall_move hu).ledger⟩
      next => cases h
  | crash k =>
      injection h with h
      subst h
      constructor <;> exact .inl rfl
  | hydration a =>
      obtain ⟨hydration, hstep, rfl⟩ := Option.map_eq_some_iff.mp h
      exact { ServerMove.still with hydration := .inr ⟨a, hstep⟩ }
  | cycles a =>
      obtain ⟨cycles, hstep, rfl⟩ := Option.map_eq_some_iff.mp h
      exact { ServerMove.still with cycles := .inr ⟨a, hstep⟩ }
  | audio a =>
      obtain ⟨audio, hstep, rfl⟩ := Option.map_eq_some_iff.mp h
      exact { ServerMove.still with audio := .inr ⟨a, hstep⟩ }
  | images a =>
      obtain ⟨images, hstep, rfl⟩ := Option.map_eq_some_iff.mp h
      exact { ServerMove.still with images := .inr ⟨a, hstep⟩ }
  | ledger a =>
      obtain ⟨ledger, hstep, rfl⟩ := Option.map_eq_some_iff.mp h
      exact { ServerMove.still with ledger := .inr ⟨a, hstep⟩ }

/-- A table of the server, as a machine of its own. -/
theorem component_reachable {σ α : Type} (M : Machine σ α) (view : Server → σ)
    (h₀ : ∀ s, (serverMachine lib settings).init s → M.init (view s))
    (hmove : ∀ s t, ServerMove settings s t → Seen M.step (view s) (view t))
    (h : (serverMachine lib settings).Reachable s) : M.Reachable (view s) := by
  refine Machine.Reachable.simulate h h₀ ?_
  intro s a t _ hstep
  rcases hmove s t (serverStep_move hstep) with hsame | ⟨b, hb⟩
  · exact Machine.run_of_eq hsame
  · exact Machine.run_of_step hb

/-- What holds of the tables. -/
structure ServerSound (settings : ServerSettings) (s : Server) : Prop where
  /-- The cycles: one open cycle of a conversation, sequence numbers without a
      gap, one cycle for an event. -/
  cycles : TableInv s.cycles.cycles
  /-- An event is accepted once, until its marker has expired. -/
  accepted_once : s.ledger.log.Pairwise fun later earlier => ∀ d t t',
    earlier = .decided d t true → later = .decided d t' true → t + eventIdempotencyTtl ≤ t'
  /-- A media row counts its claims, and only the latest of them is stored. -/
  audio : ∀ id, MediaInv settings.audio.owner (s.audio.view id)
  images : ∀ id, MediaInv settings.images.owner (s.images.view id)
  hydration : (hydrationMachine settings.hydration).Reachable s.hydration

/-- **Whatever interleaves**, the tables keep what each of them promises. -/
theorem server_sound
    (haudio : ∀ v w, Text.strip (settings.audio.owner v) = Text.strip (settings.audio.owner w) → v = w)
    (himages : ∀ v w, Text.strip (settings.images.owner v) = Text.strip (settings.images.owner w)
      → v = w)
    (h : (serverMachine lib settings).Reachable s) : ServerSound settings s := by
  constructor
  · exact (Cycle.reachable_cycleInv (component_reachable cycleMachine Server.cycles
      (fun s hs => hs.2.1) (fun s t hmove => hmove.cycles) h)).table
  · have hspaced := reachable_spaced (component_reachable ledgerMachine Server.ledger
      (fun s hs => hs.2.2.2.2.1) (fun s t hmove => hmove.ledger) h)
    refine hspaced.imp ?_
    intro later earlier hlater d t t' hearlier haccepted
    exact hlater d t' _ haccepted (by rw [hearlier]; rfl)
  · intro id
    have hreach := component_reachable (fleetMachine settings.audio settings.collation) Server.audio
      (fun s hs => hs.2.2.1) (fun s t hmove => hmove.audio) h
    exact Media.mediaInv_view haudio hreach id
  · intro id
    have hreach := component_reachable (fleetMachine settings.images settings.collation) Server.images
      (fun s hs => hs.2.2.2.1) (fun s t hmove => hmove.images) h
    exact Media.mediaInv_view himages hreach id
  · exact component_reachable (hydrationMachine settings.hydration) Server.hydration
      (fun s hs => hs.1) (fun s t hmove => hmove.hydration) h

def sampleServer : ServerSettings where
  webhook := ticketSettings
  hydration := Directory.defaultSettings
  audio := Media.audioFleet
  images := { Media.audioFleet with kind := .image }
  collation := Media.codePoints

def idleServer : Server where
  hydration := Directory.noContacts
  assignments := noTables .assignments
  cycles := ⟨[], []⟩
  audio := .empty
  images := .empty
  ledger := { ledger := noTables .ledger, clock := 0 }
  requests := []

/-- The ticket is delivered once: its contact, and its cycle. -/
theorem undisturbed_delivery_opening :
    ∃ t, (serverMachine ticketLibrary sampleServer).exec idleServer (.deliver 10 ticketBody
        :: List.replicate (webhookCalls ticketLibrary 10 ticketBody).length (.call 0 10 ⟨1, 101⟩))
          = some t
      ∧ t.tables = (digisacWebhook ticketLibrary ticketSettings ⟨1, 101⟩ 10 ticketBody
          idleServer.tables).1 :=
  @undisturbed_delivery ticketLibrary sampleServer 10 ⟨1, 101⟩ idleServer (by decide) ticketBody

/-- The ticket is delivered twice, call by call in turn. -/
def interleavedRun : List ServerAction :=
  [.deliver 10 ticketBody, .deliver 11 ticketBody, .call 0 12 ⟨1, 101⟩, .call 1 13 ⟨2, 102⟩,
   .call 1 14 ⟨2, 102⟩, .call 0 15 ⟨1, 101⟩]

/-- Both deliveries are about one cycle. -/
theorem server_sound_interleaved :
    ∃ s, (serverMachine ticketLibrary sampleServer).exec idleServer interleavedRun = some s
      ∧ s.cycles.cycles.map (·.publicId) = [102] ∧ ServerSound sampleServer s := by
  have hrun : ((serverMachine ticketLibrary sampleServer).exec idleServer interleavedRun).map
      (fun s => s.cycles.cycles.map (·.publicId)) = some [102] := by
    decide +kernel
  obtain ⟨s, hs, hcycles⟩ := Option.map_eq_some_iff.mp hrun
  exact ⟨s, hs, hcycles, server_sound Media.plusOwners_distinct Media.plusOwners_distinct
    (Machine.reachable_of_exec ⟨⟨rfl, rfl, rfl⟩, rfl, rfl, rfl, rfl, rfl⟩ hs)⟩

end Cai.Webhook
