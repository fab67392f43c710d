/-
  Cai.Cycle.Structure — the shape of the cycle table in every run.

  `TableWrite` says once what any step can do to the table; `TableInv` is
  the invariant that every such write keeps.

  Main result: `cycle_table_structure`.
-/
import Mathlib.Data.List.Range
import Cai.Cycle.Table

namespace Cai.Cycle

open Cai.Lib

/-! ## §1. What a step can do to the table. -/

inductive TableWrite (rows : List CycleRow) : List CycleRow → Prop
  | same : TableWrite rows rows
  | insert (r : CycleRow) (hstatus : r.status = .open ↔ r.ticketClosedAt = none)
      (hkey : r.ticketClosedAt = none → r.closeEventKey = none)
      (hseq : r.sequenceNumber = nextSequence rows r.conversationId)
      (hins : insertable rows r = true) : TableWrite rows (Table.insert rows r)
  | join (now : Timestamp) (contact : Option String) (publicId : Nat) :
      TableWrite rows (Table.update (·.publicId == publicId) (joinRow now contact) rows)
  | close (now : Timestamp) (delaySeconds : Nat) (args : CloseArgs) (closedAt : Timestamp)
      (contact : Option String) (x : CycleRow) (hx : x ∈ rows) (hopen : x.ticketClosedAt = none)
      (hfresh : ∀ r ∈ rows, r.closeEventKey ≠ some args.closeEventKey) :
      TableWrite rows
        (Table.update (·.id == x.id) (closeRow now delaySeconds args closedAt contact) rows)
  | touch (publicId : Nat) (f : CycleRow → CycleRow)
      (hkey : ∀ r, (f r).toCycleKey = r.toCycleKey)
      (hstatus : ∀ r ∈ rows, r.publicId = publicId → ((f r).status = .open ↔ r.status = .open)) :
      TableWrite rows (Table.update (·.publicId == publicId) f rows)

theorem openConversation_eq_some {r : CycleRow} {conversationId : String} :
    r.openConversation = some conversationId
      ↔ r.ticketClosedAt = none ∧ r.conversationId = conversationId := by
  unfold CycleRow.openConversation
  by_cases h : r.ticketClosedAt = none <;> simp [h]

/-- What a call returns is a row of the table it leaves. -/
theorem returning_spec {rows : List CycleRow} {publicId : Nat} {created : Bool}
    {result : CycleResult} (h : returning rows publicId created = .ok result) :
    result.rows = rows ∧ result.cycle ∈ rows ∧ result.cycle.publicId = publicId
      ∧ result.created = created := by
  unfold returning at h
  split at h
  next cycle hsel =>
    injection h with h
    subst h
    obtain ⟨hmem, hid⟩ := Table.select_mem hsel
    exact ⟨rfl, hmem, by simpa using hid, rfl⟩
  next => cases h

/-- The branches of `_create_open_cycle_sync`. -/
theorem createOpenCycle_cases {now : Timestamp} {fresh : Fresh} {args : CreateArgs}
    {rows : List CycleRow} {result : CycleResult}
    (h : createOpenCycle now fresh args rows = .ok result) :
    ∃ contact, normalizeContact args.contactExternalId = .ok contact ∧
    ((∃ d ∈ rows, d.openEventKey = some args.openEventKey
        ∧ returning rows d.publicId false = .ok result)
    ∨ ((∀ r ∈ rows, r.openEventKey ≠ some args.openEventKey) ∧
      ((∃ x ∈ rows, x.openConversation = some args.conversationId ∧
          ((contact = none ∧ returning rows x.publicId false = .ok result)
          ∨ (contact.isSome = true ∧
              returning (Table.update (·.publicId == x.publicId) (joinRow now contact) rows)
                x.publicId false = .ok result)))
      ∨ ((∀ r ∈ rows, r.openConversation ≠ some args.conversationId) ∧
          ∃ startedAt, insertable rows (openRow now fresh args startedAt contact rows) = true ∧
            returning (Table.insert rows (openRow now fresh args startedAt contact rows))
              fresh.publicId true = .ok result)))) := by
  unfold createOpenCycle at h
  split at h
  next => cases h
  next contact hcontact =>
    refine ⟨contact, hcontact, ?_⟩
    split at h
    next d hd =>
      obtain ⟨hmem, hkey⟩ := Table.select_mem hd
      exact .inl ⟨d, hmem, by simpa using hkey, h⟩
    next hnone =>
      refine .inr ⟨fun r hr => by simpa using Table.select_none hnone r hr, ?_⟩
      split at h
      next x hx =>
        obtain ⟨hmem, hopen⟩ := Table.select_mem hx
        refine .inl ⟨x, hmem, by simpa using hopen, ?_⟩
        split at h
        next => exact .inl ⟨rfl, h⟩
        next => exact .inr ⟨rfl, h⟩
      next hclosed =>
        refine .inr ⟨fun r hr => by simpa using Table.select_none hclosed r hr, ?_⟩
        split at h
        next => cases h
        next startedAt _ =>
          simp only at h
          split at h
          next hins => exact ⟨startedAt, hins, h⟩
          next => cases h

/-- The branches of `_close_cycle_sync`. -/
theorem closeCycle_cases {now : Timestamp} {delaySeconds : Nat} {fresh : Fresh}
    {args : CloseArgs} {rows : List CycleRow} {result : CycleResult}
    (h : closeCycle now delaySeconds fresh args rows = .ok result) :
    ∃ contact closedAt, normalizeContact args.contactExternalId = .ok contact
      ∧ args.closedAt = some closedAt ∧
    ((∃ d ∈ rows, d.closeEventKey = some args.closeEventKey
        ∧ returning rows d.publicId false = .ok result)
    ∨ ((∀ r ∈ rows, r.closeEventKey ≠ some args.closeEventKey) ∧
      ((∃ x ∈ rows, x.openConversation = some args.conversationId ∧
          returning (Table.update (·.id == x.id)
            (closeRow now delaySeconds args closedAt contact) rows) x.publicId true = .ok result)
      ∨ (insertable rows (closedRow now delaySeconds fresh args closedAt contact rows) = true ∧
          returning (Table.insert rows (closedRow now delaySeconds fresh args closedAt contact rows))
            fresh.publicId true = .ok result)))) := by
  unfold closeCycle at h
  split at h
  next => cases h
  next contact hcontact =>
    split at h
    next => cases h
    next closedAt hclosedAt =>
      refine ⟨contact, closedAt, hcontact, hclosedAt, ?_⟩
      split at h
      next d hd =>
        obtain ⟨hmem, hkey⟩ := Table.select_mem hd
        exact .inl ⟨d, hmem, by simpa using hkey, h⟩
      next hnone =>
        refine .inr ⟨fun r hr => by simpa using Table.select_none hnone r hr, ?_⟩
        split at h
        next x hx =>
          obtain ⟨hmem, hopen⟩ := Table.select_mem hx
          split at h
          next => cases h
          next => exact .inl ⟨x, hmem, by simpa using hopen, h⟩
        next =>
          simp only at h
          split at h
          next hins => exact .inr ⟨hins, h⟩
          next => cases h

/-- **A ticket call is one write of the table.** -/
theorem perform_write {now : Timestamp} {delaySeconds : Nat} {fresh : Fresh} {call : TicketCall}
    {rows : List CycleRow} {result : CycleResult}
    (h : call.perform now delaySeconds fresh rows = .ok result) : TableWrite rows result.rows := by
  cases call with
  | create args =>
      obtain ⟨contact, -, hbranch⟩ := createOpenCycle_cases h
      rcases hbranch with ⟨d, -, -, hret⟩ | ⟨-, ⟨x, -, -, ⟨-, hret⟩ | ⟨-, hret⟩⟩ | ⟨-, startedAt, hins, hret⟩⟩
      · rw [(returning_spec hret).1]
        exact .same
      · rw [(returning_spec hret).1]
        exact .same
      · rw [(returning_spec hret).1]
        exact .join now contact x.publicId
      · rw [(returning_spec hret).1]
        exact .insert _ (by simp [openRow]) (fun _ => rfl) rfl hins
  | close args =>
      obtain ⟨contact, closedAt, -, -, hbranch⟩ := closeCycle_cases h
      rcases hbranch with ⟨d, -, -, hret⟩ | ⟨hfresh, ⟨x, hx, hopen, hret⟩ | ⟨hins, hret⟩⟩
      · rw [(returning_spec hret).1]
        exact .same
      · rw [(returning_spec hret).1]
        exact .close now delaySeconds args closedAt contact x hx
          (openConversation_eq_some.mp hopen).1 hfresh
      · rw [(returning_spec hret).1]
        exact .insert _ (by simp [closedRow]) (by simp [closedRow]) rfl hins

/-! ## §2. The invariant. -/

/-- The rows of one conversation, in the order of insertion. -/
def rowsOf (rows : List CycleRow) (conversationId : String) : List CycleRow :=
  rows.filter (·.conversationId == conversationId)

/-- **The table invariant.** -/
structure TableInv (rows : List CycleRow) : Prop where
  ids : Table.Unique (fun r => some r.id) rows
  publicIds : Table.Unique (fun r => some r.publicId) rows
  oneOpen : Table.Unique CycleRow.openConversation rows
  openKeys : Table.Unique (fun r => r.openEventKey) rows
  closeKeys : Table.Unique (fun r => r.closeEventKey) rows
  openIff : ∀ r ∈ rows, r.status = .open ↔ r.ticketClosedAt = none
  openNoKey : ∀ r ∈ rows, r.ticketClosedAt = none → r.closeEventKey = none
  sequences : ∀ conversationId, (rowsOf rows conversationId).map (·.sequenceNumber)
    = List.range' 1 (rowsOf rows conversationId).length

theorem TableInv.nil : TableInv [] := by
  constructor <;> simp [Table.Unique, rowsOf]

theorem TableInv.nodup {rows : List CycleRow} (h : TableInv rows) : rows.Nodup := by
  refine List.Pairwise.imp (fun {a b} hab => ?_) h.ids
  rintro rfl
  exact hab a.id rfl rfl

/-- The largest of 1, …, n. -/
theorem foldr_max_range' (n : Nat) : (List.range' 1 n).foldr max 0 = n := by
  have hle : ∀ (m : Nat) (l : List Nat), (∀ x ∈ l, x ≤ m) → l.foldr max 0 ≤ m := by
    intro m l
    induction l with
    | nil => intro _; exact Nat.zero_le m
    | cons x l ih =>
        intro hx
        have h₁ : x ≤ m := hx x List.mem_cons_self
        have h₂ : l.foldr max 0 ≤ m := ih fun y hy => hx y (List.mem_cons_of_mem _ hy)
        simp only [List.foldr_cons]
        omega
  have hge : ∀ (l : List Nat) (x : Nat), x ∈ l → x ≤ l.foldr max 0 := by
    intro l
    induction l with
    | nil => intro x hx; cases hx
    | cons y l ih =>
        intro x hx
        simp only [List.foldr_cons]
        rcases List.mem_cons.mp hx with rfl | hx
        · omega
        · have := ih x hx
          omega
  have hupper : (List.range' 1 n).foldr max 0 ≤ n := by
    refine hle n _ fun x hx => ?_
    have := List.mem_range'_1.mp hx
    omega
  cases n with
  | zero => rfl
  | succ n =>
      have hlower : n + 1 ≤ (List.range' 1 (n + 1)).foldr max 0 :=
        hge _ _ (List.mem_range'_1.mpr (by omega))
      omega

/-- The next sequence number of a conversation is one more than it has rows. -/
theorem TableInv.nextSequence_eq {rows : List CycleRow} (h : TableInv rows)
    (conversationId : String) :
    nextSequence rows conversationId = (rowsOf rows conversationId).length + 1 := by
  show ((rowsOf rows conversationId).map (·.sequenceNumber)).foldr max 0 + 1 = _
  rw [h.sequences, foldr_max_range']

/-- What `insertable` says about the rows that are there. -/
theorem insertable_spec {rows : List CycleRow} {r : CycleRow} (h : insertable rows r = true) :
    ∀ a ∈ rows, a.id ≠ r.id ∧ a.publicId ≠ r.publicId
      ∧ (∀ k, r.openEventKey = some k → a.openEventKey ≠ some k)
      ∧ (∀ k, r.closeEventKey = some k → a.closeEventKey ≠ some k)
      ∧ (∀ k, r.openConversation = some k → a.openConversation ≠ some k) := by
  intro a ha
  simp only [insertable, Bool.and_eq_true] at h
  obtain ⟨⟨⟨⟨hall, -⟩, -⟩, -⟩, -⟩ := h
  have hrow := List.all_eq_true.mp hall a ha
  simp only [Bool.and_eq_true, bne_iff_ne, Bool.not_eq_true', Bool.and_eq_false_iff] at hrow
  obtain ⟨⟨⟨⟨⟨hid, hpub⟩, -⟩, hopen⟩, hclose⟩, hone⟩ := hrow
  refine ⟨hid, hpub, ?_, ?_, ?_⟩
  · intro k hk hak
    rcases hopen with hnone | hne
    · simp [hk] at hnone
    · simp [hk, hak] at hne
  · intro k hk hak
    rcases hclose with hnone | hne
    · simp [hk] at hnone
    · simp [hk, hak] at hne
  · intro k hk hak
    rcases hone with hnone | hne
    · simp [hk] at hnone
    · simp [hk, hak] at hne

/-- An INSERT of the next row of a conversation. -/
theorem TableInv.insert {rows : List CycleRow} (h : TableInv rows) {r : CycleRow}
    (hstatus : r.status = .open ↔ r.ticketClosedAt = none)
    (hkey : r.ticketClosedAt = none → r.closeEventKey = none)
    (hseq : r.sequenceNumber = nextSequence rows r.conversationId)
    (hins : insertable rows r = true) : TableInv (Table.insert rows r) := by
  have hspec := insertable_spec hins
  have hmem {a : CycleRow} (ha : a ∈ Table.insert rows r) : a ∈ rows ∨ a = r := by
    rcases List.mem_append.mp ha with ha | ha
    · exact .inl ha
    · exact .inr (List.mem_singleton.mp ha)
  constructor
  · refine h.ids.insert fun k hk a ha hak => (hspec a ha).1 ?_
    injection hk with hk
    injection hak with hak
    rw [hak, hk]
  · refine h.publicIds.insert fun k hk a ha hak => (hspec a ha).2.1 ?_
    injection hk with hk
    injection hak with hak
    rw [hak, hk]
  · exact h.oneOpen.insert fun k hk a ha => (hspec a ha).2.2.2.2 k hk
  · exact h.openKeys.insert fun k hk a ha => (hspec a ha).2.2.1 k hk
  · exact h.closeKeys.insert fun k hk a ha => (hspec a ha).2.2.2.1 k hk
  · intro a ha
    rcases hmem ha with ha | rfl
    · exact h.openIff a ha
    · exact hstatus
  · intro a ha
    rcases hmem ha with ha | rfl
    · exact h.openNoKey a ha
    · exact hkey
  · intro conversationId
    by_cases hconv : r.conversationId = conversationId
    · have hrows : rowsOf (Table.insert rows r) conversationId
          = rowsOf rows conversationId ++ [r] := by
        simp [rowsOf, Table.insert, hconv]
      have hnext : r.sequenceNumber = (rowsOf rows conversationId).length + 1 := by
        rw [hseq, hconv, h.nextSequence_eq]
      rw [hrows, List.map_append, h.sequences, List.length_append]
      simp only [List.map_cons, List.map_nil, List.length_singleton, hnext,
        List.range'_1_concat]
      rw [Nat.add_comm]
    · have hrows : rowsOf (Table.insert rows r) conversationId = rowsOf rows conversationId := by
        simp [rowsOf, Table.insert, hconv]
      rw [hrows, h.sequences]

/-- An UPDATE that leaves the identifying columns of a row and the openness of
    its ticket alone. -/
theorem TableInv.update {rows : List CycleRow} (h : TableInv rows) {p : CycleRow → Bool}
    {f : CycleRow → CycleRow}
    (hid : ∀ r, (f r).id = r.id) (hpub : ∀ r, (f r).publicId = r.publicId)
    (hconv : ∀ r, (f r).conversationId = r.conversationId)
    (hseq : ∀ r, (f r).sequenceNumber = r.sequenceNumber)
    (hclosed : ∀ r, (f r).ticketClosedAt = r.ticketClosedAt)
    (hopenKey : ∀ r, (f r).openEventKey = r.openEventKey)
    (hcloseKey : ∀ r, (f r).closeEventKey = r.closeEventKey)
    (hstatus : ∀ r ∈ rows, p r = true → ((f r).status = .open ↔ r.status = .open)) :
    TableInv (Table.update p f rows) := by
  constructor
  · exact h.ids.of_map (Table.map_update fun r _ => by rw [hid])
  · exact h.publicIds.of_map (Table.map_update fun r _ => by rw [hpub])
  · exact h.oneOpen.of_map (Table.map_update fun r _ => by
      simp only [CycleRow.openConversation, hclosed, hconv])
  · exact h.openKeys.of_map (Table.map_update fun r _ => hopenKey r)
  · exact h.closeKeys.of_map (Table.map_update fun r _ => hcloseKey r)
  · intro r hr
    obtain ⟨r₀, hr₀, ⟨hp, rfl⟩ | ⟨-, rfl⟩⟩ := Table.mem_update hr
    · rw [hstatus r₀ hr₀ hp, hclosed]
      exact h.openIff r₀ hr₀
    · exact h.openIff r hr₀
  · intro r hr
    obtain ⟨r₀, hr₀, ⟨-, rfl⟩ | ⟨-, rfl⟩⟩ := Table.mem_update hr
    · rw [hclosed, hcloseKey]
      exact h.openNoKey r₀ hr₀
    · exact h.openNoKey r hr₀
  · intro conversationId
    have hrows : rowsOf (Table.update p f rows) conversationId
        = Table.update p f (rowsOf rows conversationId) :=
      Table.filter_update fun r _ => by rw [hconv]
    rw [hrows, Table.map_update fun r _ => hseq r, Table.length_update]
    exact h.sequences conversationId

/-- Closing one ticket: the key is new, and the row leaves the open index. -/
theorem TableInv.close {rows : List CycleRow} (h : TableInv rows) {now : Timestamp}
    {delaySeconds : Nat} {args : CloseArgs} {closedAt : Timestamp} {contact : Option String}
    {x : CycleRow} (hfresh : ∀ r ∈ rows, r.closeEventKey ≠ some args.closeEventKey) :
    TableInv (Table.update (·.id == x.id) (closeRow now delaySeconds args closedAt contact) rows) := by
  have hone : ∀ a ∈ rows, ∀ b ∈ rows, (a.id == x.id) = true → (b.id == x.id) = true → a = b := by
    intro a ha b hb hax hbx
    exact h.ids.eq_of_key ha hb (by rw [beq_iff_eq.mp hax]) (by rw [beq_iff_eq.mp hbx])
  constructor
  · exact h.ids.of_map (Table.map_update fun r _ => rfl)
  · exact h.publicIds.of_map (Table.map_update fun r _ => rfl)
  · refine h.oneOpen.update hone h.nodup ?_
    intro a _ _ k hk
    simp [CycleRow.openConversation, closeRow] at hk
  · exact h.openKeys.of_map (Table.map_update fun r _ => rfl)
  · refine h.closeKeys.update hone h.nodup ?_
    intro a _ _ k hk b hb _
    injection hk with hk
    rw [← hk]
    exact hfresh b hb
  · intro r hr
    obtain ⟨r₀, hr₀, ⟨-, rfl⟩ | ⟨-, rfl⟩⟩ := Table.mem_update hr
    · simp [closeRow]
    · exact h.openIff r hr₀
  · intro r hr hopen
    obtain ⟨r₀, hr₀, ⟨-, rfl⟩ | ⟨-, rfl⟩⟩ := Table.mem_update hr
    · cases hopen
    · exact h.openNoKey r hr₀ hopen
  · intro conversationId
    have hrows : rowsOf (Table.update (·.id == x.id)
          (closeRow now delaySeconds args closedAt contact) rows) conversationId
        = Table.update (·.id == x.id) (closeRow now delaySeconds args closedAt contact)
          (rowsOf rows conversationId) :=
      Table.filter_update fun r _ => rfl
    have hseq : ∀ r, (closeRow now delaySeconds args closedAt contact r).sequenceNumber
        = r.sequenceNumber := fun _ => rfl
    rw [hrows, Table.map_update fun r _ => hseq r, Table.length_update]
    exact h.sequences conversationId

/-- **Every write keeps the table invariant.** -/
theorem TableInv.write {rows rows' : List CycleRow} (h : TableInv rows)
    (hw : TableWrite rows rows') : TableInv rows' := by
  cases hw with
  | same => exact h
  | insert r hstatus hkey hseq hins => exact h.insert hstatus hkey hseq hins
  | join now contact publicId =>
      exact h.update (fun _ => rfl) (fun _ => rfl) (fun _ => rfl) (fun _ => rfl) (fun _ => rfl)
        (fun _ => rfl) (fun _ => rfl) (fun _ _ _ => Iff.rfl)
  | close now delaySeconds args closedAt contact x hx hopen hfresh => exact h.close hfresh
  | touch publicId f hkey hstatus =>
      refine h.update ?_ ?_ ?_ ?_ ?_ ?_ ?_ ?_
      · exact fun r => congrArg CycleKey.id (hkey r)
      · exact fun r => congrArg CycleKey.publicId (hkey r)
      · exact fun r => congrArg CycleKey.conversationId (hkey r)
      · exact fun r => congrArg CycleKey.sequenceNumber (hkey r)
      · exact fun r => congrArg CycleKey.ticketClosedAt (hkey r)
      · exact fun r => congrArg CycleKey.openEventKey (hkey r)
      · exact fun r => congrArg CycleKey.closeEventKey (hkey r)
      · exact fun r hr hp => hstatus r hr (beq_iff_eq.mp hp)

/-! ## §3. Every run. -/

variable {s t : CycleState} {a : CycleAction}

/-- The invariant of a state: workers are only ever given closed tickets. -/
structure CycleInv (s : CycleState) : Prop where
  table : TableInv s.cycles
  claimed : ∀ publicId ∈ s.claimed, ∃ r ∈ s.cycles, r.publicId = publicId
    ∧ r.ticketClosedAt ≠ none

/-- A guarded write that keeps the columns of `CycleKey`, and does not open
    or reopen a cycle. -/
theorem writeRow_touch {rows : List CycleRow} {publicId : Nat}
    {write : CycleRow → Option CycleRow}
    (hkey : ∀ r r', write r = some r' → r'.toCycleKey = r.toCycleKey)
    (hstatus : ∀ r ∈ rows, r.publicId = publicId → ∀ r', write r = some r' →
      (r'.status = .open ↔ r.status = .open)) :
    TableWrite rows (writeRow rows publicId write) := by
  refine .touch publicId _ ?_ ?_
  · intro r
    cases hw : write r with
    | none => rfl
    | some r' => exact hkey r r' hw
  · intro r hr hp
    cases hw : write r with
    | none => exact Iff.rfl
    | some r' => exact hstatus r hr hp r' hw

/-- **One step is one write of the table.** -/
theorem cycleStep_write (h : CycleInv s) (hs : cycleStep s a = some t) :
    TableWrite s.cycles t.cycles := by
  cases a with
  | ticket now delaySeconds fresh call =>
      simp only [cycleStep] at hs
      split at hs <;> injection hs with hs <;> subst hs
      next result hperform => exact perform_write hperform
      next => exact .same
  | claim now publicId owner leaseSeconds =>
      simp only [cycleStep, Option.ite_none_right_eq_some, Option.some.injEq] at hs
      obtain ⟨-, rfl⟩ := hs
      refine writeRow_touch (fun r r' hw => (claimCycle_spec hw).2.2.2.1) ?_
      intro r _ _ r' hw
      rw [(claimCycle_spec hw).2.2.1]
  | work now publicId tr =>
      simp only [cycleStep, Option.ite_none_right_eq_some, Option.some.injEq] at hs
      obtain ⟨⟨hclaimed, hworker⟩, rfl⟩ := hs
      refine writeRow_touch ?_ ?_
      · intro r r' hw
        rw [(transitionCycle_spec hw).2, apply_key]
      · intro r hr hp r' hw
        have hne : tr.status ≠ .open := by
          intro hopen
          rw [hopen] at hworker
          revert hworker
          decide
        have hclosed : r.ticketClosedAt ≠ none := by
          obtain ⟨r₀, hr₀, hp₀, hclosed⟩ := h.claimed publicId hclaimed
          rwa [h.table.publicIds.eq_of_key hr hr₀ (congrArg some hp) (congrArg some hp₀)]
        rw [(transitionCycle_spec hw).2, apply_status, h.table.openIff r hr]
        exact ⟨fun hst => absurd hst hne, fun hst => absurd hst hclosed⟩
  | wake now publicId =>
      injection hs with hs
      subst hs
      refine writeRow_touch (fun r r' hw => (wakeCycle_spec hw).2.2) ?_
      intro r _ _ r' hw
      obtain ⟨hblocked, hwaiting, -⟩ := wakeCycle_spec hw
      simp [hblocked, hwaiting]

/-- What a row keeps through one write of the table. -/
structure RowLater (r r' : CycleRow) : Prop where
  publicId : r'.publicId = r.publicId
  conversationId : r'.conversationId = r.conversationId
  openEventKey : r'.openEventKey = r.openEventKey
  closed : r.ticketClosedAt ≠ none → r'.ticketClosedAt ≠ none
  closeEventKey : r.ticketClosedAt ≠ none → r'.closeEventKey = r.closeEventKey
  contact : ∀ v, r.digisacContactExternalId = some v → r'.digisacContactExternalId = some v

theorem RowLater.refl (r : CycleRow) : RowLater r r := ⟨rfl, rfl, rfl, id, fun _ => rfl, fun _ => id⟩

theorem RowLater.trans {r₁ r₂ r₃ : CycleRow} (h₁ : RowLater r₁ r₂) (h₂ : RowLater r₂ r₃) :
    RowLater r₁ r₃ where
  publicId := h₂.publicId.trans h₁.publicId
  conversationId := h₂.conversationId.trans h₁.conversationId
  openEventKey := h₂.openEventKey.trans h₁.openEventKey
  closed h := h₂.closed (h₁.closed h)
  closeEventKey h := (h₂.closeEventKey (h₁.closed h)).trans (h₁.closeEventKey h)
  contact v h := h₂.contact v (h₁.contact v h)

/-- Joining fills in a contact, and nothing else a row must keep. -/
theorem joinRow_later (now : Timestamp) (contact : Option String) (r : CycleRow) :
    RowLater r (joinRow now contact r) := by
  refine ⟨rfl, rfl, rfl, fun hc => hc, fun _ => rfl, fun v hv => ?_⟩
  show r.digisacContactExternalId.or contact = some v
  rw [hv, Option.some_or]

/-- **One write keeps every row**, up to what `RowLater` lets change. -/
theorem TableInv.later {rows rows' : List CycleRow} (h : TableInv rows)
    (hw : TableWrite rows rows') {r : CycleRow} (hr : r ∈ rows) : ∃ r' ∈ rows', RowLater r r' := by
  cases hw with
  | same => exact ⟨r, hr, .refl r⟩
  | insert r₁ => exact ⟨r, List.mem_append_left _ hr, .refl r⟩
  | join now contact publicId =>
      refine ⟨_, Table.mem_update_of_mem hr, ?_⟩
      by_cases hp : (r.publicId == publicId) = true
      · rw [if_pos hp]
        exact joinRow_later now contact r
      · rw [if_neg hp]
        exact .refl r
  | close now delaySeconds args closedAt contact x hx hopen =>
      refine ⟨_, Table.mem_update_of_mem hr, ?_⟩
      by_cases hp : (r.id == x.id) = true
      · -- the closed row is the open row `x`
        have hrx : r = x := h.ids.eq_of_key hr hx (by rw [beq_iff_eq.mp hp]) rfl
        rw [if_pos hp]
        refine ⟨rfl, rfl, rfl, fun _ => (fun hn => nomatch hn), fun hc => ?_, fun v hv => ?_⟩
        · exact absurd (hrx ▸ hopen) hc
        · show r.digisacContactExternalId.or contact = some v
          rw [hv, Option.some_or]
      · rw [if_neg hp]
        exact .refl r
  | touch publicId f hkey =>
      refine ⟨_, Table.mem_update_of_mem hr, ?_⟩
      by_cases hp : (r.publicId == publicId) = true
      · rw [if_pos hp]
        have hk := hkey r
        refine ⟨congrArg CycleKey.publicId hk, congrArg CycleKey.conversationId hk,
          congrArg CycleKey.openEventKey hk, fun hc => ?_,
          fun _ => congrArg CycleKey.closeEventKey hk, fun v hv => ?_⟩
        · rwa [show (f r).ticketClosedAt = r.ticketClosedAt from congrArg CycleKey.ticketClosedAt hk]
        · rwa [show (f r).digisacContactExternalId = r.digisacContactExternalId from
            congrArg CycleKey.digisacContactExternalId hk]
      · rw [if_neg hp]
        exact .refl r

theorem CycleInv.init : CycleInv ⟨[], []⟩ :=
  ⟨.nil, fun _ h => nomatch h⟩

/-- **One step keeps the invariant.** -/
theorem CycleInv.step (h : CycleInv s) (hs : cycleStep s a = some t) : CycleInv t := by
  have hw := cycleStep_write h hs
  -- a claimed cycle is still there, and still closed
  have hold : ∀ publicId ∈ s.claimed, ∃ r ∈ t.cycles, r.publicId = publicId
      ∧ r.ticketClosedAt ≠ none := by
    intro publicId hp
    obtain ⟨r, hr, hid, hclosed⟩ := h.claimed publicId hp
    obtain ⟨r', hr', hlater⟩ := h.table.later hw hr
    exact ⟨r', hr', hlater.publicId.trans hid, hlater.closed hclosed⟩
  refine ⟨h.table.write hw, ?_⟩
  cases a with
  | ticket now delaySeconds fresh call =>
      simp only [cycleStep] at hs
      split at hs <;> injection hs with hs <;> subst hs <;> exact hold
  | work now publicId tr =>
      simp only [cycleStep, Option.ite_none_right_eq_some, Option.some.injEq] at hs
      obtain ⟨-, rfl⟩ := hs
      exact hold
  | wake now publicId =>
      injection hs with hs
      subst hs
      exact hold
  | claim now publicId owner leaseSeconds =>
      simp only [cycleStep, Option.ite_none_right_eq_some, Option.some.injEq] at hs
      obtain ⟨hdue, rfl⟩ := hs
      intro p hp
      rcases List.mem_cons.mp hp with rfl | hp
      · -- a due cycle is not open, so its ticket is closed
        obtain ⟨r, hr, hpd⟩ := List.any_eq_true.mp hdue
        simp only [Bool.and_eq_true, beq_iff_eq, CycleRow.due, decide_eq_true_eq] at hpd
        obtain ⟨hid, ⟨hrec, -⟩, -⟩ := hpd
        have hclosed : r.ticketClosedAt ≠ none := fun hn =>
          Status.ne_open_of_recoverable hrec ((h.table.openIff r hr).mpr hn)
        obtain ⟨r', hr', hlater⟩ := h.table.later hw hr
        exact ⟨r', hr', hlater.publicId.trans hid, hlater.closed hclosed⟩
      · exact hold p hp

theorem reachable_cycleInv {ok : CycleState → CycleAction → Prop}
    (h : cycleMachine.ReachableWhere ok s) : CycleInv s := by
  refine h.invariant ?_ fun s a t hs _ hstep => hs.step hstep
  rintro s rfl
  exact .init

/-- **Every later state keeps every row.** -/
theorem run_later {ok : CycleState → CycleAction → Prop}
    (hreach : cycleMachine.ReachableWhere ok s) (hrun : cycleMachine.RunWhere ok s t)
    {r : CycleRow} (hr : r ∈ s.cycles) : ∃ r' ∈ t.cycles, RowLater r r' := by
  induction hrun with
  | refl => exact ⟨r, hr, .refl r⟩
  | tail hprev hlast ih =>
      obtain ⟨a, -, hs⟩ := hlast
      obtain ⟨r₁, hr₁, h₁⟩ := ih
      have hinv := reachable_cycleInv (hreach.run hprev)
      obtain ⟨r₂, hr₂, h₂⟩ := hinv.table.later (cycleStep_write hinv hs) hr₁
      exact ⟨r₂, hr₂, h₁.trans h₂⟩

/-! ## §4. The structure of the table. -/

/-- What every reachable table looks like. -/
structure CycleTableSound (s : CycleState) : Prop where
  /-- A conversation has at most one cycle without a close time. -/
  one_open : ∀ conversationId, ((rowsOf s.cycles conversationId).filter
    (·.ticketClosedAt.isNone)).length ≤ 1
  /-- The sequence numbers of a conversation are exactly 1..n. -/
  sequences : ∀ conversationId, (rowsOf s.cycles conversationId).map (·.sequenceNumber)
    = List.range' 1 (rowsOf s.cycles conversationId).length
  open_iff : ∀ r ∈ s.cycles, r.status = .open ↔ r.ticketClosedAt = none
  /-- An event key belongs to at most one cycle. -/
  open_keys : ∀ key, (s.cycles.filter fun r => r.openEventKey == some key).length ≤ 1
  close_keys : ∀ key, (s.cycles.filter fun r => r.closeEventKey == some key).length ≤ 1
  /-- A known contact never changes. -/
  contact : ∀ t, cycleMachine.RunWhere Machine.anyStep s t → ∀ r ∈ s.cycles, ∀ v,
    r.digisacContactExternalId = some v → ∃ r' ∈ t.cycles, r'.publicId = r.publicId
      ∧ r'.digisacContactExternalId = some v

/-- **The cycle table keeps its structure**, in any interleaving of openings,
    closings and worker transitions. -/
theorem cycle_table_structure (hreach : cycleMachine.Reachable s) : CycleTableSound s := by
  have hinv := (reachable_cycleInv hreach).table
  refine ⟨?_, hinv.sequences, hinv.openIff, hinv.openKeys.length_filter_le,
    hinv.closeKeys.length_filter_le, ?_⟩
  · intro conversationId
    have hsame : (rowsOf s.cycles conversationId).filter (·.ticketClosedAt.isNone)
        = s.cycles.filter fun r => r.openConversation == some conversationId := by
      unfold rowsOf
      rw [List.filter_filter]
      refine List.filter_congr fun r _ => ?_
      rw [Bool.eq_iff_iff, beq_iff_eq, openConversation_eq_some]
      simp
    rw [hsame]
    exact hinv.oneOpen.length_filter_le conversationId
  · intro t hrun r hr v hv
    obtain ⟨r', hr', hlater⟩ := run_later hreach hrun hr
    exact ⟨r', hr', hlater.publicId, hlater.contact v hv⟩

/-- A ticket is opened and closed, and a worker starts on its cycle while the
    next ticket of the conversation arrives. -/
def twoTickets : List CycleAction :=
  [.ticket 0 45 ⟨1, 101⟩ (.create ⟨"conversation", some 0, "open-1", "webhook", some "contact"⟩),
   .ticket 10 45 ⟨2, 102⟩ (.close
     { conversationId := "conversation", protocol := "P-1", closedAt := some 10
       closeEventKey := "close-1", contactExternalId := none }),
   .claim 50000000 101 "worker" 300,
   .ticket 50000001 45 ⟨2, 102⟩
     (.create ⟨"conversation", some 50000000, "open-2", "webhook", none⟩),
   .work 50000002 101 { status := .recoveringMessages, expectedStatuses := [.pending] }]

theorem cycle_table_structure_two_tickets :
    ∃ s, cycleMachine.exec ⟨[], []⟩ twoTickets = some s
      ∧ s.cycles.map (fun r => (r.sequenceNumber, r.status))
          = [(1, .recoveringMessages), (2, .open)]
      ∧ CycleTableSound s := by
  have hrun : (cycleMachine.exec ⟨[], []⟩ twoTickets).map
      (fun s => s.cycles.map fun r => (r.sequenceNumber, r.status))
        = some [(1, .recoveringMessages), (2, .open)] := by
    decide +kernel
  obtain ⟨s, hs, hrows⟩ := Option.map_eq_some_iff.mp hrun
  exact ⟨s, hs, hrows, cycle_table_structure (Machine.reachable_of_exec rfl hs)⟩

end Cai.Cycle
