/-
  Cai.Worker.Ownership — the messages of all cycles.

  `conversation_cycle_messages` as one table, and the loop of
  `_save_cycle_messages_sync` over it.  `saveCycleMessages`, which knows
  the other cycles by the messages they own only, is what the loop does to
  the rows of its cycle; seen from the messages, it is a `retake`.

  Main results: `saveLoop_eq`, `owner?_save`.
-/
import Cai.Lib.Ownership
import Cai.Worker.Pass

namespace Cai.Worker

open Cai.Lib
open Cai.Cycle Cai.Media Cai.Finalization

/-! ## §1. The loop. -/

/-- A row of `conversation_cycle_messages`, with its cycle. -/
structure OwnedMessage extends CycleMessage where
  cycleId : Nat
  deriving DecidableEq, Repr

/-- What the loop has done so far. -/
structure Saving where
  rows : List OwnedMessage
  accepted : List String := []
  conflicts : List String := []
  deriving DecidableEq, Repr

/-- The conflict target of the INSERT: (cycle_id, message_id). -/
def OwnedMessage.sameKey (a b : OwnedMessage) : Bool :=
  a.cycleId == b.cycleId && a.messageId == b.messageId

/-- INSERT … ON CONFLICT (cycle_id, message_id) DO UPDATE. -/
def upsertOwned (rows : List OwnedMessage) (row : OwnedMessage) : List OwnedMessage :=
  if rows.any (·.sameKey row) then Table.update (·.sameKey row) (fun _ => row) rows
  else Table.insert rows row

/-- The body of the loop, at a message and its position. -/
def saveMessage (cycleId : Nat) (st : Saving) (m : Message × Nat) : Saving :=
  let owner := Table.select (·.messageId == m.1.messageId) st.rows
  if owner.any (·.cycleId != cycleId) then
    { st with conflicts := st.conflicts ++ [m.1.messageId] }
  else
    { st with
      rows := upsertOwned st.rows ⟨⟨m.1.messageId, m.2, m.1.type, m.1.timestamp⟩, cycleId⟩
      accepted := st.accepted ++ [m.1.messageId] }

/-- `_save_cycle_messages_sync`: the rows of the cycle are deleted first. -/
def saveLoop (cycleId : Nat) (messages : List Message) (rows : List OwnedMessage) : Saving :=
  messages.zipIdx.foldl (saveMessage cycleId) { rows := rows.filter (·.cycleId != cycleId) }

/-! ## §2. The loop on the rows of its cycle. -/

variable {cycleId : Nat} {rows others : List OwnedMessage} {own : List CycleMessage}
  {messages : List Message}

/-- The rows of a cycle, with the cycle. -/
def tagged (cycleId : Nat) (own : List CycleMessage) : List OwnedMessage :=
  own.map fun row => ⟨row, cycleId⟩

/-- `saveCycleMessages` on one row. -/
def saveOwn (taken : List String) (own : List CycleMessage) (m : Message × Nat) :
    List CycleMessage :=
  if m.1.messageId ∈ taken then own
  else upsertMessage own ⟨m.1.messageId, m.2, m.1.type, m.1.timestamp⟩

theorem saveCycleMessages_rows (taken : List String) (messages : List Message) :
    (saveCycleMessages taken messages).rows = messages.zipIdx.foldl (saveOwn taken) [] := by
  unfold saveCycleMessages
  show messages.zipIdx.foldl _ [] = _
  congr 1

theorem upsertOwned_tagged (hothers : ∀ r ∈ others, r.cycleId ≠ cycleId) (row : CycleMessage) :
    upsertOwned (others ++ tagged cycleId own) ⟨row, cycleId⟩
      = others ++ tagged cycleId (upsertMessage own row) := by
  have hnone : others.any (·.sameKey ⟨row, cycleId⟩) = false := by
    rw [List.any_eq_false]
    intro r hr
    simp [OwnedMessage.sameKey, hothers r hr]
  have hown : (tagged cycleId own).any (·.sameKey ⟨row, cycleId⟩)
      = own.any (·.messageId == row.messageId) := by
    unfold tagged
    rw [List.any_map]
    congr 1
    funext r
    simp [OwnedMessage.sameKey]
  have hkept : Table.update (·.sameKey ⟨row, cycleId⟩) (fun _ => ⟨row, cycleId⟩) others = others := by
    unfold Table.update
    rw [List.any_eq_false] at hnone
    refine (List.map_congr_left fun r hr => ?_).trans (List.map_id _)
    exact if_neg (hnone r hr)
  unfold upsertOwned upsertMessage
  rw [List.any_append, hnone, Bool.false_or, hown]
  by_cases hany : own.any (·.messageId == row.messageId) = true
  · rw [if_pos hany, if_pos hany]
    unfold Table.update at hkept ⊢
    rw [List.map_append, hkept]
    unfold tagged
    rw [List.map_map, List.map_map]
    congr 1
    refine List.map_congr_left fun r _ => ?_
    by_cases hid : r.messageId = row.messageId
    · simp [OwnedMessage.sameKey, hid]
    · simp [OwnedMessage.sameKey, hid]
  · rw [if_neg hany, if_neg hany]
    simp [Table.insert, tagged]

/-- The owner that the loop reads. -/
theorem select_tagged (hothers : ∀ r ∈ others, r.cycleId ≠ cycleId) (id : String) :
    (Table.select (·.messageId == id) (others ++ tagged cycleId own)).any (·.cycleId != cycleId)
      = decide (id ∈ others.map (·.messageId)) := by
  unfold Table.select
  rw [List.find?_append]
  cases hfind : others.find? (·.messageId == id) with
  | some r =>
      have hr : r ∈ others := List.mem_of_find?_eq_some hfind
      have hid : r.messageId = id := by simpa using List.find?_some hfind
      have hmem : id ∈ others.map (·.messageId) := List.mem_map.mpr ⟨r, hr, hid⟩
      simp [hothers r hr, hmem]
  | none =>
      have hnot : id ∉ others.map (·.messageId) := by
        intro hmem
        obtain ⟨r, hr, hid⟩ := List.mem_map.mp hmem
        have hr' := List.find?_eq_none.mp hfind r hr
        simp [hid] at hr'
      rw [Option.none_or, decide_eq_false hnot]
      unfold tagged
      rw [List.find?_map]
      cases own.find? _ with
      | none => rfl
      | some row => simp

/-- One message of the loop. -/
theorem saveMessage_tagged (hothers : ∀ r ∈ others, r.cycleId ≠ cycleId) (m : Message × Nat)
    (accepted conflicts : List String) :
    saveMessage cycleId ⟨others ++ tagged cycleId own, accepted, conflicts⟩ m
      = ⟨others ++ tagged cycleId (saveOwn (others.map (·.messageId)) own m),
          accepted ++ [m.1.messageId].filter (· ∉ others.map (·.messageId)),
          conflicts ++ [m.1.messageId].filter (· ∈ others.map (·.messageId))⟩ := by
  unfold saveMessage saveOwn
  simp only [select_tagged hothers]
  generalize others.map (·.messageId) = taken at *
  by_cases hmem : m.1.messageId ∈ taken
  · rw [if_pos (decide_eq_true hmem), if_pos hmem]
    simp [hmem]
  · rw [if_neg (by simpa using hmem), if_neg hmem, upsertOwned_tagged hothers]
    simp [hmem]

/-- The loop from any point on. -/
theorem foldl_saveMessage (hothers : ∀ r ∈ others, r.cycleId ≠ cycleId)
    (accepted conflicts : List String) (numbered : List (Message × Nat)) :
    numbered.foldl (saveMessage cycleId) ⟨others ++ tagged cycleId own, accepted, conflicts⟩
      = ⟨others ++ tagged cycleId (numbered.foldl (saveOwn (others.map (·.messageId))) own),
          accepted ++ (numbered.map (·.1.messageId)).filter (· ∉ others.map (·.messageId)),
          conflicts ++ (numbered.map (·.1.messageId)).filter (· ∈ others.map (·.messageId))⟩ := by
  induction numbered generalizing own accepted conflicts with
  | nil => simp
  | cons m numbered ih =>
      rw [List.foldl_cons, saveMessage_tagged hothers, ih]
      simp only [List.foldl_cons, List.map_cons, List.append_assoc]
      rw [← List.filter_append, ← List.filter_append]
      rfl

theorem zipIdx_messageId (messages : List Message) :
    messages.zipIdx.map (·.1.messageId) = messages.map (·.messageId) := by
  have hfst := congrArg (List.map (·.messageId)) (List.zipIdx_map_fst 0 messages)
  rwa [List.map_map] at hfst

/-- The messages of the other cycles. -/
def ownedElsewhere (cycleId : Nat) (rows : List OwnedMessage) : List String :=
  (rows.filter (·.cycleId != cycleId)).map (·.messageId)

/-- **The loop on the whole table.**  The rows of the other cycles stay, and
    those of the cycle are the ones `saveCycleMessages` makes. -/
theorem saveLoop_eq (cycleId : Nat) (messages : List Message) (rows : List OwnedMessage) :
    saveLoop cycleId messages rows
      = { rows := rows.filter (·.cycleId != cycleId)
            ++ tagged cycleId (saveCycleMessages (ownedElsewhere cycleId rows) messages).rows
          accepted := (saveCycleMessages (ownedElsewhere cycleId rows) messages).accepted
          conflicts := (saveCycleMessages (ownedElsewhere cycleId rows) messages).conflicts } := by
  have hothers : ∀ r ∈ rows.filter (·.cycleId != cycleId), r.cycleId ≠ cycleId := by
    intro r hr
    simpa using (List.mem_filter.mp hr).2
  have hloop : messages.zipIdx.foldl (saveMessage cycleId)
      ⟨rows.filter (·.cycleId != cycleId) ++ tagged cycleId [], [], []⟩ = _ :=
    foldl_saveMessage hothers [] [] messages.zipIdx
  have hstart : rows.filter (·.cycleId != cycleId)
      = rows.filter (·.cycleId != cycleId) ++ tagged cycleId [] := (List.append_nil _).symm
  rw [← hstart, zipIdx_messageId] at hloop
  rw [saveCycleMessages_rows]
  exact hloop

/-! ## §3. The messages that are saved. -/

variable {taken : List String}

theorem map_upsertMessage (own : List CycleMessage) (row : CycleMessage) :
    (upsertMessage own row).map (·.messageId)
      = if row.messageId ∈ own.map (·.messageId) then own.map (·.messageId)
        else own.map (·.messageId) ++ [row.messageId] := by
  have hany : own.any (·.messageId == row.messageId) = true
      ↔ row.messageId ∈ own.map (·.messageId) := by
    simp [List.any_eq_true]
  unfold upsertMessage
  by_cases hmem : row.messageId ∈ own.map (·.messageId)
  · rw [if_pos (hany.mpr hmem), if_pos hmem]
    refine Table.map_update fun r hr => ?_
    exact (beq_iff_eq.mp hr).symm
  · rw [if_neg (mt hany.mp hmem), if_neg hmem]
    simp [Table.insert]

theorem mem_saveOwn {id : String} {m : Message × Nat} :
    id ∈ (saveOwn taken own m).map (·.messageId)
      ↔ id ∈ own.map (·.messageId) ∨ (id = m.1.messageId ∧ id ∉ taken) := by
  unfold saveOwn
  by_cases htaken : m.1.messageId ∈ taken
  · rw [if_pos htaken]
    constructor
    · exact .inl
    · rintro (h | ⟨rfl, h⟩)
      · exact h
      · exact absurd htaken h
  · rw [if_neg htaken, map_upsertMessage]
    by_cases hmem : m.1.messageId ∈ own.map (·.messageId)
    · rw [if_pos hmem]
      constructor
      · exact .inl
      · rintro (h | ⟨rfl, -⟩)
        · exact h
        · exact hmem
    · rw [if_neg hmem, List.mem_append, List.mem_singleton]
      constructor
      · rintro (h | rfl)
        · exact .inl h
        · exact .inr ⟨rfl, htaken⟩
      · rintro (h | ⟨rfl, -⟩)
        · exact .inl h
        · exact .inr rfl

theorem nodup_saveOwn (h : (own.map (·.messageId)).Nodup) (m : Message × Nat) :
    ((saveOwn taken own m).map (·.messageId)).Nodup := by
  unfold saveOwn
  by_cases htaken : m.1.messageId ∈ taken
  · rw [if_pos htaken]
    exact h
  · rw [if_neg htaken, map_upsertMessage]
    by_cases hmem : m.1.messageId ∈ own.map (·.messageId)
    · rw [if_pos hmem]
      exact h
    · rw [if_neg hmem]
      exact h.append (List.nodup_singleton _) (by simpa using hmem)

/-- **The messages a cycle saves** are those that no other cycle owns. -/
theorem mem_saveCycleMessages {id : String} :
    id ∈ (saveCycleMessages taken messages).rows.map (·.messageId)
      ↔ id ∈ messages.map (·.messageId) ∧ id ∉ taken := by
  suffices ∀ (numbered : List (Message × Nat)) (own : List CycleMessage),
      id ∈ (numbered.foldl (saveOwn taken) own).map (·.messageId)
        ↔ id ∈ own.map (·.messageId) ∨ (id ∈ numbered.map (·.1.messageId) ∧ id ∉ taken) by
    rw [saveCycleMessages_rows, this, List.map_nil, zipIdx_messageId]
    simp
  intro numbered
  induction numbered with
  | nil => simp
  | cons m numbered ih =>
      intro own
      rw [List.foldl_cons, ih, mem_saveOwn, List.map_cons, List.mem_cons]
      tauto

theorem nodup_saveCycleMessages (taken : List String) (messages : List Message) :
    ((saveCycleMessages taken messages).rows.map (·.messageId)).Nodup := by
  suffices ∀ (numbered : List (Message × Nat)) (own : List CycleMessage),
      (own.map (·.messageId)).Nodup →
        ((numbered.foldl (saveOwn taken) own).map (·.messageId)).Nodup by
    rw [saveCycleMessages_rows]
    exact this _ [] List.nodup_nil
  intro numbered
  induction numbered with
  | nil => exact fun own h => h
  | cons m numbered ih => exact fun own h => ih _ (nodup_saveOwn h m)

/-- The row of a message at its position. -/
def cycleMessage (m : Message × Nat) : CycleMessage := ⟨m.1.messageId, m.2, m.1.type, m.1.timestamp⟩

/-- The loop on messages with distinct ids. -/
theorem foldl_saveOwn_of_nodup {numbered : List (Message × Nat)}
    (hnodup : (numbered.map (·.1.messageId)).Nodup)
    (hfresh : ∀ m ∈ numbered, m.1.messageId ∉ own.map (·.messageId)) :
    numbered.foldl (saveOwn taken) own
      = own ++ (numbered.filter (·.1.messageId ∉ taken)).map cycleMessage := by
  induction numbered generalizing own with
  | nil => simp
  | cons m numbered ih =>
      obtain ⟨hm, hnodup'⟩ := List.nodup_cons.mp hnodup
      have hfresh' : ∀ m' ∈ numbered, m'.1.messageId ∉ own.map (·.messageId) := by
        intro m' hm'
        exact hfresh m' (List.mem_cons_of_mem m hm')
      rw [List.foldl_cons]
      by_cases htaken : m.1.messageId ∈ taken
      · have hskip : saveOwn taken own m = own := if_pos htaken
        rw [hskip, ih hnodup' hfresh', List.filter_cons_of_neg (by simpa using htaken)]
      · have hrow : saveOwn taken own m = own ++ [cycleMessage m] := by
          have hnone : ¬own.any (·.messageId == m.1.messageId) = true := by
            have hm' := hfresh m List.mem_cons_self
            simpa using hm'
          unfold saveOwn upsertMessage
          rw [if_neg htaken, if_neg hnone]
          rfl
        rw [hrow, ih hnodup' ?_, List.filter_cons_of_pos (by simpa using htaken), List.map_cons,
          List.append_assoc, List.singleton_append]
        -- the row that was just inserted has another id
        intro m' hm' hmem
        rw [List.map_append, List.mem_append] at hmem
        rcases hmem with hmem | hmem
        · exact hfresh' m' hm' hmem
        · have hid : m'.1.messageId = m.1.messageId := by simpa [cycleMessage] using hmem
          exact hm (List.mem_map.mpr ⟨m', hm', hid⟩)

/-- **The rows of distinct messages**: those that are not taken, at their positions. -/
theorem saveCycleMessages_of_nodup (h : (messages.map (·.messageId)).Nodup) :
    (saveCycleMessages taken messages).rows
      = (messages.zipIdx.filter (·.1.messageId ∉ taken)).map cycleMessage := by
  rw [saveCycleMessages_rows, foldl_saveOwn_of_nodup, List.nil_append]
  · rw [zipIdx_messageId]
    exact h
  · exact fun m _ => List.not_mem_nil

/-- The messages that a pass goes on with. -/
theorem filter_accepted (taken : List String) (messages : List Message) :
    messages.filter (·.messageId ∈ (saveCycleMessages taken messages).accepted)
      = messages.filter (·.messageId ∉ taken) := by
  refine List.filter_congr fun m hm => ?_
  have hmem : m.messageId ∈ messages.map (·.messageId) := List.mem_map.mpr ⟨m, hm, rfl⟩
  have haccepted : m.messageId ∈ (saveCycleMessages taken messages).accepted
      ↔ m.messageId ∉ taken := by
    show m.messageId ∈ (messages.map (·.messageId)).filter (· ∉ taken) ↔ _
    rw [List.mem_filter]
    simp [hmem]
  exact decide_eq_decide.mpr haccepted

/-- The rows of distinct messages are the ids and types of the accepted ones, in order. -/
theorem saveCycleMessages_keys (taken : List String)
    (h : (messages.map (·.messageId)).Nodup) :
    (saveCycleMessages taken messages).rows.map (fun r => (r.messageId, r.messageType))
      = (messages.filter (·.messageId ∉ taken)).map fun m => (m.messageId, m.type) := by
  rw [saveCycleMessages_of_nodup h, List.map_map]
  have hfst := congrArg (List.filter fun m : Message => m.messageId ∉ taken)
    (List.zipIdx_map_fst 0 messages)
  rw [List.filter_map] at hfst
  rw [← hfst, List.map_map]
  rfl

/-- Positions ascend. -/
theorem saveCycleMessages_sorted (h : (messages.map (·.messageId)).Nodup) :
    (saveCycleMessages taken messages).rows.Pairwise fun a b => a.position < b.position := by
  rw [saveCycleMessages_of_nodup h, List.pairwise_map]
  refine List.Pairwise.filter _ ?_
  have hpositions : (messages.zipIdx.map Prod.snd).Pairwise (· < ·) := by
    rw [List.zipIdx_map_snd]
    exact List.pairwise_lt_range'
  exact List.pairwise_map.mp hpositions

/-! ## §4. The table. -/

/-- `conversation_cycle_messages` -/
structure CycleMessages where
  rows : List OwnedMessage
  /-- `uq_conversation_cycle_messages_id` -/
  ids_nodup : (rows.map (·.messageId)).Nodup

namespace CycleMessages

/-- The rows of a cycle. -/
def rowsOf (table : CycleMessages) (cycleId : Nat) : List CycleMessage :=
  (table.rows.filter (·.cycleId == cycleId)).map (·.toCycleMessage)

/-- The cycle that owns a message. -/
def owner? (table : CycleMessages) (messageId : String) : Option Nat :=
  (Table.select (·.messageId == messageId) table.rows).map (·.cycleId)

variable {table : CycleMessages} {messageId : String}

theorem owner?_eq_some_iff :
    table.owner? messageId = some cycleId
      ↔ ∃ r ∈ table.rows, r.messageId = messageId ∧ r.cycleId = cycleId := by
  unfold owner? Table.select
  rw [Option.map_eq_some_iff]
  constructor
  · rintro ⟨r, hr, hcycle⟩
    exact ⟨r, List.mem_of_find?_eq_some hr, by simpa using List.find?_some hr, hcycle⟩
  · rintro ⟨r, hr, hid, hcycle⟩
    cases hfind : table.rows.find? (·.messageId == messageId) with
    | none =>
        have hnot := List.find?_eq_none.mp hfind r hr
        simp [hid] at hnot
    | some r' =>
        have hid' : r'.messageId = messageId := by simpa using List.find?_some hfind
        have heq : r' = r := List.inj_on_of_nodup_map table.ids_nodup
          (List.mem_of_find?_eq_some hfind) hr (hid'.trans hid.symm)
        exact ⟨r', rfl, heq ▸ hcycle⟩

/-- The messages of a cycle are those it owns. -/
theorem mem_rowsOf_iff :
    messageId ∈ (table.rowsOf cycleId).map (·.messageId) ↔ table.owner? messageId = some cycleId := by
  rw [owner?_eq_some_iff]
  unfold rowsOf
  rw [List.map_map]
  constructor
  · intro h
    obtain ⟨r, hr, hid⟩ := List.mem_map.mp h
    obtain ⟨hr, hcycle⟩ := List.mem_filter.mp hr
    exact ⟨r, hr, hid, by simpa using hcycle⟩
  · rintro ⟨r, hr, hid, hcycle⟩
    exact List.mem_map.mpr ⟨r, List.mem_filter.mpr ⟨hr, by simpa using hcycle⟩, hid⟩

theorem mem_ownedElsewhere_iff :
    messageId ∈ ownedElsewhere cycleId table.rows
      ↔ ¬(table.owner? messageId = none ∨ table.owner? messageId = some cycleId) := by
  unfold ownedElsewhere
  constructor
  · intro h
    obtain ⟨r, hr, hid⟩ := List.mem_map.mp h
    obtain ⟨hr, hcycle⟩ := List.mem_filter.mp hr
    have howner : table.owner? messageId = some r.cycleId :=
      owner?_eq_some_iff.mpr ⟨r, hr, hid, rfl⟩
    rw [howner]
    simpa using hcycle
  · intro h
    cases howner : table.owner? messageId with
    | none => exact absurd (.inl howner) h
    | some e =>
        obtain ⟨r, hr, hid, hcycle⟩ := owner?_eq_some_iff.mp howner
        refine List.mem_map.mpr ⟨r, List.mem_filter.mpr ⟨hr, ?_⟩, hid⟩
        have hne : e ≠ cycleId := by
          intro heq
          exact h (.inr (heq ▸ howner))
        rw [hcycle]
        simpa using hne

/-- `_save_cycle_messages_sync` keeps the message ids unique. -/
theorem nodup_saveLoop (table : CycleMessages) (cycleId : Nat) (messages : List Message) :
    ((saveLoop cycleId messages table.rows).rows.map (·.messageId)).Nodup := by
  rw [saveLoop_eq]
  show ((table.rows.filter (·.cycleId != cycleId) ++ tagged cycleId _).map (·.messageId)).Nodup
  rw [List.map_append]
  have hown : (tagged cycleId
      (saveCycleMessages (ownedElsewhere cycleId table.rows) messages).rows).map (·.messageId)
      = (saveCycleMessages (ownedElsewhere cycleId table.rows) messages).rows.map (·.messageId) := by
    unfold tagged
    rw [List.map_map]
    rfl
  rw [hown]
  refine List.Nodup.append ?_ (nodup_saveCycleMessages _ _) fun id hothers hid => ?_
  · exact table.ids_nodup.sublist (List.filter_sublist.map _)
  · exact (mem_saveCycleMessages.mp hid).2 hothers

/-- The table that `_save_cycle_messages_sync` leaves. -/
def save (table : CycleMessages) (cycleId : Nat) (messages : List Message) : CycleMessages :=
  ⟨(saveLoop cycleId messages table.rows).rows, nodup_saveLoop table cycleId messages⟩

/-- The rows of the cycle after it has saved. -/
theorem rowsOf_save_self (table : CycleMessages) (cycleId : Nat) (messages : List Message) :
    (table.save cycleId messages).rowsOf cycleId
      = (saveCycleMessages (ownedElsewhere cycleId table.rows) messages).rows := by
  unfold rowsOf save
  simp only [saveLoop_eq, List.filter_append]
  have hothers : (table.rows.filter (·.cycleId != cycleId)).filter (·.cycleId == cycleId) = [] := by
    rw [List.filter_eq_nil_iff]
    intro r hr
    simpa using (List.mem_filter.mp hr).2
  have hown (own : List CycleMessage) :
      (tagged cycleId own).filter (·.cycleId == cycleId) = tagged cycleId own := by
    rw [List.filter_eq_self]
    intro r hr
    obtain ⟨row, -, rfl⟩ := List.mem_map.mp hr
    simp
  rw [hothers, hown, List.nil_append]
  unfold tagged
  rw [List.map_map]
  exact List.map_id _

/-- The rows of the other cycles. -/
theorem rowsOf_save_other {other : Nat} (hne : other ≠ cycleId) :
    (table.save cycleId messages).rowsOf other = table.rowsOf other := by
  unfold rowsOf save
  simp only [saveLoop_eq, List.filter_append]
  have hothers : (table.rows.filter (·.cycleId != cycleId)).filter (·.cycleId == other)
      = table.rows.filter (·.cycleId == other) := by
    rw [List.filter_filter]
    refine List.filter_congr fun r _ => ?_
    by_cases hr : r.cycleId = other
    · simp [hr, hne]
    · simp [hr]
  have hown (own : List CycleMessage) : (tagged cycleId own).filter (·.cycleId == other) = [] := by
    rw [List.filter_eq_nil_iff]
    intro r hr
    obtain ⟨row, -, rfl⟩ := List.mem_map.mp hr
    simpa using hne.symm
  rw [hothers, hown, List.append_nil]

/-- **A cycle that saves retakes its messages.** -/
theorem owner?_save (table : CycleMessages) (cycleId : Nat) (messages : List Message) :
    (table.save cycleId messages).owner?
      = Ownership.retake cycleId (· ∈ messages.map (·.messageId)) table.owner? := by
  funext id
  refine Option.ext fun e => ?_
  by_cases he : e = cycleId
  · subst he
    rw [← mem_rowsOf_iff, rowsOf_save_self, mem_saveCycleMessages,
      mem_ownedElsewhere_iff, not_not, Ownership.retake_eq_self_iff]
  · rw [← mem_rowsOf_iff, rowsOf_save_other he, mem_rowsOf_iff,
      Ownership.retake_eq_other_iff he]

end CycleMessages

end Cai.Worker
