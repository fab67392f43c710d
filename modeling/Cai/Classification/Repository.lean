/-
  Cai.Classification.Repository — classifications and the messages they are of.

  `_insert_classification_sync` of `src/core/classification_repository.py`,
  on the tables `ia_classifications` and `classification_messages`.  A call
  is one transaction; its statements wait at the unique indexes for the rows
  of others, so that a run is the order in which the calls commit.  What the
  types and CHECK constraints of `ia_classifications` let in is a parameter.

  Main results:
    * `positioned_eraseDups` — a list is stored without its repetitions.
    * `messages_agree_iff` — when the messages are those of the stored list.
    * `longer_list_disagrees` — a call is repeated with one message more.
-/
import Mathlib.Data.List.Sort
import Cai.Classification.Contract
import Cai.Cycle.Status
import Cai.Lib.Transition

namespace Cai.Classification

open Cai.Lib
open Cai.Cycle (Timestamp)

/-! ## §1. The tables. -/

/-- `ClassificationIdentity` -/
structure ClassificationIdentity where
  id : Nat
  publicId : Option String
  deriving DecidableEq, Repr

/-- The other columns of a classification. -/
structure ClassificationColumns where
  conversationId : String
  createdAt : Timestamp
  fullContext : String
  messageCount : Int
  intentType : String
  confidence : Json
  title : Json
  protocol : Option String
  description : Json
  department : List String
  agent : List String
  model : String
  processingTimeMs : Int
  promptVersion : String
  updatedAt : Timestamp

/-- A row of `ia_classifications`. -/
structure ClassificationRow where
  identity : ClassificationIdentity
  idempotencyKey : Option String
  messageIds : List String
  columns : ClassificationColumns

/-- A row of `classification_messages`. -/
structure MessageRow where
  classificationId : Nat
  messageId : String
  position : Nat
  createdAt : Timestamp
  deriving DecidableEq, Repr

/-- The two tables, with their indexes. -/
structure ClassificationTables where
  rows : List ClassificationRow
  messages : List MessageRow
  /-- The primary key of `ia_classifications`. -/
  ids : (rows.map (·.identity.id)).Nodup
  /-- `ux_ia_classifications_public_id` -/
  publicIds : (rows.filterMap (·.identity.publicId)).Nodup
  /-- `ux_ia_classifications_idempotency_key` -/
  keys : (rows.filterMap (·.idempotencyKey)).Nodup
  /-- `pk_classification_messages` -/
  associations : (messages.map fun m => (m.classificationId, m.messageId)).Nodup
  /-- `uq_classification_messages_position` -/
  positions : (messages.map fun m => (m.classificationId, m.position)).Nodup
  /-- `fk_classification_messages_classification` -/
  references : ∀ m ∈ messages, m.classificationId ∈ rows.map (·.identity.id)

namespace ClassificationTables

def empty : ClassificationTables := ⟨[], [], .nil, .nil, .nil, .nil, .nil, nofun⟩

variable (t : ClassificationTables)

/-- SELECT … WHERE idempotency_key = `key` -/
def byKey? (key : String) : Option ClassificationRow :=
  t.rows.find? (·.idempotencyKey == some key)

/-- The message ids of a classification, in the order of their positions. -/
def listed (id : Nat) : List String :=
  ((t.messages.filter (·.classificationId == id)).insertionSort
    fun a b => a.position ≤ b.position).map (·.messageId)

end ClassificationTables

/-! ## §2. A call. -/

/-- What an insertion raises. -/
inductive InsertError
  /-- The timestamp of the call is none. -/
  | valueError
  | checkViolation
  | uniqueViolation
  deriving DecidableEq, Repr

/-- `SchemaCapabilities`, as far as it is read here. -/
structure SchemaCapabilities where
  classificationIdentityColumns : Bool
  classificationIdempotencyIndex : Bool
  classificationMessages : Bool

/-- Those of the revision that `_verify_schema_sync` asks for. -/
def currentSchema : SchemaCapabilities := ⟨true, true, true⟩

/-- What an insertion uses. -/
structure RepositoryLibrary where
  unicode : Unicode
  /-- `_parse_timestamp` -/
  parseTimestamp : String → Option Timestamp
  /-- What the types and the CHECK constraints of `ia_classifications` let in. -/
  accepts : ClassificationRow → Bool

/-- The arguments of `insert_classification`. -/
structure InsertCall where
  conversationId : String
  messageIds : List String
  createdAt : String
  fullContext : String
  messageCount : Int
  result : JsonObject
  model : String
  processingTimeMs : Int
  promptVersion : String
  protocol : Option String := none
  idempotencyKey : Option String := none

/-- `_intent_type` -/
def intentType (u : Unicode) (result : JsonObject) : String :=
  (normalizeIntentType u (result.get "intent_type")).getD "other"

/-- `text.strip()`, where it is not empty. -/
def stripped (text : String) : Option String :=
  let found := Text.strip text
  if found = "" then none else some found

/-- `_structured_name_list` -/
def structuredNameList (result : JsonObject) (field : String) : List String :=
  match result.get field with
  | .list items => items.filterMap fun item => item.asText.bind stripped
  | _ => []

/-- `normalized_idempotency_key`, as far as there is a column for it. -/
def normalizedKey (capabilities : SchemaCapabilities) (call : InsertCall) : Option String :=
  if capabilities.classificationIdentityColumns && capabilities.classificationIdempotencyIndex then
    call.idempotencyKey.bind stripped
  else none

/-- `positioned_message_ids`, from a position on. -/
def positioned : (position : Nat) → (seen messageIds : List String) → List (Nat × String)
  | _, _, [] => []
  | position, seen, id :: ids =>
      if id ∈ seen then positioned (position + 1) seen ids
      else (position, id) :: positioned (position + 1) (id :: seen) ids

/-- The rows of the messages of a call. -/
def associatedRows (classificationId : Nat) (createdTimestamp : Timestamp) (messageIds : List String) :
    List MessageRow :=
  (positioned 0 [] messageIds).map fun (position, messageId) =>
    { classificationId, messageId, position, createdAt := createdTimestamp }

/-- The row of a call. -/
def classificationRow (lib : RepositoryLibrary) (capabilities : SchemaCapabilities) (id : Nat)
    (publicId : String) (call : InsertCall) (createdTimestamp : Timestamp) : ClassificationRow where
  identity :=
    ⟨id, if capabilities.classificationIdentityColumns then some publicId else none⟩
  idempotencyKey := normalizedKey capabilities call
  messageIds := call.messageIds
  columns :=
    { conversationId := call.conversationId, createdAt := createdTimestamp
      fullContext := call.fullContext, messageCount := call.messageCount
      intentType := intentType lib.unicode call.result, confidence := call.result.get "confidence"
      title := call.result.get "title", protocol := call.protocol
      description := call.result.get "description"
      department := structuredNameList call.result "department"
      agent := structuredNameList call.result "agent", model := call.model
      processingTimeMs := call.processingTimeMs, promptVersion := call.promptVersion
      updatedAt := createdTimestamp }

/-- `btrim(text) = ''` -/
def onlySpaces (text : String) : Bool := text.toList.all (· == ' ')

/-! ## §3. The statements. -/

namespace ClassificationTables

variable (t : ClassificationTables)

theorem nodup_append_new {α : Type} {l : List α} {a : α} (h : l.Nodup) (ha : a ∉ l) :
    (l ++ [a]).Nodup := by
  rw [List.nodup_append]
  refine ⟨h, List.nodup_singleton a, fun b hb c hc heq => ?_⟩
  rw [List.mem_singleton.mp hc] at heq
  exact ha (heq ▸ hb)

theorem nodup_filterMap_new {α β : Type} {f : α → Option β} {l : List α} {a : α}
    (h : (l.filterMap f).Nodup) (ha : ∀ b, f a = some b → b ∉ l.filterMap f) :
    ((l ++ [a]).filterMap f).Nodup := by
  rw [List.filterMap_append]
  cases hf : f a with
  | none =>
      rw [List.filterMap_cons_none hf, List.filterMap_nil, List.append_nil]
      exact h
  | some b =>
      rw [List.filterMap_cons_some hf, List.filterMap_nil]
      exact nodup_append_new h (ha b hf)

/-- The row has no id, public id or key of another one. -/
def IsNew (row : ClassificationRow) : Prop :=
  row.identity.id ∉ t.rows.map (·.identity.id)
    ∧ (∀ publicId ∈ row.identity.publicId, publicId ∉ t.rows.filterMap (·.identity.publicId))
    ∧ ∀ key ∈ row.idempotencyKey, key ∉ t.rows.filterMap (·.idempotencyKey)

instance (row : ClassificationRow) : Decidable (t.IsNew row) :=
  inferInstanceAs (Decidable (row.identity.id ∉ t.rows.map (·.identity.id)
    ∧ (∀ publicId ∈ row.identity.publicId, publicId ∉ t.rows.filterMap (·.identity.publicId))
    ∧ ∀ key ∈ row.idempotencyKey, key ∉ t.rows.filterMap (·.idempotencyKey)))

/-- INSERT INTO ia_classifications -/
def insertRow (row : ClassificationRow) : Except InsertError ClassificationTables :=
  if h : t.IsNew row then
    .ok { t with
      rows := t.rows ++ [row]
      ids := by
        rw [List.map_append]
        exact nodup_append_new t.ids h.1
      publicIds := nodup_filterMap_new t.publicIds h.2.1
      keys := nodup_filterMap_new t.keys h.2.2
      references := fun m hm => by
        rw [List.map_append]
        exact List.mem_append_left _ (t.references m hm) }
  else .error .uniqueViolation

/-- INSERT … ON CONFLICT (idempotency_key) DO NOTHING, and the SELECT after it -/
def insertOrFind (row : ClassificationRow) :
    Except InsertError (ClassificationTables × ClassificationIdentity) :=
  match row.idempotencyKey.bind t.byKey? with
  | some found => .ok (t, found.identity)
  | none => (t.insertRow row).map fun t => (t, row.identity)

/-- The message is one of the classification already. -/
def has (t : ClassificationTables) (m : MessageRow) : Bool :=
  (t.messages.map fun m => (m.classificationId, m.messageId)).contains (m.classificationId, m.messageId)

/-- The position of the message is another one's. -/
def taken (t : ClassificationTables) (m : MessageRow) : Bool :=
  (t.messages.map fun m => (m.classificationId, m.position)).contains (m.classificationId, m.position)

theorem not_mem_of_has {t : ClassificationTables} {m : MessageRow} (h : ¬t.has m = true) :
    (m.classificationId, m.messageId) ∉ t.messages.map fun m => (m.classificationId, m.messageId) :=
  fun hmem => h (List.contains_iff_mem.mpr hmem)

theorem not_mem_of_taken {t : ClassificationTables} {m : MessageRow} (h : t.taken m = false) :
    (m.classificationId, m.position) ∉ t.messages.map fun m => (m.classificationId, m.position) :=
  fun hmem => Bool.false_ne_true (h.symm.trans (List.contains_iff_mem.mpr hmem))

/-- INSERT INTO classification_messages … ON CONFLICT (classification_id, message_id) DO NOTHING -/
def insertMessage (m : MessageRow) : Except InsertError ClassificationTables :=
  if onlySpaces m.messageId then .error .checkViolation
  else if hassociation : t.has m = true then .ok t
  else if h : t.taken m = false ∧ m.classificationId ∈ t.rows.map (·.identity.id) then
    .ok { t with
      messages := t.messages ++ [m]
      associations := by
        rw [List.map_append]
        exact nodup_append_new t.associations (not_mem_of_has hassociation)
      positions := by
        rw [List.map_append]
        exact nodup_append_new t.positions (not_mem_of_taken h.1)
      references := fun m' hm' => by
        rcases List.mem_append.mp hm' with hold | hnew
        · exact t.references m' hold
        · rw [List.mem_singleton.mp hnew]
          exact h.2 }
  else .error .uniqueViolation

end ClassificationTables

/-- The messages of a classification, where there is a table for them. -/
def associate (capabilities : SchemaCapabilities) (classificationId : Nat)
    (createdTimestamp : Timestamp) (messageIds : List String) (t : ClassificationTables) :
    Except InsertError ClassificationTables :=
  if capabilities.classificationMessages then
    (associatedRows classificationId createdTimestamp messageIds).foldlM
      ClassificationTables.insertMessage t
  else .ok t

/-- `_insert_classification_sync`, where the sequence gives `id` and `uuid7` gives `publicId`. -/
def insertClassification (lib : RepositoryLibrary) (capabilities : SchemaCapabilities) (id : Nat)
    (publicId : String) (call : InsertCall) (t : ClassificationTables) :
    Except InsertError (ClassificationTables × ClassificationIdentity) :=
  match lib.parseTimestamp call.createdAt with
  | none => .error .valueError
  | some createdTimestamp => do
      let row := classificationRow lib capabilities id publicId call createdTimestamp
      require (lib.accepts row = true) .checkViolation
      let (t, identity) ← t.insertOrFind row
      let t ← associate capabilities identity.id createdTimestamp call.messageIds t
      return (t, identity)

/-! ## §4. The positions of a list. -/

variable {position : Nat} {seen messageIds : List String}

theorem le_of_mem_positioned {p : Nat × String} (h : p ∈ positioned position seen messageIds) :
    position ≤ p.1 := by
  induction messageIds generalizing position seen with
  | nil => exact absurd h List.not_mem_nil
  | cons id ids ih =>
      unfold positioned at h
      split at h
      · have hle := ih h
        omega
      · rcases List.mem_cons.mp h with rfl | hrest
        · exact Nat.le_refl position
        · have hle := ih hrest
          omega

/-- The positions grow. -/
theorem positioned_increasing :
    (positioned position seen messageIds).Pairwise fun p q => p.1 < q.1 := by
  induction messageIds generalizing position seen with
  | nil => exact .nil
  | cons id ids ih =>
      unfold positioned
      split
      · exact ih
      · exact .cons (fun p hp => le_of_mem_positioned hp) ih

/-- Without the ids that were seen. -/
theorem map_positioned :
    (positioned position seen messageIds).map (·.2)
      = (messageIds.filter fun id => decide (id ∉ seen)).eraseDups := by
  induction messageIds generalizing position seen with
  | nil => rfl
  | cons id ids ih =>
      unfold positioned
      by_cases hseen : id ∈ seen
      · rw [if_pos hseen, ih, List.filter_cons_of_neg (by simp [hseen])]
      · rw [if_neg hseen, List.map_cons, ih, List.filter_cons_of_pos (by simp [hseen]),
          List.eraseDups_cons, List.filter_filter]
        refine congrArg (fun rest => id :: List.eraseDups rest) (List.filter_congr fun other _ => ?_)
        by_cases hsame : other = id
        · simp [hsame]
        · simp [hsame]

/-- **A list is stored without its repetitions.** -/
theorem positioned_eraseDups :
    (positioned 0 [] messageIds).map (·.2) = messageIds.eraseDups := by
  rw [map_positioned]
  simp only [List.not_mem_nil, not_false_eq_true, decide_true, List.filter_true]

theorem mem_positioned_iff {id : String} :
    id ∈ (positioned 0 [] messageIds).map (·.2) ↔ id ∈ messageIds := by
  rw [positioned_eraseDups, List.mem_eraseDups]

/-- No id has two positions. -/
theorem nodup_positioned : ((positioned position seen messageIds).map (·.2)).Nodup := by
  induction messageIds generalizing position seen with
  | nil => exact .nil
  | cons id ids ih =>
      unfold positioned
      split
      · exact ih
      · rw [List.map_cons, List.nodup_cons]
        refine ⟨?_, ih⟩
        rw [map_positioned, List.mem_eraseDups, List.mem_filter]
        intro ⟨_, hnot⟩
        simp at hnot

/-! ## §5. What a call does. -/

variable {lib : RepositoryLibrary} {t t' t'' : ClassificationTables} {row found : ClassificationRow}
  {m : MessageRow} {associated : List MessageRow} {call : InsertCall} {id : Nat} {publicId key : String}
  {identity : ClassificationIdentity}

namespace ClassificationTables

/-- One message: it is there, or it is added at a position that was free. -/
theorem insertMessage_ok (h : t.insertMessage m = .ok t') :
    onlySpaces m.messageId = false ∧ t'.rows = t.rows
      ∧ ((t.has m = true ∧ t' = t)
        ∨ (t.has m = false ∧ t.taken m = false ∧ t'.messages = t.messages ++ [m])) := by
  unfold insertMessage at h
  split at h
  next => cases h
  next hspaces =>
    have hblank : onlySpaces m.messageId = false := Bool.not_eq_true _ ▸ hspaces
    split at h
    next hassociation =>
      rw [← Except.ok.inj h]
      exact ⟨hblank, rfl, .inl ⟨hassociation, rfl⟩⟩
    next hassociation =>
      split at h
      next hfree =>
        rw [← Except.ok.inj h]
        exact ⟨hblank, rfl, .inr ⟨Bool.eq_false_iff.mpr hassociation, hfree.1, rfl⟩⟩
      next => cases h

/-- **The messages of a call:** those that are not there are added. -/
theorem insertMessages_ok (hids : (associated.map (·.messageId)).Nodup)
    (h : associated.foldlM insertMessage t = .ok t') :
    t'.rows = t.rows ∧ t'.messages = t.messages ++ associated.filter (fun m => !t.has m)
      ∧ ∀ m ∈ associated, onlySpaces m.messageId = false
        ∧ (t.has m = false → t.taken m = false) := by
  induction associated generalizing t with
  | nil =>
      rw [← pure_eq_ok_iff.mp h]
      exact ⟨rfl, (List.append_nil _).symm, nofun⟩
  | cons m associated ih =>
      rw [List.foldlM_cons] at h
      obtain ⟨t₁, hfirst, hrest⟩ := bind_eq_ok_iff.mp h
      obtain ⟨hm, hids⟩ := List.nodup_cons.mp hids
      obtain ⟨hrows₁, hmessages₁, hall⟩ := ih hids hrest
      obtain ⟨hblank, hrows, ⟨hhas, rfl⟩ | ⟨hhas, hfree, hadded⟩⟩ := insertMessage_ok hfirst
      · refine ⟨hrows₁, ?_, ?_⟩
        · rw [hmessages₁, List.filter_cons_of_neg (by simp [hhas])]
        · intro m' hm'
          rcases List.mem_cons.mp hm' with rfl | hm'
          · exact ⟨hblank, fun hnot => absurd hnot (by simp [hhas])⟩
          · exact hall m' hm'
      · -- the others are no nearer to being there
        have hsame : ∀ m' ∈ associated, t₁.has m' = t.has m' := by
          intro m' hm'
          have hne : m'.messageId ≠ m.messageId :=
            fun heq => hm (List.mem_map.mpr ⟨m', hm', heq⟩)
          unfold has
          rw [hadded, List.map_append, List.contains_append]
          simp [hne]
        have hless : ∀ m', t₁.taken m' = false → t.taken m' = false := by
          intro m' hm'
          unfold taken at hm' ⊢
          rw [hadded, List.map_append, List.contains_append, Bool.or_eq_false_iff] at hm'
          exact hm'.1
        refine ⟨hrows₁.trans hrows, ?_, ?_⟩
        · rw [hmessages₁, hadded, List.filter_cons_of_pos (by simp [hhas]), List.append_assoc]
          refine congrArg (fun rest => t.messages ++ m :: rest) (List.filter_congr fun m' hm' => ?_)
          rw [hsame m' hm']
        · intro m' hm'
          rcases List.mem_cons.mp hm' with rfl | hm'
          · exact ⟨hblank, fun _ => hfree⟩
          · obtain ⟨hblank', hfree'⟩ := hall m' hm'
            exact ⟨hblank', fun hnot => hless m' (hfree' (by rw [hsame m' hm', hnot]))⟩

theorem insertRow_ok (h : t.insertRow row = .ok t') :
    t.IsNew row ∧ t'.rows = t.rows ++ [row] ∧ t'.messages = t.messages := by
  unfold insertRow at h
  split at h
  next hnew =>
    rw [← Except.ok.inj h]
    exact ⟨hnew, rfl, rfl⟩
  next => cases h

theorem byKey?_spec (h : t.byKey? key = some found) :
    found ∈ t.rows ∧ found.idempotencyKey = some key := by
  refine ⟨List.mem_of_find?_eq_some h, ?_⟩
  have hkey := List.find?_some h
  exact beq_iff_eq.mp hkey

/-- A key has one row. -/
theorem eq_of_key (hrow : row ∈ t.rows) (hfound : found ∈ t.rows) (hkey : row.idempotencyKey = some key)
    (hkey' : found.idempotencyKey = some key) : row = found := by
  have hpairs : t.rows.Pairwise fun a b => ∀ k, a.idempotencyKey = some k →
      ∀ k', b.idempotencyKey = some k' → k ≠ k' := List.pairwise_filterMap.mp t.keys
  by_contra hne
  have hsymm : Std.Symm fun a b : ClassificationRow => ∀ k, a.idempotencyKey = some k →
      ∀ k', b.idempotencyKey = some k' → k ≠ k' :=
    ⟨fun a b hab k hk k' hk' heq => hab k' hk' k hk heq.symm⟩
  exact hpairs.forall hrow hfound hne key hkey key hkey' rfl

theorem eq_of_id (hrow : row ∈ t.rows) (hfound : found ∈ t.rows)
    (hid : row.identity.id = found.identity.id) : row = found :=
  List.inj_on_of_nodup_map t.ids hrow hfound hid

end ClassificationTables

/-- The row that a call is about: that of its key, or a new one. -/
inductive Settled (t t' : ClassificationTables) (call : InsertCall) : ClassificationRow → Prop
  | existing (key : String) (found : ClassificationRow)
      (hkey : normalizedKey currentSchema call = some key) (hfound : t.byKey? key = some found)
      (ht : t' = t) : Settled t t' call found
  | inserted (row : ClassificationRow) (hnone : (normalizedKey currentSchema call).bind t.byKey? = none)
      (hnew : t.IsNew row) (hrows : t'.rows = t.rows ++ [row]) (hmessages : t'.messages = t.messages)
      (hkey : row.idempotencyKey = normalizedKey currentSchema call)
      (hids : row.messageIds = call.messageIds) : Settled t t' call row

/-- **A call that returns** settles a row, and adds the messages that it lacks. -/
theorem insertClassification_ok
    (h : insertClassification lib currentSchema id publicId call t = .ok (t'', identity)) :
    ∃ t' row createdTimestamp, Settled t t' call row ∧ identity = row.identity ∧ t''.rows = t'.rows
      ∧ t''.messages = t'.messages ++ (associatedRows row.identity.id createdTimestamp
          call.messageIds).filter (fun m => !t'.has m)
      ∧ ∀ m ∈ associatedRows row.identity.id createdTimestamp call.messageIds,
          onlySpaces m.messageId = false ∧ (t'.has m = false → t'.taken m = false) := by
  unfold insertClassification at h
  split at h
  next => cases h
  next createdTimestamp _ =>
    obtain ⟨_, -, h⟩ := bind_eq_ok_iff.mp h
    obtain ⟨⟨t', settled⟩, hsettled, h⟩ := bind_eq_ok_iff.mp h
    obtain ⟨last, hlast, h⟩ := bind_eq_ok_iff.mp h
    obtain ⟨rfl, rfl⟩ := Prod.mk.inj (Except.ok.inj h)
    have hids : ∀ classificationId, ((associatedRows classificationId createdTimestamp
        call.messageIds).map (·.messageId)).Nodup := by
      intro classificationId
      unfold associatedRows
      rw [List.map_map]
      exact nodup_positioned
    -- the messages are those of the row that is settled
    have hmessages : ∀ row : ClassificationRow, settled = row.identity →
        last.rows = t'.rows
          ∧ last.messages = t'.messages ++ (associatedRows row.identity.id createdTimestamp
              call.messageIds).filter (fun m => !t'.has m)
          ∧ ∀ m ∈ associatedRows row.identity.id createdTimestamp call.messageIds,
              onlySpaces m.messageId = false ∧ (t'.has m = false → t'.taken m = false) := by
      intro row heq
      rw [heq] at hlast
      exact ClassificationTables.insertMessages_ok (hids row.identity.id) hlast
    unfold ClassificationTables.insertOrFind at hsettled
    split at hsettled
    next found hbound =>
      obtain ⟨rfl, rfl⟩ := Prod.mk.inj (Except.ok.inj hsettled)
      obtain ⟨key, hkey, hfound⟩ := Option.bind_eq_some_iff.mp hbound
      exact ⟨t, found, createdTimestamp, .existing key found hkey hfound rfl, rfl,
        hmessages found rfl⟩
    next hbound =>
      cases hinsert : t.insertRow (classificationRow lib currentSchema id publicId call
          createdTimestamp) with
      | error e =>
          rw [hinsert] at hsettled
          cases hsettled
      | ok inserted =>
          rw [hinsert] at hsettled
          obtain ⟨rfl, rfl⟩ := Prod.mk.inj (Except.ok.inj hsettled)
          obtain ⟨hnew, hrows, hkept⟩ := ClassificationTables.insertRow_ok hinsert
          exact ⟨inserted, _, createdTimestamp, .inserted _ hbound hnew hrows hkept rfl rfl, rfl,
            hmessages _ rfl⟩

/-! ## §6. When the messages are those of the stored list. -/

variable {createdTimestamp : Timestamp} {ids : List String} {classificationId : Nat}

/-- The messages of a row are those of its list, at their positions. -/
def Stored (t : ClassificationTables) (row : ClassificationRow) : Prop :=
  (t.messages.filter (·.classificationId == row.identity.id)).map (fun m => (m.position, m.messageId))
    = positioned 0 [] row.messageIds

/-- The messages of every row are its list, without its repetitions. -/
def MessagesMatch (t : ClassificationTables) : Prop :=
  ∀ row ∈ t.rows, t.listed row.identity.id = row.messageIds.eraseDups

/-- One of the messages of the call is not accepted: it is blank, or it is no message of the row
    and stands where another one does. -/
def Clashes (row : ClassificationRow) (messageIds : List String) : Prop :=
  ∃ p ∈ positioned 0 [] messageIds, onlySpaces p.2 = true
    ∨ (p.2 ∉ row.messageIds ∧ ∃ q ∈ positioned 0 [] row.messageIds, q.1 = p.1)

/-- A key that is there comes with no message that the stored list lacks, or the call fails. -/
def Repeats (t : ClassificationTables) (call : InsertCall) : Prop :=
  ∀ found ∈ (normalizedKey currentSchema call).bind t.byKey?,
    (∀ id ∈ call.messageIds, id ∈ found.messageIds) ∨ Clashes found call.messageIds

instance (row : ClassificationRow) (messageIds : List String) : Decidable (Clashes row messageIds) :=
  inferInstanceAs (Decidable (∃ p ∈ positioned 0 [] messageIds, onlySpaces p.2 = true
    ∨ (p.2 ∉ row.messageIds ∧ ∃ q ∈ positioned 0 [] row.messageIds, q.1 = p.1)))

instance (t : ClassificationTables) (call : InsertCall) : Decidable (Repeats t call) :=
  inferInstanceAs (Decidable (∀ found ∈ (normalizedKey currentSchema call).bind t.byKey?,
    (∀ id ∈ call.messageIds, id ∈ found.messageIds) ∨ Clashes found call.messageIds))

theorem Stored.listed (h : Stored t row) : t.listed row.identity.id = row.messageIds.eraseDups := by
  have hsorted : (t.messages.filter (·.classificationId == row.identity.id)).Pairwise
      fun a b => a.position ≤ b.position := by
    have hincreasing : (positioned 0 [] row.messageIds).Pairwise fun p q => p.1 < q.1 :=
      positioned_increasing
    rw [← h, List.pairwise_map] at hincreasing
    exact hincreasing.imp Nat.le_of_lt
  unfold ClassificationTables.listed
  rw [hsorted.insertionSort_eq, ← positioned_eraseDups, ← h, List.map_map]
  rfl

theorem mem_associatedRows_iff : m ∈ associatedRows classificationId createdTimestamp ids
    ↔ (m.position, m.messageId) ∈ positioned 0 [] ids ∧ m.classificationId = classificationId
      ∧ m.createdAt = createdTimestamp := by
  unfold associatedRows
  rw [List.mem_map]
  constructor
  · intro ⟨p, hp, hm⟩
    rw [← hm]
    exact ⟨hp, rfl, rfl⟩
  · intro ⟨hp, hid, hcreated⟩
    exact ⟨_, hp, by rw [← hid, ← hcreated]⟩

/-- What the messages of a stored row say. -/
theorem Stored.has_iff (h : Stored t row) (hm : m.classificationId = row.identity.id) :
    t.has m = true ↔ m.messageId ∈ row.messageIds := by
  unfold ClassificationTables.has
  rw [List.contains_iff_mem, List.mem_map, ← mem_positioned_iff, ← h, List.map_map, List.mem_map]
  constructor
  · intro ⟨m', hm', heq⟩
    obtain ⟨hid, hmessage⟩ := Prod.mk.inj heq
    exact ⟨m', List.mem_filter.mpr ⟨hm', beq_iff_eq.mpr (hid.trans hm)⟩, hmessage⟩
  · intro ⟨m', hm', heq⟩
    obtain ⟨hmem, hid⟩ := List.mem_filter.mp hm'
    exact ⟨m', hmem, Prod.ext ((beq_iff_eq.mp hid).trans hm.symm) heq⟩

theorem Stored.taken (h : Stored t row) (hm : m.classificationId = row.identity.id)
    {q : Nat × String} (hq : q ∈ positioned 0 [] row.messageIds) (hposition : q.1 = m.position) :
    t.taken m = true := by
  rw [← h] at hq
  obtain ⟨m', hm', rfl⟩ := List.mem_map.mp hq
  obtain ⟨hmem, hid⟩ := List.mem_filter.mp hm'
  unfold ClassificationTables.taken
  rw [List.contains_iff_mem]
  exact List.mem_map.mpr ⟨m', hmem, Prod.ext ((beq_iff_eq.mp hid).trans hm.symm) hposition⟩

/-- A new row has no messages yet. -/
theorem not_has_of_isNew (h : t.IsNew row) (hm : m.classificationId = row.identity.id) :
    t.has m = false := by
  refine Bool.eq_false_iff.mpr fun hhas => ?_
  obtain ⟨m', hm', heq⟩ := List.mem_map.mp (List.contains_iff_mem.mp hhas)
  have hid : m'.classificationId = row.identity.id := (Prod.mk.inj heq).1.trans hm
  exact h.1 (hid ▸ t.references m' hm')

/-- The messages of other rows stay. -/
theorem Stored.append (h : Stored t row)
    (hmessages : t'.messages = t.messages ++ associated)
    (hother : ∀ m ∈ associated, m.classificationId ≠ row.identity.id) : Stored t' row := by
  have hnone : associated.filter (·.classificationId == row.identity.id) = [] :=
    List.filter_eq_nil_iff.mpr fun m hm heq => hother m hm (beq_iff_eq.mp heq)
  unfold Stored
  rw [hmessages, List.filter_append, hnone, List.append_nil]
  exact h

theorem mem_listed (hm : m ∈ t.messages) (hid : m.classificationId = classificationId) :
    m.messageId ∈ t.listed classificationId := by
  unfold ClassificationTables.listed
  refine List.mem_map.mpr ⟨m, ?_, rfl⟩
  rw [List.mem_insertionSort]
  exact List.mem_filter.mpr ⟨hm, beq_iff_eq.mpr hid⟩

/-- A call with a key that is there: it adds nothing, or it fails. -/
theorem stored_existing (hstored : Stored t found)
    (hrepeats : (∀ id ∈ ids, id ∈ found.messageIds) ∨ Clashes found ids)
    (hall : ∀ m ∈ associatedRows found.identity.id createdTimestamp ids,
      onlySpaces m.messageId = false ∧ (t.has m = false → t.taken m = false)) :
    (associatedRows found.identity.id createdTimestamp ids).filter (fun m => !t.has m) = [] := by
  rcases hrepeats with hsubset | ⟨p, hp, hclash⟩
  · refine List.filter_eq_nil_iff.mpr fun m hm => ?_
    obtain ⟨hp, hid, -⟩ := mem_associatedRows_iff.mp hm
    have hmem : m.messageId ∈ ids := mem_positioned_iff.mp (List.mem_map.mpr ⟨_, hp, rfl⟩)
    simp [(hstored.has_iff hid).mpr (hsubset _ hmem)]
  · exfalso
    let m : MessageRow := ⟨found.identity.id, p.2, p.1, createdTimestamp⟩
    have hown : m.classificationId = found.identity.id := rfl
    obtain ⟨hblank, hfree⟩ := hall m (mem_associatedRows_iff.mpr ⟨hp, rfl, rfl⟩)
    rcases hclash with hspaces | ⟨hnew, q, hq, hposition⟩
    · rw [hspaces] at hblank
      cases hblank
    · have hhas : t.has m = false :=
        Bool.eq_false_iff.mpr fun hhas => hnew ((hstored.has_iff hown).mp hhas)
      have htaken : t.taken m = true := hstored.taken hown hq hposition
      rw [hfree hhas] at htaken
      cases htaken

/-- A new row has the messages of its list. -/
theorem stored_inserted (hnew : t.IsNew row)
    (hmessages : t'.messages = t.messages ++ associatedRows row.identity.id createdTimestamp
      row.messageIds) : Stored t' row := by
  have hnone : t.messages.filter (·.classificationId == row.identity.id) = [] :=
    List.filter_eq_nil_iff.mpr fun m hm heq => hnew.1 (beq_iff_eq.mp heq ▸ t.references m hm)
  have hown : (associatedRows row.identity.id createdTimestamp row.messageIds).filter
      (·.classificationId == row.identity.id)
        = associatedRows row.identity.id createdTimestamp row.messageIds :=
    List.filter_eq_self.mpr fun m hm => beq_iff_eq.mpr (mem_associatedRows_iff.mp hm).2.1
  unfold Stored
  rw [hmessages, List.filter_append, hnone, List.nil_append, hown]
  unfold associatedRows
  rw [List.map_map]
  exact List.map_id' _

/-- **A call that returns** keeps what is stored when it repeats the list, … -/
theorem stored_of_repeats (hstored : ∀ row ∈ t.rows, Stored t row) (hrepeats : Repeats t call)
    (h : insertClassification lib currentSchema id publicId call t = .ok (t'', identity)) :
    ∀ row ∈ t''.rows, Stored t'' row := by
  obtain ⟨t', settled, createdTimestamp, hsettled, -, hrows, hmessages, hall⟩ :=
    insertClassification_ok h
  intro row hrow
  cases hsettled with
  | existing key found hkey hfound ht =>
      subst ht
      have hbound : settled ∈ (normalizedKey currentSchema call).bind t'.byKey? := by
        rw [hkey]
        exact hfound
      rw [hrows] at hrow
      refine (hstored row hrow).append hmessages fun m hm => ?_
      rw [stored_existing (hstored settled (ClassificationTables.byKey?_spec hfound).1)
        (hrepeats settled hbound) hall] at hm
      exact absurd hm List.not_mem_nil
  | inserted _ hnone hnew hinserted hkept hkey hids =>
      have hadded : t''.messages = t.messages
          ++ associatedRows settled.identity.id createdTimestamp settled.messageIds := by
        rw [hmessages, hkept, hids, List.filter_eq_self.mpr]
        intro m hm
        have hhas : t'.has m = false := by
          have hid := (mem_associatedRows_iff.mp hm).2.1
          have hsame : t'.has m = t.has m := by
            unfold ClassificationTables.has
            rw [hkept]
          rw [hsame]
          exact not_has_of_isNew hnew hid
        rw [hhas]
        rfl
      rw [hrows, hinserted] at hrow
      rcases List.mem_append.mp hrow with hold | hlast
      · refine (hstored row hold).append hadded fun m hm heq => ?_
        have hid := (mem_associatedRows_iff.mp hm).2.1
        exact hnew.1 (List.mem_map.mpr ⟨row, hold, heq.symm.trans hid⟩)
      · rw [List.mem_singleton.mp hlast]
        exact stored_inserted hnew hadded

/-- … and only then. -/
theorem repeats_of_messagesMatch (hstored : ∀ row ∈ t.rows, Stored t row)
    (h : insertClassification lib currentSchema id publicId call t = .ok (t'', identity))
    (hmatch : MessagesMatch t'') : Repeats t call := by
  obtain ⟨t', settled, createdTimestamp, hsettled, -, hrows, hmessages, -⟩ :=
    insertClassification_ok h
  intro found hbound
  cases hsettled with
  | existing key _ hkey hfound ht =>
      subst ht
      rw [hkey] at hbound
      have heq : settled = found := Option.some.inj (hfound.symm.trans hbound)
      have hmem : found ∈ t'.rows := (ClassificationTables.byKey?_spec hbound).1
      rw [heq] at hmessages
      refine .inl fun messageId hid => ?_
      obtain ⟨p, hp, rfl⟩ := List.mem_map.mp (mem_positioned_iff.mpr hid)
      let m : MessageRow := ⟨found.identity.id, p.2, p.1, createdTimestamp⟩
      have hown : m.classificationId = found.identity.id := rfl
      by_cases hhas : t'.has m = true
      · exact ((hstored found hmem).has_iff hown).mp hhas
      · -- the message was added, and the row lists it
        have hadded : m ∈ t''.messages := by
          rw [hmessages]
          refine List.mem_append_right _ (List.mem_filter.mpr ⟨?_, by simp [hhas]⟩)
          exact mem_associatedRows_iff.mpr ⟨hp, rfl, rfl⟩
        have hlisted : p.2 ∈ t''.listed found.identity.id := mem_listed hadded rfl
        rw [hmatch found (by rw [hrows]; exact hmem), List.mem_eraseDups] at hlisted
        exact hlisted
  | inserted _ hnone _ _ _ _ _ =>
      rw [hnone] at hbound
      cases hbound

/-! ## §7. Runs. -/

/-- The tables, and what the calls with a key have returned. -/
structure ClassificationState where
  tables : ClassificationTables
  returned : List (String × ClassificationIdentity)

/-- A call, with the id and the public id that its row would have. -/
structure InsertAction where
  id : Nat
  publicId : String
  call : InsertCall

/-- A call commits, or leaves the tables as they were. -/
def classificationStep (lib : RepositoryLibrary) (s : ClassificationState) (a : InsertAction) :
    ClassificationState :=
  match insertClassification lib currentSchema a.id a.publicId a.call s.tables with
  | .error _ => s
  | .ok (t, identity) =>
      { tables := t
        returned := s.returned ++ (normalizedKey currentSchema a.call).toList.map (·, identity) }

/-- Calls in any order. -/
def classificationMachine (lib : RepositoryLibrary) : Machine ClassificationState InsertAction where
  init s := s = ⟨.empty, []⟩
  step s a := some (classificationStep lib s a)

variable {s s' : ClassificationState} {a : InsertAction}

/-- Every call with a key that returned gave the identity of the row with this key. -/
def Identified (s : ClassificationState) : Prop :=
  ∀ p ∈ s.returned, ∃ row ∈ s.tables.rows, row.idempotencyKey = some p.1 ∧ row.identity = p.2

/-- What a step does: nothing, or what a call that returns does. -/
theorem classificationStep_cases (lib : RepositoryLibrary) (s : ClassificationState)
    (a : InsertAction) :
    classificationStep lib s a = s ∨ ∃ t identity,
      insertClassification lib currentSchema a.id a.publicId a.call s.tables = .ok (t, identity)
        ∧ classificationStep lib s a = ⟨t, s.returned
            ++ (normalizedKey currentSchema a.call).toList.map (·, identity)⟩ := by
  unfold classificationStep
  cases h : insertClassification lib currentSchema a.id a.publicId a.call s.tables with
  | error e => exact .inl rfl
  | ok result => exact .inr ⟨result.1, result.2, rfl, rfl⟩

theorem identified_step (h : Identified s) : Identified (classificationStep lib s a) := by
  rcases classificationStep_cases lib s a with heq | ⟨t, identity, hcall, heq⟩
  · rw [heq]
    exact h
  · obtain ⟨t', settled, _, hsettled, rfl, hrows, -, -⟩ := insertClassification_ok hcall
    have hown : ∀ key, normalizedKey currentSchema a.call = some key →
        settled ∈ t.rows ∧ settled.idempotencyKey = some key := by
      intro key hkey
      rw [hrows]
      cases hsettled with
      | existing key' _ hkey' hfound ht =>
          obtain ⟨hmem, hfoundKey⟩ := ClassificationTables.byKey?_spec hfound
          rw [ht, hfoundKey, ← hkey', hkey]
          exact ⟨hmem, rfl⟩
      | inserted _ _ _ hinserted _ hrowKey _ =>
          rw [hinserted, hrowKey, hkey]
          exact ⟨List.mem_append_right _ List.mem_cons_self, rfl⟩
    have hkept : ∀ row ∈ s.tables.rows, row ∈ t.rows := by
      intro row hrow
      rw [hrows]
      cases hsettled with
      | existing _ _ _ _ ht =>
          rw [ht]
          exact hrow
      | inserted _ _ _ hinserted _ _ _ =>
          rw [hinserted]
          exact List.mem_append_left _ hrow
    rw [heq]
    intro p hp
    rcases List.mem_append.mp hp with hold | hnew
    · obtain ⟨row, hrow, hrest⟩ := h p hold
      exact ⟨row, hkept row hrow, hrest⟩
    · obtain ⟨key, hkey, rfl⟩ := List.mem_map.mp hnew
      obtain ⟨hmem, hsettledKey⟩ := hown key (Option.mem_toList.mp hkey)
      exact ⟨settled, hmem, hsettledKey, rfl⟩

/-- In every run, the calls of a key have one identity. -/
theorem reachable_identified (h : (classificationMachine lib).Reachable s) : Identified s := by
  refine h.invariant (fun s hs => ?_) fun s a t hs _ hstep => ?_
  · rw [hs]
    exact nofun
  · rw [← Option.some.inj hstep]
    exact identified_step hs

/-- A call repeats its list, or its key is new. -/
def RepeatsList (s : ClassificationState) (a : InsertAction) : Prop := Repeats s.tables a.call

theorem reachable_stored (h : (classificationMachine lib).ReachableWhere RepeatsList s) :
    ∀ row ∈ s.tables.rows, Stored s.tables row := by
  refine h.invariant (I := fun s => ∀ row ∈ s.tables.rows, Stored s.tables row)
    (fun s hs => ?_) fun s a t hs hok hstep => ?_
  · rw [hs]
    exact nofun
  · rw [← Option.some.inj hstep]
    rcases classificationStep_cases lib s a with heq | ⟨t, identity, hcall, heq⟩
    · rw [heq]
      exact hs
    · rw [heq]
      exact stored_of_repeats hs hok hcall

/-- What the tables hold of the calls. -/
structure Faithful (s : ClassificationState) : Prop where
  /-- A key has one row. -/
  unique : ∀ row ∈ s.tables.rows, ∀ found ∈ s.tables.rows, ∀ key, row.idempotencyKey = some key →
    found.idempotencyKey = some key → row = found
  /-- Its calls have given the identity of this row. -/
  identified : Identified s
  messages : MessagesMatch s.tables

/-- **When the messages are those of the stored list:** in a run whose calls repeat their lists, and
    after a call that returns if and only if it does. -/
theorem messages_agree_iff (lib : RepositoryLibrary) {s : ClassificationState}
    (h : (classificationMachine lib).ReachableWhere RepeatsList s) :
    Faithful s ∧ ∀ a t identity,
      insertClassification lib currentSchema a.id a.publicId a.call s.tables = .ok (t, identity) →
        (MessagesMatch t ↔ RepeatsList s a) := by
  have hstored := reachable_stored h
  refine ⟨⟨?_, reachable_identified h.reachable, fun row hrow => (hstored row hrow).listed⟩, ?_⟩
  · exact fun row hrow found hfound key => ClassificationTables.eq_of_key hrow hfound
  · intro a t identity hcall
    constructor
    · exact repeats_of_messagesMatch hstored hcall
    · exact fun hrepeats row hrow => (stored_of_repeats hstored hrepeats hcall row hrow).listed

/-! A cycle is classified, and classified again. -/

def sampleRepository : RepositoryLibrary where
  unicode := ⟨fun text => text, fun text => text, fun _ => false⟩
  parseTimestamp text :=
    if text = "2026-07-27T12:00:00+00:00" then some 1785153600000000 else none
  accepts _ := true

def sampleInsert (id : Nat) (messageIds : List String) : InsertAction where
  id
  publicId := toString id
  call :=
    { conversationId := "t-1", messageIds, createdAt := "2026-07-27T12:00:00+00:00"
      fullContext := "Cliente: teste", messageCount := messageIds.length
      result := [("intent_type", .str "question"), ("title", .str "Teste")], model := "test-model"
      processingTimeMs := 5, promptVersion := "test", idempotencyKey := some "ia:cycle:1" }

/-- The stored lists, and the messages, after some calls. -/
def listsAfter (actions : List InsertAction) : Option (List (List String × List String)) :=
  ((classificationMachine sampleRepository).exec ⟨.empty, []⟩ actions).map fun s =>
    s.tables.rows.map fun row => (row.messageIds, s.tables.listed row.identity.id)

/-- The same list twice. -/
theorem sameList_agrees : ∃ s, (classificationMachine sampleRepository).ReachableWhere RepeatsList s
    ∧ s.tables.rows.length = 1 ∧ Faithful s := by
  have hrun : ((classificationMachine sampleRepository).execWhere
      (fun s a => decide (Repeats s.tables a.call)) ⟨.empty, []⟩
        [sampleInsert 1 ["m-1", "m-2"], sampleInsert 2 ["m-1", "m-2"]]).map
          (fun s => s.tables.rows.length) = some 1 := by decide +kernel
  obtain ⟨s, hexec, hlength⟩ := Option.map_eq_some_iff.mp hrun
  have hreach : (classificationMachine sampleRepository).ReachableWhere RepeatsList s :=
    ⟨_, rfl, Machine.runWhere_of_execWhere (I := fun _ => True)
      (fun s a _ hcheck => (of_decide_eq_true hcheck : Repeats s.tables a.call))
      (fun _ _ _ _ _ _ => trivial) trivial hexec⟩
  exact ⟨s, hreach, hlength, (messages_agree_iff sampleRepository hreach).1⟩

/-- **A call is repeated with one message more:** the row keeps its list, and has both messages. -/
theorem longer_list_disagrees :
    ∃ s, (classificationMachine sampleRepository).Reachable s ∧ ¬MessagesMatch s.tables := by
  have hrun : listsAfter [sampleInsert 1 ["m-1"], sampleInsert 2 ["m-1", "m-2"]]
      = some [(["m-1"], ["m-1", "m-2"])] := by decide +kernel
  obtain ⟨s, hexec, hlists⟩ := Option.map_eq_some_iff.mp hrun
  refine ⟨s, Machine.reachable_of_exec rfl hexec, fun hmatch => ?_⟩
  obtain ⟨row, hrows, hrow⟩ := List.map_eq_singleton_iff.mp hlists
  obtain ⟨hids, hlisted⟩ := Prod.mk.inj hrow
  have heq := hmatch row (by rw [hrows]; exact List.mem_cons_self)
  rw [hlisted, hids] at heq
  exact absurd heq (by decide)

end Cai.Classification
