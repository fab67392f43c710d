/-
  Cai.Digisac.TicketHistory — the pages of a ticket's messages.

  `get_ticket_history` of `src/core/digisac_client.py`.  The provider is
  the sequence of its answers: it may change the number of pages and of
  messages from one to the next, and repeat or leave out messages.  What
  looks inconsistent is collected in a list of reasons.

  Main results:
    * `history_complete` — a history without reasons is complete.
    * `getTicketHistory_returns` — the loop ends when the number of pages
      stays bounded.
-/
import Cai.Finalization.Refinement
import Cai.Lib.Dictionary
import Cai.Lib.Loop

namespace Cai.Digisac

open Cai.Lib
open Cai.Finalization.Provider (messageId IsoTime rawMessages readTimestamp get_of_messageId)

/-! ## §1. One page. -/

/-- What the client and the worker raise. -/
inductive ClientError
  /-- `DigisacResponseError` -/
  | response (message : String)
  /-- `DigisacClientError`, when the requests are exhausted. -/
  | request (message : String)
  /-- The `RuntimeError` of the worker. -/
  | inconsistent (message : String)
  deriving DecidableEq, Repr

/-- The fields of a page, where they have their types. -/
structure MessagePage where
  data : List Json
  currentPage : Int
  lastPage : Int
  total : Int

/-- The fields of a payload: all four, or none. -/
def pageFields (payload : JsonObject) : Option MessagePage := do
  let data ← (payload.get "data").asList
  let currentPage ← (payload.get "currentPage").asInt
  let lastPage ← (payload.get "lastPage").asInt
  let total ← (payload.get "total").asInt
  return { data, currentPage, lastPage, total }

/-- The checks on a payload. -/
def readPage (page : Nat) (payload : JsonObject) : Except ClientError MessagePage :=
  match pageFields payload with
  | none => .error (.response "DigiSac message pagination has an invalid structure")
  | some fields =>
      if fields.currentPage ≠ page || fields.lastPage < fields.currentPage || fields.total < 0 then
        .error (.response "DigiSac message pagination has an invalid structure")
      else if fields.data.isEmpty && fields.currentPage < fields.lastPage then
        .error (.response "DigiSac returned an empty page before lastPage")
      else .ok fields

/-! ## §2. The loop. -/

/-- The variables of the loop, and the pages that were asked for. -/
structure PageState where
  page : Nat := 1
  lastPage : Int := 1
  total : Int := 0
  pageCount : Nat := 0
  duplicates : Nat := 0
  byId : List (String × JsonObject) := []
  reasons : List String := []
  requests : List Nat := []

/-- The body of the loop over the messages of a page. -/
def collectMessage (s : PageState) (raw : Json) : PageState :=
  match raw.asDict with
  | none => { s with reasons := s.reasons ++ ["non_object_message"] }
  | some message =>
      match messageId message with
      | none => { s with reasons := s.reasons ++ ["message_without_id"] }
      | some id =>
          { s with
            duplicates := if id ∈ s.byId.map (·.1) then s.duplicates + 1 else s.duplicates
            byId := assign s.byId (id, message) }

/-- The fields of the state that a page replaces. -/
def openPage (s : PageState) (fields : MessagePage) : PageState :=
  { s with
    reasons :=
      if s.pageCount ≠ 0 && fields.total ≠ s.total then
        s.reasons ++ ["total_changed_during_pagination"]
      else s.reasons
    total := fields.total
    lastPage := fields.lastPage
    pageCount := s.pageCount + 1
    requests := s.requests ++ [s.page] }

/-- The body of the loop over the pages; `responses n` answers request number `n`. -/
def fetchPage (responses : Nat → Except ClientError JsonObject) (s : PageState) :
    Except ClientError PageState := do
  let payload ← responses s.requests.length
  let fields ← readPage s.page payload
  let collected := fields.data.foldl collectMessage (openPage s fields)
  return { collected with page := s.page + 1 }

/-- `page <= last_page` -/
def morePages (s : PageState) : Bool := s.page ≤ s.lastPage

/-! ## §3. The history. -/

/-- `DigisacHistory` -/
structure TicketHistory where
  ticket : JsonObject
  messages : List JsonObject
  pageCount : Nat
  total : Int
  duplicateCount : Nat
  complete : Bool
  consistencyReasons : List String

/-- `ticket.get("lastMessageId")`, where it is a text and not empty. -/
def lastMessageId (ticket : JsonObject) : Option String :=
  (ticket.get "lastMessageId").asText.filter (· ≠ "")

/-- The reasons after the loop. -/
def finalReasons (ticket : JsonObject) (s : PageState) : List String :=
  s.reasons
    ++ (match lastMessageId ticket with
        | some id => if id ∈ s.byId.map (·.1) then [] else ["last_message_id_missing"]
        | none =>
            if s.total ≠ 0 && s.byId.isEmpty then ["reported_total_without_messages"] else [])
    ++ if s.total ≠ s.byId.length then ["total_unique_count_mismatch"] else []

/-- What `get_ticket_history` returns after the loop. -/
def ticketHistory (ticket : JsonObject) (s : PageState) : TicketHistory where
  ticket
  messages := s.byId.map (·.2)
  pageCount := s.pageCount
  total := s.total
  duplicateCount := s.duplicates
  complete := (finalReasons ticket s).isEmpty
  consistencyReasons := (dictionary ((finalReasons ticket s).map fun r => (r, ()))).map (·.1)

/-- `get_ticket_history`, with the pages it asked for. -/
def getTicketHistory (fuel : Nat) (ticket : Except ClientError JsonObject)
    (responses : Nat → Except ClientError JsonObject) :
    Option (Except ClientError (TicketHistory × List Nat)) :=
  match ticket with
  | .error e => some (.error e)
  | .ok ticket =>
      (whileLoop morePages (fetchPage responses) fuel {}).map fun result =>
        result.map fun s => (ticketHistory ticket s, s.requests)

/-- `_recover_history` on the results of its attempts: the first complete one. -/
def recoverHistory (lastReasons : List String) :
    List (Except ClientError TicketHistory) → Except ClientError TicketHistory
  | [] =>
      .error (.inconsistent
        ("DigiSac history remained inconsistent: " ++ ",".intercalate lastReasons))
  | .error e :: _ => .error e
  | .ok history :: attempts =>
      if history.complete then .ok history
      else recoverHistory history.consistencyReasons attempts

/-! ## §4. The messages of a page. -/

variable {s s' : PageState}

/-- The items of `by_id`: no id twice, each message under its own id. -/
structure ById (items : List (String × JsonObject)) : Prop where
  keys : (items.map (·.1)).Nodup
  own : ∀ item ∈ items, messageId item.2 = some item.1

/-- What one message does. -/
theorem collectMessage_spec (raw : Json) (hitems : ById s.byId) :
    ById (collectMessage s raw).byId
      ∧ (∀ id ∈ s.byId.map (·.1), id ∈ (collectMessage s raw).byId.map (·.1))
      ∧ ((collectMessage s raw).reasons = [] →
          s.reasons = [] ∧ ∃ message id, raw = .dict message ∧ messageId message = some id
            ∧ id ∈ (collectMessage s raw).byId.map (·.1)) := by
  unfold collectMessage
  cases hraw : raw.asDict with
  | none => exact ⟨hitems, fun id h => h, fun h => absurd h (by simp)⟩
  | some message =>
      cases hid : messageId message with
      | none =>
          simp only [hid]
          exact ⟨hitems, fun id h => h, fun h => absurd h (by simp)⟩
      | some id =>
          simp only [hid]
          refine ⟨⟨nodup_assign hitems.keys _, fun item hitem => ?_⟩, fun id' hid' => ?_,
            fun hreasons => ⟨hreasons, message, id, ?_, hid, ?_⟩⟩
          · rcases mem_assign hitem with rfl | hold
            · exact hid
            · exact hitems.own item hold
          · exact mem_keys_assign.mpr (.inr hid')
          · exact Json.asDict_eq_some_iff.mp hraw
          · exact mem_keys_assign.mpr (.inl rfl)

/-- The fields that the loop over the messages of a page leaves alone. -/
theorem collectMessage_frame (s : PageState) (raw : Json) :
    (collectMessage s raw).page = s.page ∧ (collectMessage s raw).lastPage = s.lastPage
      ∧ (collectMessage s raw).total = s.total ∧ (collectMessage s raw).pageCount = s.pageCount
      ∧ (collectMessage s raw).requests = s.requests := by
  unfold collectMessage
  split
  next => exact ⟨rfl, rfl, rfl, rfl, rfl⟩
  next =>
    split
    next => exact ⟨rfl, rfl, rfl, rfl, rfl⟩
    next => exact ⟨rfl, rfl, rfl, rfl, rfl⟩

theorem foldl_collectMessage_frame (s : PageState) (data : List Json) :
    (data.foldl collectMessage s).page = s.page
      ∧ (data.foldl collectMessage s).lastPage = s.lastPage
      ∧ (data.foldl collectMessage s).total = s.total
      ∧ (data.foldl collectMessage s).pageCount = s.pageCount
      ∧ (data.foldl collectMessage s).requests = s.requests := by
  induction data generalizing s with
  | nil => exact ⟨rfl, rfl, rfl, rfl, rfl⟩
  | cons raw data ih =>
      obtain ⟨hpage, hlast, htotal, hcount, hrequests⟩ := collectMessage_frame s raw
      rw [← hpage, ← hlast, ← htotal, ← hcount, ← hrequests]
      exact ih _

/-- What a page does: its ids come in, and none goes. -/
theorem foldl_collectMessage_spec (data : List Json) (hitems : ById s.byId) :
    ById (data.foldl collectMessage s).byId
      ∧ (∀ id ∈ s.byId.map (·.1), id ∈ (data.foldl collectMessage s).byId.map (·.1))
      ∧ ((data.foldl collectMessage s).reasons = [] →
          s.reasons = [] ∧ ∀ raw ∈ data, ∃ message id, raw = .dict message
            ∧ messageId message = some id
            ∧ id ∈ (data.foldl collectMessage s).byId.map (·.1)) := by
  induction data generalizing s with
  | nil =>
      exact ⟨hitems, fun id h => h, fun h => ⟨h, fun raw hraw => absurd hraw List.not_mem_nil⟩⟩
  | cons raw data ih =>
      obtain ⟨hitems', hkept, hfirst⟩ := collectMessage_spec raw hitems
      obtain ⟨hitems'', hkept', hrest⟩ := ih hitems'
      refine ⟨hitems'', fun id hid => hkept' id (hkept id hid), fun hreasons => ?_⟩
      obtain ⟨hreasons', hdata⟩ := hrest hreasons
      obtain ⟨hnone, message, id, hraw, hmessage, hid⟩ := hfirst hreasons'
      refine ⟨hnone, fun r hr => ?_⟩
      rcases List.mem_cons.mp hr with rfl | hmem
      · exact ⟨message, id, hraw, hmessage, hkept' id hid⟩
      · exact hdata r hmem

/-! ## §5. The pages. -/

variable {responses : Nat → Except ClientError JsonObject}

/-- Answer number `k` reported this total, and all its messages have ids among these. -/
def Read (responses : Nat → Except ClientError JsonObject) (total : Int) (ids : List String)
    (k : Nat) : Prop :=
  ∃ payload data, responses k = .ok payload ∧ payload.get "data" = .list data
    ∧ (payload.get "total").asInt = some total
    ∧ ∀ raw ∈ data, ∃ message id, raw = .dict message ∧ messageId message = some id ∧ id ∈ ids

/-- What holds whenever the condition of the loop is evaluated. -/
structure PageInv (responses : Nat → Except ClientError JsonObject) (s : PageState) : Prop where
  items : ById s.byId
  page : s.page = s.pageCount + 1
  requests : s.requests = List.range' 1 s.pageCount
  first : s.pageCount = 0 → s.lastPage = 1
  /-- The last page is the one that the last answer reported, and not before it. -/
  last : ∀ k, s.pageCount = k + 1 → (k + 1 : Int) ≤ s.lastPage
    ∧ ∃ payload, responses k = .ok payload ∧ (payload.get "lastPage").asInt = some s.lastPage
  /-- Without a reason, every page was read completely. -/
  read : s.reasons = [] → ∀ k < s.pageCount, Read responses s.total (s.byId.map (·.1)) k

theorem pageInv_init : PageInv responses {} where
  items := ⟨List.nodup_nil, fun _ h => absurd h List.not_mem_nil⟩
  page := rfl
  requests := rfl
  first := fun _ => rfl
  last := fun k h => absurd h (Nat.succ_ne_zero k).symm
  read := fun _ k h => absurd h (Nat.not_lt_zero k)

theorem pageFields_eq_some_iff {payload : JsonObject} {fields : MessagePage} :
    pageFields payload = some fields
      ↔ payload.get "data" = .list fields.data
        ∧ (payload.get "currentPage").asInt = some fields.currentPage
        ∧ (payload.get "lastPage").asInt = some fields.lastPage
        ∧ (payload.get "total").asInt = some fields.total := by
  unfold pageFields
  rw [← Json.asList_eq_some_iff]
  cases (payload.get "data").asList with
  | none => simp
  | some data =>
      cases (payload.get "currentPage").asInt with
      | none => simp
      | some currentPage =>
          cases (payload.get "lastPage").asInt with
          | none => simp
          | some lastPage =>
              cases (payload.get "total").asInt with
              | none => simp
              | some total =>
                  obtain ⟨data', currentPage', lastPage', total'⟩ := fields
                  simp

theorem readPage_ok {page : Nat} {payload : JsonObject} {fields : MessagePage}
    (h : readPage page payload = .ok fields) :
    pageFields payload = some fields ∧ fields.currentPage = page ∧ (page : Int) ≤ fields.lastPage := by
  unfold readPage at h
  split at h
  next => cases h
  next fields' hfields =>
    split at h
    next => cases h
    next hvalid =>
      split at h
      next => cases h
      next =>
        injection h with h
        rw [← h]
        simp only [Bool.or_eq_true, decide_eq_true_eq, not_or, not_lt] at hvalid
        have hpage : fields'.currentPage = page := by
          by_contra hne
          exact hvalid.1.1 (by simpa using hne)
        exact ⟨hfields, hpage, hpage ▸ hvalid.1.2⟩

/-- **One round.** -/
theorem fetchPage_inv (hinv : PageInv responses s) (h : fetchPage responses s = .ok s') :
    PageInv responses s' := by
  unfold fetchPage at h
  obtain ⟨payload, hpayload, h⟩ := bind_eq_ok_iff.mp h
  obtain ⟨fields, hread, h⟩ := bind_eq_ok_iff.mp h
  obtain ⟨hfields, hcurrent, hlast⟩ := readPage_ok hread
  obtain ⟨hdata, -, hlastPage, htotal⟩ := pageFields_eq_some_iff.mp hfields
  have hitems : ById (openPage s fields).byId := hinv.items
  obtain ⟨hitems', hkept, hreasons⟩ := foldl_collectMessage_spec fields.data hitems
  obtain ⟨-, hframeLast, hframeTotal, hframeCount, hframeRequests⟩ :=
    foldl_collectMessage_frame (openPage s fields) fields.data
  have hnumber : s.requests.length = s.pageCount := by
    rw [hinv.requests, List.length_range']
  rw [hnumber] at hpayload
  rw [← pure_eq_ok_iff.mp h]
  have hcount : (fields.data.foldl collectMessage (openPage s fields)).pageCount = s.pageCount + 1 :=
    hframeCount
  refine ⟨hitems', ?_, ?_, ?_, ?_, ?_⟩
  · show s.page + 1 = (fields.data.foldl collectMessage (openPage s fields)).pageCount + 1
    rw [hcount, hinv.page]
  · show (fields.data.foldl collectMessage (openPage s fields)).requests
      = List.range' 1 (fields.data.foldl collectMessage (openPage s fields)).pageCount
    rw [hframeRequests, hcount, List.range'_concat]
    show s.requests ++ [s.page] = _
    rw [hinv.requests, hinv.page, Nat.one_mul, Nat.add_comm 1]
  · intro hzero
    exact absurd (hcount.symm.trans hzero) (Nat.succ_ne_zero _)
  · intro k hk
    have heq : k = s.pageCount := (Nat.succ.inj (hcount.symm.trans hk)).symm
    show (k + 1 : Int) ≤ (fields.data.foldl collectMessage (openPage s fields)).lastPage
      ∧ ∃ payload, responses k = .ok payload
        ∧ (payload.get "lastPage").asInt
          = some (fields.data.foldl collectMessage (openPage s fields)).lastPage
    rw [hframeLast, heq]
    rw [hinv.page] at hlast
    exact ⟨hlast, payload, hpayload, hlastPage⟩
  · intro hnone k hk
    obtain ⟨hopened, hmessages⟩ := hreasons hnone
    show Read responses (fields.data.foldl collectMessage (openPage s fields)).total
      ((fields.data.foldl collectMessage (openPage s fields)).byId.map (·.1)) k
    rw [hframeTotal]
    have hk : k < s.pageCount + 1 := hcount ▸ hk
    rcases Nat.lt_succ_iff_lt_or_eq.mp hk with hearlier | rfl
    · -- an earlier page: the total did not change, and the ids are still there
      have hsame : fields.total = s.total ∧ s.reasons = [] := by
        unfold openPage at hopened
        by_cases hchanged : fields.total = s.total
        · simp only [hchanged, ne_eq, not_true, decide_false, Bool.and_false, Bool.false_eq_true,
            if_false] at hopened
          exact ⟨hchanged, hopened⟩
        · have hpos : s.pageCount ≠ 0 := by omega
          simp [hchanged, hpos] at hopened
      obtain ⟨payload', data, hpayload', hdata', htotal', hall⟩ := hinv.read hsame.2 k hearlier
      refine ⟨payload', data, hpayload', hdata', ?_, fun raw hraw => ?_⟩
      · show _ = some fields.total
        rw [hsame.1]
        exact htotal'
      · obtain ⟨message, id, hmessage, hid, hmem⟩ := hall raw hraw
        exact ⟨message, id, hmessage, hid, hkept id hmem⟩
    · exact ⟨payload, fields.data, hpayload, hdata, htotal, hmessages⟩

/-- A round goes on to the next page. -/
theorem fetchPage_page (h : fetchPage responses s = .ok s') : s'.page = s.page + 1 := by
  unfold fetchPage at h
  obtain ⟨payload, -, h⟩ := bind_eq_ok_iff.mp h
  obtain ⟨fields, -, h⟩ := bind_eq_ok_iff.mp h
  rw [← pure_eq_ok_iff.mp h]

/-- **The loop ends** when the answers never report more than `n` pages: after at
    most `n` of them. -/
theorem getTicketHistory_returns {n fuel : Nat} (ticket : Except ClientError JsonObject)
    (hpages : ∀ k payload lastPage, responses k = .ok payload →
      (payload.get "lastPage").asInt = some lastPage → lastPage ≤ n)
    (hn : 0 < n) (hfuel : n < fuel) : ∃ result, getTicketHistory fuel ticket responses = some result := by
  have hbound : ∀ s : PageState, PageInv responses s → s.lastPage ≤ n := by
    intro s hinv
    cases hcount : s.pageCount with
    | zero =>
        rw [hinv.first hcount]
        omega
    | succ k =>
        obtain ⟨-, payload, hpayload, hreported⟩ := hinv.last k hcount
        exact hpages k payload _ hpayload hreported
  -- the pages that are left
  have hdecreases : ∀ s s', PageInv responses s → morePages s = true →
      fetchPage responses s = .ok s' → n + 1 - s'.page < n + 1 - s.page := by
    intro s s' hinv hmore hbody
    have hpage : (s.page : Int) ≤ s.lastPage := by
      unfold morePages at hmore
      exact of_decide_eq_true hmore
    have hle := hbound s hinv
    rw [fetchPage_page hbody]
    omega
  obtain ⟨result, hresult⟩ := whileLoop_of_measure (fun _ _ hs _ hbody => fetchPage_inv hs hbody)
    hdecreases pageInv_init (show n + 1 - 1 < fuel by omega)
  cases ticket with
  | error e => exact ⟨_, rfl⟩
  | ok ticket =>
      unfold getTicketHistory
      exact ⟨_, by rw [hresult]; rfl⟩

/-- The whole loop. -/
theorem loop_inv {fuel : Nat} (h : whileLoop morePages (fetchPage responses) fuel {} = some (.ok s)) :
    PageInv responses s ∧ s.lastPage = s.pageCount ∧ 0 < s.pageCount := by
  obtain ⟨hinv, hdone⟩ :=
    whileLoop_inv (fun s s' hs _ hbody => fetchPage_inv hs hbody) pageInv_init h
  have hnot : s.lastPage < s.page := by
    unfold morePages at hdone
    simpa using hdone
  rw [hinv.page] at hnot
  cases hcount : s.pageCount with
  | zero =>
      -- the first page is always asked for
      rw [hinv.first hcount, hcount] at hnot
      omega
  | succ k =>
      have hle := (hinv.last k hcount).1
      rw [hcount] at hnot
      refine ⟨hinv, ?_, Nat.succ_pos k⟩
      push_cast at hnot ⊢
      omega

/-! ## §6. A history that is declared complete. -/

/-- What a complete history is. -/
structure Complete (responses : Nat → Except ClientError JsonObject) (history : TicketHistory)
    (requests : List Nat) : Prop where
  /-- The pages 1, 2, … were asked for once each, up to the last one reported. -/
  pages : requests = List.range' 1 history.pageCount
  last : ∃ k payload, history.pageCount = k + 1 ∧ responses k = .ok payload
    ∧ (payload.get "lastPage").asInt = some (history.pageCount : Int)
  /-- Each of them reported the total, and each message on it is there by its id. -/
  read : ∀ k < history.pageCount, ∃ payload data, responses k = .ok payload
    ∧ payload.get "data" = .list data ∧ (payload.get "total").asInt = some history.total
    ∧ ∀ raw ∈ data, ∃ message id, raw = .dict message
      ∧ JsonObject.get message "id" = .str id
      ∧ ∃ m ∈ history.messages, m.get "id" = .str id
  /-- The ids are different, and none of them is blank. -/
  ids : ∃ ids : List String, history.messages.map (fun m => m.get "id") = ids.map Json.str
    ∧ ids.Nodup ∧ ∀ id ∈ ids, Text.isBlank id = false
  total : (history.messages.length : Int) = history.total
  lastMessage : ∀ id, history.ticket.get "lastMessageId" = .str id → id ≠ "" →
    ∃ m ∈ history.messages, m.get "id" = .str id

/-- The ids of the returned messages are the keys. -/
theorem ById.get_ids {items : List (String × JsonObject)} (h : ById items) :
    (items.map (·.2)).map (fun m => m.get "id") = (items.map (·.1)).map Json.str := by
  rw [List.map_map, List.map_map]
  exact List.map_congr_left fun item hitem => (get_of_messageId (h.own item hitem)).1

theorem ById.exists_message {items : List (String × JsonObject)} (h : ById items) {id : String}
    (hid : id ∈ items.map (·.1)) : ∃ m ∈ items.map (·.2), m.get "id" = .str id := by
  obtain ⟨item, hitem, rfl⟩ := List.mem_map.mp hid
  exact ⟨item.2, List.mem_map_of_mem hitem, (get_of_messageId (h.own item hitem)).1⟩

theorem lastMessageId_eq_some_iff {ticket : JsonObject} {id : String} :
    lastMessageId ticket = some id ↔ ticket.get "lastMessageId" = .str id ∧ id ≠ "" := by
  unfold lastMessageId
  rw [Option.filter_eq_some_iff, Json.asText_eq_some_iff]
  simp only [ne_eq, decide_eq_true_eq]

/-- What is consistent at the end. -/
theorem finalReasons_eq_nil_iff {ticket : JsonObject} :
    finalReasons ticket s = []
      ↔ s.reasons = [] ∧ (∀ id, lastMessageId ticket = some id → id ∈ s.byId.map (·.1))
        ∧ s.total = s.byId.length := by
  have htotal : ((if s.total ≠ s.byId.length then ["total_unique_count_mismatch"] else [])
      = ([] : List String)) ↔ s.total = s.byId.length := by
    by_cases hsame : s.total = s.byId.length
    · simp [hsame]
    · simp [hsame]
  unfold finalReasons
  rw [List.append_eq_nil_iff, List.append_eq_nil_iff, htotal]
  cases hlast : lastMessageId ticket with
  | some last =>
      have hmem : ((if last ∈ s.byId.map (·.1) then [] else ["last_message_id_missing"])
          = ([] : List String)) ↔ last ∈ s.byId.map (·.1) := by
        by_cases hmem : last ∈ s.byId.map (·.1)
        · simp only [hmem, if_true]
        · simp [hmem]
      simp only [hmem, Option.some.injEq, forall_eq', and_assoc]
  | none =>
      -- a total without messages is a mismatch as well
      have hempty : s.total = s.byId.length →
          (if s.total ≠ 0 && s.byId.isEmpty then ["reported_total_without_messages"] else [])
            = ([] : List String) := by
        intro hsame
        cases hitems : s.byId with
        | nil =>
            rw [hitems] at hsame
            simp [hsame]
        | cons item items => simp
      constructor
      · rintro ⟨⟨hreasons, -⟩, hsame⟩
        exact ⟨hreasons, fun id hid => (Option.some_ne_none id hid.symm).elim, hsame⟩
      · rintro ⟨hreasons, -, hsame⟩
        exact ⟨⟨hreasons, hempty hsame⟩, hsame⟩

/-- What a result is made of. -/
theorem getTicketHistory_ok {fuel : Nat} {ticket : Except ClientError JsonObject}
    {history : TicketHistory} {requests : List Nat}
    (h : getTicketHistory fuel ticket responses = some (.ok (history, requests))) :
    ∃ found s, ticket = .ok found
      ∧ whileLoop morePages (fetchPage responses) fuel {} = some (.ok s)
      ∧ history = ticketHistory found s ∧ requests = s.requests := by
  unfold getTicketHistory at h
  cases ticket with
  | error e => cases h
  | ok found =>
      obtain ⟨result, hloop, hresult⟩ := Option.map_eq_some_iff.mp h
      cases result with
      | error e => cases hresult
      | ok s =>
          injection hresult with hresult
          injection hresult with hhistory hrequests
          exact ⟨found, s, rfl, hloop, hhistory.symm, hrequests.symm⟩

/-- A history has no id twice, complete or not: the normalization relies on it. -/
theorem getTicketHistory_ids {fuel : Nat} {ticket : Except ClientError JsonObject}
    {history : TicketHistory} {requests : List Nat}
    (h : getTicketHistory fuel ticket responses = some (.ok (history, requests))) :
    (history.messages.filterMap messageId).Nodup := by
  obtain ⟨found, s, -, hloop, rfl, -⟩ := getTicketHistory_ok h
  have hitems := (loop_inv hloop).1.items
  have hids : ((s.byId.map (·.2)).filterMap messageId) = s.byId.map (·.1) := by
    rw [List.filterMap_map, ← List.filterMap_eq_map]
    exact List.filterMap_congr fun item hitem => hitems.own item hitem
  show ((s.byId.map (·.2)).filterMap messageId).Nodup
  rw [hids]
  exact hitems.keys

/-- The history that the normalization is given. -/
def TicketHistory.normalized (fromisoformat : String → Option IsoTime) (history : TicketHistory)
    (h : (history.messages.filterMap messageId).Nodup) : Finalization.DigisacHistory where
  messages := rawMessages fromisoformat history.messages
  startedAt := readTimestamp fromisoformat (history.ticket.get "startedAt")
  pageCount := history.pageCount
  total := history.total.toNat
  duplicateCount := history.duplicateCount
  ids_nodup := by
    unfold rawMessages
    rw [List.filterMap_map]
    exact h

/-- **A history that is declared complete is complete.** -/
theorem history_complete {fuel : Nat} {ticket : Except ClientError JsonObject}
    {history : TicketHistory} {requests : List Nat}
    (h : getTicketHistory fuel ticket responses = some (.ok (history, requests)))
    (hcomplete : history.complete = true) : Complete responses history requests := by
  obtain ⟨found, s, -, hloop, rfl, rfl⟩ := getTicketHistory_ok h
  obtain ⟨hinv, hlast, hpos⟩ := loop_inv hloop
  obtain ⟨hreasons, hmessage, htotal⟩ := finalReasons_eq_nil_iff.mp (List.isEmpty_iff.mp hcomplete)
  have hids : (ticketHistory found s).messages.map (fun m => m.get "id")
      = (s.byId.map (·.1)).map Json.str := hinv.items.get_ids
  refine ⟨hinv.requests, ?_, fun k hk => ?_, ⟨_, hids, hinv.items.keys, fun id hid => ?_⟩, ?_,
    fun id hid hne => ?_⟩
  · obtain ⟨k, hk⟩ : ∃ k, s.pageCount = k + 1 := ⟨s.pageCount - 1, by omega⟩
    obtain ⟨-, payload, hpayload, hreported⟩ := hinv.last k hk
    exact ⟨k, payload, hk, hpayload, hlast ▸ hreported⟩
  · obtain ⟨payload, data, hpayload, hdata, hsame, hall⟩ := hinv.read hreasons k hk
    refine ⟨payload, data, hpayload, hdata, hsame, fun raw hraw => ?_⟩
    obtain ⟨message, id, hmessage, hid, hmem⟩ := hall raw hraw
    exact ⟨message, id, hmessage, (get_of_messageId hid).1, hinv.items.exists_message hmem⟩
  · obtain ⟨item, hitem, rfl⟩ := List.mem_map.mp hid
    exact (get_of_messageId (hinv.items.own item hitem)).2
  · show ((s.byId.map (·.2)).length : Int) = s.total
    rw [List.length_map]
    exact htotal.symm
  · exact hinv.items.exists_message (hmessage id (lastMessageId_eq_some_iff.mpr ⟨hid, hne⟩))

/-- The worker goes on with a complete history of one of its attempts only. -/
theorem recoverHistory_ok {lastReasons : List String}
    {attempts : List (Except ClientError TicketHistory)} {history : TicketHistory}
    (h : recoverHistory lastReasons attempts = .ok history) :
    history.complete = true ∧ .ok history ∈ attempts := by
  induction attempts generalizing lastReasons with
  | nil => cases h
  | cons attempt attempts ih =>
      cases attempt with
      | error e => cases h
      | ok found =>
          unfold recoverHistory at h
          by_cases hcomplete : found.complete = true
          · rw [if_pos hcomplete] at h
            injection h with h
            rw [← h]
            exact ⟨hcomplete, List.mem_cons_self⟩
          · rw [if_neg hcomplete] at h
            obtain ⟨hfound, hmem⟩ := ih h
            exact ⟨hfound, List.mem_cons_of_mem _ hmem⟩

/-- Two pages of one message each; the provider repeats the first one. -/
def twoPages (request : Nat) : Except ClientError JsonObject :=
  if request = 0 then
    .ok [("data", .list [.dict [("id", .str "m-1")]]), ("currentPage", .int 1),
      ("lastPage", .int 2), ("total", .int 2)]
  else
    .ok [("data", .list [.dict [("id", .str "m-1")], .dict [("id", .str "m-2")]]),
      ("currentPage", .int 2), ("lastPage", .int 2), ("total", .int 2)]

theorem twoPages_complete :
    ∃ history, getTicketHistory 3 (.ok [("lastMessageId", .str "m-2")]) twoPages
        = some (.ok (history, [1, 2]))
      ∧ history.duplicateCount = 1 ∧ Complete twoPages history [1, 2] := by
  have hcounts : (getTicketHistory 3 (.ok [("lastMessageId", .str "m-2")]) twoPages).bind
      (fun result => result.toOption.map fun r => (r.2, r.1.duplicateCount, r.1.complete))
        = some ([1, 2], 1, true) := by decide +kernel
  obtain ⟨result, hresult, hsome⟩ := Option.bind_eq_some_iff.mp hcounts
  cases result with
  | error e => cases hsome
  | ok r =>
      obtain ⟨history, requests⟩ := r
      simp only [Except.toOption, Option.map_some, Option.some.injEq, Prod.mk.injEq] at hsome
      obtain ⟨rfl, hduplicates, hcomplete⟩ := hsome
      exact ⟨history, hresult, hduplicates, history_complete hresult hcomplete⟩

end Cai.Digisac
