/-
  Cai.Admin.Cursors — the cursors of the two lists.

  `_encode_cursor` and `_decode_cursor` of `src/api/admin_routes.py`: a
  position, the filter it was reached under and the list it is of, as JSON in
  unpadded base64, and signed.  HMAC-SHA256 is a parameter.  Texts that are
  nested too deep for `json.loads` are not told apart: none was signed.

  Main results:
    * `decodeCursor_accepts` — a cursor is read back by its list, under its
      filter.
    * `decodeCursor_refuses` — by another list or under another filter it is
      refused.
-/
import Cai.Admin.Authentication
import Cai.Lib.Base64
import Cai.Lib.JsonText

namespace Cai.Admin

open Cai.Lib

/-! ## §1. Encoding. -/

/-- What the two lists raise. -/
inductive ListError
  /-- `HTTPException` -/
  | http (status : Nat) (detail : String)
  | valueError (text : String)
  deriving DecidableEq, Repr

/-- What a cursor asks of libraries. -/
structure CursorLibrary where
  /-- `hmac.new(key, message, hashlib.sha256).hexdigest()` -/
  hexdigest : (key message : String) → String
  /-- It writes 32 bytes. -/
  length_hexdigest : ∀ key message, (hexdigest key message).length = 64
  /-- It writes hexadecimal digits. -/
  isAscii_hexdigest : ∀ key message, isAscii (hexdigest key message) = true
  /-- `float(text)` -/
  float : String → JsonFloat
  /-- `bytes.decode`, where they are not of UTF-8. -/
  decodeOther : List UInt8 → Option String

/-- The parameters of a list, under their names. -/
abbrev Parameters := List (String × Option String)

def textOrNone : Option String → Json
  | some text => .str text
  | none => .null

def parametersJson (parameters : Parameters) : Json :=
  .dict (parameters.map fun parameter => (parameter.1, textOrNone parameter.2))

/-- `_cursor_bytes` -/
def cursorBytes (payload : Json) : List UInt8 := JsonText.utf8 (JsonText.dumps payload)

/-- The payload of a cursor. -/
def cursorPayload (scope : String) (parameters : Parameters) (after : String × Nat) : JsonObject :=
  [("after", .list [.str after.1, .int after.2]), ("parameters", parametersJson parameters),
    ("scope", .str scope), ("version", .int 1)]

/-- The payload, in unpadded base64. -/
def encodedPayload (payload : JsonObject) : String :=
  String.ofList (Base64.unpadded (Base64.encode (cursorBytes (.dict payload))))

variable (lib : CursorLibrary) (token : String)

/-- `_encode_cursor` -/
def encodeCursor (scope : String) (parameters : Parameters) (after : String × Nat) : String :=
  let encoded := encodedPayload (cursorPayload scope parameters after)
  let signature := lib.hexdigest token encoded
  encoded ++ "." ++ signature

/-! ## §2. Decoding. -/

/-- `set(payload) == set(names)` -/
def hasKeys (payload : JsonObject) (names : List String) : Bool :=
  payload.all (fun item => names.contains item.1)
    && names.all fun name => (payload.lookup name).isSome

/-- `value == 1` -/
def isOne : Json → Bool
  | .int value => value == 1
  | .bool value => value
  | .float number => number.value == some 1
  | _ => false

/-- `value == text` -/
def isTextOrNone (value : Json) (text : Option String) : Bool :=
  match value, text with
  | .str found, some text => found == text
  | .null, none => true
  | _, _ => false

/-- `value == parameters` -/
def isParameters (value : Json) (parameters : Parameters) : Bool :=
  match value.asDict with
  | none => false
  | some items =>
      items.length == parameters.length && parameters.all fun parameter =>
        (items.lookup parameter.1).any fun found => isTextOrNone found parameter.2

/-- The position of a payload. -/
def readPayload (scope : String) (parameters : Parameters) (payload : Json) :
    Option (String × Nat) :=
  match payload.asDict with
  | none => none
  | some payload =>
      if !hasKeys payload ["after", "parameters", "scope", "version"] then none
      else if !isOne (payload.get "version") || !isTextOrNone (payload.get "scope") (some scope) then none
      else if !isParameters (payload.get "parameters") parameters then none
      else match payload.get "after" with
        | .list [.str text, .int id] => if Text.isBlank text || id ≤ 0 then none else some (text, id.toNat)
        | _ => none

/-- The position of a cursor. -/
def readCursor (value scope : String) (parameters : Parameters) : Option (String × Nat) :=
  match splitOnce '.' value with
  | none => none
  | some (encoded, signature) =>
      if signature.length ≠ 64 ∨ isAscii encoded = false then none
      else if compareDigest signature (lib.hexdigest token encoded) ≠ some true then none
      else
        let padded := encoded.toList ++ Base64.padding encoded.toList
        ((Base64.decode padded).bind (JsonText.loadsBytes lib.float lib.decodeOther)).bind
          (readPayload scope parameters)

/-- `_decode_cursor` -/
def decodeCursor (value scope : String) (parameters : Parameters) :
    Except ListError (String × Nat) :=
  match readCursor lib token value scope parameters with
  | some after => .ok after
  | none => .error (.http 400 "Invalid cursor")

/-! ## §3. A payload is read back. -/

variable {lib token} {scope scope' : String} {parameters parameters' : Parameters}
  {after : String × Nat} {object sorted : JsonObject} {key : String} {value : Json}

theorem lookup_perm (hperm : sorted.Perm object) (hkeys : (object.map (·.1)).Nodup) :
    sorted.lookup key = object.lookup key := by
  have hsorted : (sorted.map (·.1)).Nodup := (hperm.map (·.1)).nodup_iff.mpr hkeys
  refine Option.ext fun value => ?_
  rw [lookup_eq_some_iff (consistent_of_nodup hsorted), lookup_eq_some_iff (consistent_of_nodup hkeys),
    hperm.mem_iff]

theorem hasKeys_perm {names : List String} (hperm : sorted.Perm object)
    (hkeys : (object.map (·.1)).Nodup) : hasKeys sorted names = hasKeys object names := by
  have hall : ∀ p : String × Json → Bool, sorted.all p = object.all p := by
    intro p
    rw [Bool.eq_iff_iff, List.all_eq_true, List.all_eq_true]
    exact forall_congr' fun item => imp_congr_left hperm.mem_iff
  unfold hasKeys
  rw [hall]
  simp only [lookup_perm hperm hkeys]

theorem isTextOrNone_iff {text text' : Option String} :
    isTextOrNone (textOrNone text) text' = true ↔ text = text' := by
  cases text with
  | none =>
      cases text' with
      | none => exact iff_of_true rfl rfl
      | some b => exact iff_of_false Bool.false_ne_true nofun
  | some a =>
      cases text' with
      | none => exact iff_of_false Bool.false_ne_true nofun
      | some b =>
          show (a == b) = true ↔ _
          rw [beq_iff_eq, Option.some.injEq]

theorem sortKeys_textOrNone (text : Option String) :
    JsonText.sortKeys (textOrNone text) = textOrNone text := by
  cases text with
  | none => rfl
  | some text => rfl

/-- **Parameters are compared** without their order. -/
theorem isParameters_sortKeys_iff (hnames : (parameters.map (·.1)).Nodup) :
    isParameters (JsonText.sortKeys (parametersJson parameters)) parameters' = true
      ↔ parameters.length = parameters'.length ∧ ∀ parameter ∈ parameters', parameter ∈ parameters := by
  obtain ⟨sorted, heq, hperm⟩ := @JsonText.sortKeys_dict
    (parameters.map fun parameter => (parameter.1, textOrNone parameter.2))
  rw [List.map_map] at hperm
  have hsorted : sorted.Perm (parameters.map fun parameter => (parameter.1, textOrNone parameter.2)) := by
    refine hperm.trans (List.Perm.of_eq (List.map_congr_left fun parameter _ => ?_))
    show (parameter.1, JsonText.sortKeys (textOrNone parameter.2)) = _
    rw [sortKeys_textOrNone]
  have hkeys : ((parameters.map fun parameter => (parameter.1, textOrNone parameter.2)).map (·.1)).Nodup := by
    rw [List.map_map]
    exact hnames
  have hlookup : ∀ parameter : String × Option String,
      ((sorted.lookup parameter.1).any fun found => isTextOrNone found parameter.2) = true
        ↔ parameter ∈ parameters := by
    intro (name, text)
    rw [lookup_perm hsorted hkeys, Option.any_eq_true]
    constructor
    · intro ⟨found, hfound, htext⟩
      rw [lookup_eq_some_iff (consistent_of_nodup hkeys)] at hfound
      obtain ⟨parameter, hparameter, hpair⟩ := List.mem_map.mp hfound
      obtain ⟨hname, rfl⟩ := Prod.mk.inj hpair
      have hsame : parameter = (name, text) := Prod.ext hname (isTextOrNone_iff.mp htext)
      rw [← hsame]
      exact hparameter
    · intro hmem
      refine ⟨textOrNone text, ?_, isTextOrNone_iff.mpr rfl⟩
      rw [lookup_eq_some_iff (consistent_of_nodup hkeys)]
      exact List.mem_map.mpr ⟨(name, text), hmem, rfl⟩
  unfold parametersJson isParameters
  rw [heq]
  show (sorted.length == parameters'.length && parameters'.all _) = true ↔ _
  rw [Bool.and_eq_true, beq_iff_eq, hsorted.length_eq, List.length_map, List.all_eq_true]
  refine and_congr_right fun _ => ?_
  exact forall_congr' fun parameter => imp_congr_right fun _ => hlookup parameter

/-- The payload, with its keys sorted. -/
theorem sortKeys_payload : ∃ sorted, JsonText.sortKeys (.dict (cursorPayload scope parameters after))
      = .dict sorted
    ∧ sorted.Perm [("after", .list [.str after.1, .int after.2]),
      ("parameters", JsonText.sortKeys (parametersJson parameters)), ("scope", .str scope),
      ("version", .int 1)] := JsonText.sortKeys_dict

/-- **What is read of a payload.** -/
theorem readPayload_sortKeys : readPayload scope' parameters'
      (JsonText.sortKeys (.dict (cursorPayload scope parameters after)))
    = if scope = scope'
        ∧ isParameters (JsonText.sortKeys (parametersJson parameters)) parameters' = true
        ∧ Text.isBlank after.1 = false ∧ 0 < after.2 then some after else none := by
  obtain ⟨sorted, heq, hperm⟩ := @sortKeys_payload scope parameters after
  have hnodup : (["after", "parameters", "scope", "version"] : List String).Nodup := by decide
  have hget : ∀ name, JsonObject.get sorted name = JsonObject.get _ name := fun name =>
    congrArg (fun found : Option Json => found.getD .null) (lookup_perm hperm hnodup)
  have hkeys : hasKeys sorted ["after", "parameters", "scope", "version"] = true := by
    rw [hasKeys_perm hperm hnodup]
    rfl
  have hafter : JsonObject.get sorted "after" = .list [.str after.1, .int after.2] := hget "after"
  have hparameters : JsonObject.get sorted "parameters"
      = JsonText.sortKeys (parametersJson parameters) := hget "parameters"
  have hscope : JsonObject.get sorted "scope" = .str scope := hget "scope"
  have hversion : JsonObject.get sorted "version" = .int 1 := hget "version"
  rw [heq]
  unfold readPayload
  show (if (!hasKeys sorted _) = true then none else _) = _
  rw [hkeys, hversion, hscope, hparameters, hafter]
  show (if (!(scope == scope')) = true then none
    else if (!isParameters (JsonText.sortKeys (parametersJson parameters)) parameters') = true then none
    else if (Text.isBlank after.1 || decide ((after.2 : Int) ≤ 0)) = true then none
    else some (after.1, after.2)) = _
  -- each check is one part of the condition
  by_cases hsame : scope = scope'
  · have hbeq : (scope == scope') = true := beq_iff_eq.mpr hsame
    rw [hbeq, if_neg (by decide)]
    cases hmatch : isParameters (JsonText.sortKeys (parametersJson parameters)) parameters' with
    | false => rw [if_pos (by decide), if_neg fun h => Bool.false_ne_true h.2.1]
    | true =>
        rw [if_neg (by decide)]
        by_cases hvalid : Text.isBlank after.1 = false ∧ 0 < after.2
        · have hle : decide ((after.2 : Int) ≤ 0) = false := decide_eq_false (by omega)
          rw [hvalid.1, hle, if_neg (by decide), if_pos ⟨hsame, rfl, rfl, hvalid.2⟩]
        · have hinvalid : (Text.isBlank after.1 || decide ((after.2 : Int) ≤ 0)) = true := by
            by_contra hnot
            rw [Bool.not_eq_true, Bool.or_eq_false_iff, decide_eq_false_iff_not] at hnot
            exact hvalid ⟨hnot.1, by omega⟩
          rw [if_pos hinvalid, if_neg fun h => hvalid h.2.2]
  · have hbeq : (scope == scope') = false := beq_false_of_ne hsame
    rw [hbeq, if_pos (by decide), if_neg fun h => hsame h.1]

/-! ## §4. A cursor is read back. -/

theorem plain_payload (hnames : (parameters.map (·.1)).Nodup) :
    JsonText.Plain (.dict (cursorPayload scope parameters after)) := by
  have htext : ∀ text : Option String, JsonText.Plain (textOrNone text) := by
    intro text
    cases text with
    | none => exact .null
    | some text => exact .str text
  have hparameters : JsonText.Plain (parametersJson parameters) := by
    refine .dict _ ?_ fun item hitem => ?_
    · rw [List.map_map]
      exact hnames
    · obtain ⟨parameter, -, rfl⟩ := List.mem_map.mp hitem
      exact htext parameter.2
  have hafter : JsonText.Plain (.list [.str after.1, .int after.2]) := by
    refine .list _ fun value hvalue => ?_
    rcases List.mem_cons.mp hvalue with rfl | hrest
    · exact .str after.1
    · rw [List.mem_singleton.mp hrest]
      exact .int after.2
  have hnodup : (["after", "parameters", "scope", "version"] : List String).Nodup := by decide
  refine .dict _ hnodup fun item hitem => ?_
  simp only [cursorPayload, List.mem_cons, List.not_mem_nil, or_false] at hitem
  rcases hitem with rfl | rfl | rfl | rfl
  · exact hafter
  · exact hparameters
  · exact .str scope
  · exact .int 1

/-- A payload is in the alphabet: ASCII, and without a period. -/
theorem encodedPayload_plain :
    isAscii (encodedPayload object) = true ∧ '.' ∉ (encodedPayload object).toList := by
  unfold encodedPayload isAscii
  rw [String.toList_ofList, Base64.unpadded_encode]
  constructor
  · refine List.all_eq_true.mpr fun c hc => ?_
    obtain ⟨n, rfl⟩ := Base64.exists_of_mem_body hc
    exact decide_eq_true Base64.isAscii_symbol
  · intro hc
    obtain ⟨n, hn⟩ := Base64.exists_of_mem_body hc
    exact Base64.symbol_ne.2 hn.symm

/-- A signed payload is read. -/
theorem readCursor_signed (object : JsonObject) :
    readCursor lib token
        (encodedPayload object ++ "." ++ lib.hexdigest token (encodedPayload object)) scope parameters
      = (JsonText.loadsBytes lib.float lib.decodeOther (cursorBytes (.dict object))).bind
          (readPayload scope parameters) := by
  obtain ⟨hascii, hperiod⟩ := @encodedPayload_plain object
  have hsplit : splitOnce '.'
      (encodedPayload object ++ "." ++ lib.hexdigest token (encodedPayload object))
        = some (encodedPayload object, lib.hexdigest token (encodedPayload object)) := by
    refine splitOnce_eq_some_iff.mpr ⟨?_, hperiod⟩
    rw [String.toList_append, String.toList_append, List.append_assoc]
    rfl
  have hdigest : compareDigest (lib.hexdigest token (encodedPayload object))
      (lib.hexdigest token (encodedPayload object)) = some true := by
    rw [compareDigest_of_ascii (lib.isAscii_hexdigest _ _) (lib.isAscii_hexdigest _ _),
      beq_self_eq_true]
  have hdecode : Base64.decode
      ((encodedPayload object).toList ++ Base64.padding (encodedPayload object).toList)
        = some (cursorBytes (.dict object)) := by
    unfold encodedPayload
    rw [String.toList_ofList]
    exact Base64.decode_pad_unpadded _
  unfold readCursor
  rw [hsplit]
  dsimp only
  rw [if_neg (by rw [lib.length_hexdigest, hascii]; decide), hdigest, if_neg (fun h => h rfl), hdecode,
    Option.bind_some]

/-- **What is read of a cursor.** -/
theorem readCursor_encodeCursor (hnames : (parameters.map (·.1)).Nodup) :
    readCursor lib token (encodeCursor lib token scope parameters after) scope' parameters'
      = if scope = scope'
          ∧ isParameters (JsonText.sortKeys (parametersJson parameters)) parameters' = true
          ∧ Text.isBlank after.1 = false ∧ 0 < after.2 then some after else none := by
  have hloads : JsonText.loadsBytes lib.float lib.decodeOther
      (cursorBytes (.dict (cursorPayload scope parameters after)))
        = some (JsonText.sortKeys (.dict (cursorPayload scope parameters after))) :=
    JsonText.loadsBytes_dumps (plain_payload hnames) (List.cons_ne_nil _ _)
  unfold encodeCursor
  rw [readCursor_signed, hloads, Option.bind_some, readPayload_sortKeys]

/-- **A cursor is read back** by its list, under its filter. -/
theorem decodeCursor_accepts (hnames : (parameters.map (·.1)).Nodup)
    (hblank : Text.isBlank after.1 = false) (hpos : 0 < after.2) :
    decodeCursor lib token (encodeCursor lib token scope parameters after) scope parameters
      = .ok after := by
  have hsame : isParameters (JsonText.sortKeys (parametersJson parameters)) parameters = true :=
    (isParameters_sortKeys_iff hnames).mpr ⟨rfl, fun _ h => h⟩
  unfold decodeCursor
  rw [readCursor_encodeCursor hnames, if_pos ⟨rfl, hsame, hblank, hpos⟩]

/-- **By another list or under another filter it is refused.** -/
theorem decodeCursor_refuses (hnames : (parameters.map (·.1)).Nodup)
    (h : scope ≠ scope' ∨ ¬∀ parameter ∈ parameters', parameter ∈ parameters) :
    decodeCursor lib token (encodeCursor lib token scope parameters after) scope' parameters'
      = .error (.http 400 "Invalid cursor") := by
  unfold decodeCursor
  rw [readCursor_encodeCursor hnames, if_neg]
  intro ⟨hscope, hparameters, _⟩
  rcases h with hother | hother
  · exact hother hscope
  · exact hother ((isParameters_sortKeys_iff hnames).mp hparameters).2

/-- The payload of a first page. -/
example : encodedPayload (cursorPayload "identity-links" [("state", none), ("query", none)] ("c", 1))
    = "eyJhZnRlciI6WyJjIiwxXSwicGFyYW1ldGVycyI6eyJxdWVyeSI6bnVsbCwic3RhdGUiOm51bGx9LCJzY29wZSI6Imlk"
      ++ "ZW50aXR5LWxpbmtzIiwidmVyc2lvbiI6MX0" := by decide +kernel

end Cai.Admin
