/-
  Cai.Digisac.ContactPage — one page of the contacts of the provider.

  `normalize_contact` and `DigisacClient.get_contacts_page` of
  `src/core/digisac_client.py`, on the JSON values that the provider
  answers with.

  Main results: `getContactsPage_ok`, `normalizeContact_id`.
-/
import Cai.Digisac.TicketHistory
import Cai.Directory.Contacts

namespace Cai.Digisac

open Cai.Lib
open Cai.Cycle (Timestamp)
open Cai.Directory (DigisacContact)
open Cai.Finalization.Provider (IsoTime parseTimestamp)

/-! ## §1. A contact. -/

/-- What a contact asks of Python's library. -/
structure Library where
  /-- `str(value)` of a list or an object -/
  repr : Json → String
  /-- `unicodedata.decimal(character)` -/
  decimal : Char → Option Nat
  /-- `datetime.fromisoformat(text)` -/
  fromisoformat : String → Option IsoTime

/-- What `get_contacts_page` raises. -/
inductive ContactsError
  | client (error : ClientError)
  | raised (error : Raised)
  /-- `ValueError` -/
  | value (message : String)
  deriving DecidableEq, Repr

/-- `str(value)` -/
def Library.str (lib : Library) (value : Json) : String :=
  if value.hashable then value.toText else lib.repr value

variable (lib : Library)

/-- `_optional_contact_string` -/
def optionalContactString (value : Json) : Option String :=
  match value with
  | .null => none
  | value => if Text.isBlank (lib.str value) then none else some (lib.str value)

/-- `_contact_timestamp` -/
def contactTimestamp (value : Json) : Except Raised (Option Timestamp) :=
  parseTimestamp lib.fromisoformat value

/-- The decimal digits of a text. -/
def decimals (raw : String) : String :=
  String.join ((raw.toList.filterMap lib.decimal).map toString)

/-- `_normalize_contact_number` -/
def normalizeContactNumber (value : Json) : Option String × Option String :=
  match optionalContactString lib value with
  | none => (none, none)
  | some raw => (some raw, if decimals lib raw = "" then none else some (decimals lib raw))

/-- `_normalize_contact_email` -/
def normalizeContactEmail (value : Json) : Option String × Option String :=
  match optionalContactString lib value with
  | none => (none, none)
  | some raw => (some raw, some (Text.casefold (Text.strip raw)))

/-- `payload.get(key)`, or `data.get(key)` where that is `None`. -/
def nestedValue (payload : JsonObject) (key : String) : Json :=
  match payload.get key with
  | .null => JsonObject.get ((payload.get "data").asDict.getD []) key
  | value => value

/-- `normalize_contact` -/
def normalizeContact (payload : JsonObject) : Except ContactsError DigisacContact :=
  match optionalContactString lib (payload.get "id") with
  | none => .error (.client (.response "DigiSac contact response has no contact id"))
  | some externalId => do
      let number := normalizeContactNumber lib (nestedValue payload "number")
      let email := normalizeContactEmail lib (nestedValue payload "email")
      let createdAt ← (contactTimestamp lib (payload.get "createdAt")).mapError .raised
      let updatedAt ← (contactTimestamp lib (payload.get "updatedAt")).mapError .raised
      let deletedAt ← (contactTimestamp lib (payload.get "deletedAt")).mapError .raised
      return {
        externalId
        name := optionalContactString lib (payload.get "name")
        alternativeName := optionalContactString lib (payload.get "alternativeName")
        internalName := optionalContactString lib (payload.get "internalName")
        rawNumber := number.1, normalizedNumber := number.2
        rawEmail := email.1, normalizedEmail := email.2
        isGroup := (payload.get "isGroup").asBool
        accountId := optionalContactString lib (payload.get "accountId")
        serviceId := optionalContactString lib (payload.get "serviceId")
        providerCreatedAt := createdAt
        providerUpdatedAt := updatedAt
        providerDeletedAt := deletedAt }

/-! ## §2. A page. -/

/-- `DigisacContactPage` -/
structure DigisacContactPage where
  contacts : List DigisacContact
  total : Int
  limit : Int
  currentPage : Int
  lastPage : Int
  deriving DecidableEq, Repr

/-- The last page that fits a total and a limit. -/
def lastPageOf (total limit : Int) : Int := max 1 ((total + limit - 1) / limit)

/-- The value, where `type(value) is int`: a truth value is none. -/
def exactInt : Json → Option Int
  | .int value => some value
  | _ => none

/-- The numbers of a payload, and its list. -/
structure ContactPageFields where
  data : List Json
  total : Int
  limit : Int
  currentPage : Int
  lastPage : Int

/-- The fields of a payload: all five, or none. -/
def contactPageFields (payload : JsonObject) : Option ContactPageFields := do
  let total ← exactInt (payload.get "total")
  let limit ← exactInt (payload.get "limit")
  let currentPage ← exactInt (payload.get "currentPage")
  let lastPage ← exactInt (payload.get "lastPage")
  let data ← (payload.get "data").asList
  return { data, total, limit, currentPage, lastPage }

/-- The condition for an invalid structure. -/
def ContactPageFields.invalid (fields : ContactPageFields) (page : Int) : Bool :=
  fields.total < 0 || fields.limit ≤ 0 || fields.currentPage ≤ 0 || fields.lastPage ≤ 0
    || fields.currentPage ≠ page || fields.lastPage < fields.currentPage
    || fields.limit < fields.data.length
    || fields.lastPage ≠ lastPageOf fields.total fields.limit
    || (fields.total = 0 && !fields.data.isEmpty) || (0 < fields.total && fields.data.isEmpty)

/-- One round of the loop over the contacts. -/
def readContact (raw : Json) : Except ContactsError DigisacContact :=
  match raw.asDict with
  | none => .error (.client (.response "DigiSac contact response is not an object"))
  | some contact => normalizeContact lib contact

/-- The checks on a payload. -/
def readContactsPage (payload : JsonObject) (page : Int) : Except ContactsError DigisacContactPage :=
  match contactPageFields payload with
  | none => .error (.client (.response "DigiSac contacts pagination has an invalid structure"))
  | some fields =>
      if fields.invalid page then
        .error (.client (.response "DigiSac contacts pagination has an invalid structure"))
      else do
        let contacts ← fields.data.mapM (readContact lib)
        return {
          contacts, total := fields.total, limit := fields.limit
          currentPage := fields.currentPage, lastPage := fields.lastPage }

/-- `get_contacts_page`, on what `_get_json` returns or raises. -/
def getContactsPage (answer : Except ClientError JsonObject) (page perPage : Int) :
    Except ContactsError DigisacContactPage :=
  if page ≤ 0 || perPage ≤ 0 then
    .error (.value "Contacts pagination values must be positive")
  else do
    let payload ← answer.mapError .client
    readContactsPage lib payload page

/-! ## §3. What is accepted. -/

variable {lib}

/-- A contact is known by a text that is not blank. -/
theorem normalizeContact_id {payload : JsonObject} {contact : DigisacContact}
    (h : normalizeContact lib payload = .ok contact) :
    optionalContactString lib (payload.get "id") = some contact.externalId
      ∧ Text.isBlank contact.externalId = false := by
  unfold normalizeContact at h
  cases hid : optionalContactString lib (payload.get "id") with
  | none =>
      rw [hid] at h
      cases h
  | some id =>
      rw [hid] at h
      obtain ⟨createdAt, -, h⟩ := bind_eq_ok_iff.mp h
      obtain ⟨updatedAt, -, h⟩ := bind_eq_ok_iff.mp h
      obtain ⟨deletedAt, -, h⟩ := bind_eq_ok_iff.mp h
      rw [← pure_eq_ok_iff.mp h]
      refine ⟨rfl, ?_⟩
      unfold optionalContactString at hid
      split at hid
      next => cases hid
      next =>
        split at hid
        next => cases hid
        next hblank =>
          rw [← Option.some.inj hid]
          exact Bool.eq_false_iff.mpr hblank

/-- The metadata of a page that was asked for, and the number of its contacts. -/
structure Fits (p : DigisacContactPage) (requested : Int) : Prop where
  current : p.currentPage = requested
  total : 0 ≤ p.total
  limit : 0 < p.limit
  last : p.lastPage = lastPageOf p.total p.limit
  advances : requested ≤ p.lastPage
  room : (p.contacts.length : Int) ≤ p.limit
  empty : p.contacts = [] ↔ p.total = 0

theorem lastPageOf_pos (total limit : Int) : 0 < lastPageOf total limit :=
  lt_of_lt_of_le Int.zero_lt_one (le_max_left _ _)

/-- A total of zero is one page. -/
theorem lastPageOf_zero {limit : Int} (h : 0 < limit) : lastPageOf 0 limit = 1 := by
  unfold lastPageOf
  rw [Int.ediv_eq_zero_of_lt (by omega) (by omega)]
  rfl

theorem fits_of_fields {fields : ContactPageFields} {page : Int} {p : DigisacContactPage}
    (hinvalid : fields.invalid page = false) (hlength : p.contacts.length = fields.data.length)
    (htotal : p.total = fields.total) (hlimit : p.limit = fields.limit)
    (hcurrent : p.currentPage = fields.currentPage) (hlast : p.lastPage = fields.lastPage) :
    Fits p page := by
  simp only [ContactPageFields.invalid, Bool.or_eq_false_iff, Bool.and_eq_false_iff,
    decide_eq_false_iff_not, Bool.not_eq_false', Decidable.not_not, not_lt, not_le] at hinvalid
  obtain ⟨⟨⟨⟨⟨⟨⟨⟨⟨h0, hl⟩, -⟩, -⟩, hpage⟩, hadvances⟩, hroom⟩, hlastPage⟩, hnone⟩, hsome⟩ := hinvalid
  refine ⟨hcurrent.trans hpage, htotal ▸ h0, hlimit ▸ hl, ?_, ?_, ?_, ?_⟩
  · rw [hlast, hlastPage, htotal, hlimit]
  · rw [hlast, ← hpage]
    exact hadvances
  · rw [hlength, hlimit]
    exact hroom
  · rw [← List.length_eq_zero_iff, hlength, htotal, List.length_eq_zero_iff]
    constructor
    · intro hempty
      rcases hsome with hle | hfull
      · exact le_antisymm hle h0
      · simp [hempty] at hfull
    · intro hzero
      rcases hnone with hne | hempty
      · exact absurd hzero hne
      · exact List.isEmpty_iff.mp hempty

/-- **A page of the client fits the request for it.** -/
theorem getContactsPage_ok {answer : Except ClientError JsonObject} {page perPage : Int}
    {p : DigisacContactPage} (h : getContactsPage lib answer page perPage = .ok p) :
    0 < page ∧ Fits p page := by
  unfold getContactsPage at h
  split at h
  next => cases h
  next hpositive =>
    obtain ⟨payload, -, h⟩ := bind_eq_ok_iff.mp h
    have hpage : 0 < page := by
      simp only [Bool.or_eq_true, decide_eq_true_eq, not_or, not_le] at hpositive
      exact hpositive.1
    unfold readContactsPage at h
    split at h
    next => cases h
    next fields _ =>
      split at h
      next => cases h
      next hinvalid =>
        obtain ⟨contacts, hcontacts, h⟩ := bind_eq_ok_iff.mp h
        rw [← pure_eq_ok_iff.mp h]
        exact ⟨hpage, fits_of_fields (Bool.eq_false_iff.mpr hinvalid)
          (length_of_mapM_eq_ok hcontacts) rfl rfl rfl rfl⟩

end Cai.Digisac
