/-
  Cai.Directory.Records — the records of the Acessórias provider.

  `_required_identifier` to `_contact_key` and the three `_parse_…` methods
  of `src/core/acessorias_directory.py`: an answer of the provider becomes a
  department, a company or a contact, or the acquisition fails.
-/
import Cai.Directory.Snapshot
import Cai.Lib.Json
import Cai.Lib.Text

namespace Cai.Directory

open Cai.Lib

/-- What is used of the standard library and its Unicode tables. -/
structure RecordLibrary where
  /-- `str(value)` -/
  str : Json → String
  /-- `json.dumps` of a page, with sorted keys. -/
  dumps : List Json → String
  /-- `hashlib.sha256(text.encode("utf-8")).hexdigest()` -/
  sha256 : String → String
  /-- `unicodedata.digit`, as an ASCII digit, where `character.isdecimal()`. -/
  decimal : Char → Option Char
  /-- `str.casefold` -/
  casefold : String → String
  /-- `unicodedata.normalize("NFKD", value)` -/
  nfkd : String → String
  /-- `unicodedata.combining(character)` is not zero. -/
  combining : Char → Bool

variable (lib : RecordLibrary)

def invalidPayload (message : String) : DirectoryError := .directory "invalid_payload" message

/-! ## §1. Values. -/

/-- `value or None` -/
def nonEmpty (text : String) : Option String := if text = "" then none else some text

/-- `normalize_mobile` -/
def normalizeMobile (value : Option String) : Option String :=
  value.bind fun text => nonEmpty (String.ofList (text.toList.filterMap lib.decimal))

/-- `normalize_email` -/
def normalizeEmail (value : Option String) : Option String :=
  value.bind fun text => nonEmpty (lib.casefold (Text.strip text))

/-- `_required_identifier` -/
def requiredIdentifier (value : Json) (field : String) : Except DirectoryError String :=
  match value with
  | .null | .bool _ => .error (invalidPayload s!"missing {field}")
  | value =>
      let text := Text.strip (lib.str value)
      if text = "" then .error (invalidPayload s!"blank {field}") else .ok text

/-- `_optional_text` -/
def optionalText (value : Json) (field : String) : Except DirectoryError (Option String) :=
  match value with
  | .null => .ok none
  | .str text => .ok (some text)
  | _ => .error (invalidPayload s!"invalid {field}")

/-- `_status_text` -/
def statusText (value : Json) : Except DirectoryError (Option String) :=
  match value with
  | .null => .ok none
  | .list _ | .dict _ => .error (invalidPayload "invalid provider status")
  | value => .ok (some (lib.str value))

/-- `_activity_from_status` -/
def activityFromStatus (value : Json) : Option Bool :=
  match value with
  | .bool value => some value
  | .int 0 => some false
  | .int 1 => some true
  | .str text =>
      let normalized := String.ofList
        ((Text.strip (lib.casefold (lib.nfkd text))).toList.filter fun c => !lib.combining c)
      if normalized ∈ ["1", "ativo", "ativa", "active", "enabled", "sim", "s"] then some true
      else if normalized ∈ ["0", "inativo", "inativa", "inactive", "disabled", "nao", "n"] then
        some false
      else none
  | _ => none

/-- `_contact_key` -/
def contactKey (companyId name : String) (email mobile : Option String) : String :=
  lib.sha256 ("\x1f".intercalate [companyId, name, email.getD "", mobile.getD ""])

/-! ## §2. Records. -/

/-- The record, where `isinstance(raw, Mapping)`. -/
def asRecord (raw : Json) (message : String) : Except DirectoryError JsonObject :=
  match raw.asDict with
  | none => .error (invalidPayload message)
  | some record => .ok record

/-- `if field not in record: raise …`, for each of the fields. -/
def requireFields (record : JsonObject) (fields : List String) (message : String) :
    Except DirectoryError Unit :=
  require (∀ field ∈ fields, (record.lookup field).isSome = true) (invalidPayload message)

/-- `_parse_department` -/
def parseDepartment (raw : Json) : Except DirectoryError AcessoriasDepartment := do
  let record ← asRecord raw "invalid department record"
  let externalId ← requiredIdentifier lib (JsonObject.get record "ID") "department ID"
  let name ← requiredIdentifier lib (JsonObject.get record "Nome") "department name"
  let responsibleName ←
    optionalText (JsonObject.get record "RespNome") "department responsible name"
  let responsibleEmail ←
    optionalText (JsonObject.get record "RespEmail") "department responsible email"
  return { externalId, name, responsibleName, responsibleEmail }

/-- `_parse_contact` -/
def parseContact (companyId : String) (raw : Json) : Except DirectoryError AcessoriasContact := do
  let record ← asRecord raw "invalid company contact record"
  requireFields record ["Nome", "E-mail", "Celular"] "incomplete company contact"
  let name ← optionalText (JsonObject.get record "Nome") "contact name"
  let email ← optionalText (JsonObject.get record "E-mail") "contact email"
  let mobile ← optionalText (JsonObject.get record "Celular") "contact mobile"
  return {
    name := name.getD ""
    rawEmail := email
    normalizedEmail := normalizeEmail lib email
    rawMobile := mobile
    normalizedMobile := normalizeMobile lib mobile
    externalKey := contactKey lib companyId (name.getD "") email mobile }

/-- An entry of `Departamentos`. -/
def parseDepartmentId (item : Json) : Except DirectoryError String := do
  let record ← asRecord item "invalid company department"
  requiredIdentifier lib (JsonObject.get record "ID") "company department ID"

/-- The two lists of a company. -/
def childLists (record : JsonObject) : Except DirectoryError (List Json × List Json) :=
  match (JsonObject.get record "ContatosNaEmpresa").asList,
      (JsonObject.get record "Departamentos").asList with
  | some rawContacts, some rawDepartments => .ok (rawContacts, rawDepartments)
  | _, _ => .error (invalidPayload "invalid company child lists")

/-- The departments of a company. -/
def parseDepartmentIds (items : List Json) : Except DirectoryError (List String) := do
  let departmentIds ← items.mapM (parseDepartmentId lib)
  require departmentIds.Nodup (invalidPayload "duplicate company department")
  return departmentIds

/-- `_parse_company` -/
def parseCompany (raw : Json) : Except DirectoryError AcessoriasCompany := do
  let record ← asRecord raw "invalid company record"
  requireFields record ["ID", "Identificador", "Status", "ContatosNaEmpresa", "Departamentos"]
    "incomplete company record"
  let providerId ← requiredIdentifier lib (JsonObject.get record "ID") "company ID"
  let externalId ← requiredIdentifier lib (JsonObject.get record "Identificador") "company identifier"
  let children ← childLists record
  let departmentIds ← parseDepartmentIds lib children.2
  let contacts ← children.1.mapM (parseContact lib externalId)
  let status := JsonObject.get record "Status"
  let legalName ← optionalText (JsonObject.get record "Razao") "company legal name"
  let tradeName ← optionalText (JsonObject.get record "Fantasia") "company trade name"
  let providerStatus ← statusText lib status
  let phone ← optionalText (JsonObject.get record "Telefone") "company phone"
  let uf ← optionalText (JsonObject.get record "UF") "company state"
  let clientSince ← optionalText (JsonObject.get record "ClienteDesde") "company client since"
  let clientUntil ← optionalText (JsonObject.get record "ClienteAte") "company client until"
  let registeredAt ←
    optionalText (JsonObject.get record "DataDoCadastro") "company registration date"
  return {
    externalId, providerId, phone, uf, clientSince, clientUntil, registeredAt, providerStatus
    contacts, departmentIds
    legalName := legalName.getD ""
    tradeName := tradeName.getD ""
    isActive := activityFromStatus lib status }

variable {lib} {raw : Json} {company : AcessoriasCompany} {department : AcessoriasDepartment}

theorem requiredIdentifier_nonempty {value : Json} {field text : String}
    (h : requiredIdentifier lib value field = .ok text) : text ≠ "" := by
  unfold requiredIdentifier at h
  split at h
  next => cases h
  next => cases h
  next =>
    dsimp only at h
    split at h
    next => cases h
    next hne =>
      cases h
      exact hne

theorem parseDepartmentIds_nodup {items : List Json} {departmentIds : List String}
    (h : parseDepartmentIds lib items = .ok departmentIds) : departmentIds.Nodup := by
  unfold parseDepartmentIds at h
  obtain ⟨ids, -, h⟩ := bind_eq_ok_iff.mp h
  obtain ⟨u, hnodup, h⟩ := bind_eq_ok_iff.mp h
  rw [← pure_eq_ok_iff.mp h]
  exact require_eq_ok_iff.mp hnodup

/-- A parsed company has its identifiers, and its departments once each. -/
theorem parseCompany_spec (h : parseCompany lib raw = .ok company) :
    company.externalId ≠ "" ∧ company.providerId ≠ "" ∧ company.departmentIds.Nodup := by
  unfold parseCompany at h
  simp only [bind_eq_ok_iff, pure_eq_ok_iff] at h
  obtain ⟨record, -, u, -, providerId, hprovider, externalId, hexternal, children, -,
    departmentIds, hdepartments, contacts, -, legalName, -, tradeName, -, providerStatus, -,
    phone, -, uf, -, since, -, until_, -, registered, -, rfl⟩ := h
  exact ⟨requiredIdentifier_nonempty hexternal, requiredIdentifier_nonempty hprovider,
    parseDepartmentIds_nodup hdepartments⟩

end Cai.Directory
