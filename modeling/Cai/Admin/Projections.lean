/-
  Cai.Admin.Projections — what the review of identity links reads.

  `src/core/identity_admin.py`: the list of contacts, the detail of one
  contact and the list of active companies.  The order of texts and `ILIKE`
  are those of the database.  The texts of the query are not: `%` and `_` in
  them are wildcards.

  The transitions of the detail are left out, and so is `contact_number`.
-/
import Mathlib.Data.Prod.Lex
import Cai.Identity.Links
import Cai.Lib.Keyset

namespace Cai.Admin

open Cai.Lib
open Cai.Cycle (Timestamp)
open Cai.Directory
open Cai.Identity

/-! ## §1. The database. -/

/-- What the statements use of the database. -/
structure Postgres where
  /-- The order of texts. -/
  collation : LinearOrder String
  /-- `text ILIKE pattern` -/
  ilike : (text pattern : String) → Bool

/-- A text, in the order of the database. -/
def Collated (_ : Postgres) : Type := String

instance (pg : Postgres) : LinearOrder (Collated pg) := pg.collation

/-- `(external_id, id)`, as a row that is compared. -/
abbrev PageKey (pg : Postgres) := Collated pg ×ₗ Nat

def pageKey (pg : Postgres) (position : String × Nat) : PageKey pg := toLex position

/-- `ORDER BY` a text, and then another one. -/
def textsKey (pg : Postgres) (texts : String × String) : Collated pg ×ₗ Collated pg := toLex texts

/-- `NULLIF(BTRIM(text), '')` -/
def nullifBlank (text : String) : Option String :=
  let trimmed := String.ofList (Text.trimList (· == ' ') text.toList)
  if trimmed = "" then none else some trimmed

/-- `text ILIKE '%query%'`, for one of the texts. -/
def searched (pg : Postgres) (query : String) (texts : List String) : Bool :=
  texts.any fun text => pg.ilike text ("%" ++ query ++ "%")

/-- The condition of a query; there is none without a text. -/
def queryMatches (pg : Postgres) (query : Option String) (texts : List String) : Bool :=
  match query with
  | none => true
  | some text => text == "" || searched pg text texts

/-! ## §2. The links and the evidence of a contact. -/

/-- `_display_name`; no row has the column `external_id` that it falls back to. -/
def displayName (value : String) : String := if value = "" then "None" else value

/-- `display_name` of a company. -/
def companyDisplayName (company : Entry String (DirectoryRow CompanyFields)) : String :=
  displayName (((nullifBlank company.value.fields.tradeName).or
    (nullifBlank company.value.fields.legalName)).getD company.key)

structure LinkProjection where
  companyExternalId : String
  status : LinkStatus
  source : Source
  displayName : String
  isPresent : Bool
  isActive : Option Bool
  available : Bool
  createdAt : Timestamp
  updatedAt : Timestamp
  deriving DecidableEq, Repr

/-- `_link_projection` -/
def linkProjection (link : Link) (company : Entry String (DirectoryRow CompanyFields)) :
    LinkProjection where
  companyExternalId := company.key
  status := link.value.status
  source := link.value.source
  displayName := companyDisplayName company
  isPresent := company.value.isPresent
  isActive := company.value.isActive
  available := company.value.isPresent && company.value.isActive == some true
  createdAt := link.value.createdAt
  updatedAt := link.value.updatedAt

/-- The links of a contact, joined with their companies. -/
def linkProjections (db : IdentityTables) (contactId : Nat) : List LinkProjection :=
  (currentLinks db contactId).filterMap fun link =>
    (db.directory.companies.byId? link.companyId).map (linkProjection link)

structure EvidenceProjection where
  companyExternalId : String
  evidenceType : EvidenceType
  count : Nat
  latestObservedAt : Option Timestamp
  deriving DecidableEq, Repr

/-- The text of the column `evidence_type`. -/
def evidenceTypeText : EvidenceType → String
  | .exactPhone => "exact_phone"
  | .exactEmail => "exact_email"
  | .brazilMobileVariant => "brazil_mobile_variant"

/-- The evidence of a contact, joined with its companies. -/
def evidenceRows (db : IdentityTables) (contactId : Nat) :
    List ((String × EvidenceType) × Timestamp) :=
  (db.evidence.rows.filter (·.key.digisacContactId == contactId)).filterMap fun evidence =>
    (db.directory.companies.byId? evidence.value.acessoriasCompanyId).map fun company =>
      ((company.key, evidence.key.evidenceType), evidence.value.observedAt)

/-- `GROUP BY company.external_id, evidence.evidence_type` -/
def evidenceProjections (pg : Postgres) (db : IdentityTables) (contactId : Nat) :
    List EvidenceProjection :=
  let rows := evidenceRows db contactId
  let groups := (rows.map (·.1)).dedup.mergeSort fun a b =>
    textsKey pg (a.1, evidenceTypeText a.2) ≤ textsKey pg (b.1, evidenceTypeText b.2)
  groups.map fun group =>
    let observed := (rows.filter (·.1 == group)).map (·.2)
    { companyExternalId := group.1, evidenceType := group.2
      count := observed.length, latestObservedAt := observed.max? }

/-! ## §3. The list of contacts. -/

/-- One of `IDENTITY_STATES`. -/
inductive IdentityState
  | current (state : DiscoveryState)
  | rejected
  deriving DecidableEq, Repr

/-- `_current_state` -/
def currentState (candidateCount confirmedCount : Nat) : DiscoveryState :=
  if 1 < confirmedCount then .conflict
  else if confirmedCount = 1 then .confirmed
  else if 1 < candidateCount then .ambiguous
  else if candidateCount = 1 then .candidate
  else .unresolved

/-- A row of `classified`. -/
structure ClassifiedContact where
  contactId : Nat
  externalId : String
  name : Option String
  alternativeName : Option String
  internalName : Option String
  isGroup : Option Bool
  candidateCount : Nat
  confirmedCount : Nat
  rejectedCount : Nat
  deriving DecidableEq, Repr

/-- The CASE of `current_state`; it is `_current_state` in SQL. -/
def ClassifiedContact.currentState (row : ClassifiedContact) : DiscoveryState :=
  Admin.currentState row.candidateCount row.confirmedCount

/-- The links of a contact in a state. -/
def linksIn (db : IdentityTables) (contactId : Nat) (state : LinkState) : List Link :=
  (currentLinks db contactId).filter (·.state == state)

/-- The row of a contact, from `aggregates`. -/
def classify (db : IdentityTables) (contact : Entry String DigisacRow) : ClassifiedContact where
  contactId := contact.id
  externalId := contact.key
  name := contact.value.fields.name
  alternativeName := contact.value.fields.alternativeName
  internalName := contact.value.fields.internalName
  isGroup := contact.value.fields.isGroup
  candidateCount := ((linksIn db contact.id .candidate).map (·.companyId)).dedup.length
  confirmedCount := (linksIn db contact.id .confirmed).length
  rejectedCount := (linksIn db contact.id .rejected).length

/-- `COALESCE(NULLIF(BTRIM(classified.name), ''), …, classified.external_id)` -/
def ClassifiedContact.searchName (row : ClassifiedContact) : String :=
  ((row.name.bind nullifBlank).or ((row.alternativeName.bind nullifBlank).or
    (row.internalName.bind nullifBlank))).getD row.externalId

/-- The WHERE clause, but for the position. -/
def ClassifiedContact.isListed (pg : Postgres) (state : Option IdentityState)
    (query : Option String) (row : ClassifiedContact) : Bool :=
  (match state with
    | none => true
    | some state =>
        IdentityState.current row.currentState == state
          || (state == .rejected && decide (0 < row.rejectedCount)))
    && queryMatches pg query [row.externalId, row.searchName]

/-- `a or b` of two optional texts. -/
def orText (a b : Option String) : Option String := if a.getD "" = "" then b else a

structure LinkListItem where
  contactExternalId : String
  displayName : Option String
  isGroup : Option Bool
  state : IdentityState
  candidateCompanyCount : Nat
  links : List LinkProjection
  evidence : List EvidenceProjection
  deriving DecidableEq, Repr

/-- A page of a list. -/
structure ListPage (α : Type) where
  items : List α
  nextAfter : Option (String × Nat)
  deriving DecidableEq, Repr

/-- An item of the list. -/
def linkListItem (pg : Postgres) (db : IdentityTables) (state : Option IdentityState)
    (row : ClassifiedContact) : LinkListItem where
  contactExternalId := row.externalId
  displayName := orText (orText row.name row.alternativeName) row.internalName
  isGroup := row.isGroup
  state := if state = some .rejected ∧ 0 < row.rejectedCount then .rejected else .current row.currentState
  candidateCompanyCount := row.candidateCount
  links := linkProjections db row.contactId
  evidence := evidenceProjections pg db row.contactId

def ClassifiedContact.key (pg : Postgres) (row : ClassifiedContact) : PageKey pg :=
  pageKey pg (row.externalId, row.contactId)

/-- The contacts that match a filter. -/
def listedContacts (pg : Postgres) (db : IdentityTables) (state : Option IdentityState)
    (query : Option String) : List ClassifiedContact :=
  (db.digisacContacts.rows.map (classify db)).filter (·.isListed pg state query)

/-- `_list_identity_link_projection_sync` -/
def listIdentityLinkProjection (pg : Postgres) (db : IdentityTables) (state : Option IdentityState)
    (query : Option String) (after : Option (String × Nat)) (limit : Nat) :
    Except String (ListPage LinkListItem) :=
  if 1 ≤ limit ∧ limit ≤ 100 then
    let page := Keyset.page (ClassifiedContact.key pg) limit (after.map (pageKey pg))
      (listedContacts pg db state query)
    .ok { items := page.rows.map (linkListItem pg db state)
          nextAfter := page.nextAfter.map ofLex }
  else .error "identity projection limit must be between 1 and 100"

/-! ## §4. The detail of a contact. -/

structure CompanyProjection where
  companyExternalId : String
  displayName : String
  isPresent : Bool
  isActive : Option Bool
  available : Bool
  deriving DecidableEq, Repr

def companyProjection (company : Entry String (DirectoryRow CompanyFields)) : CompanyProjection where
  companyExternalId := company.key
  displayName := companyDisplayName company
  isPresent := company.value.isPresent
  isActive := company.value.isActive
  available := company.value.isPresent && company.value.isActive == some true

/-- The companies of the links and of the evidence of a contact. -/
def candidateCompanies (pg : Postgres) (db : IdentityTables) (contactId : Nat) :
    List CompanyProjection :=
  let ids := (currentLinks db contactId).map (·.companyId)
    ++ (db.evidence.rows.filter (·.key.digisacContactId == contactId)).map
      (·.value.acessoriasCompanyId)
  ((db.directory.companies.rows.filter (·.id ∈ ids)).map companyProjection).mergeSort fun a b =>
    textsKey pg (a.companyExternalId, "") ≤ textsKey pg (b.companyExternalId, "")

structure ContactDetail where
  contactExternalId : String
  displayName : Option String
  isGroup : Option Bool
  state : DiscoveryState
  candidateCompanyCount : Nat
  links : List LinkProjection
  evidence : List EvidenceProjection
  candidateCompanies : List CompanyProjection
  deriving DecidableEq, Repr

/-- The external ids of the companies of candidate links. -/
def candidateExternalIds (links : List LinkProjection) : List String :=
  ((links.filter (·.status.state == .candidate)).map (·.companyExternalId)).dedup

/-- `_get_identity_contact_projection_sync` -/
def getIdentityContactProjection (pg : Postgres) (db : IdentityTables) (externalId : String) :
    Option ContactDetail :=
  (db.digisacContacts.find? externalId).map fun contact =>
    let links := linkProjections db contact.id
    let candidateCount := (candidateExternalIds links).length
    let confirmedCount := links.countP (·.status.state == .confirmed)
    { contactExternalId := contact.key
      displayName := orText (orText contact.value.fields.name contact.value.fields.alternativeName)
        contact.value.fields.internalName
      isGroup := contact.value.fields.isGroup
      state := currentState candidateCount confirmedCount
      candidateCompanyCount := candidateCount
      links
      evidence := evidenceProjections pg db contact.id
      candidateCompanies := candidateCompanies pg db contact.id }

/-! ## §5. The list of active companies. -/

abbrev CompanyRow := Entry String (DirectoryRow CompanyFields)

def companyKey (pg : Postgres) (company : CompanyRow) : PageKey pg :=
  pageKey pg (company.key, company.id)

/-- The companies that match a query. -/
def listedCompanies (pg : Postgres) (db : IdentityTables) (query : Option String) :
    List CompanyRow :=
  db.directory.companies.rows.filter fun company =>
    company.value.isPresent && company.value.isActive == some true
      && queryMatches pg query
        [company.key, company.value.fields.legalName, company.value.fields.tradeName]

/-- `_list_active_companies_sync` -/
def listActiveCompanies (pg : Postgres) (db : IdentityTables) (query : Option String)
    (after : Option (String × Nat)) (limit : Nat) : Except String (ListPage CompanyProjection) :=
  if 1 ≤ limit ∧ limit ≤ 100 then
    let page := Keyset.page (companyKey pg) limit (after.map (pageKey pg))
      (listedCompanies pg db query)
    .ok { items := page.rows.map companyProjection, nextAfter := page.nextAfter.map ofLex }
  else .error "company projection limit must be between 1 and 100"

end Cai.Admin
