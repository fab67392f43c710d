/-
  Cai.Identity.Links — identity links, their evidence and their audit.

  The tables of `alembic/versions/0017_digisac_acessorias_identity.py` and
  the functions of `src/core/identity_resolution.py` that write them while
  they hold the advisory lock of one contact.  Each of these functions is
  the body of one transaction, so it is a function on the tables; `now` is
  the clock of the database.
-/
import Mathlib.Data.List.Sort
import Cai.Lib.Fallible
import Cai.Lib.Text
import Cai.Lib.Trail
import Cai.Identity.Matching

namespace Cai.Identity

open Cai.Lib
open Cai.Cycle (Timestamp CycleRow)
open Cai.Directory
open Cai.Mapping (ResolutionState)

/-! ## §1. Rows. -/

inductive LinkState
  | candidate
  | confirmed
  | rejected
  deriving DecidableEq, Repr

inductive Source
  /-- `AUTOMATIC_SOURCE` -/
  | automatic
  /-- `MANUAL_SOURCE` -/
  | manualDb
  /-- `ADMIN_SOURCE` -/
  | adminApi
  deriving DecidableEq, Repr

/-- The state of a link with the columns its CHECK constraints tie to it:
    only a confirmed link has a confirmation, only a rejected one a reason. -/
inductive LinkStatus
  | candidate
  | confirmed (confirmationSource : Source) (confirmedAt : Timestamp) (confirmedBy : Option String)
  | rejected (rejectionReason : String)
  deriving DecidableEq, Repr

def LinkStatus.state : LinkStatus → LinkState
  | .candidate => .candidate
  | .confirmed .. => .confirmed
  | .rejected _ => .rejected

/-- The columns of `identity_company_links` besides its id and its unique pair. -/
structure LinkColumns where
  status : LinkStatus
  source : Source
  createdAt : Timestamp
  updatedAt : Timestamp
  deriving DecidableEq, Repr

/-- A row, keyed by `digisac_contact_id` and `acessorias_company_id`. -/
abbrev Link := Entry (Nat × Nat) LinkColumns

abbrev Link.contactId (link : Link) : Nat := link.key.1

abbrev Link.companyId (link : Link) : Nat := link.key.2

abbrev Link.state (link : Link) : LinkState := link.value.status.state

/-- `transition_key`: the three texts the operations build. -/
inductive TransitionKey
  /-- `candidate:{link_id}` -/
  | candidate (linkId : Nat)
  /-- `confirm:{source}:{link_id}:{confirmed_at}` -/
  | confirm (source : Source) (linkId : Nat) (confirmedAt : Timestamp)
  /-- `reject:{source}:{link_id}:{reason}:{updated_at}` -/
  | reject (source : Source) (linkId : Nat) (reason : String) (updatedAt : Timestamp)
  deriving DecidableEq, Repr

/-- The link a transition key names. -/
def TransitionKey.linkId : TransitionKey → Nat
  | .candidate linkId => linkId
  | .confirm _ linkId _ => linkId
  | .reject _ linkId _ _ => linkId

/-- The columns of `identity_company_link_transitions` besides its id and key. -/
structure LinkTransition where
  linkId : Nat
  fromState : Option LinkState
  toState : LinkState
  source : Source
  reason : String
  confirmationSource : Option Source := none
  confirmedAt : Option Timestamp := none
  confirmedBy : Option String := none
  deriving DecidableEq, Repr

def LinkTransition.change (t : LinkTransition) : Option LinkState × LinkState :=
  (t.fromState, t.toState)

/-- The unique key of `identity_match_evidence`. -/
structure EvidenceKey where
  digisacContactId : Nat
  acessoriasCompanyContactId : Nat
  evidenceType : EvidenceType
  valueFingerprint : Fingerprint
  ruleVersion : String
  deriving DecidableEq, Repr

structure EvidenceColumns where
  acessoriasCompanyId : Nat
  observedAt : Timestamp
  deriving DecidableEq, Repr

/-- `state` and `link_id` of a resolution: only a confirmed one has a link. -/
inductive ResolutionOutcome
  | confirmed (linkId : Nat)
  | ambiguous
  | unresolved
  | conflict
  deriving DecidableEq, Repr

def ResolutionOutcome.state : ResolutionOutcome → ResolutionState
  | .confirmed _ => .confirmed
  | .ambiguous => .ambiguous
  | .unresolved => .unresolved
  | .conflict => .conflict

def ResolutionOutcome.linkId : ResolutionOutcome → Option Nat
  | .confirmed linkId => some linkId
  | _ => none

/-- The columns of `conversation_cycle_identity_resolutions` besides its id
    and its unique `cycle_id`. -/
structure ResolutionColumns where
  digisacContactId : Nat
  outcome : ResolutionOutcome
  reason : String
  resolvedAt : Timestamp
  deriving DecidableEq, Repr

/-- What an identity operation raises. -/
inductive IdentityError
  | valueError (message : String)
  | lookupError (message : String)
  /-- `IdentityConflictError` -/
  | conflictingConfirmation
  /-- `IdentityCommandConflictError` -/
  | incompatibleCommand
  /-- `IdentityResolutionError` -/
  | resolution (category message : String)
  | runtimeError (message : String)
  /-- A constraint of the tables. -/
  | constraint
  deriving DecidableEq, Repr

/-! ## §2. Tables. -/

/-- What the operations of this module read and write. -/
structure IdentityTables where
  digisacContacts : DigisacContacts := .empty
  directory : DirectoryTables := {}
  evidence : Keyed EvidenceKey EvidenceColumns := .empty
  links : Keyed (Nat × Nat) LinkColumns := .empty
  transitions : Keyed TransitionKey LinkTransition := .empty
  resolutions : Keyed Nat ResolutionColumns := .empty
  deriving DecidableEq

/-- `_lock_contact` -/
def lockContact (db : IdentityTables) (contactId : Nat) :
    Except IdentityError (Entry String DigisacRow) :=
  match db.digisacContacts.byId? contactId with
  | some contact => .ok contact
  | none => .error (.lookupError "DigiSac contact not found")

/-- INSERT of a link and its first transition. -/
def IdentityTables.addLink (db : IdentityTables) (contactId companyId : Nat) (columns : LinkColumns)
    (key : TransitionKey) (t : LinkTransition) : IdentityTables :=
  { db with
    links := db.links.insertNew (contactId, companyId) columns
    transitions := db.transitions.insertNew key t }

/-- UPDATE of a link, and a transition. -/
def IdentityTables.changeLink (db : IdentityTables) (linkId : Nat) (columns : LinkColumns)
    (key : TransitionKey) (t : LinkTransition) : IdentityTables :=
  { db with
    links := db.links.modifyId linkId fun _ => columns
    transitions := db.transitions.insertNew key t }

/-! ## §3. Discovery. -/

/-- `_upsert_candidate_link` -/
def upsertCandidateLink (now : Timestamp) (contactId companyId : Nat) (db : IdentityTables) :
    IdentityTables :=
  match db.links.find? (contactId, companyId) with
  | some _ => db
  | none =>
      let linkId := db.links.freshId
      db.addLink contactId companyId
        { status := .candidate, source := .automatic, createdAt := now, updatedAt := now }
        (.candidate linkId)
        { linkId, fromState := none, toState := .candidate, source := .automatic
          reason := "discovery" }

/-- `ck_identity_match_evidence_rule_safe`, which has no `@`. -/
def ruleVersionSafe (ruleVersion : String) : Bool :=
  ruleVersion.toList.all fun c => Text.isReasonChar c || c == '.'

/-- `_persist_evidence` -/
def persistEvidence (contactId : Nat) (evidence : MatchEvidence) (ruleVersion : String)
    (observedAt : Timestamp) (db : IdentityTables) : Except IdentityError IdentityTables := do
  require (ruleVersionSafe ruleVersion) .constraint
  return { db with
    evidence := db.evidence.upsert
      ⟨contactId, evidence.acessoriasContactId, evidence.evidenceType, evidence.valueFingerprint,
        ruleVersion⟩
      ⟨evidence.acessoriasCompanyId, observedAt⟩
      fun columns => { columns with observedAt } }

inductive DiscoveryState
  | confirmed
  | conflict
  | candidate
  | ambiguous
  | unresolved
  deriving DecidableEq, Repr

/-- `IdentityDiscoveryResult` -/
structure IdentityDiscoveryResult where
  digisacContactId : Nat
  state : DiscoveryState
  companyIds : List Nat
  linkIds : List Nat
  evidenceCount : Nat
  deriving DecidableEq, Repr

/-- `_current_links` -/
def currentLinks (db : IdentityTables) (contactId : Nat) : List Link :=
  db.links.rows.filter (·.key.1 == contactId)

/-- What `_discover_locked` makes of the links and the matches. -/
def discoveryResult (db : IdentityTables) (contactId : Nat) (found : List MatchEvidence) :
    IdentityDiscoveryResult :=
  let companyIds := (found.map (·.acessoriasCompanyId)).dedup.insertionSort (· ≤ ·)
  let links := currentLinks db contactId
  let confirmed := links.filter (·.value.status.state == .confirmed)
  match confirmed with
  | [link] =>
      { digisacContactId := contactId, state := .confirmed, companyIds := [link.companyId]
        linkIds := [link.id], evidenceCount := found.length }
  | _ =>
      let state : DiscoveryState :=
        if 1 < confirmed.length then .conflict
        else match companyIds with
          | [] => .unresolved
          | [_] => .candidate
          | _ => .ambiguous
      { digisacContactId := contactId, state, companyIds
        linkIds := (links.filter (·.companyId ∈ companyIds)).map (·.id)
        evidenceCount := found.length }

/-- One round of the loop over the matches. -/
def recordMatch (now : Timestamp) (contactId : Nat) (ruleVersion : String) (observedAt : Timestamp)
    (db : IdentityTables) (evidence : MatchEvidence) : Except IdentityError IdentityTables := do
  let db ← persistEvidence contactId evidence ruleVersion observedAt db
  return upsertCandidateLink now contactId evidence.acessoriasCompanyId db

/-- `_discover_locked` -/
def discoverLocked (now : Timestamp) (contactId : Nat) (ruleVersion : String)
    (observedAt : Timestamp) (db : IdentityTables) :
    Except IdentityError (IdentityTables × IdentityDiscoveryResult) := do
  let contact ← lockContact db contactId
  let found := matchIdentity
    { normalizedNumber := contact.value.fields.normalizedNumber
      normalizedEmail := contact.value.fields.normalizedEmail
      isGroup := contact.value.fields.isGroup }
    (loadDirectoryContacts db.directory)
  let after ← found.foldlM (recordMatch now contactId ruleVersion observedAt) db
  return (after, discoveryResult after contactId found)

/-- `_resolution_reason` -/
def resolutionReason (state : DiscoveryState) (companyCount : Nat) (isGroup : Option Bool) : String :=
  match state with
  | .confirmed => "confirmed_link"
  | .conflict => "multiple_confirmed_links"
  | .ambiguous => "multiple_candidate_companies"
  | _ =>
      if isGroup ≠ some false then "group_contact"
      else if companyCount = 1 then "candidate_pending_confirmation"
      else "no_candidate"

/-- The outcome of a resolution. -/
def resolutionOutcome (discovery : IdentityDiscoveryResult) : ResolutionOutcome :=
  match discovery.state, discovery.linkIds with
  | .confirmed, linkId :: _ => .confirmed linkId
  | .conflict, _ => .conflict
  | .ambiguous, _ => .ambiguous
  | _, _ => .unresolved

/-- `_resolve_cycle_identity_sync`, from the row of the cycle on. -/
def resolveCycleLocked (now : Timestamp) (cycleId contactId : Nat) (ruleVersion : String)
    (resolvedAt : Timestamp) (db : IdentityTables) :
    Except IdentityError (IdentityTables × Entry Nat ResolutionColumns) :=
  match db.resolutions.find? cycleId with
  | some existing => .ok (db, existing)
  | none => do
      let (after, discovery) ← discoverLocked now contactId ruleVersion resolvedAt db
      let contact ← lockContact after contactId
      let columns : ResolutionColumns :=
        { digisacContactId := contactId, outcome := resolutionOutcome discovery
          reason := resolutionReason discovery.state discovery.companyIds.length
            contact.value.fields.isGroup
          resolvedAt }
      return ({ after with resolutions := after.resolutions.insertNew cycleId columns },
        ⟨after.resolutions.freshId, cycleId, columns⟩)

/-! ## §4. Confirmation and rejection. -/

/-- What tells the confirmations apart. -/
structure Confirmation where
  confirmedAt : Timestamp
  confirmedBy : Option String
  source : Source := .manualDb
  reason : String := "manual_confirmation"
  deriving DecidableEq, Repr

/-- The transition of a confirmation. -/
def Confirmation.transition (c : Confirmation) (linkId : Nat) (fromState : Option LinkState) :
    LinkTransition :=
  { linkId, fromState, toState := .confirmed, source := c.source, reason := c.reason
    confirmationSource := some c.source, confirmedAt := some c.confirmedAt
    confirmedBy := c.confirmedBy }

/-- The company can be confirmed now. -/
def companyConfirmable (company : DirectoryRow CompanyFields) : Prop :=
  company.isPresent = true ∧ company.isActive ≠ some false

instance (company : DirectoryRow CompanyFields) : Decidable (companyConfirmable company) :=
  inferInstanceAs (Decidable (_ ∧ _))

/-- `_confirm_identity_link_locked` -/
def confirmLocked (now : Timestamp) (contactId companyId : Nat) (c : Confirmation)
    (db : IdentityTables) : Except IdentityError (IdentityTables × Link) := do
  let _contact ← lockContact db contactId
  match db.directory.companies.byId? companyId with
  | none => .error (.lookupError "Acessorias company not found")
  | some company => do
      require (companyConfirmable company.value) (.resolution "directory_company_unavailable"
        "Acessorias company is not currently available")
      require (∀ link ∈ db.links.rows, link.key.1 = contactId →
          link.value.status.state = .confirmed → link.key.2 = companyId) .conflictingConfirmation
      let status : LinkStatus := .confirmed c.source c.confirmedAt c.confirmedBy
      match db.links.find? (contactId, companyId) with
      | none =>
          let linkId := db.links.freshId
          let columns : LinkColumns :=
            { status, source := c.source, createdAt := now, updatedAt := now }
          return (db.addLink contactId companyId columns (.confirm c.source linkId c.confirmedAt)
            (c.transition linkId none), ⟨linkId, (contactId, companyId), columns⟩)
      | some existing =>
          if existing.value.status.state = .confirmed then return (db, existing)
          else
            let columns : LinkColumns :=
              { existing.value with status, source := c.source, updatedAt := now }
            return (db.changeLink existing.id columns
                (.confirm c.source existing.id c.confirmedAt)
                (c.transition existing.id (some existing.value.status.state)),
              { existing with value := columns })

/-- What tells the rejections apart. -/
structure Rejection where
  reason : String
  source : Source := .manualDb
  actor : Option String := none
  appendSameStateTransition : Bool := false
  deriving DecidableEq, Repr

/-- `_reject_identity_link_locked` -/
def rejectLocked (now : Timestamp) (contactId companyId : Nat) (r : Rejection)
    (db : IdentityTables) : Except IdentityError (IdentityTables × Link) := do
  let _contact ← lockContact db contactId
  match db.links.find? (contactId, companyId) with
  | none => .error (.lookupError "identity link not found")
  | some existing =>
      if r.appendSameStateTransition = false ∧ existing.value.status = .rejected r.reason then
        return (db, existing)
      else
        let columns : LinkColumns :=
          { existing.value with status := .rejected r.reason, source := r.source, updatedAt := now }
        return (db.changeLink existing.id columns (.reject r.source existing.id r.reason now)
            { linkId := existing.id, fromState := some existing.value.status.state
              toState := .rejected, source := r.source, reason := r.reason
              confirmedBy := r.actor },
          { existing with value := columns })

end Cai.Identity
