/-
  Cai.Admin.States — the state of a contact, discovered and shown.

  `_discover_locked` counts the companies that match and the confirmed
  links; the list and the detail count candidate links and confirmed links.
  A company that still matches counts for a discovery although its link was
  rejected, and a candidate link counts for the other two although its
  evidence is gone.

  Main results:
    * `shown_classified` — list and detail show the same state.
    * `discovery_shown_iff` — when a discovery returns that state.
    * `rejected_not_shown` — a rejected company that still matches.
-/
import Cai.Admin.Projections
import Cai.Identity.Companies

namespace Cai.Admin

open Cai.Lib
open Cai.Cycle (Timestamp)
open Cai.Directory
open Cai.Identity

variable {pg : Postgres} {db after : IdentityTables} {contactId companyId : Nat}
  {contact : Entry String DigisacRow} {state : LinkState}

/-! ## §1. Links by their state. -/

theorem mem_linksIn {link : Link} :
    link ∈ linksIn db contactId state
      ↔ link ∈ db.links.rows ∧ link.key.1 = contactId ∧ link.value.status.state = state := by
  unfold linksIn currentLinks
  rw [List.mem_filter, List.mem_filter, beq_iff_eq, beq_iff_eq, and_assoc]

/-- The companies of the links of a contact are different. -/
theorem companyIds_nodup : ((linksIn db contactId state).map (·.companyId)).Nodup := by
  have hkeys : ((linksIn db contactId state).map (·.key)).Nodup := by
    refine db.links.keys.sublist (List.Sublist.map _ ?_)
    exact (List.filter_sublist).trans List.filter_sublist
  refine List.pairwise_map.mpr ((List.pairwise_map.mp hkeys).imp_of_mem ?_)
  intro a b ha hb hne hcompany
  exact hne (Prod.ext ((mem_linksIn.mp ha).2.1.trans (mem_linksIn.mp hb).2.1.symm) hcompany)

theorem mem_companyIds :
    companyId ∈ (linksIn db contactId state).map (·.companyId)
      ↔ ∃ columns, db.links.get? (contactId, companyId) = some columns
          ∧ columns.status.state = state := by
  rw [List.mem_map]
  constructor
  · intro ⟨link, hlink, hcompany⟩
    obtain ⟨hmem, hcontact, hstate⟩ := mem_linksIn.mp hlink
    have hkey : link.key = (contactId, companyId) := Prod.ext hcontact hcompany
    exact ⟨link.value, Keyed.get?_eq_some_iff.mpr ⟨link, hmem, hkey, rfl⟩, hstate⟩
  · intro ⟨columns, hget, hstate⟩
    obtain ⟨link, hmem, hkey, rfl⟩ := Keyed.get?_eq_some_iff.mp hget
    exact ⟨link, mem_linksIn.mpr ⟨hmem, by rw [hkey], hstate⟩, by rw [Link.companyId, hkey]⟩

/-! ## §2. List and detail. -/

/-- The company of a link, joined. -/
theorem company_of_known (h : CompaniesKnown db) {link : Link} (hlink : link ∈ db.links.rows) :
    ∃ company, db.directory.companies.byId? link.companyId = some company := by
  obtain ⟨company, hcompany, hid⟩ := h link hlink
  refine ⟨company, ?_⟩
  rw [Link.companyId, ← hid]
  exact Keyed.byId?_of_mem hcompany

/-- The join loses no link of a state. -/
theorem filter_linkProjections :
    (linkProjections db contactId).filter (·.status.state == state)
      = (linksIn db contactId state).filterMap fun link =>
          (db.directory.companies.byId? link.companyId).map (linkProjection link) := by
  unfold linkProjections linksIn
  rw [List.filter_filterMap, List.filterMap_filter]
  refine List.filterMap_congr fun link _ => ?_
  cases db.directory.companies.byId? link.companyId with
  | none => simp
  | some company =>
      rw [Option.map_some, Option.filter_some]
      rfl

theorem length_joined (h : CompaniesKnown db) {links : List Link}
    (hlinks : ∀ link ∈ links, link ∈ db.links.rows) :
    (links.filterMap fun link =>
      (db.directory.companies.byId? link.companyId).map (linkProjection link)).length
      = links.length := by
  induction links with
  | nil => rfl
  | cons link links ih =>
      obtain ⟨company, hcompany⟩ := company_of_known h (hlinks link List.mem_cons_self)
      have hrest := ih fun l hl => hlinks l (List.mem_cons_of_mem _ hl)
      rw [List.filterMap_cons, hcompany]
      exact congrArg (· + 1) hrest

/-- The detail counts the confirmed links, … -/
theorem countP_confirmed (h : CompaniesKnown db) :
    (linkProjections db contactId).countP (·.status.state == .confirmed)
      = (linksIn db contactId .confirmed).length := by
  rw [List.countP_eq_length_filter, filter_linkProjections]
  exact length_joined h fun link hlink => (mem_linksIn.mp hlink).1

/-- … and the candidate links: no two companies share an external id. -/
theorem length_candidateExternalIds (h : CompaniesKnown db) :
    (candidateExternalIds (linkProjections db contactId)).length
      = (linksIn db contactId .candidate).length := by
  unfold candidateExternalIds
  rw [filter_linkProjections]
  have hnodup : (((linksIn db contactId .candidate).filterMap fun link =>
      (db.directory.companies.byId? link.companyId).map (linkProjection link)).map
        (·.companyExternalId)).Nodup := by
    refine List.pairwise_map.mpr (List.pairwise_filterMap.mpr ?_)
    refine (List.pairwise_map.mp companyIds_nodup).imp ?_
    intro a b hne p hp q hq heq
    obtain ⟨company, hcompany, rfl⟩ := Option.map_eq_some_iff.mp hp
    obtain ⟨company', hcompany', rfl⟩ := Option.map_eq_some_iff.mp hq
    have hsame : company = company' :=
      Keyed.eq_of_key (Keyed.mem_of_byId? hcompany) (Keyed.mem_of_byId? hcompany') heq
    rw [← Keyed.id_of_byId? hcompany, ← Keyed.id_of_byId? hcompany', hsame] at hne
    exact hne rfl
  rw [hnodup.dedup, List.length_map]
  exact length_joined h fun link hlink => (mem_linksIn.mp hlink).1

/-- The state that is shown for a contact. -/
def shownState (db : IdentityTables) (contactId : Nat) : DiscoveryState :=
  currentState (linksIn db contactId .candidate).length (linksIn db contactId .confirmed).length

theorem classify_currentState : (classify db contact).currentState = shownState db contact.id := by
  show currentState ((linksIn db contact.id .candidate).map (·.companyId)).dedup.length _ = _
  rw [companyIds_nodup.dedup, List.length_map]
  rfl

/-- A contact is in a state, by its links.  A rejected link says nothing of the current state. -/
def InState (db : IdentityTables) (contactId : Nat) : IdentityState → Prop
  | .rejected => linksIn db contactId .rejected ≠ []
  | .current .conflict => 1 < (linksIn db contactId .confirmed).length
  | .current .confirmed => (linksIn db contactId .confirmed).length = 1
  | .current .ambiguous =>
      linksIn db contactId .confirmed = [] ∧ 1 < (linksIn db contactId .candidate).length
  | .current .candidate =>
      linksIn db contactId .confirmed = [] ∧ (linksIn db contactId .candidate).length = 1
  | .current .unresolved =>
      linksIn db contactId .confirmed = [] ∧ linksIn db contactId .candidate = []

/-- The filter of the list asks for that state. -/
theorem inState_iff {wanted : IdentityState} :
    InState db contactId wanted ↔ IdentityState.current (shownState db contactId) = wanted
      ∨ (wanted = .rejected ∧ 0 < (linksIn db contactId .rejected).length) := by
  unfold shownState currentState
  cases wanted with
  | rejected =>
      show linksIn db contactId .rejected ≠ [] ↔ _
      rw [← List.length_pos_iff]
      constructor
      · exact fun h => .inr ⟨rfl, h⟩
      · intro h
        rcases h with h | h
        · cases h
        · exact h.2
  | current state =>
      cases state with
      | _ =>
          simp only [InState, IdentityState.current.injEq, reduceCtorEq, false_and, or_false,
            ← List.length_eq_zero_iff]
          split_ifs <;> simp only [iff_true, iff_false] <;> omega

/-- Detail and list show a state for a contact. -/
structure ShownAs (pg : Postgres) (db : IdentityTables) (contact : Entry String DigisacRow)
    (state : DiscoveryState) : Prop where
  detail : ∃ detail, getIdentityContactProjection pg db contact.key = some detail
    ∧ detail.state = state
  /-- On whatever page of the list, under a filter other than `rejected`. -/
  listed : ∀ filter query after limit page, filter ≠ some .rejected →
    listIdentityLinkProjection pg db filter query after limit = .ok page →
    ∀ item ∈ page.items, item.contactExternalId = contact.key → item.state = .current state
  /-- Without a filter, and under its state, some page lists it, however long the pages are. -/
  shown : ∀ filter, filter = none ∨ filter = some (.current state) →
    ∀ limit, 1 ≤ limit → limit ≤ 100 → ∃ after page,
      listIdentityLinkProjection pg db filter none after limit = .ok page
        ∧ ∃ item ∈ page.items, item.contactExternalId = contact.key ∧ item.state = .current state
  /-- It is listed under its state, and under no other one. -/
  filtered : ∀ filter, filter ≠ .rejected →
    ((classify db contact).isListed pg (some filter) none = true ↔ filter = .current state)

/-- No two listed contacts have one position. -/
theorem nodup_listedContacts (pg : Postgres) (db : IdentityTables) (filter : Option IdentityState)
    (query : Option String) :
    ((listedContacts pg db filter query).map fun row => (row.externalId, row.contactId)).Nodup := by
  have hids : (db.digisacContacts.rows.map (·.id)).Nodup :=
    db.digisacContacts.ids.imp fun hlt => Nat.ne_of_lt hlt
  have hall : ((db.digisacContacts.rows.map (classify db)).map
      fun row => (row.externalId, row.contactId)).Nodup := by
    refine List.Nodup.of_map Prod.snd ?_
    rw [List.map_map, List.map_map]
    exact hids
  unfold listedContacts
  exact hall.sublist (List.filter_sublist.map _)

theorem distinct_listedContacts (pg : Postgres) (db : IdentityTables)
    (filter : Option IdentityState) (query : Option String) :
    Keyset.Distinct (ClassifiedContact.key pg) (listedContacts pg db filter query) := by
  have hmap : (listedContacts pg db filter query).map (ClassifiedContact.key pg)
      = ((listedContacts pg db filter query).map fun row => (row.externalId, row.contactId)).map
        toLex := by
    rw [List.map_map]
    rfl
  unfold Keyset.Distinct
  rw [hmap]
  exact (nodup_listedContacts pg db filter query).map toLex.injective

/-- A contact that matches a filter is on a page of the list. -/
theorem exists_page_of_listed (hcontact : contact ∈ db.digisacContacts.rows)
    {filter : Option IdentityState} (hfilter : filter ≠ some .rejected)
    (hlisted : (classify db contact).isListed pg filter none = true) {limit : Nat}
    (hpos : 1 ≤ limit) (hle : limit ≤ 100) :
    ∃ after page, listIdentityLinkProjection pg db filter none after limit = .ok page
      ∧ ∃ item ∈ page.items, item.contactExternalId = contact.key
        ∧ item.state = .current (shownState db contact.id) := by
  have hmem : classify db contact ∈ listedContacts pg db filter none :=
    List.mem_filter.mpr ⟨List.mem_map_of_mem hcontact, hlisted⟩
  obtain ⟨after, hrow⟩ :=
    Keyset.exists_page hpos (distinct_listedContacts pg db filter none) hmem
  -- a position is a key of the database
  obtain ⟨position, rfl⟩ : ∃ position : Option (String × Nat), position.map (pageKey pg) = after := by
    cases after with
    | none => exact ⟨none, rfl⟩
    | some k => exact ⟨some (ofLex k), rfl⟩
  refine ⟨position, _, if_pos ⟨hpos, hle⟩, linkListItem pg db filter (classify db contact),
    ?_, rfl, ?_⟩
  · exact List.mem_map_of_mem hrow
  · show (if filter = some .rejected ∧ _ then IdentityState.rejected
      else .current (classify db contact).currentState) = _
    rw [if_neg fun hrejected => hfilter hrejected.1, classify_currentState]

/-- **List and detail show the same state.** -/
theorem shown_classified (h : CompaniesKnown db) (hcontact : contact ∈ db.digisacContacts.rows) :
    ShownAs pg db contact (shownState db contact.id) where
  detail := by
    unfold getIdentityContactProjection
    rw [Keyed.find?_of_mem hcontact]
    refine ⟨_, rfl, ?_⟩
    show currentState (candidateExternalIds _).length (List.countP _ _) = _
    rw [length_candidateExternalIds h, countP_confirmed h]
    rfl
  listed := by
    intro filter query after limit page hfilter hpage item hitem hkey
    unfold listIdentityLinkProjection at hpage
    split at hpage
    next =>
      cases hpage
      obtain ⟨row, hrow, rfl⟩ := List.mem_map.mp hitem
      have hlisted := List.mem_filter.mp (Keyset.mem_page hrow).1
      obtain ⟨other, hother, rfl⟩ := List.mem_map.mp hlisted.1
      obtain rfl : other = contact := Keyed.eq_of_key hother hcontact hkey
      show (if filter = some .rejected ∧ _ then IdentityState.rejected
        else .current (classify db other).currentState) = _
      rw [if_neg fun hrejected => hfilter hrejected.1, classify_currentState]
    next => cases hpage
  shown := by
    intro filter hfilter limit hpos hle
    rcases hfilter with rfl | rfl
    · exact @exists_page_of_listed pg db contact hcontact none nofun rfl limit hpos hle
    · have hlisted : (classify db contact).isListed pg
          (some (.current (shownState db contact.id))) none = true := by
        unfold ClassifiedContact.isListed
        rw [classify_currentState]
        simp [queryMatches]
      exact exists_page_of_listed hcontact (by simp) hlisted hpos hle
  filtered := by
    intro filter hfilter
    have hnot : (filter == IdentityState.rejected) = false := beq_eq_false_iff_ne.mpr hfilter
    unfold ClassifiedContact.isListed
    dsimp only [queryMatches]
    rw [hnot, Bool.false_and, Bool.or_false, Bool.and_true, beq_iff_eq, classify_currentState]
    exact eq_comm

/-! ## §3. A discovery. -/

/-- The companies that match a contact now. -/
def matched (db : IdentityTables) (contactId : Nat) : List Nat :=
  match db.digisacContacts.byId? contactId with
  | none => []
  | some contact =>
      ((matchIdentity (matchInput contact.value) (loadDirectoryContacts db.directory)).map
        (·.acessoriasCompanyId)).dedup

/-- Those of them that the contact has no link with. -/
def newlyMatched (db : IdentityTables) (contactId : Nat) : List Nat :=
  (matched db contactId).filter fun companyId => (db.links.get? (contactId, companyId)).isNone

/-- The contact has a confirmed link; or the companies that match, and those with a candidate
    link or without any link that matches, are none, one or several alike. -/
def MatchesShown (db : IdentityTables) (contactId : Nat) : Prop :=
  linksIn db contactId .confirmed ≠ []
    ∨ min (matched db contactId).length 2
        = min ((linksIn db contactId .candidate).length + (newlyMatched db contactId).length) 2

instance : Decidable (MatchesShown db contactId) := inferInstanceAs (Decidable (_ ∨ _))

theorem matched_nodup : (matched db contactId).Nodup := by
  unfold matched
  split
  next => exact List.nodup_nil
  next => exact List.nodup_dedup _

/-- No company has a candidate link and none at all. -/
theorem candidates_nodup :
    ((linksIn db contactId .candidate).map (·.companyId) ++ newlyMatched db contactId).Nodup := by
  refine List.Nodup.append companyIds_nodup (matched_nodup.filter _) fun companyId hold hnew => ?_
  obtain ⟨columns, hget, -⟩ := mem_companyIds.mp hold
  have hnone := (List.mem_filter.mp hnew).2
  rw [hget] at hnone
  cases hnone

/-- The two ways to fail: a company that matches is rejected, or one of a candidate link no longer
    matches. -/
theorem matchesShown_of_current
    (hrejected : ∀ companyId ∈ matched db contactId,
      companyId ∉ (linksIn db contactId .rejected).map (·.companyId))
    (hcurrent : ∀ companyId ∈ (linksIn db contactId .candidate).map (·.companyId),
      companyId ∈ matched db contactId) : MatchesShown db contactId := by
  by_cases hconfirmed : linksIn db contactId .confirmed = []
  · right
    have hperm : (matched db contactId).Perm
        ((linksIn db contactId .candidate).map (·.companyId) ++ newlyMatched db contactId) := by
      rw [List.perm_ext_iff_of_nodup matched_nodup candidates_nodup]
      intro companyId
      unfold newlyMatched
      rw [List.mem_append, List.mem_filter, Option.isNone_iff_eq_none]
      refine ⟨fun hmatch => ?_, fun h => h.elim (hcurrent companyId) And.left⟩
      cases hget : db.links.get? (contactId, companyId) with
      | none => exact .inr ⟨hmatch, rfl⟩
      | some columns =>
          left
          cases hstate : columns.status.state with
          | candidate => exact mem_companyIds.mpr ⟨columns, hget, hstate⟩
          | rejected =>
              exact absurd (mem_companyIds.mpr ⟨columns, hget, hstate⟩) (hrejected companyId hmatch)
          | confirmed =>
              have hmem := mem_companyIds.mpr ⟨columns, hget, hstate⟩
              rw [hconfirmed] at hmem
              exact absurd hmem List.not_mem_nil
    have hlength := hperm.length_eq
    rw [List.length_append, List.length_map] at hlength
    rw [hlength]
  · exact .inl hconfirmed

/-- Two states with the same confirmed links. -/
theorem currentState_eq_iff {candidates candidates' confirmed : Nat} :
    currentState candidates confirmed = currentState candidates' confirmed
      ↔ confirmed ≠ 0 ∨ min candidates 2 = min candidates' 2 := by
  unfold currentState
  split_ifs <;> simp <;> omega

/-- The state of a discovery, as a count. -/
theorem discoveryResult_state (found : List MatchEvidence) :
    (discoveryResult db contactId found).state
      = currentState (found.map (·.acessoriasCompanyId)).dedup.length
          (linksIn db contactId .confirmed).length := by
  have hconfirmed : linksIn db contactId .confirmed = confirmedLinks db contactId :=
    filter_currentLinks
  have hlength := List.length_insertionSort (· ≤ ·) (found.map (·.acessoriasCompanyId)).dedup
  rw [hconfirmed]
  by_cases hone : ∃ link, confirmedLinks db contactId = [link]
  · obtain ⟨link, hlink⟩ := hone
    rw [discoveryResult_of_confirmed hlink, hlink]
    rfl
  · have hnot : (confirmedLinks db contactId).length ≠ 1 :=
      fun h => hone (List.length_eq_one_iff.mp h)
    rw [discoveryResult_of_not_confirmed fun link h => hone ⟨link, h⟩]
    unfold currentState
    dsimp only
    rw [if_neg hnot, ← hlength]
    refine if_congr Iff.rfl rfl ?_
    generalize (found.map (·.acessoriasCompanyId)).dedup.insertionSort (· ≤ ·) = companyIds
    match companyIds with
    | [] => rfl
    | [_] => rfl
    | _ :: _ :: rest =>
        have hmany : 1 < rest.length + 1 + 1 := by omega
        exact (if_pos hmany).symm

variable {now observedAt : Timestamp} {ruleVersion : String} {result : IdentityDiscoveryResult}

/-- The links of a state after a discovery: new ones are candidates. -/
theorem mem_companyIds_after {found : List MatchEvidence} :
    companyId ∈ (linksIn (recordAll now contactId ruleVersion observedAt found db) contactId
        state).map (·.companyId)
      ↔ companyId ∈ (linksIn db contactId state).map (·.companyId)
        ∨ (state = .candidate ∧ companyId ∈ found.map (·.acessoriasCompanyId)
          ∧ db.links.get? (contactId, companyId) = none) := by
  rw [mem_companyIds, mem_companyIds, links_recordAll]
  cases hold : db.links.get? (contactId, companyId) with
  | some columns => simp
  | none =>
      rw [Option.none_or]
      constructor
      · intro ⟨columns, hnew, hstate⟩
        rw [Option.ite_none_right_eq_some] at hnew
        rw [← Option.some.inj hnew.2] at hstate
        exact .inr ⟨hstate.symm, hnew.1.2, rfl⟩
      · intro h
        rcases h with ⟨columns, hnone, -⟩ | ⟨hcandidate, hfound, -⟩
        · cases hnone
        · exact ⟨newCandidate now, by rw [if_pos ⟨rfl, hfound⟩], hcandidate.symm⟩

/-- The confirmed links stay. -/
theorem length_confirmed_after {found : List MatchEvidence} :
    (linksIn (recordAll now contactId ruleVersion observedAt found db) contactId .confirmed).length
      = (linksIn db contactId .confirmed).length := by
  have hperm : ((linksIn (recordAll now contactId ruleVersion observedAt found db) contactId
      .confirmed).map (·.companyId)).Perm ((linksIn db contactId .confirmed).map (·.companyId)) := by
    rw [List.perm_ext_iff_of_nodup companyIds_nodup companyIds_nodup]
    intro companyId
    rw [mem_companyIds_after]
    simp
  simpa using hperm.length_eq

/-- The candidate links after a discovery. -/
theorem length_candidate_after {contact : Entry String DigisacRow}
    (hcontact : db.digisacContacts.byId? contactId = some contact) :
    (linksIn (recordAll now contactId ruleVersion observedAt
        (matchIdentity (matchInput contact.value) (loadDirectoryContacts db.directory)) db)
        contactId .candidate).length
      = (linksIn db contactId .candidate).length + (newlyMatched db contactId).length := by
  have hmatched : matched db contactId
      = ((matchIdentity (matchInput contact.value) (loadDirectoryContacts db.directory)).map
          (·.acessoriasCompanyId)).dedup := by
    unfold matched
    rw [hcontact]
  have hperm : ((linksIn (recordAll now contactId ruleVersion observedAt
      (matchIdentity (matchInput contact.value) (loadDirectoryContacts db.directory)) db)
      contactId .candidate).map (·.companyId)).Perm
        ((linksIn db contactId .candidate).map (·.companyId) ++ newlyMatched db contactId) := by
    rw [List.perm_ext_iff_of_nodup companyIds_nodup candidates_nodup]
    intro companyId
    rw [mem_companyIds_after, List.mem_append]
    refine or_congr Iff.rfl ?_
    unfold newlyMatched
    rw [List.mem_filter, hmatched, List.mem_dedup, Option.isNone_iff_eq_none]
    exact ⟨fun h => h.2, fun h => ⟨rfl, h⟩⟩
  have hlength := hperm.length_eq
  rw [List.length_map, List.length_append, List.length_map] at hlength
  exact hlength

/-- **The state that a discovery returns is the one that is shown** exactly under the
    condition. -/
theorem discoverLocked_shown_iff
    (h : discoverLocked now contactId ruleVersion observedAt db = .ok (after, result)) :
    result.state = shownState after contactId ↔ MatchesShown db contactId := by
  obtain ⟨contact, hcontact, rfl, rfl⟩ := discoverLocked_eq_recordAll h
  rw [discoveryResult_state, shownState, currentState_eq_iff, length_confirmed_after,
    length_candidate_after hcontact]
  unfold MatchesShown
  refine or_congr ?_ ?_
  · rw [ne_eq, List.length_eq_zero_iff]
  · unfold matched
    rw [hcontact]

/-- **Discovery and projections.**  After every run the list and the detail show the same state
    for every contact; and a discovery returns the state that they show right after it exactly
    under the condition. -/
theorem discovery_shown_iff {s : IdentityWorld} (hreach : identityMachine.Reachable s)
    (pg : Postgres) :
    (∀ contact ∈ s.tables.digisacContacts.rows, ∃ state, ShownAs pg s.tables contact state)
      ∧ ∀ now contactId ruleVersion observedAt after result,
        discoverLocked now contactId ruleVersion observedAt s.tables = .ok (after, result) →
        ∃ contact ∈ after.digisacContacts.rows, contact.id = contactId
          ∧ ∃ state, ShownAs pg after contact state
            ∧ (result.state = state ↔ MatchesShown s.tables contactId) := by
  have hknown := reachable_companiesKnown hreach
  refine ⟨fun contact hcontact => ⟨_, shown_classified hknown hcontact⟩, ?_⟩
  intro now contactId ruleVersion observedAt after result h
  have hafter := companiesKnown_kept.discover _ _ _ _ _ _ _ hknown h
  obtain ⟨-, hsame, -⟩ := discoverLocked_ok h
  obtain ⟨contact, hcontact, -⟩ := discoverLocked_eq_recordAll h
  have hmem : contact ∈ after.digisacContacts.rows := by
    rw [hsame.digisacContacts]
    exact Keyed.mem_of_byId? hcontact
  refine ⟨contact, hmem, Keyed.id_of_byId? hcontact, _, shown_classified hafter hmem, ?_⟩
  rw [Keyed.id_of_byId? hcontact]
  exact discoverLocked_shown_iff h

/-! Two companies match a contact, and one of them is rejected. -/

def discoverBoth : List IdentityAction :=
  [.environment matchingContact twoCompanies [], .discover 1 1 "spec0009-v1.1" 1]

def rejectFirst : List IdentityAction := discoverBoth ++ [.reject 2 1 1 "wrong_company"]

/-- A discovery after `actions`: the state it returns, the state that is shown, and the
    condition. -/
def discoveryAfter (actions : List IdentityAction) :
    Option (DiscoveryState × DiscoveryState × Bool) := do
  let s ← identityMachine.exec {} actions
  let (after, result) ← (discoverLocked 3 1 "spec0009-v1.1" 3 s.tables).toOption
  return (result.state, shownState after 1, decide (MatchesShown s.tables 1))

/-- What `discoveryAfter` has run. -/
theorem exists_of_discoveryAfter {actions : List IdentityAction} {state shown : DiscoveryState}
    {condition : Bool} (h : discoveryAfter actions = some (state, shown, condition)) :
    ∃ s, identityMachine.Reachable s ∧ decide (MatchesShown s.tables 1) = condition
      ∧ ∃ after result, discoverLocked 3 1 "spec0009-v1.1" 3 s.tables = .ok (after, result)
        ∧ result.state = state ∧ shownState after 1 = shown := by
  obtain ⟨s, hexec, h⟩ := Option.bind_eq_some_iff.mp h
  obtain ⟨⟨after, result⟩, hdiscover, h⟩ := Option.bind_eq_some_iff.mp h
  have hreach : identityMachine.Reachable s :=
    Machine.reachable_of_exec ⟨rfl, rfl, rfl, rfl, rfl, rfl, rfl⟩ hexec
  simp only [Option.pure_def, Option.some.injEq, Prod.mk.injEq] at h
  obtain ⟨hstate, hshown, hcondition⟩ := h
  cases hresult : discoverLocked 3 1 "spec0009-v1.1" 3 s.tables with
  | error e =>
      rw [hresult] at hdiscover
      cases hdiscover
  | ok r =>
      rw [hresult] at hdiscover
      cases hdiscover
      exact ⟨s, hreach, hcondition, after, result, hresult, hstate, hshown⟩

/-- Both are found, and both are shown. -/
theorem both_shown :
    ∃ s, identityMachine.Reachable s ∧ ∀ pg, ∃ after result contact,
      discoverLocked 3 1 "spec0009-v1.1" 3 s.tables = .ok (after, result)
        ∧ contact ∈ after.digisacContacts.rows ∧ contact.id = 1
        ∧ ShownAs pg after contact .ambiguous ∧ result.state = .ambiguous := by
  have hrun : discoveryAfter discoverBoth = some (.ambiguous, .ambiguous, true) := by decide +kernel
  obtain ⟨s, hreach, hcondition, after, result, hdiscover, hstate, -⟩ :=
    exists_of_discoveryAfter hrun
  refine ⟨s, hreach, fun pg => ?_⟩
  obtain ⟨contact, hcontact, hid, state, hshown, hiff⟩ :=
    (discovery_shown_iff hreach pg).2 3 1 "spec0009-v1.1" 3 after result hdiscover
  have heq := hiff.mpr (of_decide_eq_true hcondition)
  exact ⟨after, result, contact, hdiscover, hcontact, hid, by rw [← hstate, heq]; exact hshown, hstate⟩

/-- **The rejected company still matches:** the discovery returns `ambiguous`, and list and detail
    show `candidate` right after it. -/
theorem rejected_not_shown :
    ∃ s, identityMachine.Reachable s ∧ ∃ after result contact,
      discoverLocked 3 1 "spec0009-v1.1" 3 s.tables = .ok (after, result)
        ∧ contact ∈ after.digisacContacts.rows ∧ contact.id = 1
        ∧ (∀ pg, ShownAs pg after contact .candidate) ∧ result.state = .ambiguous := by
  have hrun : discoveryAfter rejectFirst = some (.ambiguous, .candidate, false) := by decide +kernel
  obtain ⟨s, hreach, -, after, result, hdiscover, hstate, hshown⟩ := exists_of_discoveryAfter hrun
  have hknown := companiesKnown_kept.discover _ _ _ _ _ _ _ (reachable_companiesKnown hreach) hdiscover
  obtain ⟨contact, hcontact, hafter, -⟩ := discoverLocked_eq_recordAll hdiscover
  have hid := Keyed.id_of_byId? hcontact
  have hmem : contact ∈ after.digisacContacts.rows := by
    obtain ⟨-, hsame, -⟩ := discoverLocked_ok hdiscover
    rw [hsame.digisacContacts]
    exact Keyed.mem_of_byId? hcontact
  refine ⟨s, hreach, after, result, contact, hdiscover, hmem, hid, fun pg => ?_, hstate⟩
  have hshows : ShownAs pg after contact (shownState after contact.id) :=
    shown_classified hknown hmem
  rw [hid, hshown] at hshows
  exact hshows

end Cai.Admin
