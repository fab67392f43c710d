/-
  Cai.Admin.Pages — the two lists of the administration, page by page.

  `identity_link_list` and `active_company_list` of `src/api/admin_routes.py`,
  for requests that carry the token.  A client walks over a list: each call
  passes the cursor of the response before it, and the tables may change
  between two calls.

  Main results:
    * `responses_eq` — the responses are the pages of a keyset walk.
    * `answer_accepts`, `answer_refuses` — which list takes a cursor.
    * `admin_pages` — what a walk lists, and who takes its cursors.
-/
import Mathlib.Data.String.Basic
import Cai.Admin.Cursors
import Cai.Admin.States
import Cai.Lib.Fallible

namespace Cai.Admin

open Cai.Lib
open Cai.Directory
open Cai.Identity

/-! ## §1. What a request asks for. -/

/-- The texts of `IDENTITY_STATES`. -/
def IdentityState.text : IdentityState → String
  | .current .candidate => "candidate"
  | .current .confirmed => "confirmed"
  | .rejected => "rejected"
  | .current .ambiguous => "ambiguous"
  | .current .unresolved => "unresolved"
  | .current .conflict => "conflict"

def identityStates : List IdentityState :=
  [.current .candidate, .current .confirmed, .rejected, .current .ambiguous, .current .unresolved,
    .current .conflict]

/-- `_validated_state` -/
def validatedState (value : Option String) : Except ListError (Option IdentityState) :=
  match value with
  | none => .ok none
  | some value =>
      let normalized := Text.lower (Text.strip value)
      match identityStates.find? (·.text == normalized) with
      | none => .error (.http 400 "Invalid identity state")
      | some state => .ok (some state)

/-- `_validated_limit` -/
def validatedLimit (value : String) : Except ListError Nat :=
  match Text.parseInt value with
  | none => .error (.http 400 "limit must be an integer")
  | some parsed =>
      if toString parsed ≠ Text.strip value ∨ ¬(1 ≤ parsed ∧ parsed ≤ 100) then
        .error (.http 400 "limit must be between 1 and 100")
      else .ok parsed.toNat

/-- `_validated_query` -/
def validatedQuery (value : Option String) : Except ListError (Option String) :=
  match value with
  | none => .ok none
  | some value =>
      let normalized := Text.strip value
      if 120 < normalized.length then .error (.http 400 "query is too long")
      else .ok (if normalized = "" then none else some normalized)

theorem validatedLimit_le {value : String} {limit : Nat} (h : validatedLimit value = .ok limit) :
    1 ≤ limit ∧ limit ≤ 100 := by
  unfold validatedLimit at h
  split at h
  next => cases h
  next parsed _ =>
    obtain ⟨hvalid, heq⟩ := refused_eq_ok_iff.mp h
    have hlimit : parsed.toNat = limit := Except.ok.inj heq
    have hrange : 1 ≤ parsed ∧ parsed ≤ 100 := by
      by_contra hnot
      exact hvalid (.inr hnot)
    omega

/-! ## §2. The two lists. -/

/-- `IdentityLinkListResponse`, `CompanyListResponse` -/
structure ListResponse (α : Type) where
  items : List α
  nextCursor : Option String
  deriving DecidableEq, Repr

variable (lib : CursorLibrary) (token : String) (pg : Postgres)

/-- The position that a cursor carries; an empty one is none. -/
def positionOf (scope : String) (parameters : Parameters) (cursor : Option String) :
    Except ListError (Option (String × Nat)) :=
  match cursor with
  | none => .ok none
  | some cursor =>
      if cursor = "" then .ok none
      else (decodeCursor lib token cursor scope parameters).map some

/-- What the lists do with a cursor: they read the position behind it, and write the next one. -/
def answer {α : Type} (scope : String) (parameters : Parameters)
    (project : Option (String × Nat) → Except String (ListPage α)) (cursor : Option String) :
    Except ListError (ListResponse α) := do
  let after ← positionOf lib token scope parameters cursor
  let projection ← (project after).mapError .valueError
  return { items := projection.items
           nextCursor := projection.nextAfter.map (encodeCursor lib token scope parameters) }

/-- `identity_link_list` -/
def identityLinkList (db : IdentityTables) (state query cursor : Option String) (limit : String) :
    Except ListError (ListResponse LinkListItem) := do
  let selectedState ← validatedState state
  let selectedQuery ← validatedQuery query
  let selectedLimit ← validatedLimit limit
  answer lib token "identity-links"
    [("state", selectedState.map (·.text)), ("query", selectedQuery)]
    (fun after => listIdentityLinkProjection pg db selectedState selectedQuery after selectedLimit) cursor

/-- `active_company_list` -/
def activeCompanyList (db : IdentityTables) (query cursor : Option String) (limit : String) :
    Except ListError (ListResponse CompanyProjection) := do
  let selectedQuery ← validatedQuery query
  let selectedLimit ← validatedLimit limit
  answer lib token "companies" [("query", selectedQuery)]
    (fun after => listActiveCompanies pg db selectedQuery after selectedLimit) cursor

/-! ## §3. A list under a filter. -/

/-- A list under a filter: the rows that match in given tables, and what is said of them. -/
structure Listing (ρ α : Type) where
  scope : String
  parameters : Parameters
  /-- No parameter is named twice. -/
  names : (parameters.map (·.1)).Nodup
  rows : IdentityTables → List ρ
  /-- `(external_id, id)` -/
  position : ρ → String × Nat
  /-- No two rows have one position. -/
  distinct : ∀ db, ((rows db).map position).Nodup
  item : IdentityTables → ρ → α
  /-- A row with that position matches the filter, by the tables alone. -/
  Matches : IdentityTables → String × Nat → Prop
  matches_iff : ∀ db p, Matches db p ↔ ∃ r ∈ rows db, position r = p

/-- A query finds one of the texts; a blank one asks for nothing. -/
def Searched (pg : Postgres) (query : Option String) (texts : List String) : Prop :=
  ∀ text, query = some text → text ≠ "" →
    ∃ found ∈ texts, pg.ilike found ("%" ++ text ++ "%") = true

theorem queryMatches_iff {pg : Postgres} {query : Option String} {texts : List String} :
    queryMatches pg query texts = true ↔ Searched pg query texts := by
  unfold queryMatches Searched
  cases query with
  | none => exact ⟨fun _ => nofun, fun _ => rfl⟩
  | some text =>
      unfold searched
      simp only [Bool.or_eq_true, beq_iff_eq, List.any_eq_true, Option.some.injEq, ne_eq]
      constructor
      · rintro (hempty | hfound) text' rfl hne
        · exact absurd hempty hne
        · exact hfound
      · intro h
        by_cases hempty : text = ""
        · exact .inl hempty
        · exact .inr (h text rfl hempty)

/-- The name by which a contact is searched: the first of its names that is
    not blank, or its external id. -/
def searchName (contact : Entry String DigisacRow) : String :=
  ((contact.value.fields.name.bind nullifBlank).or
    ((contact.value.fields.alternativeName.bind nullifBlank).or
      (contact.value.fields.internalName.bind nullifBlank))).getD contact.key

/-- A contact with that position exists, is in the state and is found by the query. -/
def ContactMatches (pg : Postgres) (state : Option IdentityState) (query : Option String)
    (db : IdentityTables) (position : String × Nat) : Prop :=
  ∃ contact ∈ db.digisacContacts.rows, (contact.key, contact.id) = position
    ∧ (∀ wanted, state = some wanted → InState db contact.id wanted)
    ∧ Searched pg query [contact.key, searchName contact]

/-- A company with that position exists, is present and active and is found by the query. -/
def CompanyMatches (pg : Postgres) (query : Option String) (db : IdentityTables)
    (position : String × Nat) : Prop :=
  ∃ company ∈ db.directory.companies.rows, (company.key, company.id) = position
    ∧ company.value.isPresent = true ∧ company.value.isActive = some true
    ∧ Searched pg query
      [company.key, company.value.fields.legalName, company.value.fields.tradeName]

/-- The WHERE clause of the contacts. -/
theorem isListed_iff {pg : Postgres} {db : IdentityTables} {state : Option IdentityState}
    {query : Option String} {contact : Entry String DigisacRow} :
    (classify db contact).isListed pg state query = true
      ↔ (∀ wanted, state = some wanted → InState db contact.id wanted)
        ∧ Searched pg query [contact.key, searchName contact] := by
  unfold ClassifiedContact.isListed
  rw [Bool.and_eq_true]
  refine and_congr ?_ queryMatches_iff
  cases state with
  | none => exact ⟨fun _ => nofun, fun _ => rfl⟩
  | some wanted =>
      dsimp only
      rw [classify_currentState, Bool.or_eq_true, Bool.and_eq_true, beq_iff_eq, beq_iff_eq,
        decide_eq_true_iff]
      constructor
      · intro h wanted' hwanted
        rw [← Option.some.inj hwanted]
        exact inState_iff.mpr h
      · exact fun h => inState_iff.mp (h wanted rfl)

theorem contactMatches_iff {pg : Postgres} {db : IdentityTables} {state : Option IdentityState}
    {query : Option String} {position : String × Nat} :
    ContactMatches pg state query db position
      ↔ ∃ r ∈ listedContacts pg db state query, (r.externalId, r.contactId) = position := by
  unfold listedContacts
  constructor
  · rintro ⟨contact, hcontact, rfl, hmatches⟩
    exact ⟨classify db contact,
      List.mem_filter.mpr ⟨List.mem_map_of_mem hcontact, isListed_iff.mpr hmatches⟩, rfl⟩
  · rintro ⟨r, hr, rfl⟩
    obtain ⟨hmem, hlisted⟩ := List.mem_filter.mp hr
    obtain ⟨contact, hcontact, rfl⟩ := List.mem_map.mp hmem
    exact ⟨contact, hcontact, rfl, isListed_iff.mp hlisted⟩

theorem companyMatches_iff {pg : Postgres} {db : IdentityTables} {query : Option String}
    {position : String × Nat} :
    CompanyMatches pg query db position
      ↔ ∃ r ∈ listedCompanies pg db query, (r.key, r.id) = position := by
  have hlisted : ∀ company : CompanyRow, company ∈ listedCompanies pg db query
      ↔ company ∈ db.directory.companies.rows ∧ company.value.isPresent = true
        ∧ company.value.isActive = some true ∧ Searched pg query
          [company.key, company.value.fields.legalName, company.value.fields.tradeName] := by
    intro company
    unfold listedCompanies
    rw [List.mem_filter, Bool.and_eq_true, Bool.and_eq_true, beq_iff_eq, queryMatches_iff, and_assoc]
  constructor
  · rintro ⟨company, hcompany, hposition, hmatches⟩
    exact ⟨company, (hlisted company).mpr ⟨hcompany, hmatches⟩, hposition⟩
  · rintro ⟨company, hcompany, hposition⟩
    obtain ⟨hmem, hmatches⟩ := (hlisted company).mp hcompany
    exact ⟨company, hmem, hposition, hmatches⟩

/-- The contacts in a state, searched for a text. -/
def linkListing (state : Option IdentityState) (query : Option String) :
    Listing ClassifiedContact LinkListItem where
  scope := "identity-links"
  parameters := [("state", state.map (·.text)), ("query", query)]
  names := by simp
  rows db := listedContacts pg db state query
  position row := (row.externalId, row.contactId)
  distinct db := nodup_listedContacts pg db state query
  item db row := linkListItem pg db state row
  Matches := ContactMatches pg state query
  matches_iff _ _ := contactMatches_iff

/-- The active companies, searched for a text. -/
def companyListing (query : Option String) : Listing CompanyRow CompanyProjection where
  scope := "companies"
  parameters := [("query", query)]
  names := by simp
  rows db := listedCompanies pg db query
  position company := (company.key, company.id)
  distinct db := by
    have hids : (db.directory.companies.rows.map (·.id)).Nodup :=
      db.directory.companies.ids.imp fun hlt => Nat.ne_of_lt hlt
    have hall : (db.directory.companies.rows.map fun company => (company.key, company.id)).Nodup := by
      refine List.Nodup.of_map Prod.snd ?_
      rw [List.map_map]
      exact hids
    unfold listedCompanies
    exact hall.sublist (List.filter_sublist.map _)
  item _ company := companyProjection company
  Matches := CompanyMatches pg query
  matches_iff _ _ := companyMatches_iff

namespace Listing

variable {ρ α : Type} (list : Listing ρ α)

/-- The position of a row, as it is compared. -/
def key (r : ρ) : PageKey pg := pageKey pg (list.position r)

theorem distinct_key (db : IdentityTables) : Keyset.Distinct (list.key pg) (list.rows db) := by
  have hmap : (list.rows db).map (list.key pg) = ((list.rows db).map list.position).map toLex := by
    rw [List.map_map]
    rfl
  unfold Keyset.Distinct
  rw [hmap]
  exact (list.distinct db).map toLex.injective

/-- What a page says. -/
def response (db : IdentityTables) (page : Keyset.Page ρ (PageKey pg)) : ListResponse α where
  items := page.rows.map (list.item db)
  nextCursor := (page.nextAfter.map ofLex).map (encodeCursor lib token list.scope list.parameters)

/-- The answer to a valid call. -/
def answer (db : IdentityTables) (limit : Nat) (cursor : Option String) :
    Except ListError (ListResponse α) :=
  Admin.answer lib token list.scope list.parameters
    (fun after =>
      let page := Keyset.page (list.key pg) limit (after.map (pageKey pg)) (list.rows db)
      .ok { items := page.rows.map (list.item db), nextAfter := page.nextAfter.map ofLex }) cursor

variable {lib token pg list} {db : IdentityTables} {limit : Nat} {after : Option (String × Nat)}

/-- The cursor of a position. -/
def cursorAt (lib : CursorLibrary) (token : String) (list : Listing ρ α) (position : String × Nat) :
    String := encodeCursor lib token list.scope list.parameters position

/-- A position that a cursor can carry. -/
def IsPosition (position : String × Nat) : Prop := Text.isBlank position.1 = false ∧ 0 < position.2

theorem cursorAt_ne_empty (position : String × Nat) : cursorAt lib token list position ≠ "" := by
  intro h
  have hlength := congrArg String.length h
  unfold cursorAt encodeCursor at hlength
  rw [String.length_append, lib.length_hexdigest] at hlength
  have hempty : "".length = 0 := rfl
  omega

/-- **A valid call** is answered with the page behind its cursor. -/
theorem answer_cursorAt (hafter : ∀ position, after = some position → IsPosition position) :
    list.answer lib token pg db limit (after.map (cursorAt lib token list))
      = .ok (list.response lib token pg db
          (Keyset.page (list.key pg) limit (after.map (pageKey pg)) (list.rows db))) := by
  cases after with
  | none => rfl
  | some position =>
      obtain ⟨hblank, hpos⟩ := hafter position rfl
      have hdecode : decodeCursor lib token (cursorAt lib token list position) list.scope list.parameters
          = .ok position := decodeCursor_accepts list.names hblank hpos
      unfold answer Admin.answer positionOf
      rw [Option.map_some]
      dsimp only
      rw [if_neg (cursorAt_ne_empty position), hdecode]
      rfl

/-- **A cursor of another filter** is refused. -/
theorem answer_refuses {ρ' α' : Type} {other : Listing ρ' α'} {position : String × Nat}
    (h : other.scope ≠ list.scope ∨ ¬∀ parameter ∈ list.parameters, parameter ∈ other.parameters) :
    list.answer lib token pg db limit (some (cursorAt lib token other position))
      = .error (.http 400 "Invalid cursor") := by
  have hdecode : decodeCursor lib token (cursorAt lib token other position) list.scope list.parameters
      = .error (.http 400 "Invalid cursor") := decodeCursor_refuses other.names h
  unfold answer Admin.answer positionOf
  dsimp only
  rw [if_neg (cursorAt_ne_empty position), hdecode]
  rfl

end Listing

/-! ## §4. A walk over a list. -/

/-- A call: the tables at its moment, and the limit it asks for. -/
structure ListCall where
  db : IdentityTables
  limit : String

/-- The responses to a run of calls: each has the cursor of the one before it, until there is none. -/
def responses {α : Type} (list : ListCall → Option String → Except ListError (ListResponse α)) :
    Option String → List ListCall → Except ListError (List (ListResponse α))
  | _, [] => .ok []
  | cursor, call :: calls => do
      let response ← list call cursor
      match response.nextCursor with
      | none => return [response]
      | some next => return response :: (← responses list (some next) calls)

section Responses

variable {α : Type} {list : ListCall → Option String → Except ListError (ListResponse α)}
  {cursor : Option String} {call : ListCall} {calls : List ListCall} {response : ListResponse α}

theorem responses_cons_last (h : list call cursor = .ok response) (hnone : response.nextCursor = none) :
    responses list cursor (call :: calls) = .ok [response] := by
  unfold responses
  rw [h]
  show (match response.nextCursor with
    | none => (pure [response] : Except ListError (List (ListResponse α)))
    | some next => _) = _
  rw [hnone]
  rfl

theorem responses_cons_more {next : String} {rest : List (ListResponse α)}
    (h : list call cursor = .ok response) (hsome : response.nextCursor = some next)
    (hrest : responses list (some next) calls = .ok rest) :
    responses list cursor (call :: calls) = .ok (response :: rest) := by
  unfold responses
  rw [h]
  show (match response.nextCursor with
    | none => (pure [response] : Except ListError (List (ListResponse α)))
    | some next => _) = _
  rw [hsome]
  dsimp only
  rw [hrest]
  rfl

end Responses

namespace Listing

variable {ρ α : Type} {lib token pg} {list : Listing ρ α} {calls : List ListCall}
  {after : Option (String × Nat)}

/-- What a walk over the pages sees of a call. -/
def keysetCall (list : Listing ρ α) (call : ListCall) : Keyset.Call ρ where
  limit := (validatedLimit call.limit).toOption.getD 0
  rows := list.rows call.db

/-- The pages of a run of calls. -/
def pages (pg : Postgres) (list : Listing ρ α) (after : Option (String × Nat)) (calls : List ListCall) :
    List (Keyset.Page ρ (PageKey pg)) :=
  Keyset.walk (list.key pg) (after.map (pageKey pg)) (calls.map list.keysetCall)

/-- A list of the source: a valid call is answered as the list does. -/
def Answers (lib : CursorLibrary) (token : String) (pg : Postgres) (list : Listing ρ α)
    (source : ListCall → Option String → Except ListError (ListResponse α)) : Prop :=
  ∀ call cursor limit, validatedLimit call.limit = .ok limit →
    source call cursor = list.answer lib token pg call.db limit cursor

/-- A call with a valid limit, and rows whose positions a cursor can carry. -/
structure ValidCall (list : Listing ρ α) (call : ListCall) : Prop where
  limit : ∃ limit, validatedLimit call.limit = .ok limit
  positions : ∀ r ∈ list.rows call.db, IsPosition (list.position r)

variable {source : ListCall → Option String → Except ListError (ListResponse α)}

/-- The next position is one of a row. -/
theorem isPosition_nextAfter {db : IdentityTables} {limit : Nat} {behind : Option (PageKey pg)}
    {k : PageKey pg} (hpositions : ∀ r ∈ list.rows db, IsPosition (list.position r))
    (hnext : (Keyset.page (list.key pg) limit behind (list.rows db)).nextAfter = some k) :
    IsPosition (ofLex k) := by
  obtain ⟨-, front, last, hrows, hkey⟩ := Keyset.nextAfter_eq_some hnext
  have hlast : last ∈ (Keyset.page (list.key pg) limit behind (list.rows db)).rows := by
    rw [hrows]
    exact List.mem_append_right front List.mem_cons_self
  rw [← hkey]
  exact hpositions last (Keyset.mem_page hlast).1

/-- **The responses are the pages of a keyset walk.** -/
theorem responses_eq (hsource : list.Answers lib token pg source)
    (hcalls : ∀ call ∈ calls, list.ValidCall call)
    (hafter : ∀ position, after = some position → IsPosition position) :
    responses source (after.map (cursorAt lib token list)) calls
      = .ok (List.zipWith (fun page call => list.response lib token pg call.db page)
          (list.pages pg after calls) calls) := by
  induction calls generalizing after with
  | nil => rfl
  | cons call calls ih =>
      have hcall := hcalls call List.mem_cons_self
      obtain ⟨limit, hlimit⟩ := hcall.limit
      have hof : (list.keysetCall call).limit = limit := by
        unfold keysetCall
        rw [hlimit]
        rfl
      have hfirst : source call (after.map (cursorAt lib token list))
          = .ok (list.response lib token pg call.db (Keyset.page (list.key pg)
              (list.keysetCall call).limit (after.map (pageKey pg)) (list.rows call.db))) := by
        rw [hsource call _ limit hlimit, answer_cursorAt hafter, hof]
      cases hnext : (Keyset.page (list.key pg) (list.keysetCall call).limit (after.map (pageKey pg))
          (list.rows call.db)).nextAfter with
      | none =>
          have hwalk : list.pages pg after (call :: calls) = [Keyset.page (list.key pg)
              (list.keysetCall call).limit (after.map (pageKey pg)) (list.rows call.db)] :=
            Keyset.walk_cons_last hnext
          have hcursor : (list.response lib token pg call.db (Keyset.page (list.key pg)
              (list.keysetCall call).limit (after.map (pageKey pg)) (list.rows call.db))).nextCursor
                = none := congrArg (fun k : Option (PageKey pg) =>
                  (k.map ofLex).map (cursorAt lib token list)) hnext
          rw [hwalk, responses_cons_last hfirst hcursor]
          rfl
      | some k =>
          have hwalk : list.pages pg after (call :: calls) = Keyset.page (list.key pg)
              (list.keysetCall call).limit (after.map (pageKey pg)) (list.rows call.db)
                :: list.pages pg (some (ofLex k)) calls := Keyset.walk_cons_more hnext
          have hcursor : (list.response lib token pg call.db (Keyset.page (list.key pg)
              (list.keysetCall call).limit (after.map (pageKey pg)) (list.rows call.db))).nextCursor
                = some (cursorAt lib token list (ofLex k)) := congrArg (fun k : Option (PageKey pg) =>
                  (k.map ofLex).map (cursorAt lib token list)) hnext
          have hrest : responses source (some (cursorAt lib token list (ofLex k))) calls = _ :=
            @ih (some (ofLex k)) (fun c hc => hcalls c (List.mem_cons_of_mem call hc))
              fun position hposition => by
                rw [← Option.some.inj hposition]
                exact isPosition_nextAfter hcall.positions hnext
          rw [hwalk, responses_cons_more hfirst hcursor hrest]
          rfl

/-- The rows that responses list, page by page. -/
structure Lists (pg : Postgres) (list : Listing ρ α) (calls : List ListCall)
    (given : List (ListResponse α)) (shown : List (List ρ)) : Prop where
  /-- Each response has a page. -/
  length : shown.length = given.length
  /-- It is about the rows of its page. -/
  items : given.map (·.items)
    = List.zipWith (fun rows call => rows.map (list.item call.db)) shown calls
  /-- A row matched when its page was read. -/
  matched : ∀ p ∈ shown.zip calls, ∀ r ∈ p.1,
    r ∈ list.rows p.2.db ∧ list.Matches p.2.db (list.position r)
  /-- The rows are in the order of their positions. -/
  increasing : shown.flatten.Pairwise fun a b => list.key pg a < list.key pg b
  /-- Once there is no next cursor, a row that matched at all calls was listed once. -/
  complete : (∃ last, given.getLast? = some last ∧ last.nextCursor = none) →
    ∀ position, (∀ call ∈ calls.take given.length, list.Matches call.db position) →
        (shown.flatten.map list.position).count position = 1

/-- The pages say when there is no next cursor. -/
theorem ended_pages {f : Keyset.Page ρ (PageKey pg) → ListCall → ListResponse α}
    {walked : List (Keyset.Page ρ (PageKey pg))} (hle : walked.length ≤ calls.length)
    (hf : ∀ page call, (f page call).nextCursor = none → page.nextAfter = none)
    (h : ∃ last, (List.zipWith f walked calls).getLast? = some last ∧ last.nextCursor = none) :
    Keyset.Ended walked := by
  obtain ⟨last, hlast, hnone⟩ := h
  have hlength : (List.zipWith f walked calls).length = walked.length := by
    rw [List.length_zipWith]
    omega
  rw [List.getLast?_eq_getElem?, hlength, List.getElem?_zipWith_eq_some] at hlast
  obtain ⟨page, call, hpage, -, rfl⟩ := hlast
  refine ⟨page, ?_, hf page call hnone⟩
  rw [List.getLast?_eq_getElem?]
  exact hpage

/-- **A walk lists each row once.** -/
theorem lists_responses (hsource : list.Answers lib token pg source)
    (hcalls : ∀ call ∈ calls, list.ValidCall call) :
    ∃ given shown, responses source none calls = .ok given ∧ list.Lists pg calls given shown := by
  have hresponses : responses source none calls = .ok (List.zipWith
      (fun page call => list.response lib token pg call.db page) (list.pages pg none calls) calls) :=
    @responses_eq lib token pg _ _ list calls none source hsource hcalls nofun
  have hdistinct : ∀ call ∈ calls.map list.keysetCall, Keyset.Distinct (list.key pg) call.rows := by
    intro call hcall
    obtain ⟨c, -, rfl⟩ := List.mem_map.mp hcall
    exact list.distinct_key pg c.db
  have hlimits : ∀ call ∈ calls.map list.keysetCall, 0 < call.limit := by
    intro call hcall
    obtain ⟨c, hc, rfl⟩ := List.mem_map.mp hcall
    obtain ⟨limit, hlimit⟩ := (hcalls c hc).limit
    unfold keysetCall
    rw [hlimit]
    exact (validatedLimit_le hlimit).1
  have hle : (list.pages pg none calls).length ≤ calls.length := by
    have hwalk : (list.pages pg none calls).length ≤ (calls.map list.keysetCall).length :=
      Keyset.length_walk_le
    rw [List.length_map] at hwalk
    exact hwalk
  have hflatten : ((list.pages pg none calls).map (·.rows)).flatten
      = Keyset.rowsOf (list.pages pg none calls) := List.flatMap_def.symm
  have hlength : (List.zipWith (fun page call => list.response lib token pg call.db page)
      (list.pages pg none calls) calls).length = (list.pages pg none calls).length := by
    rw [List.length_zipWith]
    omega
  refine ⟨_, (list.pages pg none calls).map (·.rows), hresponses, ?_, ?_, ?_, ?_, ?_⟩
  · rw [List.length_map, hlength]
  · rw [List.map_zipWith, List.zipWith_map_left]
    rfl
  · intro p hp r hr
    rw [List.zip_map_left] at hp
    obtain ⟨pair, hpair, rfl⟩ := List.mem_map.mp hp
    have hreads : (pair.1, list.keysetCall pair.2)
        ∈ (list.pages pg none calls).zip (calls.map list.keysetCall) := by
      rw [List.zip_map_right]
      exact List.mem_map.mpr ⟨pair, hpair, rfl⟩
    have hrow : r ∈ list.rows pair.2.db := Keyset.walk_reads _ hreads r hr
    exact ⟨hrow, (list.matches_iff _ _).mpr ⟨r, hrow, rfl⟩⟩
  · rw [hflatten]
    exact (Keyset.walk_increasing hdistinct).1
  · intro hended position hstays
    have hpages : Keyset.Ended (list.pages pg none calls) := by
      refine ended_pages hle (fun page call hnone => ?_) hended
      exact Option.map_eq_none_iff.mp (Option.map_eq_none_iff.mp hnone)
    rw [hlength] at hstays
    let _ : BEq (PageKey pg) := instBEqOfDecidableEq
    have hinjective : Function.Injective (pageKey pg) := toLex.injective
    rw [hflatten, ← List.count_map_of_injective _ (pageKey pg) hinjective, List.map_map]
    refine Keyset.walk_complete hlimits hdistinct hpages fun call hcall => ?_
    rw [← List.map_take] at hcall
    obtain ⟨c, hc, rfl⟩ := List.mem_map.mp hcall
    obtain ⟨r, hr, hposition⟩ := (list.matches_iff _ _).mp (hstays c hc)
    exact ⟨r, hr, congrArg toLex hposition⟩

/-- An answer is a page, and its cursor is that of a row. -/
theorem exists_cursorAt {db : IdentityTables} {limit : Nat} {cursor : Option String}
    {response : ListResponse α} {next : String}
    (hpositions : ∀ r ∈ list.rows db, IsPosition (list.position r))
    (h : list.answer lib token pg db limit cursor = .ok response)
    (hnext : response.nextCursor = some next) :
    ∃ position, IsPosition position ∧ next = cursorAt lib token list position := by
  unfold answer Admin.answer at h
  obtain ⟨behind, -, h⟩ := bind_eq_ok_iff.mp h
  have hresponse : list.response lib token pg db (Keyset.page (list.key pg) limit
      (behind.map (pageKey pg)) (list.rows db)) = response := Except.ok.inj h
  rw [← hresponse] at hnext
  obtain ⟨position, hposition, rfl⟩ := Option.map_eq_some_iff.mp hnext
  obtain ⟨k, hk, rfl⟩ := Option.map_eq_some_iff.mp hposition
  exact ⟨ofLex k, isPosition_nextAfter hpositions hk, rfl⟩

/-- **A cursor is taken** under its filter. -/
theorem answer_accepts {db : IdentityTables} {limit : Nat} {position : String × Nat}
    (h : IsPosition position) :
    ∃ response, list.answer lib token pg db limit (some (cursorAt lib token list position))
      = .ok response := by
  have hanswer : list.answer lib token pg db limit ((some position).map (cursorAt lib token list)) = _ :=
    answer_cursorAt fun other hother => Option.some.inj hother ▸ h
  exact ⟨_, hanswer⟩

end Listing

/-! ## §5. The two lists of the source. -/

variable {lib token pg} {db : IdentityTables} {state query cursor : Option String} {limit : String}
  {selectedState : Option IdentityState} {selectedQuery : Option String} {selectedLimit : Nat}

theorem identityLinkList_eq (hstate : validatedState state = .ok selectedState)
    (hquery : validatedQuery query = .ok selectedQuery) (hlimit : validatedLimit limit = .ok selectedLimit) :
    identityLinkList lib token pg db state query cursor limit
      = (linkListing pg selectedState selectedQuery).answer lib token pg db selectedLimit cursor := by
  have hproject : ∀ after, listIdentityLinkProjection pg db selectedState selectedQuery after selectedLimit
      = .ok _ := fun after => if_pos (validatedLimit_le hlimit)
  unfold identityLinkList
  rw [hstate, hquery, hlimit]
  exact congrArg (fun project => answer lib token "identity-links" _ project cursor)
    (funext hproject)

theorem activeCompanyList_eq (hquery : validatedQuery query = .ok selectedQuery)
    (hlimit : validatedLimit limit = .ok selectedLimit) :
    activeCompanyList lib token pg db query cursor limit
      = (companyListing pg selectedQuery).answer lib token pg db selectedLimit cursor := by
  have hproject : ∀ after, listActiveCompanies pg db selectedQuery after selectedLimit = .ok _ :=
    fun after => if_pos (validatedLimit_le hlimit)
  unfold activeCompanyList
  rw [hquery, hlimit]
  exact congrArg (fun project => answer lib token "companies" _ project cursor) (funext hproject)

/-- An answer of 400. -/
def Refused {α : Type} (result : Except ListError α) : Prop :=
  ∃ detail, result = .error (.http 400 detail)

/-- The checks return, or answer 400. -/
theorem validatedState_spec (state : Option String) :
    (∃ selected, validatedState state = .ok selected) ∨ Refused (validatedState state) := by
  cases state with
  | none => exact .inl ⟨none, rfl⟩
  | some value =>
      unfold validatedState
      dsimp only
      cases identityStates.find? (·.text == Text.lower (Text.strip value)) with
      | none => exact .inr ⟨_, rfl⟩
      | some selected => exact .inl ⟨_, rfl⟩

theorem validatedQuery_spec (query : Option String) :
    (∃ selected, validatedQuery query = .ok selected) ∨ Refused (validatedQuery query) := by
  cases query with
  | none => exact .inl ⟨none, rfl⟩
  | some value =>
      unfold validatedQuery
      dsimp only
      split
      · exact .inr ⟨_, rfl⟩
      · exact .inl ⟨_, rfl⟩

theorem validatedLimit_spec (limit : String) :
    (∃ selected, validatedLimit limit = .ok selected) ∨ Refused (validatedLimit limit) := by
  unfold validatedLimit
  cases Text.parseInt limit with
  | none => exact .inr ⟨_, rfl⟩
  | some parsed =>
      dsimp only
      split
      · exact .inr ⟨_, rfl⟩
      · exact .inl ⟨_, rfl⟩

theorem text_injective {a b : IdentityState} (h : a.text = b.text) : a = b := by
  have hall : ∀ a b : DiscoveryState,
      (IdentityState.current a).text = (IdentityState.current b).text → a = b := by
    intro a b
    cases a <;> cases b <;> decide
  have hrejected : ∀ a : DiscoveryState, (IdentityState.current a).text ≠ IdentityState.rejected.text := by
    intro a
    cases a <;> decide
  cases a with
  | current a =>
      cases b with
      | current b => rw [hall a b h]
      | rejected => exact absurd h (hrejected a)
  | rejected =>
      cases b with
      | current b => exact absurd h.symm (hrejected b)
      | rejected => rfl

/-- **The contacts refuse** a cursor of another list, or of another filter. -/
theorem identityLinkList_refuses {ρ α : Type} {other : Listing ρ α} {position : String × Nat}
    (h : ∀ s q, validatedState state = .ok s → validatedQuery query = .ok q →
      other.scope ≠ "identity-links"
        ∨ ¬∀ parameter ∈ (linkListing pg s q).parameters, parameter ∈ other.parameters) :
    Refused (identityLinkList lib token pg db state query
      (some (Listing.cursorAt lib token other position)) limit) := by
  rcases validatedState_spec state with ⟨s, hs⟩ | ⟨detail, hs⟩
  · rcases validatedQuery_spec query with ⟨q, hq⟩ | ⟨detail, hq⟩
    · rcases validatedLimit_spec limit with ⟨n, hn⟩ | ⟨detail, hn⟩
      · rw [identityLinkList_eq hs hq hn, Listing.answer_refuses (h s q hs hq)]
        exact ⟨_, rfl⟩
      · unfold identityLinkList
        rw [hs, hq, hn]
        exact ⟨detail, rfl⟩
    · unfold identityLinkList
      rw [hs, hq]
      exact ⟨detail, rfl⟩
  · unfold identityLinkList
    rw [hs]
    exact ⟨detail, rfl⟩

/-- **The companies refuse** it as well. -/
theorem activeCompanyList_refuses {ρ α : Type} {other : Listing ρ α} {position : String × Nat}
    (h : ∀ q, validatedQuery query = .ok q → other.scope ≠ "companies"
      ∨ ¬∀ parameter ∈ (companyListing pg q).parameters, parameter ∈ other.parameters) :
    Refused (activeCompanyList lib token pg db query
      (some (Listing.cursorAt lib token other position)) limit) := by
  rcases validatedQuery_spec query with ⟨q, hq⟩ | ⟨detail, hq⟩
  · rcases validatedLimit_spec limit with ⟨n, hn⟩ | ⟨detail, hn⟩
    · rw [activeCompanyList_eq hq hn, Listing.answer_refuses (h q hq)]
      exact ⟨_, rfl⟩
    · unfold activeCompanyList
      rw [hq, hn]
      exact ⟨detail, rfl⟩
  · unfold activeCompanyList
    rw [hq]
    exact ⟨detail, rfl⟩

/-! ## §6. A walk over each of them. -/

/-- Who takes a cursor of the contacts: the same list, under the same filter. -/
structure LinkCursor (lib : CursorLibrary) (token : String) (pg : Postgres)
    (selectedState : Option IdentityState) (selectedQuery : Option String) (next : String) : Prop where
  accepted : ∀ db state query limit selectedLimit, validatedState state = .ok selectedState →
    validatedQuery query = .ok selectedQuery → validatedLimit limit = .ok selectedLimit →
      ∃ response, identityLinkList lib token pg db state query (some next) limit = .ok response
  otherFilter : ∀ db state query limit,
    ¬(validatedState state = .ok selectedState ∧ validatedQuery query = .ok selectedQuery) →
      Refused (identityLinkList lib token pg db state query (some next) limit)
  otherList : ∀ db query limit, Refused (activeCompanyList lib token pg db query (some next) limit)

/-- Who takes a cursor of the companies. -/
structure CompanyCursor (lib : CursorLibrary) (token : String) (pg : Postgres)
    (selectedQuery : Option String) (next : String) : Prop where
  accepted : ∀ db query limit selectedLimit, validatedQuery query = .ok selectedQuery →
    validatedLimit limit = .ok selectedLimit →
      ∃ response, activeCompanyList lib token pg db query (some next) limit = .ok response
  otherFilter : ∀ db query limit, validatedQuery query ≠ .ok selectedQuery →
    Refused (activeCompanyList lib token pg db query (some next) limit)
  otherList : ∀ db state query limit,
    Refused (identityLinkList lib token pg db state query (some next) limit)

theorem linkCursor_cursorAt {position : String × Nat} (h : Listing.IsPosition position) :
    LinkCursor lib token pg selectedState selectedQuery
      (Listing.cursorAt lib token (linkListing pg selectedState selectedQuery) position) where
  accepted db state query limit selectedLimit hstate hquery hlimit := by
    rw [identityLinkList_eq hstate hquery hlimit]
    exact Listing.answer_accepts h
  otherFilter db state query limit hother := by
    refine identityLinkList_refuses fun s q hs hq => .inr fun hall => hother ?_
    -- the two parameters are told apart by their names
    have hstate := hall ("state", s.map (·.text)) List.mem_cons_self
    have hquery := hall ("query", q) (List.mem_cons_of_mem _ List.mem_cons_self)
    simp only [linkListing, List.mem_cons, Prod.mk.injEq, List.not_mem_nil, or_false, true_and,
      String.reduceEq, false_and, false_or] at hstate hquery
    rw [hs, hq, hquery, Option.map_injective (fun _ _ => text_injective) hstate]
    exact ⟨rfl, rfl⟩
  otherList db query limit := by
    refine activeCompanyList_refuses fun _ _ => .inl ?_
    show "identity-links" ≠ "companies"
    decide

theorem companyCursor_cursorAt {position : String × Nat} (h : Listing.IsPosition position) :
    CompanyCursor lib token pg selectedQuery
      (Listing.cursorAt lib token (companyListing pg selectedQuery) position) where
  accepted db query limit selectedLimit hquery hlimit := by
    rw [activeCompanyList_eq hquery hlimit]
    exact Listing.answer_accepts h
  otherFilter db query limit hother := by
    refine activeCompanyList_refuses fun q hq => .inr fun hall => hother ?_
    have hquery := hall ("query", q) List.mem_cons_self
    simp only [companyListing, List.mem_cons, Prod.mk.injEq, List.not_mem_nil, or_false, true_and]
      at hquery
    rw [hq, hquery]
  otherList db state query limit := by
    refine identityLinkList_refuses fun _ _ _ _ => .inl ?_
    show "companies" ≠ "identity-links"
    decide

/-- The cursor of a response of the contacts. -/
theorem linkCursor_of_response {response : ListResponse LinkListItem} {next : String}
    (hstate : validatedState state = .ok selectedState)
    (hquery : validatedQuery query = .ok selectedQuery)
    (hpositions : ∀ r ∈ listedContacts pg db selectedState selectedQuery,
      Listing.IsPosition (r.externalId, r.contactId))
    (h : identityLinkList lib token pg db state query cursor limit = .ok response)
    (hnext : response.nextCursor = some next) :
    LinkCursor lib token pg selectedState selectedQuery next := by
  rcases validatedLimit_spec limit with ⟨n, hn⟩ | ⟨detail, hn⟩
  · rw [identityLinkList_eq hstate hquery hn] at h
    obtain ⟨position, hposition, rfl⟩ := Listing.exists_cursorAt hpositions h hnext
    exact linkCursor_cursorAt hposition
  · unfold identityLinkList at h
    rw [hstate, hquery, hn] at h
    cases h

/-- The cursor of a response of the companies. -/
theorem companyCursor_of_response {response : ListResponse CompanyProjection} {next : String}
    (hquery : validatedQuery query = .ok selectedQuery)
    (hpositions : ∀ r ∈ listedCompanies pg db selectedQuery, Listing.IsPosition (r.key, r.id))
    (h : activeCompanyList lib token pg db query cursor limit = .ok response)
    (hnext : response.nextCursor = some next) : CompanyCursor lib token pg selectedQuery next := by
  rcases validatedLimit_spec limit with ⟨n, hn⟩ | ⟨detail, hn⟩
  · rw [activeCompanyList_eq hquery hn] at h
    obtain ⟨position, hposition, rfl⟩ := Listing.exists_cursorAt hpositions h hnext
    exact companyCursor_cursorAt hposition
  · unfold activeCompanyList at h
    rw [hquery, hn] at h
    cases h

/-- **What a walk lists, and who takes its cursors.**  Under a valid filter, a run of calls with
    valid limits lists rows that match, in their order, and each row that stays once; a cursor that
    either list returns is taken by that list under that filter, and answered with 400 otherwise. -/
theorem admin_pages (lib : CursorLibrary) (token : String) (pg : Postgres)
    (hstate : validatedState state = .ok selectedState)
    (hquery : validatedQuery query = .ok selectedQuery) :
    (∀ calls, (∀ call ∈ calls, (linkListing pg selectedState selectedQuery).ValidCall call) →
        ∃ given shown,
          responses (fun call cursor => identityLinkList lib token pg call.db state query cursor call.limit)
              none calls = .ok given
            ∧ (linkListing pg selectedState selectedQuery).Lists pg calls given shown)
      ∧ (∀ calls, (∀ call ∈ calls, (companyListing pg selectedQuery).ValidCall call) →
          ∃ given shown,
            responses (fun call cursor => activeCompanyList lib token pg call.db query cursor call.limit)
                none calls = .ok given
              ∧ (companyListing pg selectedQuery).Lists pg calls given shown)
      ∧ (∀ db cursor limit response next,
          (∀ r ∈ listedContacts pg db selectedState selectedQuery,
            Listing.IsPosition (r.externalId, r.contactId)) →
          identityLinkList lib token pg db state query cursor limit = .ok response →
          response.nextCursor = some next → LinkCursor lib token pg selectedState selectedQuery next)
      ∧ (∀ db cursor limit response next,
          (∀ r ∈ listedCompanies pg db selectedQuery, Listing.IsPosition (r.key, r.id)) →
          activeCompanyList lib token pg db query cursor limit = .ok response →
          response.nextCursor = some next → CompanyCursor lib token pg selectedQuery next) := by
  refine ⟨fun calls hcalls => ?_, fun calls hcalls => ?_, ?_, ?_⟩
  · exact Listing.lists_responses (fun call cursor limit => identityLinkList_eq hstate hquery) hcalls
  · exact Listing.lists_responses (fun call cursor limit => activeCompanyList_eq hquery) hcalls
  · exact fun db cursor limit response next => linkCursor_of_response hstate hquery
  · exact fun db cursor limit response next => companyCursor_of_response hquery

/-- A signature of 64 digits; that of the first page of `sampleCalls` is the real one. -/
def sampleDigest (_ message : String) : String :=
  if message = "eyJhZnRlciI6WyJjb250YWN0LTEiLDFdLCJwYXJhbWV0ZXJzIjp7InF1ZXJ5IjpudWxsLCJzdGF0ZSI6"
      ++ "bnVsbH0sInNjb3BlIjoiaWRlbnRpdHktbGlua3MiLCJ2ZXJzaW9uIjoxfQ" then
    "4bbb3fa7c8a5863334de14cb343c5d099326e0263c8edec80f982e0ee8a72da5"
  else String.ofList (List.replicate 64 '0')

theorem sampleDigest_spec (key message : String) :
    (sampleDigest key message).length = 64 ∧ isAscii (sampleDigest key message) = true := by
  unfold sampleDigest
  split
  · decide +kernel
  · decide +kernel

def sampleCursorLibrary : CursorLibrary where
  hexdigest := sampleDigest
  length_hexdigest key message := (sampleDigest_spec key message).1
  isAscii_hexdigest key message := (sampleDigest_spec key message).2
  float text := ⟨text, none⟩
  decodeOther _ := none

/-- Texts in the order of their characters. -/
def samplePostgres : Postgres where
  collation := inferInstance
  ilike text pattern := text == pattern

def sampleContact : DigisacRow where
  fields := {}
  lastSeenAt := 1
  lastSource := "ticket_webhook"

def sampleTables : IdentityTables :=
  { digisacContacts := (Keyed.empty.insertNew "contact-1" sampleContact).insertNew "contact-2" sampleContact }

/-- Two contacts, on a page each. -/
def sampleCalls : List ListCall := [⟨sampleTables, "1"⟩, ⟨sampleTables, "100"⟩]

/-- A contact without links. -/
def unresolvedItem (externalId : String) : LinkListItem where
  contactExternalId := externalId
  displayName := none
  isGroup := none
  state := .current .unresolved
  candidateCompanyCount := 0
  links := []
  evidence := []

/-- The payload of the first page, and its signature. -/
def sampleCursor : String :=
  "eyJhZnRlciI6WyJjb250YWN0LTEiLDFdLCJwYXJhbWV0ZXJzIjp7InF1ZXJ5IjpudWxsLCJzdGF0ZSI6"
    ++ "bnVsbH0sInNjb3BlIjoiaWRlbnRpdHktbGlua3MiLCJ2ZXJzaW9uIjoxfQ."
    ++ "4bbb3fa7c8a5863334de14cb343c5d099326e0263c8edec80f982e0ee8a72da5"

def sampleResponses : List (ListResponse LinkListItem) :=
  [{ items := [unresolvedItem "contact-1"], nextCursor := some sampleCursor },
    { items := [unresolvedItem "contact-2"], nextCursor := none }]

/-- The walk over two contacts. -/
theorem sample_pages :
    responses (fun call cursor =>
        identityLinkList sampleCursorLibrary "token" samplePostgres call.db none none cursor call.limit)
      none sampleCalls = .ok sampleResponses
      ∧ ∃ shown, (linkListing samplePostgres none none).Lists samplePostgres sampleCalls
        sampleResponses shown := by
  have hlimit : ∀ call ∈ sampleCalls, ∃ limit, validatedLimit call.limit = .ok limit := by
    intro call hcall
    simp only [sampleCalls, List.mem_cons, List.not_mem_nil, or_false] at hcall
    rcases hcall with rfl | rfl
    · exact ⟨1, by decide +kernel⟩
    · exact ⟨100, by decide +kernel⟩
  have hpositions : ∀ call ∈ sampleCalls, ∀ r ∈ listedContacts samplePostgres call.db none none,
      Text.isBlank r.externalId = false ∧ 0 < r.contactId := by
    decide +kernel
  have hrun : (responses (fun call cursor =>
        identityLinkList sampleCursorLibrary "token" samplePostgres call.db none none cursor call.limit)
      none sampleCalls).toOption = some sampleResponses := by decide +kernel
  have hstate : validatedState none = .ok none := rfl
  have hquery : validatedQuery none = .ok none := rfl
  obtain ⟨given, shown, hgiven, hlists⟩ :=
    (admin_pages sampleCursorLibrary "token" samplePostgres hstate hquery).1 sampleCalls
      fun call hcall => ⟨hlimit call hcall, hpositions call hcall⟩
  rw [hgiven] at hrun
  obtain rfl : given = sampleResponses := Option.some.inj hrun
  exact ⟨hgiven, shown, hlists⟩

end Cai.Admin
