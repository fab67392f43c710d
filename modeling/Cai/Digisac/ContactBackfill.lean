/-
  Cai.Digisac.ContactBackfill — the contacts of all pages.

  `_validate_page` and `acquire_contact_backfill` of
  `src/core/digisac_contact_backfill.py`.  A page is compared with its own
  metadata and with those of the first page; nothing compares the number of
  contacts that were read with the total.

  Main results:
    * `validatePage_getContactsPage` — the client has made the checks of a
      single page already.
    * `acquireContactBackfill_returns` — the loop comes to an end.
    * `acquired_complete_iff` — when a snapshot is complete.
-/
import Cai.Digisac.ContactPage
import Cai.Reconciliation.Plan

namespace Cai.Digisac

open Cai.Lib
open Cai.Directory (DigisacContact)
open Cai.Reconciliation (collectContact)

/-! ## §1. The checks on a page. -/

/-- What the acquisition raises. -/
inductive BackfillError
  /-- `ValueError` -/
  | pageSize
  | client (error : ClientError)
  /-- `DigisacContactBackfillError` -/
  | backfill (category message : String)
  deriving DecidableEq, Repr

/-- `DigisacContactBackfillError("invalid_response", message)` -/
def invalidResponse (message : String) : BackfillError := .backfill "invalid_response" message

/-- `_validate_page`; `none` is no `DigisacContactPage`. -/
def validatePage (response : Option DigisacContactPage) (requestedPage : Int)
    (expectedTotal : Option Int) : Except BackfillError DigisacContactPage :=
  match response with
  | none => .error (invalidResponse "DigiSac contacts page has an invalid type")
  | some page =>
      if page.currentPage ≠ requestedPage then
        .error (invalidResponse "DigiSac contacts page did not advance")
      else if page.lastPage < page.currentPage then
        .error (invalidResponse "DigiSac contacts page metadata is inconsistent")
      else if page.total < 0 || page.limit ≤ 0 || page.lastPage ≤ 0 then
        .error (invalidResponse "DigiSac contacts page metadata is invalid")
      else if page.lastPage ≠ lastPageOf page.total page.limit || page.limit < page.contacts.length
          || (page.total = 0 && !page.contacts.isEmpty) then
        .error (invalidResponse "DigiSac contacts page metadata is inconsistent")
      else if expectedTotal.any (page.total ≠ ·) then
        .error (invalidResponse "DigiSac contacts total changed during pagination")
      else if 0 < page.total && page.contacts.isEmpty then
        .error (invalidResponse "DigiSac returned an empty page before completion")
      else if page.currentPage < page.lastPage && page.contacts.isEmpty then
        .error (invalidResponse "DigiSac returned an empty intermediate page")
      else .ok page

/-! ## §2. The loop. -/

/-- `ContactBackfillClient`: it answers a request, given its number, the page and
    the page size; `none` is something else than a page. -/
abbrev ContactBackfillClient := Nat → Nat → Int → Except ContactsError (Option DigisacContactPage)

/-- The variables of the loop, and the pages that were asked for. -/
structure BackfillState where
  requestedPage : Nat := 1
  expectedTotal : Option Int := none
  expectedLastPage : Option Int := none
  pages : List DigisacContactPage := []
  /-- `contacts_by_id` and `duplicate_count` -/
  collected : List (String × DigisacContact) × Nat := ([], 0)
  finished : Bool := false
  requests : List Nat := []
  keyed : Reconciliation.ById collected.1

/-- The two kinds of exception of a request. -/
def requestError : ContactsError → BackfillError
  | .client e => .client e
  | .raised _ | .value _ => .backfill "provider" "DigiSac contacts backfill request failed"

/-- The state after a page was accepted. -/
def collectPage (s : BackfillState) (page : DigisacContactPage) : BackfillState where
  requestedPage := s.requestedPage
  expectedTotal := s.expectedTotal.or (some page.total)
  expectedLastPage := if s.expectedTotal.isNone then some page.lastPage else s.expectedLastPage
  pages := s.pages ++ [page]
  collected := page.contacts.foldl collectContact s.collected
  finished := page.currentPage = page.lastPage
  requests := s.requests ++ [s.requestedPage]
  keyed := s.keyed.collect

/-- The body of the loop. -/
def fetchContacts (client : ContactBackfillClient) (pageSize : Int) (s : BackfillState) :
    Except BackfillError BackfillState := do
  let response ← (client s.requests.length s.requestedPage pageSize).mapError requestError
  let page ← validatePage response s.requestedPage s.expectedTotal
  if s.expectedTotal.isSome && some page.lastPage ≠ s.expectedLastPage then
    .error (invalidResponse "DigiSac contacts lastPage changed during pagination")
  else
    let collected := collectPage s page
    if collected.finished then return collected
    else if page.lastPage < s.requestedPage + 1 then
      .error (invalidResponse "DigiSac contacts pagination did not terminate")
    else return { collected with requestedPage := s.requestedPage + 1 }

/-- `DigisacContactBackfillSnapshot`, all four fields. -/
structure BackfillSnapshot extends Reconciliation.DigisacContactBackfillSnapshot where
  pageCount : Nat
  total : Int

/-- What `acquire_contact_backfill` returns after the loop. -/
def backfillSnapshot (s : BackfillState) : BackfillSnapshot where
  contacts := s.collected.1.map (·.2)
  duplicateCount := s.collected.2
  pageCount := s.pages.length
  total := s.expectedTotal.getD 0
  unique := by
    rw [List.map_map, List.map_congr_left (g := (·.1)) s.keyed.own]
    exact s.keyed.keys

theorem byId_nil : Reconciliation.ById [] :=
  ⟨List.nodup_nil, fun _ h => absurd h List.not_mem_nil⟩

/-- The loop, from its beginning. -/
def acquirePages (fuel : Nat) (client : ContactBackfillClient) (pageSize : Int) :
    Option (Except BackfillError BackfillState) :=
  whileLoop (fun s => !s.finished) (fetchContacts client pageSize) fuel
    { keyed := byId_nil }

/-- `acquire_contact_backfill`, with the pages it asked for; `setting` is
    `settings.digisac_contact_backfill_per_page`. -/
def acquireContactBackfill (fuel : Nat) (client : ContactBackfillClient) (setting : Int)
    (perPage : Option Int) : Option (Except BackfillError (BackfillSnapshot × List Nat)) :=
  if perPage.getD setting ≤ 0 then some (.error .pageSize)
  else
    (acquirePages fuel client (perPage.getD setting)).map fun result =>
      result.map fun s => (backfillSnapshot s, s.requests)

/-- `DigisacClient`, on what `_get_json` returns or raises. -/
def digisacClient (lib : Library) (answers : Nat → Except ClientError JsonObject) :
    ContactBackfillClient :=
  fun request page perPage => (getContactsPage lib (answers request) page perPage).map some

/-! ## §3. An accepted page. -/

/-- What the checks on a page amount to. -/
theorem validatePage_ok_iff {response : Option DigisacContactPage} {requestedPage : Int}
    {expectedTotal : Option Int} {page : DigisacContactPage} (hpos : 0 < requestedPage) :
    validatePage response requestedPage expectedTotal = .ok page
      ↔ response = some page ∧ Fits page requestedPage
        ∧ ∀ total, expectedTotal = some total → page.total = total := by
  have hexpected : ∀ p : DigisacContactPage,
      expectedTotal.any (p.total ≠ ·) = false ↔ ∀ total, expectedTotal = some total → p.total = total := by
    intro p
    cases expectedTotal with
    | none => simp
    | some total => simp
  unfold validatePage
  cases response with
  | none =>
      constructor
      · intro h
        cases h
      · rintro ⟨h, -⟩
        cases h
  | some p =>
      simp only [refused_eq_ok_iff, Bool.or_eq_true, Bool.and_eq_true, decide_eq_true_eq, not_or,
        not_and, not_lt, not_le, Decidable.not_not, Bool.not_eq_true, hexpected,
        Bool.not_eq_false', List.isEmpty_iff, Except.ok.injEq, Option.some.injEq]
      constructor
      · rintro ⟨hcurrent, hadvances, ⟨⟨htotal, hlimit⟩, -⟩, ⟨⟨hlast, hroom⟩, hempty⟩, hsame, hfull, -,
          rfl⟩
        refine ⟨rfl, ⟨hcurrent, htotal, hlimit, hlast, hcurrent ▸ hadvances, hroom, ?_, hempty⟩, hsame⟩
        intro hnone
        by_contra hne
        exact hfull (by omega) hnone
      · rintro ⟨rfl, hfits, hsame⟩
        have hlastPos : 0 < p.lastPage := hfits.last ▸ lastPageOf_pos _ _
        have hfull : 0 < p.total → p.contacts ≠ [] := by
          intro htotal hnone
          have hzero := hfits.empty.mp hnone
          omega
        -- a page before the last one belongs to a total that is not zero
        have hmore : p.currentPage < p.lastPage → p.contacts ≠ [] := by
          intro hless hnone
          have hone := lastPageOf_zero hfits.limit
          rw [← hfits.empty.mp hnone, ← hfits.last] at hone
          have hcurrent := hfits.current
          omega
        exact ⟨hfits.current, hfits.current.symm ▸ hfits.advances,
          ⟨⟨hfits.total, hfits.limit⟩, hlastPos⟩, ⟨⟨hfits.last, hfits.room⟩, hfits.empty.mpr⟩, hsame,
          hfull, hmore, rfl⟩

/-- **The client checks what the backfill checks again**; only the total of the
    first page is new. -/
theorem validatePage_getContactsPage {lib : Library} {answer : Except ClientError JsonObject}
    {page perPage : Int} {p : DigisacContactPage}
    (h : getContactsPage lib answer page perPage = .ok p) : validatePage (some p) page none = .ok p := by
  obtain ⟨hpos, hfits⟩ := getContactsPage_ok h
  exact (validatePage_ok_iff hpos).mpr ⟨rfl, hfits, fun total htotal => by cases htotal⟩

/-! ## §4. The pages. -/

variable {client : ContactBackfillClient} {pageSize : Int} {s s' : BackfillState}

/-- Each contact comes in, or is counted as a duplicate. -/
theorem count_collectContact (s : List (String × DigisacContact) × Nat) (contact : DigisacContact) :
    (collectContact s contact).1.length + (collectContact s contact).2 = s.1.length + s.2 + 1 := by
  unfold collectContact
  cases hfind : s.1.lookup contact.externalId with
  | some existing =>
      have hmem : contact.externalId ∈ s.1.map (·.1) :=
        List.mem_map_of_mem (f := (·.1)) (mem_of_lookup hfind)
      show (assign s.1 (contact.externalId, _)).length + (s.2 + 1) = s.1.length + s.2 + 1
      rw [assign_of_mem hmem, List.length_map]
      omega
  | none =>
      have hmem : contact.externalId ∉ s.1.map (·.1) := lookup_eq_none_iff_keys.mp hfind
      show (assign s.1 (contact.externalId, contact)).length + s.2 = s.1.length + s.2 + 1
      rw [assign_of_not_mem hmem, List.length_append, List.length_singleton]
      omega

theorem count_collectContacts (contacts : List DigisacContact)
    (s : List (String × DigisacContact) × Nat) :
    (contacts.foldl collectContact s).1.length + (contacts.foldl collectContact s).2
      = s.1.length + s.2 + contacts.length := by
  induction contacts generalizing s with
  | nil => rfl
  | cons contact contacts ih =>
      rw [List.foldl_cons, ih, count_collectContact, List.length_cons]
      omega

/-- What holds whenever the condition of the loop is evaluated. -/
structure BackfillInv (client : ContactBackfillClient) (pageSize : Int) (s : BackfillState) :
    Prop where
  requests : s.requests = List.range' 1 s.pages.length
  /-- Every page answers its request, and reports what the first one reported. -/
  pages : ∀ k page, s.pages[k]? = some page → client k (k + 1) pageSize = .ok (some page)
    ∧ s.expectedTotal = some page.total ∧ s.expectedLastPage = some page.lastPage
  first : s.pages = [] → s.expectedLastPage = none
  counted : s.collected.1.length + s.collected.2 = (s.pages.map (·.contacts.length)).sum
  next : s.finished = false → s.requestedPage = s.pages.length + 1
    ∧ ∀ last, s.expectedLastPage = some last → (s.requestedPage : Int) ≤ last
  done : s.finished = true → s.expectedLastPage = some (s.pages.length : Int)

theorem backfillInv_init : BackfillInv client pageSize { keyed := byId_nil } where
  requests := rfl
  pages := fun k page h => by cases h
  first := fun _ => rfl
  counted := rfl
  next := fun _ => ⟨rfl, fun last h => by cases h⟩
  done := fun h => by cases h

/-- What a round is made of: the page that answers it, and what follows. -/
theorem fetchContacts_ok (hpos : 0 < s.requestedPage) (h : fetchContacts client pageSize s = .ok s') :
    ∃ page, client s.requests.length s.requestedPage pageSize = .ok (some page)
      ∧ Fits page s.requestedPage ∧ (∀ total, s.expectedTotal = some total → page.total = total)
      ∧ (s.expectedTotal ≠ none → s.expectedLastPage = some page.lastPage)
      ∧ ((page.lastPage = s.requestedPage ∧ s' = collectPage s page)
        ∨ ((s.requestedPage : Int) < page.lastPage
          ∧ s' = { collectPage s page with requestedPage := s.requestedPage + 1 })) := by
  unfold fetchContacts at h
  obtain ⟨response, hresponse, h⟩ := bind_eq_ok_iff.mp h
  obtain ⟨page, hpage, h⟩ := bind_eq_ok_iff.mp h
  obtain ⟨hsame, h⟩ := refused_eq_ok_iff.mp h
  obtain ⟨heq, hfits, htotal⟩ := (validatePage_ok_iff (Int.natCast_pos.mpr hpos)).mp hpage
  rw [heq] at hresponse
  have hlast : s.expectedTotal ≠ none → s.expectedLastPage = some page.lastPage := by
    intro hsome
    by_contra hne
    have hisSome : s.expectedTotal.isSome = true := Option.isSome_iff_ne_none.mpr hsome
    rw [hisSome] at hsame
    exact hsame (by simpa using fun heq => hne heq.symm)
  refine ⟨page, mapError_eq_ok_iff.mp hresponse, hfits, htotal, hlast, ?_⟩
  have hcurrent := hfits.current
  by_cases hdone : page.currentPage = page.lastPage
  · have hfinished : (collectPage s page).finished = true := decide_eq_true hdone
    rw [if_pos hfinished] at h
    exact .inl ⟨by omega, (pure_eq_ok_iff.mp h).symm⟩
  · have hfinished : ¬(collectPage s page).finished = true :=
      fun heq => hdone (of_decide_eq_true heq)
    rw [if_neg hfinished] at h
    obtain ⟨-, h⟩ := refused_eq_ok_iff.mp h
    have hadvances := hfits.advances
    exact .inr ⟨by omega, (pure_eq_ok_iff.mp h).symm⟩

/-- **One round.** -/
theorem fetchContacts_inv (hinv : BackfillInv client pageSize s) (hmore : s.finished = false)
    (h : fetchContacts client pageSize s = .ok s') : BackfillInv client pageSize s' := by
  obtain ⟨hrequested, -⟩ := hinv.next hmore
  have hpos : 0 < s.requestedPage := by omega
  obtain ⟨page, hanswer, hfits, htotal, hlast, hnext⟩ := fetchContacts_ok hpos h
  have hnumber : s.requests.length = s.pages.length := by rw [hinv.requests, List.length_range']
  rw [hnumber, hrequested] at hanswer
  -- what the state expects after the page is what the page reports
  have hexpected : (collectPage s page).expectedTotal = some page.total
      ∧ (collectPage s page).expectedLastPage = some page.lastPage := by
    show s.expectedTotal.or (some page.total) = _
      ∧ (if s.expectedTotal.isNone then some page.lastPage else s.expectedLastPage) = _
    cases hnone : s.expectedTotal with
    | none => exact ⟨rfl, rfl⟩
    | some total =>
        rw [htotal total hnone]
        exact ⟨rfl, hlast (by simp [hnone])⟩
  have hpages : ∀ k p, (s.pages ++ [page])[k]? = some p → client k (k + 1) pageSize = .ok (some p)
      ∧ (collectPage s page).expectedTotal = some p.total
      ∧ (collectPage s page).expectedLastPage = some p.lastPage := by
    intro k p hp
    rcases Nat.lt_trichotomy k s.pages.length with hless | heq | hgreater
    · rw [List.getElem?_append_left hless] at hp
      obtain ⟨hearlier, htotal', hlast'⟩ := hinv.pages k p hp
      have hsame := htotal p.total htotal'
      have hsame' : page.lastPage = p.lastPage :=
        Option.some.inj ((hlast (by simp [htotal'])).symm.trans hlast')
      rw [hexpected.1, hexpected.2, hsame, hsame']
      exact ⟨hearlier, rfl, rfl⟩
    · rw [heq, List.getElem?_concat_length] at hp
      rw [heq, ← Option.some.inj hp]
      exact ⟨hanswer, hexpected⟩
    · rw [List.getElem?_eq_none (by rw [List.length_append, List.length_singleton]; omega)] at hp
      cases hp
  have hrequests : s.requests ++ [s.requestedPage] = List.range' 1 (s.pages ++ [page]).length := by
    rw [List.length_append, List.length_singleton, List.range'_concat, hinv.requests, hrequested,
      Nat.one_mul, Nat.add_comm 1]
  have hcounted : (collectPage s page).collected.1.length + (collectPage s page).collected.2
      = ((s.pages ++ [page]).map (·.contacts.length)).sum := by
    rw [List.map_append, List.sum_append, ← hinv.counted, List.map_singleton, List.sum_singleton]
    exact count_collectContacts page.contacts s.collected
  have hlength : (s.pages ++ [page]).length = s.pages.length + 1 := by
    rw [List.length_append, List.length_singleton]
  have hfirst : s.pages ++ [page] = [] → (collectPage s page).expectedLastPage = none := by
    intro hnil
    rw [hnil] at hlength
    cases hlength
  have hfinished : (collectPage s page).finished = decide (page.currentPage = page.lastPage) := rfl
  rcases hnext with ⟨heq, rfl⟩ | ⟨hless, rfl⟩
  · refine ⟨hrequests, hpages, hfirst, hcounted, fun hmore' => ?_, fun _ => ?_⟩
    · rw [hfinished, decide_eq_false_iff_not, hfits.current, heq] at hmore'
      exact absurd rfl hmore'
    · show _ = some ((s.pages ++ [page]).length : Int)
      rw [hexpected.2, heq, hlength, hrequested]
  · refine ⟨hrequests, hpages, hfirst, hcounted, fun _ => ⟨?_, fun last hlast' => ?_⟩, fun hdone => ?_⟩
    · show s.requestedPage + 1 = (s.pages ++ [page]).length + 1
      rw [hlength, hrequested]
    · have hreported : last = page.lastPage := Option.some.inj (hlast'.symm.trans hexpected.2)
      show ((s.requestedPage + 1 : Nat) : Int) ≤ last
      omega
    · have hcurrent : page.currentPage = page.lastPage :=
        of_decide_eq_true (hfinished.symm.trans hdone)
      rw [← hcurrent, hfits.current] at hless
      exact absurd hless (lt_irrefl _)

/-- The whole loop. -/
theorem acquirePages_inv {fuel : Nat} (h : acquirePages fuel client pageSize = some (.ok s)) :
    BackfillInv client pageSize s ∧ s.expectedLastPage = some (s.pages.length : Int) := by
  obtain ⟨hinv, hdone⟩ := whileLoop_inv
    (fun s s' hs hmore hbody => fetchContacts_inv hs (by simpa using hmore) hbody)
    backfillInv_init h
  exact ⟨hinv, hinv.done (by simpa using hdone)⟩

/-- The last page that the first answer reports. -/
def reportedPages (client : ContactBackfillClient) (pageSize : Int) : Nat :=
  match client 0 1 pageSize with
  | .ok (some page) => page.lastPage.toNat
  | _ => 0

/-- The page that is asked for next is not beyond the last one. -/
theorem BackfillInv.requested_le (hinv : BackfillInv client pageSize s) (hmore : s.finished = false) :
    s.requestedPage ≤ reportedPages client pageSize + 1 := by
  obtain ⟨hrequested, hlast⟩ := hinv.next hmore
  cases hpages : s.pages with
  | nil =>
      rw [hrequested, hpages, List.length_nil]
      omega
  | cons page pages =>
      obtain ⟨hanswer, -, hreported⟩ := hinv.pages 0 page (by rw [hpages]; rfl)
      have hle := hlast _ hreported
      have hfirst : reportedPages client pageSize = page.lastPage.toNat := by
        unfold reportedPages
        rw [hanswer]
      omega

/-- **The loop comes to an end**, whatever the client answers: the first answer
    bounds it. -/
theorem acquireContactBackfill_returns (client : ContactBackfillClient) (setting : Int)
    (perPage : Option Int) : ∃ result, ∀ fuel, reportedPages client (perPage.getD setting) + 1 < fuel →
      acquireContactBackfill fuel client setting perPage = some result := by
  have hdecreases : ∀ s s' : BackfillState, BackfillInv client (perPage.getD setting) s →
      (!s.finished) = true → fetchContacts client (perPage.getD setting) s = .ok s' →
      (if s'.finished then 0
        else reportedPages client (perPage.getD setting) + 2 - s'.requestedPage)
      < if s.finished then 0
        else reportedPages client (perPage.getD setting) + 2 - s.requestedPage := by
    intro s s' hinv hmore hbody
    have hmore : s.finished = false := by simpa using hmore
    have hle := hinv.requested_le hmore
    obtain ⟨hrequested, -⟩ := hinv.next hmore
    obtain ⟨page, -, hfits, -, -, hnext⟩ := fetchContacts_ok (by omega) hbody
    rw [hmore, if_neg Bool.false_ne_true]
    rcases hnext with ⟨heq, rfl⟩ | ⟨-, rfl⟩
    · have hdone : (collectPage s page).finished = true :=
        decide_eq_true (hfits.current.trans heq.symm)
      rw [if_pos hdone]
      omega
    · split
      next => omega
      next =>
        show _ - (s.requestedPage + 1) < _
        omega
  obtain ⟨result, hresult⟩ := whileLoop_of_measure
    (fun s s' hs hmore hbody => fetchContacts_inv hs (by simpa using hmore) hbody) hdecreases
    backfillInv_init (Nat.lt_succ_self _)
  by_cases hsize : perPage.getD setting ≤ 0
  · refine ⟨.error .pageSize, fun fuel _ => ?_⟩
    unfold acquireContactBackfill
    rw [if_pos hsize]
  · refine ⟨result.map fun s => (backfillSnapshot s, s.requests), fun fuel hfuel => ?_⟩
    have hmore := whileLoop_mono (le_of_eq_of_le rfl hfuel) hresult
    unfold acquireContactBackfill acquirePages
    rw [if_neg hsize, hmore]
    rfl

/-! ## §5. The number of contacts. -/

/-- The number of contacts on the page that answers request number `k`. -/
def recordsOn (client : ContactBackfillClient) (pageSize : Int) (k : Nat) : Nat :=
  match client k (k + 1) pageSize with
  | .ok (some page) => page.contacts.length
  | _ => 0

/-- The contacts on the pages add up to the total that the first page reports. -/
def AddsUp (client : ContactBackfillClient) (pageSize : Int) : Prop :=
  ∀ first, client 0 1 pageSize = .ok (some first) →
    (((List.range first.lastPage.toNat).map (recordsOn client pageSize)).sum : Int) = first.total

/-- What a complete snapshot is. -/
structure CompleteBackfill (client : ContactBackfillClient) (pageSize : Int)
    (snapshot : BackfillSnapshot) (requests : List Nat) : Prop where
  /-- The pages up to the last one were read once each. -/
  requests : requests = List.range' 1 snapshot.pageCount
  /-- They all report the same total, and the same last page. -/
  pages : ∀ k < snapshot.pageCount, ∃ page, client k (k + 1) pageSize = .ok (some page)
    ∧ page.total = snapshot.total ∧ page.lastPage = snapshot.pageCount
  /-- All records of this total were read. -/
  records : ((snapshot.contacts.length + snapshot.duplicateCount : Nat) : Int) = snapshot.total

/-- The contacts add up when every page but the last one is full, and the last one
    holds the rest. -/
theorem addsUp_of_full (n limit : Nat)
    (hlast : ∀ first, client 0 1 pageSize = .ok (some first) → first.lastPage = n + 1
      ∧ first.total = n * limit + recordsOn client pageSize n)
    (hfull : ∀ k < n, recordsOn client pageSize k = limit) : AddsUp client pageSize := by
  intro first hfirst
  obtain ⟨hpages, htotal⟩ := hlast first hfirst
  have hrange : first.lastPage.toNat = n + 1 := by omega
  have hbefore : (List.range n).map (recordsOn client pageSize) = List.replicate n limit := by
    rw [← List.length_range (n := n), ← List.map_const', List.length_range]
    exact List.map_congr_left fun k hk => hfull k (List.mem_range.mp hk)
  rw [hrange, List.range_succ, List.map_append, hbefore, List.sum_append, List.sum_replicate_nat,
    List.map_singleton, List.sum_singleton, htotal]
  push_cast
  rfl

/-- The pages that were collected are those that were answered. -/
theorem BackfillInv.map_records (hinv : BackfillInv client pageSize s) :
    s.pages.map (·.contacts.length) = (List.range s.pages.length).map (recordsOn client pageSize) := by
  refine List.ext_getElem (by simp) fun k hk _ => ?_
  rw [List.getElem_map, List.getElem_map, List.getElem_range]
  have hk : k < s.pages.length := by simpa using hk
  obtain ⟨hanswer, -, -⟩ := hinv.pages k _ (List.getElem?_eq_getElem hk)
  unfold recordsOn
  rw [hanswer]

/-- What a result is made of. -/
theorem acquireContactBackfill_ok {fuel : Nat} {setting : Int} {perPage : Option Int}
    {snapshot : BackfillSnapshot} {requests : List Nat}
    (h : acquireContactBackfill fuel client setting perPage = some (.ok (snapshot, requests))) :
    ∃ s, acquirePages fuel client (perPage.getD setting) = some (.ok s)
      ∧ snapshot = backfillSnapshot s ∧ requests = s.requests := by
  unfold acquireContactBackfill at h
  split at h
  next => cases h
  next =>
    obtain ⟨result, hloop, hresult⟩ := Option.map_eq_some_iff.mp h
    cases result with
    | error e => cases hresult
    | ok s =>
        injection hresult with hresult
        injection hresult with hsnapshot hrequests
        exact ⟨s, hloop, hsnapshot.symm, hrequests.symm⟩

/-- **What is acquired is complete** exactly when the contacts on the pages add up to
    the total; a page that is too short is accepted. -/
theorem acquired_complete_iff {fuel : Nat} {setting : Int} {perPage : Option Int}
    {snapshot : BackfillSnapshot} {requests : List Nat}
    (h : acquireContactBackfill fuel client setting perPage = some (.ok (snapshot, requests))) :
    CompleteBackfill client (perPage.getD setting) snapshot requests
      ↔ AddsUp client (perPage.getD setting) := by
  obtain ⟨s, hloop, rfl, rfl⟩ := acquireContactBackfill_ok h
  obtain ⟨hinv, hlast⟩ := acquirePages_inv hloop
  have hpos : 0 < s.pages.length := by
    rw [List.length_pos_iff]
    intro hnil
    rw [hinv.first hnil] at hlast
    cases hlast
  obtain ⟨hfirst, htotal, hreported⟩ := hinv.pages 0 _ (List.getElem?_eq_getElem hpos)
  have hsnapshot : (backfillSnapshot s).total = s.pages[0].total := by
    show s.expectedTotal.getD 0 = _
    rw [htotal]
    rfl
  have hpageCount : s.pages[0].lastPage = s.pages.length :=
    Option.some.inj (hreported.symm.trans hlast)
  -- the records that were read are those on the pages
  have hrecords : (backfillSnapshot s).contacts.length + (backfillSnapshot s).duplicateCount
      = ((List.range s.pages.length).map (recordsOn client (perPage.getD setting))).sum := by
    rw [← hinv.map_records, ← hinv.counted]
    show (s.collected.1.map (·.2)).length + _ = _
    rw [List.length_map]
    rfl
  have hadds : AddsUp client (perPage.getD setting)
      ↔ (((List.range s.pages.length).map (recordsOn client (perPage.getD setting))).sum : Int)
        = s.pages[0].total := by
    constructor
    · intro hall
      have hsum := hall _ hfirst
      rw [hpageCount, Int.toNat_natCast] at hsum
      exact hsum
    · intro hsum first hanswer
      have heq : s.pages[0] = first :=
        Option.some.inj (Except.ok.inj (hfirst.symm.trans hanswer))
      rw [← heq, hpageCount, Int.toNat_natCast]
      exact hsum
  rw [hadds, ← hrecords, ← hsnapshot]
  constructor
  · exact fun hcomplete => hcomplete.records
  · refine fun hsum => ⟨hinv.requests, fun k hk => ?_, hsum⟩
    obtain ⟨hanswer, htotal', hlast'⟩ := hinv.pages k _ (List.getElem?_eq_getElem hk)
    refine ⟨_, hanswer, ?_, Option.some.inj (hlast'.symm.trans hlast)⟩
    rw [hsnapshot]
    exact Option.some.inj (htotal'.symm.trans htotal)

/-- On the contacts that follow, which have an id only. -/
def plainLibrary : Library where
  repr := fun _ => ""
  decimal := fun _ => none
  fromisoformat := fun _ => none

/-- A page of the provider with contacts of these ids. -/
def contactsPayload (ids : List String) (currentPage : Int) : JsonObject :=
  [("data", .list (ids.map fun id => .dict [("id", .str id)])), ("total", .int 3), ("limit", .int 2),
    ("currentPage", .int currentPage), ("lastPage", .int 2)]

/-- Two contacts, then one. -/
def fullPages (request : Nat) : Except ClientError JsonObject :=
  .ok (contactsPayload (if request = 0 then ["c-1", "c-2"] else ["c-3"]) (request + 1))

/-- One contact and one: the second of the three is missing. -/
def shortPages (request : Nat) : Except ClientError JsonObject :=
  .ok (contactsPayload (if request = 0 then ["c-1"] else ["c-3"]) (request + 1))

theorem addsUp_fullPages : AddsUp (digisacClient plainLibrary fullPages) 2 := by
  have hfirst : (digisacClient plainLibrary fullPages 0 1 2).toOption.bind
      (fun response => response.map fun page => (page.lastPage, page.total)) = some (2, 3) := by
    decide +kernel
  have hsecond : recordsOn (digisacClient plainLibrary fullPages) 2 1 = 1 := by decide +kernel
  refine addsUp_of_full 1 2 (fun first hanswer => ?_) fun k hk => ?_
  · rw [hanswer] at hfirst
    simp only [Except.toOption, Option.bind_some, Option.map_some, Option.some.injEq,
      Prod.mk.injEq] at hfirst
    rw [hfirst.1, hfirst.2, hsecond]
    exact ⟨rfl, rfl⟩
  · rw [Nat.lt_one_iff.mp hk]
    decide +kernel

theorem fullPages_complete :
    ∃ snapshot, acquireContactBackfill 3 (digisacClient plainLibrary fullPages) 2 none
        = some (.ok (snapshot, [1, 2]))
      ∧ CompleteBackfill (digisacClient plainLibrary fullPages) 2 snapshot [1, 2] := by
  have hrequests : (acquireContactBackfill 3 (digisacClient plainLibrary fullPages) 2 none).bind
      (fun result => result.toOption.map (·.2)) = some [1, 2] := by decide +kernel
  obtain ⟨result, hresult, hsome⟩ := Option.bind_eq_some_iff.mp hrequests
  cases result with
  | error e => cases hsome
  | ok r =>
      obtain ⟨snapshot, requests⟩ := r
      simp only [Except.toOption, Option.map_some, Option.some.injEq] at hsome
      rw [hsome] at hresult
      exact ⟨snapshot, hresult, (acquired_complete_iff hresult).mpr addsUp_fullPages⟩

theorem shortPages_incomplete :
    ∃ snapshot requests, acquireContactBackfill 3 (digisacClient plainLibrary shortPages) 2 none
        = some (.ok (snapshot, requests))
      ∧ ¬CompleteBackfill (digisacClient plainLibrary shortPages) 2 snapshot requests := by
  have hcounts : (acquireContactBackfill 3 (digisacClient plainLibrary shortPages) 2 none).bind
      (fun result => result.toOption.map fun r =>
        (r.1.contacts.length + r.1.duplicateCount, r.1.total)) = some (2, 3) := by decide +kernel
  obtain ⟨result, hresult, hsome⟩ := Option.bind_eq_some_iff.mp hcounts
  cases result with
  | error e => cases hsome
  | ok r =>
      simp only [Except.toOption, Option.map_some, Option.some.injEq, Prod.mk.injEq] at hsome
      refine ⟨r.1, r.2, hresult, fun hcomplete => ?_⟩
      have hrecords := hcomplete.records
      rw [hsome.1, hsome.2] at hrecords
      exact absurd hrecords (by decide)

end Cai.Digisac
