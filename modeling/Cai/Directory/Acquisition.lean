/-
  Cai.Directory.Acquisition — a snapshot is read from the provider.

  `_get_json` and `fetch_snapshot` of `src/core/acessorias_directory.py`.
  The provider is any sequence of replies, one for each request; a reply may
  depend on everything before it.  How long the adapter waits before a
  request has no effect on what it reads; an exception that the waiting
  raises is one of the replies.

  Nothing but the code bounds the loop over the pages, so it runs with fuel.

  Main results:
    * `getJson_requests` — a read makes `max_attempts` requests at most.
    * `pages_end` — the loop ends, within `page_safety_limit` reads.
    * `fetchSnapshot_sound` — and the snapshot is what the pages said.
-/
import Cai.Directory.Records
import Cai.Lib.Loop

namespace Cai.Directory

open Cai.Lib

/-! ## §1. Requests. -/

/-- What `session.get` does. -/
inductive Reply
  /-- `requests.Timeout`, `requests.ConnectionError` -/
  | connection
  /-- Another `requests.RequestException`. -/
  | requestError
  /-- An exception that is not caught, also of the waiting. -/
  | raised (error : DirectoryError)
  /-- The status and `response.json()`, where the body is JSON. -/
  | response (statusCode : Nat) (body : Option Json)

/-- `TRANSIENT_HTTP_STATUSES` -/
def transientHttpStatuses : List Nat := [408, 425, 429, 500, 502, 503, 504]

/-- `AUTHENTICATION_STATUSES` -/
def authenticationStatuses : List Nat := [401, 403]

/-- The settings of the adapter. -/
structure AdapterSettings where
  token : String
  maxAttempts : Nat
  pageSafetyLimit : Nat
  attempts_pos : 0 < maxAttempts
  limit_pos : 0 < pageSafetyLimit

/-- What becomes of an attempt; `none` where there is another one. -/
def attemptResult (last : Bool) : Reply → Option (Except DirectoryError Json)
  | .connection =>
      if last then
        some (.error (.directory "connection" "provider connection failed after bounded retries"))
      else none
  | .requestError => some (.error (.directory "request_error" "provider request failed"))
  | .raised error => some (.error error)
  | .response statusCode body =>
      if statusCode ∈ transientHttpStatuses then
        if last then
          some (.error (.directory (if statusCode = 429 then "rate_limit" else "transient_http")
            s!"provider returned HTTP {statusCode} after bounded retries"))
        else none
      else if statusCode ∈ authenticationStatuses then
        some (.error (.directory "authentication"
          s!"provider authentication failed with HTTP {statusCode}"))
      else if 400 ≤ statusCode then
        some (.error (.directory "http_error" s!"provider returned HTTP {statusCode}"))
      else match body with
        | none => some (.error (invalidPayload "provider returned invalid JSON"))
        | some json => some (.ok json)

/-- The attempts that are left, after `requests` requests; with the number of requests. -/
def attempts (provider : Nat → Reply) : (left requests : Nat) → Except DirectoryError Json × Nat
  | 0, requests =>
      (.error (.directory "request_error" "provider request did not complete"), requests)
  | left + 1, requests =>
      match attemptResult (left == 0) (provider requests) with
      | some result => (result, requests + 1)
      | none => attempts provider left (requests + 1)

/-- `_get_json` -/
def getJson (settings : AdapterSettings) (provider : Nat → Reply) (requests : Nat) :
    Except DirectoryError Json × Nat :=
  if Text.isBlank settings.token then
    (.error (.directory "missing_credentials" "ACESSORIAS_API_TOKEN is not configured"), requests)
  else attempts provider settings.maxAttempts requests

variable {settings : AdapterSettings} {provider : Nat → Reply} {lib : RecordLibrary}

theorem attempts_requests {left requests : Nat} :
    (attempts provider left requests).2 ≤ requests + left := by
  induction left generalizing requests with
  | zero => exact Nat.le_refl _
  | succ left ih =>
      unfold attempts
      split
      next => show requests + 1 ≤ requests + (left + 1); omega
      next =>
        have hrest : (attempts provider left (requests + 1)).2 ≤ requests + 1 + left := ih
        omega

/-- A read makes `max_attempts` requests at most. -/
theorem getJson_requests (settings : AdapterSettings) (provider : Nat → Reply) (requests : Nat) :
    (getJson settings provider requests).2 ≤ requests + settings.maxAttempts := by
  unfold getJson
  split
  next => show requests ≤ _; omega
  next => exact attempts_requests

/-- The requests that were made before the read of a page; the departments
    are read first, as if they were page 0. -/
def requestsBefore (settings : AdapterSettings) (provider : Nat → Reply) : Nat → Nat
  | 0 => 0
  | page + 1 => (getJson settings provider (requestsBefore settings provider page)).2

/-- What the read of a page gives. -/
def pageAnswer (settings : AdapterSettings) (provider : Nat → Reply) (page : Nat) :
    Except DirectoryError Json :=
  (getJson settings provider (requestsBefore settings provider page)).1

theorem requestsBefore_le (settings : AdapterSettings) (provider : Nat → Reply) (page : Nat) :
    requestsBefore settings provider page ≤ settings.maxAttempts * page := by
  induction page with
  | zero => exact Nat.zero_le _
  | succ page ih =>
      have hread := getJson_requests settings provider (requestsBefore settings provider page)
      show (getJson settings provider (requestsBefore settings provider page)).2 ≤ _
      rw [Nat.mul_succ]
      omega

/-! ## §2. The loop over the pages. -/

/-- A snapshot with its counts. -/
structure FetchedSnapshot extends AcessoriasSnapshot where
  pageCount : Nat := 0
  requestAttemptCount : Nat := 0

/-- The variables of the loop. -/
structure Paging where
  page : Nat := 1
  pageCount : Nat := 0
  companies : List AcessoriasCompany := []
  seenCompanies : List String := []
  seenPages : List String := []
  /-- `self.request_attempt_count` -/
  requests : Nat
  /-- How the loop was left. -/
  left : Option (Except DirectoryError Unit) := none
  /-- The pages that were asked for, with what was read; not in the code. -/
  reads : List (Nat × Except DirectoryError Json) := []

def Paging.raise (s : Paging) (error : DirectoryError) : Paging :=
  { s with left := some (.error error) }

/-- One record of a page: `companies` and `seen_companies`. -/
def addCompany (lib : RecordLibrary) (s : List AcessoriasCompany × List String) (item : Json) :
    Except DirectoryError (List AcessoriasCompany × List String) := do
  let company ← parseCompany lib item
  require (company.externalId ∉ s.2) (.directory "pagination_loop" "repeated company record")
  return (s.1 ++ [company], s.2 ++ [company.externalId])

/-- What is done with a page. -/
def Paging.take (settings : AdapterSettings) (lib : RecordLibrary) (s : Paging)
    (answer : Except DirectoryError Json) : Paging :=
  match answer with
  | .error error => s.raise error
  | .ok rawPage =>
      match rawPage.asList with
      | none => s.raise (invalidPayload "company page must be a list")
      | some [] => { s with left := some (.ok ()) }
      | some items =>
          if lib.dumps items ∈ s.seenPages then
            s.raise (.directory "pagination_loop" "repeated company page")
          else
            match items.foldlM (addCompany lib) (s.companies, s.seenCompanies) with
            | .error error => s.raise error
            | .ok (companies, seenCompanies) =>
                let s := { s with
                  companies, seenCompanies
                  seenPages := s.seenPages ++ [lib.dumps items]
                  pageCount := s.pageCount + 1 }
                if settings.pageSafetyLimit ≤ s.pageCount then
                  s.raise (.directory "pagination_limit" "company page safety limit reached")
                else { s with page := s.page + 1 }

/-- One round. -/
def Paging.round (settings : AdapterSettings) (lib : RecordLibrary) (provider : Nat → Reply)
    (s : Paging) : Paging :=
  if settings.pageSafetyLimit < s.page then
    s.raise (.directory "pagination_limit" "company page safety limit reached")
  else
    let read := getJson settings provider s.requests
    { s with requests := read.2, reads := s.reads ++ [(s.page, read.1)] }.take settings lib read.1

/-- The loop; its rounds raise by leaving it. -/
def pages (settings : AdapterSettings) (lib : RecordLibrary) (provider : Nat → Reply)
    (fuel : Nat) (s : Paging) : Option (Except Empty Paging) :=
  whileLoop (fun s => s.left.isNone) (fun s => .ok (s.round settings lib provider)) fuel s

/-! ## §3. The snapshot. -/

/-- The departments of the first answer. -/
def parseDepartments (lib : RecordLibrary) (answer : Except DirectoryError Json) :
    Except DirectoryError (List AcessoriasDepartment) := do
  let rawDepartments ← answer
  match rawDepartments.asList with
  | none => .error (invalidPayload "departments response must be a list")
  | some items =>
      let departments ← items.mapM (parseDepartment lib)
      require (departments.map (·.externalId)).Nodup (invalidPayload "duplicate department ID")
      return departments

/-- What follows the loop. -/
def Paging.finish (s : Paging) (departments : List AcessoriasDepartment) :
    Except DirectoryError FetchedSnapshot := do
  s.left.getD (.ok ())
  s.companies.forM fun company =>
    require (∀ d ∈ company.departmentIds, d ∈ departments.map (·.externalId))
      (.directory "invalid_parent" "company department has no parent")
  let snapshot : FetchedSnapshot := {
    departments
    companies := s.companies
    pageCount := s.pageCount
    requestAttemptCount := s.requests }
  validateSnapshot snapshot.toAcessoriasSnapshot
  return snapshot

/-- What came of `fetch_snapshot`, with the pages it asked for and its requests. -/
structure Acquisition where
  result : Except DirectoryError FetchedSnapshot
  reads : List (Nat × Except DirectoryError Json)
  requests : Nat

/-- `fetch_snapshot` -/
def fetchSnapshot (settings : AdapterSettings) (lib : RecordLibrary) (provider : Nat → Reply)
    (fuel : Nat) : Option Acquisition :=
  let read := getJson settings provider 0
  match parseDepartments lib read.1 with
  | .error error => some { result := .error error, reads := [], requests := read.2 }
  | .ok departments =>
      match pages settings lib provider fuel { requests := read.2 } with
      | none => none
      | some (.error e) => nomatch e
      | some (.ok s) => some {
          result := s.finish departments
          reads := s.reads
          requests := s.requests }

/-! ## §4. What the loop has read. -/

/-- The reads of pages that are lists, from page 1 on. -/
def readsOf (pages : List (List Json)) : List (Nat × Except DirectoryError Json) :=
  (pages.zipIdx 1).map fun page => (page.2, .ok (.list page.1))

theorem readsOf_append (pages : List (List Json)) (items : List Json) :
    readsOf (pages ++ [items]) = readsOf pages ++ [(pages.length + 1, .ok (.list items))] := by
  unfold readsOf
  rw [List.zipIdx_append, List.map_append]
  simp [Nat.add_comm]

theorem length_readsOf (pages : List (List Json)) : (readsOf pages).length = pages.length := by
  unfold readsOf
  rw [List.length_map, List.length_zipIdx]

/-- The companies are the records of `pages`, in order. -/
structure Paging.HasRead (lib : RecordLibrary) (s : Paging) (pages : List (List Json)) : Prop where
  count : s.pageCount = pages.length
  nonempty : ∀ items ∈ pages, items ≠ []
  companies : pages.flatten.mapM (parseCompany lib) = .ok s.companies

/-- Where the loop stands. -/
inductive Paging.Stage (settings : AdapterSettings) (lib : RecordLibrary) (s : Paging) : Prop
  | running (pages : List (List Json)) (left : s.left = none) (read : s.HasRead lib pages)
      (reads : s.reads = readsOf pages) (page : s.page = pages.length + 1)
      (below : pages.length < settings.pageSafetyLimit)
  | ended (pages : List (List Json)) (left : s.left = some (.ok ())) (read : s.HasRead lib pages)
      (reads : s.reads = readsOf (pages ++ [[]]))
  | raised (error : DirectoryError) (left : s.left = some (.error error))

/-- The pages that were asked for are 1, 2, …, and each read is what
    `_get_json` gives for the replies after the reads before it. -/
def readLog (settings : AdapterSettings) (provider : Nat → Reply) (count : Nat) :
    List (Nat × Except DirectoryError Json) :=
  (List.range count).map fun n => (n + 1, pageAnswer settings provider (n + 1))

theorem readLog_succ (settings : AdapterSettings) (provider : Nat → Reply) (count : Nat) :
    readLog settings provider (count + 1) = readLog settings provider count
      ++ [(count + 1, pageAnswer settings provider (count + 1))] := by
  unfold readLog
  rw [List.range_succ, List.map_append, List.map_singleton]

/-- What every round keeps. -/
structure Paging.Inv (settings : AdapterSettings) (lib : RecordLibrary) (provider : Nat → Reply)
    (s : Paging) : Prop where
  stage : s.Stage settings lib
  reads_le : s.reads.length ≤ settings.pageSafetyLimit
  reads_eq : s.reads = readLog settings provider s.reads.length
  requests_eq : s.requests = requestsBefore settings provider (s.reads.length + 1)

/-- The records of a page are appended. -/
theorem foldlM_addCompany {items : List Json} {s s' : List AcessoriasCompany × List String}
    (h : items.foldlM (addCompany lib) s = .ok s') :
    ∃ companies, items.mapM (parseCompany lib) = .ok companies ∧ s'.1 = s.1 ++ companies := by
  induction items generalizing s with
  | nil =>
      rw [List.foldlM_nil, pure_eq_ok_iff] at h
      exact ⟨[], rfl, by rw [← h, List.append_nil]⟩
  | cons item items ih =>
      rw [List.foldlM_cons] at h
      obtain ⟨next, hadd, hrest⟩ := bind_eq_ok_iff.mp h
      unfold addCompany at hadd
      obtain ⟨company, hparse, hadd⟩ := bind_eq_ok_iff.mp hadd
      obtain ⟨u, -, hadd⟩ := bind_eq_ok_iff.mp hadd
      obtain ⟨companies, hmap, hs'⟩ := ih hrest
      refine ⟨company :: companies, ?_, ?_⟩
      · rw [List.mapM_cons, hparse, hmap]
        rfl
      · rw [hs', ← pure_eq_ok_iff.mp hadd, List.append_assoc]
        rfl

theorem Paging.HasRead.snoc {s : Paging} {pages : List (List Json)} {items : List Json}
    {companies : List AcessoriasCompany} (h : s.HasRead lib pages) (hne : items ≠ [])
    (hcompanies : items.mapM (parseCompany lib) = .ok companies) {s' : Paging}
    (hcount : s'.pageCount = s.pageCount + 1) (happend : s'.companies = s.companies ++ companies) :
    s'.HasRead lib (pages ++ [items]) where
  count := by rw [hcount, h.count, List.length_append, List.length_singleton]
  nonempty := by
    intro page hpage
    rcases List.mem_append.mp hpage with hold | hnew
    · exact h.nonempty page hold
    · rwa [List.mem_singleton.mp hnew]
  companies := by
    rw [List.flatten_append, List.flatten_singleton, List.mapM_append, h.companies, hcompanies,
      happend]
    rfl

/-- What is done with a page leads to a stage again; `s` has the read of that page. -/
theorem stage_take {s : Paging} {pages : List (List Json)} {answer : Except DirectoryError Json}
    (hread : s.HasRead lib pages) (hleft : s.left = none)
    (hreads : s.reads = readsOf pages ++ [(pages.length + 1, answer)])
    (hpage : s.page = pages.length + 1) :
    (s.take settings lib answer).Stage settings lib := by
  unfold Paging.take
  split
  next error => exact .raised error rfl
  next rawPage =>
    split
    next => exact .raised _ rfl
    next hnil =>
      -- the empty page
      rw [Json.asList_eq_some_iff.mp hnil, ← readsOf_append] at hreads
      exact .ended pages rfl ⟨hread.count, hread.nonempty, hread.companies⟩ hreads
    next items hne hitems =>
      rw [Json.asList_eq_some_iff.mp hitems, ← readsOf_append] at hreads
      split
      next => exact .raised _ rfl
      next =>
        split
        next error _ => exact .raised error rfl
        next companies seenCompanies hfold =>
          dsimp only
          split
          next => exact .raised _ rfl
          next hbelow =>
            obtain ⟨added, hadded, happend⟩ := foldlM_addCompany hfold
            have hcount := hread.count
            refine .running (pages ++ [items]) hleft (hread.snoc hne hadded rfl happend) hreads ?_ ?_
            · show s.page + 1 = _
              rw [hpage, List.length_append, List.length_singleton]
            · rw [List.length_append, List.length_singleton]
              omega

/-- What is done with a page asks for no page. -/
theorem log_take (settings : AdapterSettings) (lib : RecordLibrary) (s : Paging)
    (answer : Except DirectoryError Json) :
    (s.take settings lib answer).reads = s.reads
      ∧ (s.take settings lib answer).requests = s.requests := by
  unfold Paging.take
  split
  next => exact ⟨rfl, rfl⟩
  next =>
    split
    next => exact ⟨rfl, rfl⟩
    next => exact ⟨rfl, rfl⟩
    next =>
      split
      next => exact ⟨rfl, rfl⟩
      next =>
        split
        next => exact ⟨rfl, rfl⟩
        next =>
          dsimp only
          split
          next => exact ⟨rfl, rfl⟩
          next => exact ⟨rfl, rfl⟩

/-- **One round** asks for one page and keeps the invariant. -/
theorem round_inv {s : Paging} (h : s.Inv settings lib provider) (hleft : s.left = none) :
    (s.round settings lib provider).Inv settings lib provider
      ∧ (s.round settings lib provider).reads.length = s.reads.length + 1 := by
  cases h.stage with
  | ended pages left => rw [hleft] at left; cases left
  | raised error left => rw [hleft] at left; cases left
  | running pages left read reads page below =>
      have hlength : s.reads.length = pages.length := by rw [reads, length_readsOf]
      have hpage : s.page = s.reads.length + 1 := by rw [page, hlength]
      -- the read of this round
      have hanswer : (getJson settings provider s.requests).1
          = pageAnswer settings provider (s.reads.length + 1) := by rw [h.requests_eq]; rfl
      have hspent : (getJson settings provider s.requests).2
          = requestsBefore settings provider (s.reads.length + 1 + 1) := by rw [h.requests_eq]; rfl
      have hlog := h.reads_eq
      unfold Paging.round
      rw [if_neg (by omega)]
      dsimp only
      generalize getJson settings provider s.requests = asked at hanswer hspent ⊢
      obtain ⟨answer, requests⟩ := asked
      obtain ⟨hreads', hrequests'⟩ :=
        log_take settings lib { s with requests, reads := s.reads ++ [(s.page, answer)] } answer
      have hlength' : (s.reads ++ [(s.page, answer)]).length = s.reads.length + 1 := by
        rw [List.length_append, List.length_singleton]
      refine ⟨⟨?_, ?_, ?_, ?_⟩, ?_⟩
      · have hread : Paging.HasRead lib
            { s with requests, reads := s.reads ++ [(s.page, answer)] } pages :=
          ⟨read.count, read.nonempty, read.companies⟩
        refine stage_take hread left ?_ page
        show s.reads ++ [(s.page, answer)] = _
        rw [reads, page]
      · rw [hreads', hlength']
        omega
      · rw [hreads', hlength', readLog_succ, ← hlog, hpage]
        exact congrArg (fun answer => s.reads ++ [(s.reads.length + 1, answer)]) hanswer
      · rw [hreads', hrequests', hlength']
        exact hspent
      · rw [hreads', hlength']

/-- **The loop ends**, within `page_safety_limit` reads. -/
theorem pages_end (settings : AdapterSettings) (lib : RecordLibrary) (provider : Nat → Reply)
    {fuel : Nat} (hfuel : settings.pageSafetyLimit < fuel) :
    ∃ s, pages settings lib provider fuel { requests := (getJson settings provider 0).2 }
        = some (.ok s)
      ∧ s.Inv settings lib provider ∧ s.left.isNone = false := by
  have hstart : Paging.Inv settings lib provider { requests := (getJson settings provider 0).2 } :=
    ⟨.running [] rfl ⟨rfl, nofun, rfl⟩ rfl rfl settings.limit_pos, Nat.zero_le _, rfl, rfl⟩
  have hstep : ∀ s s' : Paging, s.Inv settings lib provider → s.left.isNone = true →
      (.ok (s.round settings lib provider) : Except Empty Paging) = .ok s' →
      s'.Inv settings lib provider ∧ s'.reads.length = s.reads.length + 1 := by
    intro s s' hs hcond hround
    cases hround
    exact round_inv hs (Option.isNone_iff_eq_none.mp hcond)
  have hdecreases : ∀ s s' : Paging, s.Inv settings lib provider → s.left.isNone = true →
      (.ok (s.round settings lib provider) : Except Empty Paging) = .ok s' →
      settings.pageSafetyLimit - s'.reads.length < settings.pageSafetyLimit - s.reads.length := by
    intro s s' hs hcond hround
    obtain ⟨hs', hlength⟩ := hstep s s' hs hcond hround
    have hle := hs'.reads_le
    omega
  obtain ⟨result, hresult⟩ := whileLoop_of_measure
    (fun s s' hs hcond hround => (hstep s s' hs hcond hround).1) hdecreases hstart
    (Nat.lt_of_le_of_lt (Nat.sub_le _ _) hfuel)
  cases result with
  | error e => cases e
  | ok s =>
      obtain ⟨hinv, hdone⟩ :=
        whileLoop_inv (fun s s' hs hcond hround => (hstep s s' hs hcond hround).1) hstart hresult
      exact ⟨s, hresult, hinv, hdone⟩

/-! ## §5. The snapshot is sound. -/

/-- A snapshot is what its pages said. -/
structure Acquired (lib : RecordLibrary) (snapshot : FetchedSnapshot)
    (reads : List (Nat × Except DirectoryError Json)) : Prop
    extends Validated snapshot.toAcessoriasSnapshot where
  /-- The pages are 1 to `page_count`, an empty one follows them, and the companies are their
      records in order. -/
  pages : ∃ pages : List (List Json), reads = readsOf (pages ++ [[]])
    ∧ (∀ items ∈ pages, items ≠ []) ∧ snapshot.pageCount = pages.length
    ∧ pages.flatten.mapM (parseCompany lib) = .ok snapshot.companies
  companyDepartments : ∀ company ∈ snapshot.companies, company.departmentIds.Nodup

theorem finish_acquired {s : Paging} {departments : List AcessoriasDepartment}
    {snapshot : FetchedSnapshot} (hs : s.Inv settings lib provider) (hdone : s.left.isNone = false)
    (h : s.finish departments = .ok snapshot) :
    Acquired lib snapshot s.reads ∧ snapshot.departments = departments := by
  unfold Paging.finish at h
  obtain ⟨u, hleft, h⟩ := bind_eq_ok_iff.mp h
  obtain ⟨u', -, h⟩ := bind_eq_ok_iff.mp h
  obtain ⟨u'', hvalid, h⟩ := bind_eq_ok_iff.mp h
  rw [← pure_eq_ok_iff.mp h]
  cases hs.stage with
  | running pages left => rw [left] at hdone; cases hdone
  | raised error left => rw [left] at hleft; cases hleft
  | ended pages left read reads =>
      refine ⟨{ toValidated := validateSnapshot_ok_iff.mp hvalid, pages := ?_,
                companyDepartments := ?_ }, rfl⟩
      · exact ⟨pages, reads, read.nonempty, read.count, read.companies⟩
      · intro company hcompany
        obtain ⟨raw, -, hparse⟩ := exists_of_mem_mapM read.companies hcompany
        exact (parseCompany_spec hparse).2.2

/-- **The acquisition ends, and a snapshot is sound.**  The pages are read in
    order, each after the requests of the reads before it. -/
theorem fetchSnapshot_sound (settings : AdapterSettings) (lib : RecordLibrary)
    (provider : Nat → Reply) :
    ∃ acquired, (∀ fuel, settings.pageSafetyLimit < fuel →
        fetchSnapshot settings lib provider fuel = some acquired)
      ∧ acquired.reads.length ≤ settings.pageSafetyLimit
      ∧ acquired.requests ≤ settings.maxAttempts * (settings.pageSafetyLimit + 1)
      ∧ acquired.reads = readLog settings provider acquired.reads.length
      ∧ acquired.requests = requestsBefore settings provider (acquired.reads.length + 1)
      ∧ ∀ snapshot, acquired.result = .ok snapshot → Acquired lib snapshot acquired.reads
        ∧ parseDepartments lib (pageAnswer settings provider 0) = .ok snapshot.departments := by
  cases hdepartments : parseDepartments lib (getJson settings provider 0).1 with
  | error error =>
      refine ⟨{ result := .error error, reads := [], requests := (getJson settings provider 0).2 },
        ?_, Nat.zero_le _, ?_, rfl, rfl, nofun⟩
      · intro fuel _
        unfold fetchSnapshot
        dsimp only
        rw [hdepartments]
      · have hrequests := getJson_requests settings provider 0
        exact (hrequests.trans_eq (Nat.zero_add _)).trans (Nat.le_mul_of_pos_right _ (Nat.succ_pos _))
  | ok departments =>
      obtain ⟨s, hpages, hinv, hdone⟩ :=
        pages_end settings lib provider (Nat.lt_succ_self settings.pageSafetyLimit)
      refine ⟨{ result := s.finish departments, reads := s.reads, requests := s.requests }, ?_,
        hinv.reads_le, ?_, hinv.reads_eq, hinv.requests_eq, fun snapshot hsnapshot => ?_⟩
      · intro fuel hfuel
        unfold fetchSnapshot
        dsimp only
        have hmore : pages settings lib provider fuel { requests := (getJson settings provider 0).2 }
            = some (.ok s) := whileLoop_mono hfuel hpages
        rw [hdepartments]
        dsimp only
        rw [hmore]
      · show s.requests ≤ _
        rw [hinv.requests_eq]
        exact (requestsBefore_le settings provider _).trans
          (Nat.mul_le_mul_left _ (Nat.succ_le_succ hinv.reads_le))
      · obtain ⟨hacquired, heq⟩ := finish_acquired hinv hdone hsnapshot
        rw [heq]
        exact ⟨hacquired, hdepartments⟩

/-! ## §6. Two pages. -/

def sampleLibrary : RecordLibrary where
  str := Json.toText
  dumps items := String.ofList (List.replicate items.length 'r')
  sha256 text := text
  decimal c := if c.isDigit then some c else none
  casefold := Text.casefold
  nfkd text := text
  combining _ := false

def sampleCompany (id : Int) (departments : List Json) : Json :=
  .dict [("ID", .int id), ("Identificador", .int (100 + id)), ("Status", .int 1),
    ("ContatosNaEmpresa", .list []), ("Departamentos", .list departments)]

def sampleProvider : Nat → Reply
  | 0 => .response 200 (some (.list [.dict [("ID", .int 7), ("Nome", .str "Fiscal")]]))
  | 1 => .response 503 none
  | 2 => .response 200 (some (.list [sampleCompany 1 [.dict [("ID", .int 7)]], sampleCompany 2 []]))
  | 3 => .response 200 (some (.list [sampleCompany 3 []]))
  | _ => .response 200 (some (.list []))

theorem samplePages_pos : 0 < 3 := Nat.succ_pos 2

def sampleSettings : AdapterSettings where
  token := "token"
  maxAttempts := 2
  pageSafetyLimit := 3
  attempts_pos := Nat.two_pos
  limit_pos := samplePages_pos

/-- Two pages, the first of them at the second attempt. -/
example : (fetchSnapshot sampleSettings sampleLibrary sampleProvider 4).map
      (fun acquired => (acquired.result.toOption.map fun snapshot =>
        (snapshot.companies.map (·.externalId), snapshot.pageCount, snapshot.requestAttemptCount)))
    = some (some (["101", "102", "103"], 2, 5)) := by
  decide +kernel

end Cai.Directory
