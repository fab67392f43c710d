/-
  Cai.Digisac.ResourcePages — the pages of a directory resource.

  `_fetch_resource` of `src/core/digisac_directory.py`, and `_fetch_directory`
  of `src/utils/backfill_ticket_assignments.py`, which pages in the same way
  but collects names.  The next page and the last page are both taken from
  the answer.  An attempt at a page is one step, so that a run is a sequence
  of answers.

  Main results:
    * `resource_read_once` — answers that report the page that was asked
      for, or end the pages where they have to: every page is read once.
    * `stuck_reads` — an answer that always reports page 1 is read for ever.
-/
import Mathlib.Data.List.Range
import Cai.Lib.Dictionary
import Cai.Lib.Fallible
import Cai.Lib.Json
import Cai.Lib.Text
import Cai.Lib.Transition

namespace Cai.Digisac

open Cai.Lib

/-! ## §1. An answer. -/

/-- What is read of a payload. -/
structure ResourcePage where
  data : List Json
  currentPage : Int
  lastPage : Int

/-- The three values, where they have their types. -/
def resourceFields (payload : Json) : Option ResourcePage := do
  let fields ← payload.asDict
  let data ← (JsonObject.get fields "data").asList
  let currentPage ← (JsonObject.get fields "currentPage").asInt
  let lastPage ← (JsonObject.get fields "lastPage").asInt
  return { data, currentPage, lastPage }

/-- The checks of `_fetch_resource`. -/
def resourcePage (resource : String) (payload : Json) : Except String ResourcePage :=
  match payload.asDict with
  | none => .error s!"DigiSac {resource} response must be an object"
  | some fields =>
      if (JsonObject.get fields "data").asList.isNone then
        .error s!"DigiSac {resource} response is missing data list"
      else match resourceFields payload with
        | none => .error s!"DigiSac {resource} response has invalid pagination"
        | some page => .ok page

/-- The checks of `_get_json` and `_fetch_directory`. -/
def directoryPage (resource : String) (payload : Json) : Except String ResourcePage :=
  match payload.asDict with
  | none => .error "DigiSac response must be an object"
  | some _ =>
      match resourceFields payload with
      | none => .error s!"Invalid DigiSac {resource} pagination"
      | some page => .ok page

/-- The entries of a page that are objects. -/
def ResourcePage.objects (page : ResourcePage) : List JsonObject := page.data.filterMap Json.asDict

/-- The id and the name of an entry, where it has both. -/
def namedEntry (entry : JsonObject) : Option (String × String) := do
  let id ← (entry.get "id").asText
  let name ← (entry.get "name").asText
  if Text.isBlank name then none else some (id, Text.strip name)

/-! ## §2. The loop. -/

inductive PagingError
  /-- An exception of the request. -/
  | request (message : String)
  /-- `ValueError` -/
  | value (message : String)
  deriving DecidableEq, Repr

/-- How an attempt at a page ends. -/
inductive Attempt
  /-- An exception that is retried. -/
  | retried (error : PagingError)
  | raised (error : PagingError)
  | answered (payload : Json)

/-- What the two functions differ in. -/
structure Pager (β : Type) where
  check : Json → Except String ResourcePage
  collect : β → ResourcePage → β
  start : β
  /-- `max(1, settings.digisac_directory_max_retries)` -/
  attempts : Nat
  attempts_pos : 0 < attempts

/-- The number of attempts at a page. -/
def attemptsOf (maxRetries : Int) : Nat := (max 1 maxRetries).toNat

theorem attemptsOf_pos (maxRetries : Int) : 0 < attemptsOf maxRetries := by
  unfold attemptsOf
  omega

/-- `_fetch_resource` -/
def fetchResource (resource : String) (maxRetries : Int) : Pager (List JsonObject) where
  check := resourcePage resource
  collect entries page := entries ++ page.objects
  start := []
  attempts := attemptsOf maxRetries
  attempts_pos := attemptsOf_pos maxRetries

/-- `_fetch_directory` -/
def fetchDirectory (resource : String) (maxRetries : Int) : Pager (List (String × String)) where
  check := directoryPage resource
  collect entries page := (page.objects.filterMap namedEntry).foldl assign entries
  start := []
  attempts := attemptsOf maxRetries
  attempts_pos := attemptsOf_pos maxRetries

/-- The variables of the loop. -/
structure Paging (β : Type) where
  page : Int := 1
  lastPage : Int := 1
  entries : β
  /-- The attempts at this page that failed. -/
  failed : Nat := 0
  raised : Option PagingError := none
  /-- The pages that were asked for and read, with their answers; not in the code. -/
  reads : List (Int × ResourcePage) := []
  /-- The number of requests; not in the code. -/
  requests : Nat := 0

namespace Paging

variable {β : Type}

/-- Another page is asked for. -/
def Running (s : Paging β) : Prop := s.raised = none ∧ s.page ≤ s.lastPage

instance (s : Paging β) : Decidable s.Running := inferInstanceAs (Decidable (_ ∧ _))

/-- The function has returned `entries`. -/
def Returned (s : Paging β) : Prop := s.raised = none ∧ s.lastPage < s.page

/-- A page is read. -/
def read (pager : Pager β) (s : Paging β) (answer : ResourcePage) : Paging β :=
  { s with
    entries := pager.collect s.entries answer
    lastPage := max answer.lastPage answer.currentPage
    page := answer.currentPage + 1
    failed := 0
    reads := s.reads ++ [(s.page, answer)] }

/-- One attempt. -/
def attempt (pager : Pager β) (s : Paging β) : Attempt → Paging β
  | .retried error =>
      if s.failed + 1 < pager.attempts then { s with failed := s.failed + 1 }
      else { s with raised := some error }
  | .raised error => { s with raised := some error }
  | .answered payload =>
      match pager.check payload with
      | .error message => { s with raised := some (.value message) }
      | .ok answer => s.read pager answer

end Paging

/-- The loop, attempt by attempt. -/
def paging {β : Type} (pager : Pager β) : Machine (Paging β) Attempt where
  init s := s = { entries := pager.start }
  step s a := if s.Running then some (({ s with requests := s.requests + 1 }).attempt pager a) else none

/-! ## §3. Answers in turn. -/

variable {β : Type} {pager : Pager β} {s s' : Paging β} {answer : ResourcePage} {N : Nat}

/-- The answer reports the page that was asked for, or it ends the pages when there is none
    left. -/
def InTurn (page : Int) (answer : ResourcePage) : Prop :=
  answer.currentPage = page ∨ (answer.lastPage ≤ answer.currentPage ∧ answer.lastPage ≤ page)

/-- The condition on the answers. -/
def Follows (pager : Pager β) (N : Nat) (s : Paging β) (a : Attempt) : Prop :=
  ∀ payload answer, a = .answered payload → pager.check payload = .ok answer →
    answer.lastPage ≤ N ∧ InTurn s.page answer

/-- The condition, as a test. -/
def followsTest (pager : Pager β) (N : Nat) (s : Paging β) : Attempt → Bool
  | .answered payload =>
      match pager.check payload with
      | .ok answer => answer.lastPage ≤ N && (answer.currentPage == s.page
          || (answer.lastPage ≤ answer.currentPage && answer.lastPage ≤ s.page))
      | .error _ => true
  | _ => true

theorem follows_of_test {a : Attempt} (h : followsTest pager N s a = true) : Follows pager N s a := by
  intro payload answer ha hcheck
  rw [ha, followsTest, hcheck] at h
  simp only [Bool.and_eq_true, Bool.or_eq_true, decide_eq_true_eq, beq_iff_eq] at h
  exact h

/-- What holds while all answers are in turn. -/
structure TurnInv (pager : Pager β) (N : Nat) (s : Paging β) : Prop where
  /-- The pages 1, 2, … were asked for. -/
  pages : s.reads.map (·.1) = (List.range s.reads.length).map fun i : Nat => (i : Int) + 1
  next : s.page ≤ s.lastPage → s.page = s.reads.length + 1 ∧ s.lastPage ≤ N
  reads_le : s.reads.length ≤ N
  /-- A page that could not be read yet is one of the `N` pages, too. -/
  unread : s.raised ≠ none ∨ s.failed ≠ 0 → s.reads.length < N
  started : s.reads = [] → s.page ≤ s.lastPage
  last : s.lastPage < s.page → ∀ page answer, s.reads.getLast? = some (page, answer) →
    answer.lastPage ≤ s.reads.length
  entries : s.entries = s.reads.foldl (fun entries read => pager.collect entries read.2) pager.start
  failed_lt : s.failed < pager.attempts
  requests_le : s.requests ≤ pager.attempts * s.reads.length + s.failed
    + if s.raised.isSome then 1 else 0

theorem turnInv_init (hN : 1 ≤ N) : TurnInv pager N { entries := pager.start } := by
  refine ⟨rfl, fun _ => ⟨rfl, ?_⟩, Nat.zero_le _, fun h => ?_, fun _ => le_rfl, fun h => ?_, rfl,
    pager.attempts_pos, Nat.zero_le _⟩
  · show (1 : Int) ≤ N
    omega
  · rcases h with hraised | hfailed
    · exact absurd rfl hraised
    · exact absurd rfl hfailed
  · exact absurd h (lt_irrefl _)

/-- **A page that is read.** -/
theorem TurnInv.read (h : TurnInv pager N s) (hrunning : s.Running) (hlast : answer.lastPage ≤ N)
    (hturn : InTurn s.page answer) :
    TurnInv pager N (({ s with requests := s.requests + 1 }).read pager answer) := by
  obtain ⟨hraised, hle⟩ := hrunning
  obtain ⟨hpage, hbound⟩ := h.next hle
  have hlength : (s.reads ++ [(s.page, answer)]).length = s.reads.length + 1 := by
    rw [List.length_append, List.length_singleton]
  refine ⟨?_, fun hmore => ?_, ?_, fun hunread => ?_, fun hnil => ?_, fun hend page last hget => ?_,
    ?_, pager.attempts_pos, ?_⟩
  · show (s.reads ++ [(s.page, answer)]).map (·.1)
      = (List.range (s.reads ++ [(s.page, answer)]).length).map fun i : Nat => (i : Int) + 1
    rw [hlength, List.range_succ, List.map_append, List.map_append, h.pages, List.map_singleton,
      List.map_singleton, hpage]
  · -- the pages go on only after an answer that reports its page
    have hless : answer.currentPage < answer.lastPage := by
      have hmore' : answer.currentPage + 1 ≤ max answer.lastPage answer.currentPage := hmore
      omega
    have hcurrent : answer.currentPage = s.page := by
      rcases hturn with hcurrent | ⟨hend, -⟩
      · exact hcurrent
      · omega
    refine ⟨?_, ?_⟩
    · show answer.currentPage + 1 = ((s.reads ++ [(s.page, answer)]).length : Int) + 1
      rw [hlength]
      omega
    · show max answer.lastPage answer.currentPage ≤ N
      omega
  · show (s.reads ++ [(s.page, answer)]).length ≤ N
    rw [hlength]
    omega
  · rcases hunread with hne | hfailed
    · exact absurd hraised hne
    · exact absurd rfl hfailed
  · exact absurd hnil (List.append_ne_nil_of_right_ne_nil _ (List.cons_ne_nil _ _))
  · have hread : (s.reads ++ [(s.page, answer)]).getLast? = some (page, last) := hget
    rw [List.getLast?_concat] at hread
    obtain ⟨-, hanswer⟩ := Prod.mk.inj (Option.some.inj hread)
    show last.lastPage ≤ ((s.reads ++ [(s.page, answer)]).length : Int)
    rw [hlength, ← hanswer]
    have hend' : max answer.lastPage answer.currentPage < answer.currentPage + 1 := hend
    rcases hturn with hcurrent | ⟨-, hle⟩
    · omega
    · omega
  · show pager.collect s.entries answer = (s.reads ++ [(s.page, answer)]).foldl _ _
    rw [List.foldl_append, ← h.entries]
    rfl
  · have hrequests := h.requests_le
    have hfailed := h.failed_lt
    rw [hraised] at hrequests
    show s.requests + 1 ≤ pager.attempts * (s.reads ++ [(s.page, answer)]).length + 0
      + if s.raised.isSome then 1 else 0
    rw [hlength, hraised, Nat.mul_succ]
    simp only [Option.isSome_none, Bool.false_eq_true, if_false] at hrequests ⊢
    omega

/-- An attempt that raises. -/
theorem TurnInv.raise (h : TurnInv pager N s) (hrunning : s.Running) (error : PagingError) :
    TurnInv pager N { s with requests := s.requests + 1, raised := some error } := by
  obtain ⟨hraised, hle⟩ := hrunning
  obtain ⟨hpage, hbound⟩ := h.next hle
  have hrequests := h.requests_le
  rw [hraised] at hrequests
  refine ⟨h.pages, h.next, h.reads_le, fun _ => ?_, h.started, h.last, h.entries, h.failed_lt, ?_⟩
  · show s.reads.length < N
    omega
  · show s.requests + 1 ≤ pager.attempts * s.reads.length + s.failed + 1
    exact Nat.succ_le_succ hrequests

/-- **One attempt** keeps the invariant. -/
theorem TurnInv.step (h : TurnInv pager N s) {a : Attempt} (hfollows : Follows pager N s a)
    (hstep : (paging pager).step s a = some s') : TurnInv pager N s' := by
  obtain ⟨hrunning, hs'⟩ := Option.ite_none_right_eq_some.mp hstep
  rw [← Option.some.inj hs']
  cases a with
  | retried error =>
      unfold Paging.attempt
      dsimp only
      split
      next hmore =>
        have hrequests := h.requests_le
        rw [hrunning.1] at hrequests
        have hle : s.page ≤ s.lastPage := hrunning.2
        obtain ⟨hpage, hbound⟩ := h.next hle
        refine ⟨h.pages, h.next, h.reads_le, fun _ => ?_, h.started, h.last, h.entries, hmore, ?_⟩
        · show s.reads.length < N
          omega
        show s.requests + 1 ≤ pager.attempts * s.reads.length + (s.failed + 1)
          + if s.raised.isSome then 1 else 0
        rw [hrunning.1]
        exact Nat.succ_le_succ hrequests
      next => exact h.raise hrunning error
  | raised error => exact h.raise hrunning error
  | answered payload =>
      unfold Paging.attempt
      dsimp only
      split
      next message _ => exact h.raise hrunning (.value message)
      next answer hcheck =>
        obtain ⟨hlast, hturn⟩ := hfollows payload answer rfl hcheck
        exact h.read hrunning hlast hturn

theorem reachable_turnInv (hN : 1 ≤ N) (h : (paging pager).ReachableWhere (Follows pager N) s) :
    TurnInv pager N s :=
  h.invariant (fun s hinit => by rw [show s = _ from hinit]; exact turnInv_init hN)
    fun _ _ _ hinv hfollows hstep => hinv.step hfollows hstep

/-- Each page up to the last one is among the pages that were read, once. -/
theorem TurnInv.read_once (h : TurnInv pager N s) (hreturned : s.Returned) {page : Int}
    (hlast : s.reads.getLast? = some (page, answer)) {q : Int} (hone : 1 ≤ q)
    (hq : q ≤ answer.lastPage) : (s.reads.map (·.1)).count q = 1 := by
  have hle := h.last hreturned.2 page answer hlast
  rw [h.pages]
  have hnodup : ((List.range s.reads.length).map fun i : Nat => (i : Int) + 1).Nodup :=
    List.nodup_range.map fun i j hij => by
      have hij' : (i : Int) + 1 = j + 1 := hij
      omega
  refine List.count_eq_one_of_mem hnodup (List.mem_map.mpr ⟨(q - 1).toNat, ?_, ?_⟩)
  · rw [List.mem_range]
    omega
  · show (((q - 1).toNat : Nat) : Int) + 1 = q
    omega

/-- The attempts, of at most `N` pages. -/
theorem TurnInv.requests_bound (h : TurnInv pager N s) : s.requests ≤ pager.attempts * N := by
  have hrequests := h.requests_le
  have hfailed := h.failed_lt
  by_cases hunread : s.raised ≠ none ∨ s.failed ≠ 0
  · have hpages : pager.attempts * (s.reads.length + 1) ≤ pager.attempts * N :=
      Nat.mul_le_mul_left _ (h.unread hunread)
    rw [Nat.mul_succ] at hpages
    have hone : (if s.raised.isSome then 1 else 0) ≤ 1 := by
      split
      · exact Nat.le_refl 1
      · exact Nat.zero_le 1
    omega
  · rw [not_or, not_not, not_not] at hunread
    rw [hunread.1, hunread.2] at hrequests
    exact hrequests.trans (Nat.mul_le_mul_left _ h.reads_le)

/-! ## §4. The directories of departments and users. -/

variable {resource : String} {maxRetries : Int} {s : Paging (List JsonObject)}

/-- **Answers in turn.**  No last page is above `N`, and each answer reports the page that was
    asked for, or ends the pages where there is none left: at most `N` pages are read, after at
    most as many requests as there are attempts for `N` pages, and at the end each page up to
    the last one that was reported was read exactly once, with all its objects. -/
theorem resource_read_once (hN : 1 ≤ N)
    (h : (paging (fetchResource resource maxRetries)).ReachableWhere
      (Follows (fetchResource resource maxRetries) N) s) :
    s.reads.length ≤ N ∧ s.requests ≤ attemptsOf maxRetries * N
      ∧ (s.Returned → ∃ page answer, s.reads.getLast? = some (page, answer)
        ∧ (∀ q, 1 ≤ q → q ≤ answer.lastPage → (s.reads.map (·.1)).count q = 1)
        ∧ s.entries = s.reads.flatMap fun read => read.2.objects) := by
  have hinv := reachable_turnInv hN h
  refine ⟨hinv.reads_le, hinv.requests_bound, fun hreturned => ?_⟩
  cases hlast : s.reads.getLast? with
  | none =>
      have hpage := hinv.started (List.getLast?_eq_none_iff.mp hlast)
      exact absurd hpage (Int.not_le.mpr hreturned.2)
  | some read =>
      obtain ⟨page, answer⟩ := read
      refine ⟨page, answer, rfl, fun q hone hq => hinv.read_once hreturned hlast hone hq, ?_⟩
      rw [hinv.entries, List.flatMap_eq_foldl]
      rfl

/-- The same pages for the backfill: its names are those of all objects, in their order. -/
theorem directory_names {s : Paging (List (String × String))} (hN : 1 ≤ N)
    (h : (paging (fetchDirectory resource maxRetries)).ReachableWhere
      (Follows (fetchDirectory resource maxRetries) N) s) :
    s.reads.length ≤ N
      ∧ s.entries = dictionary (s.reads.flatMap fun read => read.2.objects.filterMap namedEntry) := by
  have hinv := reachable_turnInv hN h
  refine ⟨hinv.reads_le, ?_⟩
  rw [hinv.entries, dictionary, List.foldl_flatMap]
  rfl

/-- Two pages, the first one after a failed attempt. -/
def twoAnswers : List Attempt :=
  [.retried (.request "timeout"),
    .answered (.dict [("data", .list [.dict [("id", .str "d-1")], .null]), ("currentPage", .int 1),
      ("lastPage", .int 2)]),
    .answered (.dict [("data", .list [.dict [("id", .str "d-2")]]), ("currentPage", .int 2),
      ("lastPage", .int 2)])]

theorem twoAnswers_read_once :
    ∃ s, (paging (fetchResource "departments" 3)).Reachable s ∧ s.Returned
      ∧ s.reads.map (·.1) = [1, 2] ∧ s.reads.length ≤ 2 ∧ s.requests ≤ attemptsOf 3 * 2
      ∧ s.entries = s.reads.flatMap fun read => read.2.objects := by
  have hrun : ((paging (fetchResource "departments" 3)).execWhere
      (followsTest (fetchResource "departments" 3) 2) { entries := [] } twoAnswers).map
      (fun s => (s.reads.map (·.1), decide s.Running, s.raised)) = some ([1, 2], false, none) := by
    decide +kernel
  obtain ⟨s, hexec, hs⟩ := Option.map_eq_some_iff.mp hrun
  obtain ⟨hpages, hrunning, hraised⟩ : s.reads.map (·.1) = [1, 2] ∧ decide s.Running = false
      ∧ s.raised = none := by simpa only [Prod.mk.injEq] using hs
  have hfollows : (paging (fetchResource "departments" 3)).ReachableWhere
      (Follows (fetchResource "departments" 3) 2) s :=
    ⟨_, rfl, Machine.runWhere_of_execWhere (I := fun _ => True)
      (fun _ _ _ h => follows_of_test h) (fun _ _ _ _ _ _ => trivial) trivial hexec⟩
  obtain ⟨hreads, hrequests, hreturned⟩ := resource_read_once (by decide) hfollows
  have hdone : s.Returned := by
    refine ⟨hraised, Int.not_le.mp fun hle => ?_⟩
    exact absurd ⟨hraised, hle⟩ (of_decide_eq_false hrunning)
  obtain ⟨page, answer, -, -, hentries⟩ := hreturned hdone
  exact ⟨s, hfollows.reachable, hdone, hpages, hreads, hrequests, hentries⟩

/-- An answer that reports page 1 of 2, whatever page was asked for. -/
def stuckAnswer : Attempt :=
  .answered (.dict [("data", .list []), ("currentPage", .int 1), ("lastPage", .int 2)])

/-- **It is read for ever.** -/
theorem stuck_reads (resource : String) (maxRetries : Int) (n : Nat) :
    ∃ s, (paging (fetchResource resource maxRetries)).ReachableWhere
        (fun _ a => a = stuckAnswer) s ∧ s.Running ∧ s.reads.length = n := by
  induction n with
  | zero => exact ⟨_, .init rfl, ⟨rfl, le_rfl⟩, rfl⟩
  | succ n ih =>
      obtain ⟨s, hs, hrunning, hlength⟩ := ih
      refine ⟨_, hs.step rfl (if_pos hrunning), ⟨hrunning.1, ?_⟩, ?_⟩
      · show (1 : Int) + 1 ≤ max 2 1
        decide
      · show (s.reads ++ [_]).length = n + 1
        rw [List.length_append, hlength]
        rfl

theorem stuck_not_bounded :
    ¬∀ (N : Nat) (s : Paging (List JsonObject)),
      (paging (fetchResource "departments" 3)).ReachableWhere (fun _ a => ∀ payload answer,
        a = .answered payload → resourcePage "departments" payload = .ok answer →
          answer.lastPage ≤ N) s →
      s.reads.length ≤ N := by
  intro h
  obtain ⟨s, hs, -, hlength⟩ := stuck_reads "departments" 3 3
  have hle := h 2 s (hs.mono fun _ a ha payload answer hpayload hcheck => ?_)
  · rw [hlength] at hle
    exact absurd hle (by decide)
  · rw [ha] at hpayload
    rw [← Attempt.answered.inj hpayload] at hcheck
    rw [← Except.ok.inj hcheck]
    decide

end Cai.Digisac
