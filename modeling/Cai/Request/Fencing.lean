/-
  Cai.Request.Fencing — when the protocol never posts twice unsafely.

  Under the two `strict` conditions of `Cai.Request.Protocol` every pair of
  POSTs is separated by a release, or the earlier one was safe.  The
  invariant (`Fenced`) ties the exposure of the history (an unsafe POST
  not followed by a release) to the row, and the row to the calls that
  may still post.

  Main result: `Moves.everyPairCut`.
-/
import Cai.Request.Protocol

namespace Cai.Request.Protocol

open Cai.Lib

/-- A call between its post-start mark and its finish. -/
def Role.marked : Role → Bool
  | .posting | .finishing _ => true
  | .idle | .claimed => false

/-- A call that may still turn out not to have created anything. -/
def Role.undecided : Role → Bool
  | .posting => true
  | .finishing st => st == .retryableFailure
  | .idle | .claimed => false

theorem Role.marked_of_undecided {role : Role} (h : role.undecided = true) :
    role.marked = true := by
  cases role <;> simp_all [Role.undecided, Role.marked]

/-- No statement takes a row out of these states without a manual release. -/
def RowView.closed (r : RowView) : Prop :=
  r.started = true ∧ (r.state = .reconciliationRequired ∨ r.state = .completed)

/-- The row forbids another POST: it is started, and finished or held by a
    marked claim. -/
def RowView.shut (r : RowView) (log : History Event) : Prop :=
  r.started = true ∧ (r.state = .completed ∨ r.state = .definitiveFailure
    ∨ r.state = .reconciliationRequired ∨ (r.state = .attempting ∧ claimMarked log = true))

/-- **The fencing invariant.** -/
structure Fenced (s : Config) : Prop where
  /-- Live calls have distinct owners. -/
  distinct : ∀ c d x y, s.calls c = some x → s.calls d = some y → x.owner = y.owner → c = d
  /-- The claim of a call that has not marked is not marked. -/
  claimed : ∀ c x r, s.calls c = some x → x.role = .claimed → s.row = some r →
    r.state = .attempting → r.owner = some x.owner → claimMarked s.log = false
  /-- A marked call that still holds the row was not released. -/
  holds : ∀ c x r, s.calls c = some x → x.role.marked = true → s.row = some r →
    r.state = .attempting → r.owner = some x.owner → releasedSinceMark c s.log = false
  /-- A marked call that was not released holds the row, or the row is closed. -/
  kept : ∀ c x, s.calls c = some x → x.role.marked = true →
    releasedSinceMark c s.log = false → ∃ r, s.row = some r ∧ (r.closed
      ∨ (r.started = true ∧ r.state = .attempting ∧ r.owner = some x.owner
        ∧ claimMarked s.log = true))
  /-- Of two marked calls at most one was not released. -/
  exclusive : ∀ c d x y, s.calls c = some x → s.calls d = some y → x.role.marked = true →
    y.role.marked = true → releasedSinceMark c s.log = false →
    releasedSinceMark d s.log = false → c = d
  /-- An exposed history has a row that forbids another POST. -/
  shut : exposed s.log = true → ∃ r, s.row = some r ∧ r.shut s.log
  /-- An undecided call that was not released finds no exposed history. -/
  clean : ∀ c x, s.calls c = some x → x.role.undecided = true →
    releasedSinceMark c s.log = false → exposed s.log = false
  cut : History.EveryPairCut unsafePost isRelease isPost s.log

theorem Fenced.empty : Fenced Config.empty := by
  constructor <;> simp [Config.empty, History.everyPairCut_nil]

variable {s t : Config}

/-! ## §1. Moves of calls alone. -/

/-- A move that touches neither row nor history, and only makes calls less
    able to act. -/
theorem Fenced.of_calls (h : Fenced s) (hrow : t.row = s.row) (hlog : t.log = s.log)
    (hcalls : ∀ c x, t.calls c = some x → ∃ y, s.calls c = some y ∧ y.owner = x.owner
      ∧ (x.role = .claimed → y.role = .claimed)
      ∧ (x.role.marked = true → y.role.marked = true)
      ∧ (x.role.undecided = true → y.role.undecided = true)) : Fenced t := by
  constructor
  · intro c d x y hx hy heq
    obtain ⟨x', hx', hox, -⟩ := hcalls c x hx
    obtain ⟨y', hy', hoy, -⟩ := hcalls d y hy
    exact h.distinct c d x' y' hx' hy' (by rw [hox, hoy, heq])
  · intro c x r hx hrole hr hst hown
    obtain ⟨x', hx', hox, hcl, -⟩ := hcalls c x hx
    rw [hlog]
    rw [hrow] at hr
    exact h.claimed c x' r hx' (hcl hrole) hr hst (by rw [hox]; exact hown)
  · intro c x r hx hrole hr hst hown
    obtain ⟨x', hx', hox, -, hmk, -⟩ := hcalls c x hx
    rw [hlog]
    rw [hrow] at hr
    exact h.holds c x' r hx' (hmk hrole) hr hst (by rw [hox]; exact hown)
  · intro c x hx hrole hrel
    obtain ⟨x', hx', hox, -, hmk, -⟩ := hcalls c x hx
    rw [hlog] at hrel ⊢
    rw [hrow, ← hox]
    exact h.kept c x' hx' (hmk hrole) hrel
  · intro c d x y hx hy hrx hry hc hd
    obtain ⟨x', hx', -, -, hmx, -⟩ := hcalls c x hx
    obtain ⟨y', hy', -, -, hmy, -⟩ := hcalls d y hy
    rw [hlog] at hc hd
    exact h.exclusive c d x' y' hx' hy' (hmx hrx) (hmy hry) hc hd
  · rw [hlog, hrow]
    exact h.shut
  · intro c x hx hrole hrel
    obtain ⟨x', hx', -, -, -, hun⟩ := hcalls c x hx
    rw [hlog] at hrel ⊢
    exact h.clean c x' hx' (hun hrole) hrel
  · rw [hlog]
    exact h.cut

/-- Replacing one call by a less able one of the same owner. -/
theorem Fenced.setCall (h : Fenced s) {c : CallerId} {y x : Call} (hy : s.calls c = some y)
    (howner : y.owner = x.owner) (hcl : x.role = .claimed → y.role = .claimed)
    (hmk : x.role.marked = true → y.role.marked = true)
    (hun : x.role.undecided = true → y.role.undecided = true) :
    Fenced (s.setCall c (some x)) := by
  refine h.of_calls rfl rfl ?_
  intro d x' hx'
  by_cases hdc : d = c
  · subst hdc
    simp only [Config.setCall, Function.update_self, Option.some.injEq] at hx'
    subst hx'
    exact ⟨y, hy, howner, hcl, hmk, hun⟩
  · simp only [Config.setCall, Function.update_of_ne hdc] at hx'
    exact ⟨x', hx', rfl, id, id, id⟩

theorem Fenced.leave (h : Fenced s) (c : CallerId) : Fenced (s.setCall c none) := by
  refine h.of_calls rfl rfl ?_
  intro d x hx
  by_cases hdc : d = c
  · subst hdc
    simp [Config.setCall] at hx
  · simp only [Config.setCall, Function.update_of_ne hdc] at hx
    exact ⟨x, hx, rfl, id, id, id⟩

/-- A new call, under an owner that no live call has. -/
theorem Fenced.enter (h : Fenced s) {c : CallerId} {owner : String}
    (hdistinct : ∀ d call, s.calls d = some call → call.owner ≠ owner) :
    Fenced (s.setCall c (some ⟨owner, .idle⟩)) := by
  have old {d : CallerId} {x : Call}
      (hx : (s.setCall c (some ⟨owner, .idle⟩)).calls d = some x) :
      (d = c ∧ x = ⟨owner, .idle⟩) ∨ s.calls d = some x := by
    by_cases hdc : d = c
    · subst hdc
      simp only [Config.setCall, Function.update_self, Option.some.injEq] at hx
      exact .inl ⟨rfl, hx.symm⟩
    · simp only [Config.setCall, Function.update_of_ne hdc] at hx
      exact .inr hx
  constructor
  · intro c' d x y hx hy heq
    rcases old hx with ⟨rfl, rfl⟩ | hx' <;> rcases old hy with ⟨rfl, rfl⟩ | hy'
    · rfl
    · exact absurd heq.symm (hdistinct _ _ hy')
    · exact absurd heq (hdistinct _ _ hx')
    · exact h.distinct c' d x y hx' hy' heq
  · intro c' x r hx hrole
    rcases old hx with ⟨rfl, rfl⟩ | hx
    · cases hrole
    · exact h.claimed c' x r hx hrole
  · intro c' x r hx hrole
    rcases old hx with ⟨rfl, rfl⟩ | hx
    · cases hrole
    · exact h.holds c' x r hx hrole
  · intro c' x hx hrole
    rcases old hx with ⟨rfl, rfl⟩ | hx
    · cases hrole
    · exact h.kept c' x hx hrole
  · intro c' d x y hx hy hrx hry
    rcases old hx with ⟨rfl, rfl⟩ | hx
    · cases hrx
    rcases old hy with ⟨rfl, rfl⟩ | hy
    · cases hry
    exact h.exclusive c' d x y hx hy hrx hry
  · exact h.shut
  · intro c' x hx hrole
    rcases old hx with ⟨rfl, rfl⟩ | hx
    · cases hrole
    · exact h.clean c' x hx hrole
  · exact h.cut

/-! ## §2. Moves of the row that grant no claim. -/

/-- A move to a row that nobody holds, with no call gaining anything and no
    POST, mark or release in the history. -/
theorem Fenced.of_row (h : Fenced s) {r : RowView} (hrow : t.row = some r)
    (hcalls : ∀ c x, t.calls c = some x → s.calls c = some x)
    (hrel : ∀ c, releasedSinceMark c t.log = releasedSinceMark c s.log)
    (hexp : exposed t.log = exposed s.log)
    (hcut : History.EveryPairCut unsafePost isRelease isPost t.log)
    (hfree : r.state ≠ .attempting)
    (hkept : ∀ c x, t.calls c = some x → x.role.marked = true →
      releasedSinceMark c s.log = false → r.closed)
    (hshut : exposed s.log = true → r.shut t.log) : Fenced t := by
  have held {r' : RowView} (hr' : t.row = some r') (hst : r'.state = .attempting) : False := by
    rw [hrow] at hr'
    injection hr' with hr'
    subst hr'
    exact hfree hst
  constructor
  · exact fun c d x y hx hy => h.distinct c d x y (hcalls c x hx) (hcalls d y hy)
  · exact fun c x r' _ _ hr' hst => (held hr' hst).elim
  · exact fun c x r' _ _ hr' hst => (held hr' hst).elim
  · intro c x hx hrole hc
    rw [hrel] at hc
    exact ⟨r, hrow, .inl (hkept c x hx hrole hc)⟩
  · intro c d x y hx hy hrx hry hc hd
    rw [hrel] at hc hd
    exact h.exclusive c d x y (hcalls c x hx) (hcalls d y hy) hrx hry hc hd
  · intro he
    rw [hexp] at he
    exact ⟨r, hrow, hshut he⟩
  · intro c x hx hrole hc
    rw [hrel] at hc
    rw [hexp]
    exact h.clean c x (hcalls c x hx) hrole hc
  · exact hcut

/-- A row of a shut history that is not held stays shut. -/
theorem RowView.shut_of_closed {r : RowView} (h : r.closed) (log : History Event) :
    r.shut log := by
  obtain ⟨hst, hs | hs⟩ := h
  · exact ⟨hst, .inr (.inr (.inl hs))⟩
  · exact ⟨hst, .inl hs⟩

/-- The row of a marked call that was not released. -/
theorem Fenced.started_of_kept (h : Fenced s) {c : CallerId} {x : Call} {r : RowView}
    (hx : s.calls c = some x) (hrole : x.role.marked = true)
    (hrel : releasedSinceMark c s.log = false) (hrow : s.row = some r) :
    r.closed ∨ (r.started = true ∧ r.state = .attempting ∧ r.owner = some x.owner
      ∧ claimMarked s.log = true) := by
  obtain ⟨r', hrow', hk⟩ := h.kept c x hx hrole hrel
  rw [hrow] at hrow'
  injection hrow' with hrow'
  subst hrow'
  exact hk

theorem Fenced.row_shut (h : Fenced s) {r : RowView} (hrow : s.row = some r)
    (he : exposed s.log = true) : r.shut s.log := by
  obtain ⟨r', hrow', hs⟩ := h.shut he
  rw [hrow] at hrow'
  injection hrow' with hrow'
  subst hrow'
  exact hs

/-- A row that is neither started nor in a closed state proves that no POST
    is exposed. -/
theorem Fenced.not_exposed (h : Fenced s) {r : RowView} (hrow : s.row = some r)
    (hopen : ¬ r.shut s.log) : exposed s.log = false := by
  by_contra he
  exact hopen (h.row_shut hrow (by simpa using he))

theorem Fenced.insert (h : Fenced s) {r : RowView} (hrow : s.row = none)
    (hstate : r.state = .notStarted ∨ r.state = .definitiveFailure) :
    Fenced { s with row := some r } := by
  refine h.of_row rfl (fun _ _ hx => hx) (fun _ => rfl) rfl h.cut ?_ ?_ ?_
  · rcases hstate with hst | hst <;> simp [hst]
  · intro c x hx hrole hrel
    obtain ⟨r', hr', -⟩ := h.kept c x hx hrole hrel
    rw [hrow] at hr'
    cases hr'
  · intro he
    obtain ⟨r', hr', -⟩ := h.shut he
    rw [hrow] at hr'
    cases hr'

/-- A marked, unreleased call never finds a `definitive_failure`. -/
theorem Fenced.lease (h : Fenced s) {r : RowView} {owner : Option String}
    (hrow : s.row = some r) (hstate : r.state = .definitiveFailure) :
    Fenced { s with row := some { r with owner } } := by
  refine h.of_row rfl (fun _ _ hx => hx) (fun _ => rfl) rfl h.cut (by simp [hstate]) ?_ ?_
  · intro c x hx hrole hrel
    rcases h.started_of_kept hx hrole hrel hrow with ⟨-, hst⟩ | ⟨-, hst, -⟩ <;>
      simp [hstate] at hst
  · intro he
    have hshut : r.shut s.log := h.row_shut hrow he
    exact hshut

/-- Any move of an unstarted, unclaimable row. -/
theorem Fenced.of_unstarted (h : Fenced s) {r r' : RowView} (hrow : s.row = some r)
    (hunsent : r.started = false) (hfree : r'.state ≠ .attempting) :
    Fenced { s with row := some r' } := by
  refine h.of_row rfl (fun _ _ hx => hx) (fun _ => rfl) rfl h.cut hfree ?_ ?_
  · intro c x hx hrole hrel
    rcases h.started_of_kept hx hrole hrel hrow with ⟨hs, -⟩ | ⟨hs, -⟩ <;>
      simp [hunsent] at hs
  · intro he
    obtain ⟨hs, -⟩ := h.row_shut hrow he
    simp [hunsent] at hs

/-- Stale recovery of a started claim closes the row. -/
theorem Fenced.fence (h : Fenced s) {r : RowView} (hstarted : r.started = true) :
    Fenced { s with row := some { r with state := .reconciliationRequired, owner := none } } := by
  have hclosed : RowView.closed { r with state := .reconciliationRequired, owner := none } :=
    ⟨hstarted, .inl rfl⟩
  exact h.of_row rfl (fun _ _ hx => hx) (fun _ => rfl) rfl h.cut (by simp)
    (fun _ _ _ _ _ => hclosed) (fun _ => RowView.shut_of_closed hclosed _)

/-- A recorded identifier completes the row; nothing is released by it. -/
theorem Fenced.record (h : Fenced s) {r : RowView} {sol : String} (hrow : s.row = some r) :
    Fenced { s with
      row := some { r with state := .completed, owner := none, sol := some sol }
      log := .recorded :: s.log } := by
  refine h.of_row rfl (fun _ _ hx => hx) (fun _ => rfl) rfl
    (h.cut.cons_of_not_target rfl) (by simp) ?_ ?_
  · intro c x hx hrole hrel
    refine ⟨?_, .inr rfl⟩
    rcases h.started_of_kept hx hrole hrel hrow with ⟨hs, -⟩ | ⟨hs, -⟩ <;> exact hs
  · intro he
    exact ⟨(h.row_shut hrow he).1, .inl rfl⟩

/-- After a manual release no POST is exposed and no call is unreleased. -/
theorem Fenced.release (h : Fenced s) {r : RowView} :
    Fenced { s with
      row := some { r with state := .retryableFailure, owner := none }
      log := .released :: s.log } := by
  constructor
  · exact h.distinct
  · rintro c x r' hx hrole ⟨⟩ hst
    cases hst
  · rintro c x r' hx hrole ⟨⟩ hst
    cases hst
  · intro c x hx hrole hrel
    cases hrel
  · intro c d x y hx hy hrx hry hrel
    cases hrel
  · intro he
    cases he
  · intro c x hx hrole hrel
    cases hrel
  · exact h.cut.cons_of_not_target rfl

/-! ## §3. Claim, mark, post, finish. -/

/-- A call after an update of one entry. -/
theorem update_cases {calls : CallerId → Option Call} {c d : CallerId} {y x : Call}
    (h : Function.update calls c (some y) d = some x) :
    (d = c ∧ x = y) ∨ (d ≠ c ∧ calls d = some x) := by
  by_cases hdc : d = c
  · subst hdc
    simp only [Function.update_self, Option.some.injEq] at h
    exact .inl ⟨rfl, h.symm⟩
  · rw [Function.update_of_ne hdc] at h
    exact .inr ⟨hdc, h⟩

/-- Owners stay distinct when one call changes but keeps its owner. -/
theorem Fenced.distinct_update (h : Fenced s) {c : CallerId} {owner : String} {role role' : Role}
    (hcall : s.calls c = some ⟨owner, role⟩) :
    ∀ c' d x y, Function.update s.calls c (some ⟨owner, role'⟩) c' = some x →
      Function.update s.calls c (some ⟨owner, role'⟩) d = some y → x.owner = y.owner → c' = d := by
  intro c' d x y hx hy heq
  rcases update_cases hx with ⟨hc', hxe⟩ | ⟨hc', hx⟩ <;>
    rcases update_cases hy with ⟨hd, hye⟩ | ⟨hd, hy⟩
  · rw [hc', hd]
  · subst hxe
    exact absurd (h.distinct c d _ y hcall hy heq) (fun hcd => hd hcd.symm)
  · subst hye
    exact absurd (h.distinct c' c x _ hx hcall heq) hc'
  · exact h.distinct c' d x y hx hy heq

/-- A granted claim starts from a row that no POST has exposed. -/
theorem Fenced.claim (h : Fenced s) {c : CallerId} {owner : String} {r : RowView}
    (hcall : s.calls c = some ⟨owner, .idle⟩) (hrow : s.row = some r)
    (hstate : r.state = .notStarted ∨ r.state = .retryableFailure
      ∨ (r.state = .attempting ∧ r.started = false)) :
    Fenced
      { row := some { r with state := .attempting, owner := some owner }
        calls := Function.update s.calls c (some ⟨owner, .claimed⟩)
        log := .claimed c owner :: s.log } := by
  have hexp : exposed s.log = false := by
    refine h.not_exposed hrow ?_
    rintro ⟨hst, hs⟩
    rcases hstate with hst' | hst' | ⟨hst', hun⟩
    · simp [hst'] at hs
    · simp [hst'] at hs
    · simp [hun] at hst
  -- the claimed row is not one that a marked, unreleased call can have left
  have hreleased : ∀ d x, s.calls d = some x → x.role.marked = true →
      releasedSinceMark d s.log = true := by
    intro d x hx hrole
    by_contra hrel
    rcases h.started_of_kept hx hrole (by simpa using hrel) hrow with ⟨hst, hs⟩ | ⟨hst, hs, -⟩ <;>
      rcases hstate with hst' | hst' | ⟨hst', hun⟩ <;> simp_all
  constructor
  · exact h.distinct_update hcall
  · rintro d x r' hx hrole ⟨⟩ hst hown
    rfl
  · rintro d x r' hx hrole ⟨⟩ hst hown
    rcases update_cases hx with ⟨rfl, rfl⟩ | ⟨hdc, hx⟩
    · cases hrole
    · injection hown with hown
      exact absurd (h.distinct d c x _ hx hcall hown.symm) hdc
  · intro d x hx hrole hrel
    rcases update_cases hx with ⟨rfl, rfl⟩ | ⟨hdc, hx⟩
    · cases hrole
    · rw [show releasedSinceMark d (.claimed c owner :: s.log) = releasedSinceMark d s.log from rfl,
        hreleased d x hx hrole] at hrel
      cases hrel
  · intro d e x y hx hy hrx hry hd he
    rcases update_cases hx with ⟨rfl, rfl⟩ | ⟨-, hx⟩
    · cases hrx
    rcases update_cases hy with ⟨rfl, rfl⟩ | ⟨-, hy⟩
    · cases hry
    exact h.exclusive d e x y hx hy hrx hry hd he
  · intro he
    rw [exposed_claimed, hexp] at he
    cases he
  · intro d x hx hrole hrel
    exact hexp
  · exact h.cut.cons_of_not_target rfl

/-- A post-start mark is the first one of its claim, so no POST is exposed
    and no other marked call is unreleased. -/
theorem Fenced.mark (h : Fenced s) {c : CallerId} {owner : String} {r : RowView}
    (hcall : s.calls c = some ⟨owner, .claimed⟩) (hrow : s.row = some r)
    (hstate : r.state = .attempting) (howner : r.owner = some owner) :
    Fenced
      { row := some { r with started := true, attempts := r.attempts + 1 }
        calls := Function.update s.calls c (some ⟨owner, .posting⟩)
        log := .marked c owner :: s.log } := by
  have hfresh : claimMarked s.log = false := h.claimed c _ r hcall rfl hrow hstate howner
  have hexp : exposed s.log = false := by
    refine h.not_exposed hrow ?_
    rintro ⟨-, hs⟩
    simp [hstate, hfresh] at hs
  have hother : ∀ d x, d ≠ c → s.calls d = some x → x.role.marked = true →
      releasedSinceMark d s.log = true := by
    intro d x hdc hx hrole
    by_contra hrel
    rcases h.started_of_kept hx hrole (by simpa using hrel) hrow with ⟨-, hs⟩ | ⟨-, -, hown, -⟩
    · simp [hstate] at hs
    · rw [howner] at hown
      injection hown with hown
      exact hdc (h.distinct d c x _ hx hcall hown.symm)
  have hskip {d : CallerId} (hdc : d ≠ c) :
      releasedSinceMark d (.marked c owner :: s.log) = releasedSinceMark d s.log :=
    if_neg fun hcd => hdc hcd.symm
  constructor
  · exact h.distinct_update hcall
  · rintro d x r' hx hrole ⟨⟩ hst hown
    rcases update_cases hx with ⟨rfl, rfl⟩ | ⟨hdc, hx⟩
    · cases hrole
    · rw [show r.owner = some x.owner from hown] at howner
      injection howner with howner
      exact absurd (h.distinct d c x _ hx hcall howner) hdc
  · rintro d x r' hx hrole ⟨⟩ hst hown
    rcases update_cases hx with ⟨rfl, rfl⟩ | ⟨hdc, hx⟩
    · exact if_pos rfl
    · rw [show r.owner = some x.owner from hown] at howner
      injection howner with howner
      exact absurd (h.distinct d c x _ hx hcall howner) hdc
  · intro d x hx hrole hrel
    rcases update_cases hx with ⟨rfl, rfl⟩ | ⟨hdc, hx⟩
    · exact ⟨_, rfl, .inr ⟨rfl, hstate, howner, rfl⟩⟩
    · rw [hskip hdc, hother d x hdc hx hrole] at hrel
      cases hrel
  · intro d e x y hx hy hrx hry hd he
    rcases update_cases hx with ⟨hdc, -⟩ | ⟨hdc, hx⟩
    · rcases update_cases hy with ⟨hec, -⟩ | ⟨hec, hy⟩
      · rw [hdc, hec]
      · rw [hskip hec, hother e y hec hy hry] at he
        cases he
    · rw [hskip hdc, hother d x hdc hx hrx] at hd
      cases hd
  · intro he
    rw [exposed_marked, hexp] at he
    cases he
  · intro d x hx hrole hrel
    exact hexp
  · exact h.cut.cons_of_not_target rfl

/-- A licensed POST: the only unreleased marked call sends it, and finds no
    exposed POST before it. -/
theorem Fenced.post (h : Fenced s) {c : CallerId} {owner : String} {result : TransportResult}
    {next : Role} (hcall : s.calls c = some ⟨owner, .posting⟩)
    (hlicence : releasedSinceMark c s.log = false)
    (hnext : next = .posting ∧ result.safe = true
      ∨ ∃ st, next = .finishing st ∧ (st = .retryableFailure → result.safe = true)) :
    Fenced
      { s with
        calls := Function.update s.calls c (some ⟨owner, next⟩)
        log := .posted c result :: s.log } := by
  have hmarked : next.marked = true := by
    rcases hnext with ⟨rfl, -⟩ | ⟨st, rfl, -⟩ <;> rfl
  have hundecided : next.undecided = true → result.safe = true := by
    rcases hnext with ⟨rfl, hsafe⟩ | ⟨st, rfl, hsafe⟩
    · exact fun _ => hsafe
    · intro hst
      exact hsafe (by simpa [Role.undecided] using hst)
  have hexp : exposed s.log = false := h.clean c _ hcall rfl hlicence
  obtain ⟨r, hrow, hkept⟩ := h.kept c _ hcall rfl hlicence
  constructor
  · exact h.distinct_update hcall
  · intro d x r' hx hrole hr' hst hown
    rcases update_cases hx with ⟨rfl, rfl⟩ | ⟨hdc, hx⟩
    · rw [show next = .claimed from hrole] at hmarked
      cases hmarked
    · exact h.claimed d x r' hx hrole hr' hst hown
  · intro d x r' hx hrole hr' hst hown
    rcases update_cases hx with ⟨rfl, rfl⟩ | ⟨hdc, hx⟩
    · exact hlicence
    · exact h.holds d x r' hx hrole hr' hst hown
  · intro d x hx hrole hrel
    rcases update_cases hx with ⟨rfl, rfl⟩ | ⟨hdc, hx⟩
    · exact ⟨r, hrow, hkept⟩
    · exact h.kept d x hx hrole hrel
  · intro d e x y hx hy hrx hry hd he
    rcases update_cases hx with ⟨rfl, rfl⟩ | ⟨hdc, hx⟩ <;>
      rcases update_cases hy with ⟨hec, hye⟩ | ⟨hec, hy⟩
    · exact hec.symm
    · exact h.exclusive d e _ y hcall hy rfl hry hd he
    · rw [hec]
      exact h.exclusive d c x _ hx hcall hrx rfl hd hlicence
    · exact h.exclusive d e x y hx hy hrx hry hd he
  · intro he
    refine ⟨r, hrow, ?_⟩
    rcases hkept with hclosed | ⟨hstarted, hst, -, hcm⟩
    · exact RowView.shut_of_closed hclosed _
    · exact ⟨hstarted, .inr (.inr (.inr ⟨hst, hcm⟩))⟩
  · intro d x hx hrole hrel
    rcases update_cases hx with ⟨rfl, rfl⟩ | ⟨hdc, hx⟩
    · rw [exposed_posted, hundecided hrole, hexp]
      rfl
    · -- another undecided call would be unreleased next to `c`
      exact absurd (h.exclusive d c x _ hx hcall (Role.marked_of_undecided hrole) rfl hrel
        hlicence) hdc
  · exact (History.everyPairCut_cons _ _).mpr ⟨h.cut, fun _ => hexp⟩

/-- A finish of the call that holds the row. -/
theorem Fenced.finish (h : Fenced s) {c : CallerId} {call : Call} {r : RowView}
    {st : OperationState} {sol : Option String} (hcall : s.calls c = some call)
    (hrole : (call.role = .claimed ∧ st = .retryableFailure) ∨ call.role = .finishing st)
    (hrow : s.row = some r) (hstate : r.state = .attempting)
    (howner : r.owner = some call.owner) (hst : st ∈ finals) :
    Fenced
      { row := some { r with state := st, owner := none, sol }
        calls := Function.update s.calls c none
        log := .finished c call.owner st :: s.log } := by
  have hold : ∀ d x, Function.update s.calls c none d = some x → d ≠ c ∧ s.calls d = some x := by
    intro d x hx
    by_cases hdc : d = c
    · subst hdc
      simp at hx
    · rw [Function.update_of_ne hdc] at hx
      exact ⟨hdc, hx⟩
  refine h.of_row rfl (fun d x hx => (hold d x hx).2) (fun _ => rfl) rfl
    (h.cut.cons_of_not_target rfl) ?_ ?_ ?_
  · rintro rfl
    simp [finals] at hst
  · intro d x hx hmk hrel
    obtain ⟨hdc, hx⟩ := hold d x hx
    rcases h.started_of_kept hx hmk hrel hrow with ⟨-, hs⟩ | ⟨-, -, hown, -⟩
    · simp [hstate] at hs
    · rw [howner] at hown
      injection hown with hown
      exact absurd (h.distinct d c x call hx hcall hown.symm) hdc
  · intro he
    obtain ⟨hstarted, hs⟩ := h.row_shut hrow he
    have hcm : claimMarked s.log = true := by simpa [hstate] using hs
    -- a retryable finish would be one of a claim that exposed no POST
    have hne : st ≠ .retryableFailure := by
      rintro rfl
      rcases hrole with ⟨hrole, -⟩ | hrole
      · rw [h.claimed c call r hcall hrole hrow hstate howner] at hcm
        cases hcm
      · have hrel : releasedSinceMark c s.log = false :=
          h.holds c call r hcall (by rw [hrole]; rfl) hrow hstate howner
        rw [h.clean c call hcall (by rw [hrole]; rfl) hrel] at he
        cases he
    refine ⟨hstarted, ?_⟩
    revert hst hne
    cases st <;> simp [finals]

/-! ## §4. Every run. -/

/-- **One strict move keeps the fencing invariant.** -/
theorem Fenced.move (h : Fenced s) (hm : Move True s t) : Fenced t := by
  cases hm with
  | enter c owner hfresh hdistinct => exact h.enter (hdistinct trivial)
  | leave c => exact h.leave c
  | rest c call hcall =>
      exact h.setCall hcall rfl (fun hr => nomatch hr) (fun hr => nomatch hr)
        (fun hr => nomatch hr)
  | insert r hrow hstate => exact h.insert hrow hstate
  | lease r owner hrow hstate => exact h.lease hrow hstate
  | reopen r hrow hstate hunsent => exact h.of_unstarted hrow hunsent (by simp)
  | claim c owner r hcall hrow hstate => exact h.claim hcall hrow hstate
  | fence r hrow hstate hstarted => exact h.fence hstarted
  | block r hrow hstate hunsent => exact h.of_unstarted hrow hunsent (by simp)
  | mark c owner r hcall hrow hstate howner => exact h.mark hcall hrow hstate howner
  | post c owner result next hcall hlicence hnext => exact h.post hcall (hlicence trivial) hnext
  | settle c owner st hcall =>
      exact h.setCall hcall rfl (fun hr => nomatch hr) (fun _ => rfl) (fun _ => rfl)
  | finish c call r st sol hcall hrole hrow hstate howner hst =>
      exact h.finish hcall hrole hrow hstate howner hst
  | record r sol hrow hstate => exact h.record hrow
  | release r hrow hstate => exact h.release

/-- **Licensed posting is safe posting**: in every strict run, between an
    unsafe POST and any later POST there is a release. -/
theorem Moves.everyPairCut (h : Moves True Config.empty t) :
    History.EveryPairCut unsafePost isRelease isPost t.log :=
  (Moves.invariant h Fenced.empty fun _ _ hs hm => hs.move hm).cut

end Cai.Request.Protocol
