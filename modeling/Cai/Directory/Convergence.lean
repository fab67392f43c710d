/-
  Cai.Directory.Convergence — the order of the observations of a contact.

  Observations with distinct timestamps are replayed on an empty table.
  An observation that arrives after a newer one is dropped as a whole, also
  where the newer one has a gap; so a field ends the same in every order
  exactly when the newest observation supplies it, or none does.

  Main result: `orders_agree_iff`.
-/
import Cai.Directory.Contacts

namespace Cai.Directory

open Cai.Lib
open Cai.Cycle (Timestamp)

/-! ## §1. Replays. -/

/-- The observations are upserted one by one, each in a transaction of its own. -/
def replay (os : List Observation) (contacts : DigisacContacts) : DigisacContacts :=
  os.foldl (fun contacts o => committed contacts (upsertDigisacContactCursor o contacts)) contacts

/-- The value of a field in the row that a replay on an empty table leaves. -/
def finalField (externalId : String) (os : List Observation) (f : ProviderField) : Option f.type :=
  ((replay os .empty).get? externalId).bind fun row => row.fields.get f

/-- Observations of one contact, with distinct timestamps. -/
structure Comparable (externalId : String) (os : List Observation) : Prop where
  contact : ∀ o ∈ os, o.contact.externalId = externalId
  /-- The constraints of the table accept each of them. -/
  storable : ∀ o ∈ os, o.newRow.storable externalId = true
  timed : ∀ o ∈ os, o.contact.providerUpdatedAt ≠ none
  distinct : (os.map (·.contact.providerUpdatedAt)).Nodup

theorem Comparable.perm {externalId : String} {os os' : List Observation}
    (h : Comparable externalId os) (hperm : os'.Perm os) : Comparable externalId os' where
  contact := fun o ho => h.contact o (hperm.mem_iff.mp ho)
  storable := fun o ho => h.storable o (hperm.mem_iff.mp ho)
  timed := fun o ho => h.timed o (hperm.mem_iff.mp ho)
  distinct := ((hperm.map _).nodup_iff).mpr h.distinct

/-- The newest observation. -/
structure Newest (n : Observation) (os : List Observation) : Prop where
  mem : n ∈ os
  newest : ∀ o ∈ os, NotBefore o.contact.providerUpdatedAt n.contact.providerUpdatedAt

/-! ## §2. The provider fields of a replay. -/

/-- The fields after an observation. -/
def Observation.fieldsAfter (o : Observation) (before : Option ProviderFields) : ProviderFields :=
  before.elim o.contact.toProviderFields fun row => mergedFields row o.contact.toProviderFields

def settle (os : List Observation) (fields : Option ProviderFields) : Option ProviderFields :=
  os.foldl (fun fields o => some (o.fieldsAfter fields)) fields

variable {externalId : String} {os os' : List Observation} {n o : Observation} {f : ProviderField}
  {fields : ProviderFields}

/-- A merged row is storable when the row and the contact are. -/
theorem storable_rowAfter {row : DigisacRow} (hrow : row.storable externalId = true)
    (ho : o.newRow.storable externalId = true) :
    (o.rowAfter (some row)).storable externalId = true := by
  unfold DigisacRow.storable at hrow ho ⊢
  simp only [Bool.and_eq_true] at hrow ho ⊢
  refine ⟨⟨hrow.1.1, ?_⟩, ?_⟩
  · have hnumber := get_mergedFields row.fields o.contact.toProviderFields .normalizedNumber
    change (o.rowAfter (some row)).fields.normalizedNumber
      = mergedField _ _ row.fields.normalizedNumber o.contact.normalizedNumber at hnumber
    rw [hnumber]
    unfold mergedField
    split
    next => exact hrow.1.2
    next => exact ho.1.2
  · show (!Cai.Cycle.pgBlank (mergedRow o.source o.observed o.contact row).lastSource) = true
    unfold mergedRow
    simp only
    split
    next => exact hrow.2
    next => exact ho.2

/-- **A replay settles the fields of the contact.** -/
theorem fields_replay (hcontact : ∀ o ∈ os, o.contact.externalId = externalId)
    (hstorable : ∀ o ∈ os, o.newRow.storable externalId = true) (contacts : DigisacContacts)
    (hrow : ∀ row, contacts.get? externalId = some row → row.storable externalId = true) :
    ((replay os contacts).get? externalId).map (·.fields)
      = settle os ((contacts.get? externalId).map (·.fields)) := by
  induction os generalizing contacts with
  | nil => rfl
  | cons o os ih =>
      have hid : o.contact.externalId = externalId := hcontact o List.mem_cons_self
      have ho := hstorable o List.mem_cons_self
      have hafter : (o.rowAfter (contacts.get? externalId)).storable externalId = true := by
        cases hget : contacts.get? externalId with
        | none => exact ho
        | some row => exact storable_rowAfter (hrow row hget) ho
      have hok : upsertDigisacContactCursor o contacts = .ok (o.apply contacts) := by
        rw [upsertDigisacContactCursor_ok_iff, hid]
        exact ⟨hafter, rfl⟩
      have hget : (o.apply contacts).get? externalId
          = some (o.rowAfter (contacts.get? externalId)) := by
        have hself := get?_apply_self o contacts
        rw [hid] at hself
        exact hself
      have hreplay : replay (o :: os) contacts = replay os (o.apply contacts) := by
        unfold replay
        rw [List.foldl_cons, hok, committed_ok]
      rw [hreplay, ih (fun c hc => hcontact c (List.mem_cons_of_mem o hc))
        (fun c hc => hstorable c (List.mem_cons_of_mem o hc)), hget]
      · unfold settle
        rw [List.foldl_cons]
        cases contacts.get? externalId with
        | none => rfl
        | some row => rfl
      · intro row hsome
        rw [hget] at hsome
        rw [← Option.some.inj hsome]
        exact hafter

theorem finalField_eq (h : Comparable externalId os) (f : ProviderField) :
    finalField externalId os f = (settle os none).bind fun fields => fields.get f := by
  have hfields := fields_replay h.contact h.storable .empty fun row hrow => by cases hrow
  have hempty : ((Keyed.empty : DigisacContacts).get? externalId).map (·.fields) = none := rfl
  rw [hempty] at hfields
  unfold finalField
  rw [← hfields]
  cases (replay os .empty).get? externalId with
  | none => rfl
  | some row => rfl

/-- Observations that are all older change nothing. -/
theorem settle_older
    (h : ∀ o ∈ os, older fields.providerUpdatedAt o.contact.providerUpdatedAt = true) :
    settle os (some fields) = some fields := by
  induction os with
  | nil => rfl
  | cons o os ih =>
      have hfirst : o.fieldsAfter (some fields) = fields :=
        mergedFields_of_older (h o List.mem_cons_self)
      unfold settle at ih ⊢
      rw [List.foldl_cons, hfirst]
      exact ih fun c hc => h c (List.mem_cons_of_mem o hc)

/-- A field that no observation supplies stays as it is. -/
theorem settle_unsupplied (h : ∀ o ∈ os, o.contact.get f = none) (x : Option ProviderFields)
    (hx : (x.bind fun fields => fields.get f) = none) :
    ((settle os x).bind fun fields => fields.get f) = none := by
  induction os generalizing x with
  | nil => exact hx
  | cons o os ih =>
      refine ih (fun c hc => h c (List.mem_cons_of_mem o hc)) (some (o.fieldsAfter x)) ?_
      have ho := h o List.mem_cons_self
      cases x with
      | none => exact ho
      | some fields =>
          show (mergedFields fields o.contact.toProviderFields).get f = none
          rw [get_mergedFields, ho]
          unfold mergedField
          split
          next => exact hx
          next => rfl

/-- The timestamp of the row is that of an observation. -/
theorem settle_updated (x : Option ProviderFields) (h : settle os x = some fields) :
    x.map (·.providerUpdatedAt) = some fields.providerUpdatedAt
      ∨ ∃ o ∈ os, o.contact.providerUpdatedAt = fields.providerUpdatedAt := by
  induction os generalizing x with
  | nil =>
      have hx : x = some fields := h
      rw [hx]
      exact .inl rfl
  | cons o os ih =>
      rcases ih (some (o.fieldsAfter x)) h with hrow | ⟨c, hc, hupdated⟩
      · have hupdated : (o.fieldsAfter x).providerUpdatedAt = fields.providerUpdatedAt :=
          Option.some.inj hrow
        rw [← hupdated]
        cases x with
        | none => exact .inr ⟨o, List.mem_cons_self, rfl⟩
        | some row =>
            have hget := get_mergedFields row o.contact.toProviderFields .providerUpdatedAt
            change (o.fieldsAfter (some row)).providerUpdatedAt
              = mergedField _ _ row.providerUpdatedAt o.contact.providerUpdatedAt at hget
            rw [hget]
            unfold mergedField
            split
            next => exact .inl rfl
            next => exact .inr ⟨o, List.mem_cons_self, rfl⟩
      · exact .inr ⟨c, List.mem_cons_of_mem o hc, hupdated⟩

/-! ## §3. The newest observation. -/

/-- Every other observation is strictly older. -/
theorem Newest.lt {pre post : List Observation}
    (hn : Newest n (pre ++ n :: post)) (h : Comparable externalId (pre ++ n :: post))
    (ho : o ∈ pre ∨ o ∈ post) :
    ∃ u t, o.contact.providerUpdatedAt = some u ∧ n.contact.providerUpdatedAt = some t ∧ u < t := by
  have hmem : o ∈ pre ++ n :: post := by
    rcases ho with ho | ho
    · exact List.mem_append_left _ ho
    · exact List.mem_append_right _ (List.mem_cons_of_mem n ho)
  obtain ⟨u, hu⟩ := Option.ne_none_iff_exists'.mp (h.timed o hmem)
  obtain ⟨t, ht, hle⟩ := hn.newest o hmem u hu
  refine ⟨u, t, hu, ht, lt_of_le_of_ne hle fun heq => ?_⟩
  -- two observations with one timestamp
  have hsame : o.contact.providerUpdatedAt = n.contact.providerUpdatedAt := by
    rw [hu, heq]
    exact (Option.mem_def.mp ht).symm
  have hdistinct := h.distinct
  rw [List.map_append, List.map_cons, List.nodup_append] at hdistinct
  rcases ho with ho | ho
  · exact hdistinct.2.2 _ (List.mem_map_of_mem ho) _ List.mem_cons_self hsame
  · exact (List.nodup_cons.mp hdistinct.2.1).1 (hsame ▸ List.mem_map_of_mem ho)

/-- The newest observation fills what it supplies, and keeps the rest. -/
theorem get_fieldsAfter_newest {pre post : List Observation}
    (hn : Newest n (pre ++ n :: post)) (h : Comparable externalId (pre ++ n :: post))
    (f : ProviderField) :
    (n.fieldsAfter (settle pre none)).get f
      = (n.contact.get f).or ((settle pre none).bind fun fields => fields.get f) := by
  cases hpre : settle pre none with
  | none => exact (Option.or_none).symm
  | some row =>
      show (mergedFields row n.contact.toProviderFields).get f = (n.contact.get f).or (row.get f)
      rcases settle_updated none hpre with hnone | ⟨o, ho, hupdated⟩
      · cases hnone
      · obtain ⟨u, t, hu, ht, hlt⟩ := hn.lt h (.inl ho)
        rw [hu] at hupdated
        refine get_mergedFields_of_newer ?_ ?_
        · rw [← hupdated, ht]
          exact decide_eq_false hlt.not_gt
        · rw [ht]
          unfold unordered
          exact Bool.and_false _

/-- **What a replay leaves**: the newest observation, and in its gaps what was
    there before it; everything after it is dropped. -/
theorem settle_split {pre post : List Observation} (hn : Newest n (pre ++ n :: post))
    (h : Comparable externalId (pre ++ n :: post)) (f : ProviderField) :
    ((settle (pre ++ n :: post) none).bind fun fields => fields.get f)
      = (n.contact.get f).or ((settle pre none).bind fun fields => fields.get f) := by
  have hsplit : settle (pre ++ n :: post) none
      = settle post (some (n.fieldsAfter (settle pre none))) := by
    unfold settle
    rw [List.foldl_append, List.foldl_cons]
  have hupdated : (n.fieldsAfter (settle pre none)).providerUpdatedAt
      = n.contact.providerUpdatedAt := by
    have hget := get_fieldsAfter_newest hn h .providerUpdatedAt
    obtain ⟨t, ht⟩ := Option.ne_none_iff_exists'.mp (h.timed n hn.mem)
    change (n.fieldsAfter (settle pre none)).providerUpdatedAt
      = (n.contact.providerUpdatedAt).or _ at hget
    rw [hget, ht, Option.some_or]
  have holder : ∀ o ∈ post, older (n.fieldsAfter (settle pre none)).providerUpdatedAt
      o.contact.providerUpdatedAt = true := by
    intro o ho
    obtain ⟨u, t, hu, ht, hlt⟩ := hn.lt h (.inr ho)
    rw [hupdated, hu, ht]
    exact decide_eq_true hlt
  rw [hsplit, settle_older holder]
  exact get_fieldsAfter_newest hn h f

theorem exists_newest (htimed : ∀ o ∈ os, o.contact.providerUpdatedAt ≠ none) (hne : os ≠ []) :
    ∃ n, Newest n os := by
  induction os with
  | nil => exact absurd rfl hne
  | cons o os ih =>
      by_cases hos : os = []
      · subst hos
        refine ⟨o, List.mem_cons_self, fun c hc => ?_⟩
        rw [List.mem_singleton.mp hc]
        exact .refl _
      · obtain ⟨n, hmem, hnewest⟩ := ih (fun c hc => htimed c (List.mem_cons_of_mem o hc)) hos
        obtain ⟨u, hu⟩ := Option.ne_none_iff_exists'.mp (htimed o List.mem_cons_self)
        obtain ⟨t, ht⟩ := Option.ne_none_iff_exists'.mp (htimed n (List.mem_cons_of_mem o hmem))
        rcases le_total u t with hle | hle
        · refine ⟨n, List.mem_cons_of_mem o hmem, fun c hc => ?_⟩
          rcases List.mem_cons.mp hc with rfl | hc
          · intro v hv
            rw [hu] at hv
            exact ⟨t, ht, Option.some.inj hv ▸ hle⟩
          · exact hnewest c hc
        · refine ⟨o, List.mem_cons_self, fun c hc => ?_⟩
          rcases List.mem_cons.mp hc with rfl | hc
          · exact .refl _
          · refine (hnewest c hc).trans fun v hv => ?_
            rw [ht] at hv
            exact ⟨u, hu, Option.some.inj hv ▸ hle⟩

theorem Newest.perm (hn : Newest n os) (hperm : os'.Perm os) : Newest n os' :=
  ⟨hperm.mem_iff.mpr hn.mem, fun o ho => hn.newest o (hperm.mem_iff.mp ho)⟩

/-- What the newest observation supplies is the value in every order. -/
theorem finalField_of_supplied (h : Comparable externalId os) (hn : Newest n os)
    (hsupplied : n.contact.get f ≠ none) : finalField externalId os f = n.contact.get f := by
  obtain ⟨pre, post, rfl⟩ := List.append_of_mem hn.mem
  obtain ⟨v, hv⟩ := Option.ne_none_iff_exists'.mp hsupplied
  rw [finalField_eq h, settle_split hn h, hv, Option.some_or]

theorem finalField_of_unsupplied (h : Comparable externalId os)
    (hnone : ∀ o ∈ os, o.contact.get f = none) : finalField externalId os f = none := by
  rw [finalField_eq h]
  exact settle_unsupplied hnone none rfl

/-! ## §4. The order of the observations. -/

/-- **A field ends the same in every order exactly when the newest observation
    supplies it, or none does.** -/
theorem orders_agree_iff (h : Comparable externalId os) (f : ProviderField) :
    (∀ os₁ os₂, os₁.Perm os → os₂.Perm os →
        finalField externalId os₁ f = finalField externalId os₂ f)
      ↔ ∀ n, Newest n os → n.contact.get f ≠ none ∨ ∀ o ∈ os, o.contact.get f = none := by
  constructor
  · intro hagree n hn
    by_contra hnot
    obtain ⟨hgap, hsome⟩ := not_or.mp hnot
    have hgap : n.contact.get f = none := not_not.mp hgap
    obtain ⟨m, hm, hsupplied⟩ := not_forall₂.mp hsome
    have hne : n ≠ m := fun heq => hsupplied (heq ▸ hgap)
    -- the newest first, and right after `m`
    have hfirst : (n :: os.erase n).Perm os := (List.perm_cons_erase hn.mem).symm
    have hsecond : (m :: n :: (os.erase m).erase n).Perm os :=
      ((List.perm_cons_erase ((List.mem_erase_of_ne hne).mpr hn.mem)).symm.cons m).trans
        (List.perm_cons_erase hm).symm
    have hlost : finalField externalId (n :: os.erase n) f = none := by
      rw [finalField_eq (h.perm hfirst)]
      show ((settle ([] ++ n :: os.erase n) none).bind _) = none
      rw [settle_split (hn.perm hfirst) (h.perm hfirst), hgap]
      rfl
    have hkept : finalField externalId (m :: n :: (os.erase m).erase n) f = m.contact.get f := by
      rw [finalField_eq (h.perm hsecond)]
      show ((settle ([m] ++ n :: (os.erase m).erase n) none).bind _) = _
      rw [settle_split (hn.perm hsecond) (h.perm hsecond), hgap, Option.none_or]
      rfl
    have heq := hagree _ _ hfirst hsecond
    rw [hlost, hkept] at heq
    exact hsupplied heq.symm
  · intro hnewest os₁ os₂ hperm₁ hperm₂
    by_cases hos : os = []
    · subst hos
      rw [hperm₁.eq_nil, hperm₂.eq_nil]
    · obtain ⟨n, hn⟩ := exists_newest h.timed hos
      rcases hnewest n hn with hsupplied | hnone
      · rw [finalField_of_supplied (h.perm hperm₁) (hn.perm hperm₁) hsupplied,
          finalField_of_supplied (h.perm hperm₂) (hn.perm hperm₂) hsupplied]
      · rw [finalField_of_unsupplied (h.perm hperm₁) fun o ho => hnone o (hperm₁.mem_iff.mp ho),
          finalField_of_unsupplied (h.perm hperm₂) fun o ho => hnone o (hperm₂.mem_iff.mp ho)]

/-- An observation with a name, and a newer one without. -/
def named : Observation where
  contact := { externalId := "c", name := some "Ana", providerUpdatedAt := some 1 }
  source := "ticket_webhook"
  observed := 1

def unnamed : Observation where
  contact := { externalId := "c", accountId := some "a", providerUpdatedAt := some 2 }
  source := "ticket_webhook"
  observed := 2

theorem comparable_named : Comparable "c" [named, unnamed] where
  contact := by decide
  storable := by decide
  timed := by decide
  distinct := by decide

/-- The name is lost when the newer observation comes first. -/
theorem orders_disagree :
    ¬ ∀ externalId os, Comparable externalId os → ∀ os₁ os₂, os₁.Perm os → os₂.Perm os → ∀ f,
      finalField externalId os₁ f = finalField externalId os₂ f := by
  intro h
  have hname := h "c" [named, unnamed] comparable_named [named, unnamed] [unnamed, named]
    (.refl _) (.swap _ _ _) .name
  revert hname
  decide

/-- The account that the newest observation supplies is the same in every order. -/
theorem orders_agree_on_account :
    finalField "c" [named, unnamed] .accountId = finalField "c" [unnamed, named] .accountId := by
  refine (orders_agree_iff comparable_named .accountId).mpr (fun n hn => .inl ?_) _ _
    (List.Perm.refl _) (List.Perm.swap named unnamed [])
  obtain ⟨u, hu, hle⟩ := hn.newest unnamed (by decide) 2 rfl
  have hmem := hn.mem
  rcases List.mem_cons.mp hmem with rfl | hmem
  · rw [Option.some.inj hu.symm] at hle
    exact absurd hle (by decide)
  · rw [List.mem_singleton.mp hmem]
    decide

end Cai.Directory
