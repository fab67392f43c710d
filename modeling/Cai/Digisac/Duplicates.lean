/-
  Cai.Digisac.Duplicates — the duplicates of a contact.

  What `_merge_duplicate_contacts` of
  `src/core/digisac_contact_backfill.py` makes of all the contacts with one
  id.  For each field it is the merge of versions: a field that an older
  duplicate filled in is not replaced by a duplicate that comes later, and is
  older than the merged contact but newer than the value.

  Main results:
    * `lookup_collect` — the contact under an id is the merge of its duplicates.
    * `merged_newest_iff` — when the merged contact has the newest values.
-/
import Cai.Digisac.ContactBackfill
import Cai.Lib.Newest

namespace Cai.Digisac

open Cai.Lib
open Cai.Cycle (Timestamp)
open Cai.Directory (DigisacContact ProviderField ProviderFields)
open Cai.Reconciliation (collectContact mergeDuplicateContacts preferDuplicate)

/-! ## §1. The contact under an id. -/

/-- The merge of a list of duplicates, in the order in which they are read. -/
def mergeDuplicates : List DigisacContact → Option DigisacContact
  | [] => none
  | first :: rest => some (rest.foldl mergeDuplicateContacts first)

theorem mergeDuplicates_concat (l : List DigisacContact) (contact : DigisacContact) :
    mergeDuplicates (l ++ [contact])
      = some ((mergeDuplicates l).elim contact fun c => mergeDuplicateContacts c contact) := by
  cases l with
  | nil => rfl
  | cons first rest =>
      show some ((rest ++ [contact]).foldl mergeDuplicateContacts first) = _
      rw [List.foldl_append]
      rfl

/-- What one contact does to the contact under an id. -/
theorem lookup_collectContact (s : List (String × DigisacContact) × Nat) (contact : DigisacContact)
    (id : String) :
    (collectContact s contact).1.lookup id
      = if contact.externalId = id then
          some ((s.1.lookup id).elim contact fun c => mergeDuplicateContacts c contact)
        else s.1.lookup id := by
  unfold collectContact
  cases hfind : s.1.lookup contact.externalId with
  | some existing =>
      dsimp only
      rw [lookup_assign]
      by_cases hid : contact.externalId = id
      · rw [if_pos hid, if_pos hid, ← hid, hfind]
        rfl
      · rw [if_neg hid, if_neg hid]
  | none =>
      dsimp only
      rw [lookup_assign]
      by_cases hid : contact.externalId = id
      · rw [if_pos hid, if_pos hid, ← hid, hfind]
        rfl
      · rw [if_neg hid, if_neg hid]

/-- **The contact under an id** is the merge of the contacts that have it. -/
theorem lookup_collect (contacts : List DigisacContact) (id : String) :
    (contacts.foldl collectContact ([], 0)).1.lookup id
      = mergeDuplicates (contacts.filter (·.externalId = id)) := by
  induction contacts using List.reverseRecOn with
  | nil => rfl
  | append_singleton contacts contact ih =>
      rw [List.foldl_append, List.foldl_cons, List.foldl_nil, lookup_collectContact, ih,
        List.filter_append]
      by_cases hid : contact.externalId = id
      · rw [if_pos hid, List.filter_cons_of_pos (by simpa using hid), List.filter_nil,
          mergeDuplicates_concat]
      · rw [if_neg hid, List.filter_cons_of_neg (by simpa using hid), List.filter_nil,
          List.append_nil]

/-! ## §2. The versions of a field. -/

variable {f : ProviderField} {existing incoming : DigisacContact}

/-- The time of a contact, and its value of a field. -/
def version (f : ProviderField) (contact : DigisacContact) : Timestamp × Option f.type :=
  (contact.providerUpdatedAt.getD 0, contact.get f)

theorem get_mergeDuplicateContacts (f : ProviderField) (existing incoming : DigisacContact) :
    (mergeDuplicateContacts existing incoming).get f
      = ((preferDuplicate existing incoming).1.get f).or
          ((preferDuplicate existing incoming).2.get f) :=
  ProviderFields.get_build _ f

/-- **The merge of two contacts** merges the versions of each field. -/
theorem version_mergeDuplicateContacts (hexisting : existing.providerUpdatedAt ≠ none)
    (hincoming : incoming.providerUpdatedAt ≠ none) :
    (mergeDuplicateContacts existing incoming).providerUpdatedAt ≠ none
      ∧ version f (mergeDuplicateContacts existing incoming)
        = fill (version f existing) (version f incoming) := by
  obtain ⟨old, hold⟩ := Option.ne_none_iff_exists'.mp hexisting
  obtain ⟨new, hnew⟩ := Option.ne_none_iff_exists'.mp hincoming
  have htime : (mergeDuplicateContacts existing incoming).providerUpdatedAt
      = (preferDuplicate existing incoming).1.providerUpdatedAt.or
          (preferDuplicate existing incoming).2.providerUpdatedAt :=
    get_mergeDuplicateContacts .providerUpdatedAt existing incoming
  have hvalue := get_mergeDuplicateContacts f existing incoming
  unfold version
  rw [hvalue, htime]
  by_cases hlt : old < new
  · have hprefer : preferDuplicate existing incoming = (incoming, existing) := by
      unfold preferDuplicate
      rw [hold, hnew]
      exact if_pos hlt
    rw [hprefer, fill_of_lt (by rw [hold, hnew]; exact hlt), hnew]
    exact ⟨Option.some_ne_none _, rfl⟩
  · have hprefer : preferDuplicate existing incoming = (existing, incoming) := by
      unfold preferDuplicate
      rw [hold, hnew]
      exact if_neg hlt
    rw [hprefer, fill_of_not_lt (by rw [hold, hnew]; exact hlt), hold]
    exact ⟨Option.some_ne_none _, rfl⟩

/-- The merge of many. -/
theorem version_foldl {first : DigisacContact} {rest : List DigisacContact}
    (h : ∀ c ∈ first :: rest, c.providerUpdatedAt ≠ none) :
    version f (rest.foldl mergeDuplicateContacts first)
      = (rest.map (version f)).foldl fill (version f first) := by
  induction rest generalizing first with
  | nil => rfl
  | cons second rest ih =>
      obtain ⟨htime, hversion⟩ := version_mergeDuplicateContacts (f := f)
        (h first List.mem_cons_self) (h second (List.mem_cons_of_mem _ List.mem_cons_self))
      rw [List.foldl_cons, List.map_cons, List.foldl_cons, ← hversion]
      refine ih fun c hc => ?_
      rcases List.mem_cons.mp hc with rfl | hmem
      · exact htime
      · exact h c (List.mem_cons_of_mem _ (List.mem_cons_of_mem _ hmem))

/-! ## §3. The newest values. -/

/-- One field of the merged contact. -/
theorem get_newest_iff {first : DigisacContact} {rest : List DigisacContact}
    (hstamped : ∀ c ∈ first :: rest, c.providerUpdatedAt ≠ none) (f : ProviderField) :
    IsNewest ((first :: rest).map (version f)) ((rest.foldl mergeDuplicateContacts first).get f)
      ↔ NewestKept ((first :: rest).map (version f)) := by
  have hvalue : (rest.foldl mergeDuplicateContacts first).get f
      = ((rest.map (version f)).foldl fill (version f first)).2 := by
    rw [← version_foldl hstamped]
    rfl
  rw [hvalue]
  exact foldl_fill_isNewest_iff _ _

/-- Duplicates that come oldest first or newest first. -/
theorem merged_newest_of_ordered {first : DigisacContact} {rest : List DigisacContact}
    (hstamped : ∀ c ∈ first :: rest, c.providerUpdatedAt ≠ none)
    (hordered : ((first :: rest).map (·.providerUpdatedAt.getD 0)).Pairwise (· < ·)
      ∨ ((first :: rest).map (·.providerUpdatedAt.getD 0)).Pairwise (· > ·)) (f : ProviderField) :
    IsNewest ((first :: rest).map (version f))
      ((rest.foldl mergeDuplicateContacts first).get f) := by
  apply (get_newest_iff hstamped f).mpr
  rcases hordered with hincreasing | hdecreasing
  · apply newestKept_of_increasing
    exact List.pairwise_map.mpr (List.pairwise_map.mp hincreasing)
  · apply newestKept_of_decreasing
    exact List.pairwise_map.mpr (List.pairwise_map.mp hdecreasing)

/-- **The merged contact has the newest value of every field** exactly when no field's
    newest value comes after a newer duplicate without the field and another value. -/
theorem merged_newest_iff {first : DigisacContact} {rest : List DigisacContact}
    (hstamped : ∀ c ∈ first :: rest, c.providerUpdatedAt ≠ none) :
    (∀ f, IsNewest ((first :: rest).map (version f))
        ((rest.foldl mergeDuplicateContacts first).get f))
      ↔ ∀ f, NewestKept ((first :: rest).map (version f)) :=
  forall_congr' (get_newest_iff hstamped)

/-- Three duplicates, from the oldest to the newest; the newest has no name. -/
def oldContact : DigisacContact :=
  { externalId := "c-1", name := some "Ana", providerUpdatedAt := some 1 }

def newerContact : DigisacContact :=
  { externalId := "c-1", name := some "Ana Maria", providerUpdatedAt := some 2 }

def newestContact : DigisacContact := { externalId := "c-1", providerUpdatedAt := some 3 }

theorem increasing_newest :
    ([newerContact, newestContact].foldl mergeDuplicateContacts oldContact).get .name
        = some "Ana Maria"
      ∧ ∀ f, IsNewest ([oldContact, newerContact, newestContact].map (version f))
        (([newerContact, newestContact].foldl mergeDuplicateContacts oldContact).get f) := by
  refine ⟨by decide, (merged_newest_iff ?_).mpr fun f => newestKept_of_increasing ?_⟩
  · decide
  · rw [List.pairwise_map]
    show [oldContact, newerContact, newestContact].Pairwise fun a b =>
      a.providerUpdatedAt.getD 0 < b.providerUpdatedAt.getD 0
    decide

/-- With the newest one first, the oldest name stays. -/
theorem merged_not_newest :
    ¬∀ f, IsNewest ([newestContact, oldContact, newerContact].map (version f))
      (([oldContact, newerContact].foldl mergeDuplicateContacts newestContact).get f) := by
  intro h
  have hname : ([oldContact, newerContact].foldl mergeDuplicateContacts newestContact).get .name
      = some "Ana" := by decide
  have hvalue := (h .name).1 2 "Ana Maria" (by decide) (by decide)
  rw [hname] at hvalue
  exact absurd hvalue (by decide)

end Cai.Digisac
