import Mathlib.Data.List.Basic
import Mathlib.Data.List.Nodup
import Mathlib.Data.List.Perm.Subperm
import Mathlib.Data.List.Induction
import PublicationIndicator.Publication.Facts

/-!
# PublicationIndicator.Proofs.Publication.FirstSeen — elements where they stand first

`firstSeen l` has the elements of `l`, each of them once.
-/

namespace PublicationIndicator

variable {α : Type} [DecidableEq α]

theorem firstSeen_concat (l : List α) (a : α) :
    firstSeen (l ++ [a]) = if a ∈ firstSeen l then firstSeen l else firstSeen l ++ [a] := by
  rw [firstSeen, List.foldl_append]
  rfl

@[simp] theorem mem_firstSeen {l : List α} {a : α} : a ∈ firstSeen l ↔ a ∈ l := by
  induction l using List.reverseRecOn with
  | nil => rfl
  | append_singleton l b ih =>
    rw [firstSeen_concat]
    split
    · rename_i hb
      rw [List.mem_append, List.mem_singleton, ih, or_iff_left_of_imp]
      rintro rfl
      exact ih.1 hb
    · rw [List.mem_append, List.mem_append, ih]

theorem nodup_firstSeen (l : List α) : (firstSeen l).Nodup := by
  induction l using List.reverseRecOn with
  | nil => exact List.nodup_nil
  | append_singleton l b ih =>
    rw [firstSeen_concat]
    split
    · exact ih
    · rename_i hb
      exact List.nodup_append.2 ⟨ih, List.nodup_singleton b, by
        rintro a ha b' hb' rfl
        exact hb (List.mem_singleton.1 hb' ▸ ha)⟩

/-- What is named later stands behind what is named earlier. -/
theorem exists_firstSeen_append (l l' : List α) :
    ∃ new, firstSeen (l ++ l') = firstSeen l ++ new := by
  induction l' using List.reverseRecOn with
  | nil => exact ⟨[], by simp⟩
  | append_singleton l' a ih =>
    obtain ⟨new, hnew⟩ := ih
    rw [← List.append_assoc, firstSeen_concat]
    split
    · exact ⟨new, hnew⟩
    · exact ⟨new ++ [a], by rw [hnew, List.append_assoc]⟩

theorem length_firstSeen_le (l : List α) : (firstSeen l).length ≤ l.length :=
  (List.subperm_of_subset (nodup_firstSeen l) fun _ h => mem_firstSeen.1 h).length_le

/-- Where nothing is named twice, all stands where it is seen first. -/
theorem firstSeen_of_nodup {l : List α} (h : l.Nodup) : firstSeen l = l := by
  induction l using List.reverseRecOn with
  | nil => rfl
  | append_singleton l a ih =>
    obtain ⟨hl, -, hdisjoint⟩ := List.nodup_append.1 h
    have ha : a ∉ l := fun ha => hdisjoint a ha a (List.mem_singleton_self a) rfl
    rw [firstSeen_concat, ih hl, if_neg ha]

end PublicationIndicator
