import Mathlib.Data.List.Perm.Subperm
import TagSelection.TagSet

namespace TagSelection.TagSet

variable {left right otherLeft otherRight : TagSet}

theorem sameTags_iff :
    left.sameTags right = true ↔ ∀ tag, tag ∈ left ↔ tag ∈ right := by
  rw [sameTags, Bool.and_eq_true, beq_iff_eq, List.all_eq_true]
  constructor
  · rintro ⟨sameLength, all⟩ tag
    have included : left.toList ⊆ right.toList := fun tag member => by
      simpa [mem_iff] using all tag member
    have arranged : left.toList.Perm right.toList :=
      (List.subperm_of_subset left.nodup included).perm_of_length_le
        (Nat.le_of_eq sameLength.symm)
    exact arranged.mem_iff
  · intro sameMembers
    have arranged : left.toList.Perm right.toList :=
      (List.perm_ext_iff_of_nodup left.nodup right.nodup).2 sameMembers
    refine ⟨arranged.length_eq, fun tag member => ?_⟩
    simpa using (sameMembers tag).1 member

theorem sameTags_refl (tags : TagSet) : tags.sameTags tags = true :=
  sameTags_iff.2 fun _ => Iff.rfl

theorem sameTags_union (first : left.sameTags right = true)
    (second : otherLeft.sameTags otherRight = true) :
    (left ∪ otherLeft).sameTags (right ∪ otherRight) = true := by
  rw [sameTags_iff] at *
  intro tag
  rw [mem_union, mem_union, first, second]

theorem isEmpty_eq_of_sameTags (same : left.sameTags right = true) :
    left.isEmpty = right.isEmpty := by
  rw [sameTags_iff] at same
  have noTags : ∀ tags : TagSet, tags.isEmpty = true ↔ ∀ tag, tag ∉ tags := by
    intro tags
    rw [isEmpty, List.isEmpty_iff, List.eq_nil_iff_forall_not_mem]
    rfl
  rw [Bool.eq_iff_iff, noTags, noTags]
  simp only [same]

theorem disjoint_eq_of_sameTags (first : left.sameTags right = true)
    (second : otherLeft.sameTags otherRight = true) :
    left.disjoint otherLeft = right.disjoint otherRight := by
  rw [sameTags_iff] at first second
  rw [Bool.eq_iff_iff, disjoint_iff, disjoint_iff]
  simp only [first, second]

end TagSelection.TagSet
