import Mathlib.Data.List.Nodup
import TagSelection.Proofs.TagSet.FirstOccurrence

/-!
# The union of tag sets in order

A union keeps the first set as it is and puts the new tags of the second behind it, in
their order.  Grouping unions in another way changes neither the tags nor their order: a
union of several sets, however it is bracketed, has the tags of all of them in a row, each
where it stands first.
-/

namespace TagSelection.TagSet

variable {first second : TagSet}

theorem union_eq_ofList (first second : TagSet) :
    first ∪ second = ofList (first.toList ++ second.toList) := by
  rw [← ofList_union, ofList_toList]

/-- The new tags of the second set come behind the first set, in their order. -/
theorem toList_union (first second : TagSet) :
    (first ∪ second).toList =
      first.toList ++ second.toList.filter fun tag => tag ∉ first := by
  have kept : first.toList.eraseDups = first.toList := by
    rw [← toList_ofList, ofList_toList]
  have nodupAdded : (second.toList.removeAll first.toList).Nodup := second.nodup.filter _
  have added : (second.toList.removeAll first.toList).eraseDups =
      second.toList.removeAll first.toList := by
    rw [← toList_ofList, toList_ofList_of_nodup nodupAdded]
  rw [union_eq_ofList, toList_ofList, List.eraseDups_append, kept, added]
  simp [List.removeAll, mem_iff]

theorem prefix_union (first second : TagSet) :
    first.toList <+: (first ∪ second).toList := by
  rw [toList_union]
  exact List.prefix_append _ _

theorem count_union (first second : TagSet) (tag : Tag) :
    (first ∪ second).toList.count tag = if tag ∈ first ∨ tag ∈ second then 1 else 0 := by
  rw [(first ∪ second).nodup.count]
  simp only [← mem_iff, mem_union]

theorem union_assoc (first second third : TagSet) :
    first ∪ second ∪ third = first ∪ (second ∪ third) := by
  calc
    first ∪ second ∪ third
        = ofList (first.toList ++ second.toList ++ third.toList) := by
      rw [union_eq_ofList first second, ofList_union]
    _ = ofList first.toList ∪ ofList (second.toList ++ third.toList) := by
      rw [List.append_assoc, ofList_append]
    _ = first ∪ (second ∪ third) := by
      rw [ofList_toList, ← union_eq_ofList]

theorem empty_union (tags : TagSet) : ∅ ∪ tags = tags := ofList_toList tags

theorem union_empty (tags : TagSet) : tags ∪ ∅ = tags := rfl

theorem union_eq_left_iff : first ∪ second = first ↔ ∀ tag ∈ second, tag ∈ first := by
  constructor
  · intro absorbed tag member
    rw [← absorbed, mem_union]
    exact Or.inr member
  · intro included
    apply ext
    have nothingNew : (second.toList.filter fun tag => tag ∉ first) = [] := by
      rw [List.filter_eq_nil_iff]
      intro tag member
      simpa using included tag member
    rw [toList_union, nothingNew, List.append_nil]

/-- A way to bracket a union of levels of tags, the outermost level first. -/
inductive Bracketing where
  | level (tags : TagSet)
  | joined (outer inner : Bracketing)

namespace Bracketing

def levels : Bracketing → List TagSet
  | level tags => [tags]
  | joined outer inner => outer.levels ++ inner.levels

def tags : Bracketing → TagSet
  | level tags => tags
  | joined outer inner => outer.tags ∪ inner.tags

/-- Only the levels matter to a union, not the brackets. -/
theorem tags_eq_ofList (bracketing : Bracketing) :
    bracketing.tags = ofList (bracketing.levels.flatMap toList) := by
  induction bracketing with
  | level tags => simp [Bracketing.tags, levels, ofList_toList]
  | joined outer inner outerHypothesis innerHypothesis =>
      rw [Bracketing.tags, outerHypothesis, innerHypothesis, levels, List.flatMap_append,
        ofList_append]

end Bracketing

end TagSelection.TagSet
