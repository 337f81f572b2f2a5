import Mathlib.Data.List.Induction
import TagSelection.TagSet

namespace TagSelection.TagSet

theorem ofList_concat (tags : List Tag) (tag : Tag) :
    ofList (tags ++ [tag]) = (ofList tags).insert tag :=
  extend_append ∅ tags [tag]

/-- Of the tags in a list the later duplicates are removed. -/
theorem toList_ofList (tags : List Tag) : (ofList tags).toList = tags.eraseDups := by
  induction tags using List.reverseRecOn with
  | nil => rfl
  | append_singleton earlier tag inductionHypothesis =>
      rw [ofList_concat, toList_insert, inductionHypothesis, List.eraseDups_append]
      by_cases repeated : tag ∈ earlier
      · simp [List.removeAll, repeated]
      · simp [List.removeAll, List.eraseDups_cons, repeated]

/-- A list without duplicates is kept as it is, so a set is rebuilt from its tags. -/
theorem toList_ofList_of_nodup {tags : List Tag} (nodup : tags.Nodup) :
    (ofList tags).toList = tags := by
  induction tags using List.reverseRecOn with
  | nil => rfl
  | append_singleton earlier tag inductionHypothesis =>
      obtain ⟨nodupEarlier, _, apart⟩ := List.nodup_append.1 nodup
      have fresh : tag ∉ earlier := fun repeated =>
        apart tag repeated tag (List.mem_singleton_self tag) rfl
      rw [ofList_concat, toList_insert, inductionHypothesis nodupEarlier, if_neg fresh]

theorem ofList_toList (tags : TagSet) : ofList tags.toList = tags :=
  ext (toList_ofList_of_nodup tags.nodup)

theorem ofList_union (earlier : List Tag) (tags : TagSet) :
    ofList earlier ∪ tags = ofList (earlier ++ tags.toList) :=
  (extend_append ∅ earlier tags.toList).symm

theorem insert_of_mem {tags : TagSet} {tag : Tag} (present : tag ∈ tags) :
    tags.insert tag = tags := by
  apply ext
  rw [toList_insert, if_pos ((mem_iff tag tags).1 present)]

/-- Adding every tag of a list comes to the same as adding its first occurrences. -/
theorem extend_toList_ofList (tags : TagSet) (added : List Tag) :
    tags.extend (ofList added).toList = tags.extend added := by
  induction added using List.reverseRecOn with
  | nil => rfl
  | append_singleton earlier tag inductionHypothesis =>
      have atEnd :
          tags.extend (earlier ++ [tag]) = (tags.extend earlier).insert tag :=
        extend_append tags earlier [tag]
      rw [atEnd, ofList_concat, toList_insert]
      by_cases repeated : tag ∈ (ofList earlier).toList
      · have present : tag ∈ tags.extend earlier := by
          rw [mem_extend]
          exact Or.inr ((mem_ofList earlier tag).1 repeated)
        rw [if_pos repeated, inductionHypothesis, insert_of_mem present]
      · rw [if_neg repeated, extend_append, inductionHypothesis]
        rfl

theorem ofList_append (first second : List Tag) :
    ofList (first ++ second) = ofList first ∪ ofList second := by
  rw [union_def, extend_toList_ofList]
  exact extend_append ∅ first second

end TagSelection.TagSet
