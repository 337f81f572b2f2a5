/-!
# Tag sets

A tag set keeps its tags in the order in which they were first added, each once.
That order is what is shown and written; two sets with the same tags in another
order select the same tests.

Every operation is described through the list of the tags, `TagSet.toList`.
-/

namespace TagSelection

/-- A label that a test or a group carries. -/
abbrev Tag := String

/-- Tags in the order of their first addition, each once. -/
structure TagSet where
  toList : List Tag
  nodup : toList.Nodup
  deriving DecidableEq

namespace TagSet

def empty : TagSet := ⟨[], .nil⟩

instance : EmptyCollection TagSet := ⟨empty⟩

instance : Inhabited TagSet := ⟨∅⟩

instance : Membership Tag TagSet := ⟨fun tags tag => tag ∈ tags.toList⟩

instance (tag : Tag) (tags : TagSet) : Decidable (tag ∈ tags) :=
  inferInstanceAs (Decidable (tag ∈ tags.toList))

def isEmpty (tags : TagSet) : Bool := tags.toList.isEmpty

/-- Add a tag at the end, unless the set already has it. -/
def insert (tags : TagSet) (tag : Tag) : TagSet :=
  if fresh : tag ∈ tags.toList then tags
  else ⟨tags.toList ++ [tag], by
    rw [List.nodup_append]
    refine ⟨tags.nodup, by simp, ?_⟩
    intro present presentMem added addedMem
    rw [List.mem_singleton] at addedMem
    subst addedMem
    intro equality
    exact fresh (equality ▸ presentMem)⟩

def extend (tags : TagSet) (added : List Tag) : TagSet :=
  added.foldl insert tags

/-- The tags of a list, in the order of their first occurrence. -/
def ofList (tags : List Tag) : TagSet := extend ∅ tags

/-- The tags of two sets, those of the first set first. -/
def union (inherited own : TagSet) : TagSet := inherited.extend own.toList

instance : Union TagSet := ⟨union⟩

def disjoint (left right : TagSet) : Bool :=
  left.toList.all fun tag => decide (tag ∉ right)

/-- Whether the sets have the same tags, in whatever order. -/
def sameTags (left right : TagSet) : Bool :=
  -- No tag occurs twice, so with equal counts one inclusion is enough.
  left.toList.length == right.toList.length &&
    left.toList.all fun tag => decide (tag ∈ right)

/-! ## The operations through the list of tags -/

theorem mem_iff (tag : Tag) (tags : TagSet) : tag ∈ tags ↔ tag ∈ tags.toList :=
  Iff.rfl

@[ext]
theorem ext {left right : TagSet} (equality : left.toList = right.toList) :
    left = right := by
  cases left
  cases right
  cases equality
  rfl

@[simp]
theorem toList_empty : (∅ : TagSet).toList = [] := rfl

theorem toList_insert (tags : TagSet) (tag : Tag) :
    (tags.insert tag).toList =
      if tag ∈ tags.toList then tags.toList else tags.toList ++ [tag] := by
  unfold insert
  split <;> simp_all

@[simp]
theorem extend_nil (tags : TagSet) : tags.extend [] = tags := rfl

@[simp]
theorem extend_cons (tags : TagSet) (tag : Tag) (added : List Tag) :
    tags.extend (tag :: added) = (tags.insert tag).extend added := rfl

theorem extend_append (tags : TagSet) (first second : List Tag) :
    tags.extend (first ++ second) = (tags.extend first).extend second :=
  List.foldl_append

theorem union_def (inherited own : TagSet) :
    inherited ∪ own = inherited.extend own.toList := rfl

@[simp]
theorem not_mem_empty (tag : Tag) : tag ∉ (∅ : TagSet) := by
  simp [mem_iff]

theorem mem_insert (tags : TagSet) (added tag : Tag) :
    tag ∈ tags.insert added ↔ tag ∈ tags ∨ tag = added := by
  rw [mem_iff, mem_iff, toList_insert]
  by_cases present : added ∈ tags.toList
  · rw [if_pos present]
    constructor
    · exact Or.inl
    · rintro (member | rfl)
      · exact member
      · exact present
  · rw [if_neg present, List.mem_append, List.mem_singleton]

theorem mem_extend (tags : TagSet) (added : List Tag) (tag : Tag) :
    tag ∈ tags.extend added ↔ tag ∈ tags ∨ tag ∈ added := by
  induction added generalizing tags with
  | nil => simp
  | cons head rest inductionHypothesis =>
      rw [extend_cons, inductionHypothesis, mem_insert, List.mem_cons, or_assoc]

theorem mem_ofList (tags : List Tag) (tag : Tag) : tag ∈ ofList tags ↔ tag ∈ tags := by
  simp [ofList, mem_extend]

theorem mem_union (inherited own : TagSet) (tag : Tag) :
    tag ∈ inherited ∪ own ↔ tag ∈ inherited ∨ tag ∈ own := by
  rw [union_def, mem_extend, ← mem_iff]

theorem isEmpty_iff (tags : TagSet) : tags.isEmpty = true ↔ tags = ∅ := by
  constructor
  · intro empty
    apply TagSet.ext
    simpa [TagSet.isEmpty] using empty
  · rintro rfl
    rfl

theorem disjoint_iff (left right : TagSet) :
    left.disjoint right = true ↔ ∀ tag ∈ left, tag ∉ right := by
  simp [disjoint, mem_iff]

end TagSet

end TagSelection
