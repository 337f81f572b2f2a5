import TagSelection.Suite

namespace TagSelection.Group

mutual

/-- The suite without the empty groups below its root. -/
def prune : Group → Group
  | ⟨name, tags, groups, tests⟩ => ⟨name, tags, pruneAll groups, tests⟩

def pruneAll : List Group → List Group
  | [] => []
  | group :: rest =>
      let pruned := prune group
      if pruned.isEmpty then pruneAll rest else pruned :: pruneAll rest

end

theorem pruneAll_eq_filter (groups : List Group) :
    pruneAll groups = (groups.map prune).filter (!·.isEmpty) := by
  induction groups with
  | nil => rfl
  | cons group rest inductionHypothesis =>
      by_cases empty : (prune group).isEmpty <;>
        simp [pruneAll, empty, inductionHypothesis]

end TagSelection.Group
