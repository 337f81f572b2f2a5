import TagSelection.Proofs.Condition.Canonical
import TagSelection.Proofs.Selection.Pass

/-!
# Lists of tags as expressions

What two lists of tags ask for can be written as an expression: one of the wanted tags
is there, and none of the excluded ones.  That expression selects the same suite as the
lists.  Where nothing is wanted or nothing is excluded, its half is left out, since a
call has to have operands.
-/

namespace TagSelection

def Expression.anyOf (tags : TagSet) : String :=
  "or(" ++ ", ".intercalate tags.toList ++ ")"

/-- The text that asks for what two lists of tags ask for; it is empty if they are. -/
def Expression.ofLists (wanted excluded : TagSet) : String :=
  if wanted = ∅ then
    if excluded = ∅ then "" else "not(" ++ anyOf excluded ++ ")"
  else if excluded = ∅ then anyOf wanted
  else "and(" ++ anyOf wanted ++ ", not(" ++ anyOf excluded ++ "))"

namespace Condition

def anyOf (tags : TagSet) : Condition := .or (tags.toList.map .has)

/-- The condition that `Expression.ofLists` describes, unless both lists are empty. -/
def ofLists (wanted excluded : TagSet) : Condition :=
  if wanted = ∅ then .not (some (anyOf excluded))
  else if excluded = ∅ then anyOf wanted
  else .and [anyOf wanted, .not (some (anyOf excluded))]

theorem renderEach_map_has (tags : List Tag) : renderEach (tags.map .has) = tags := by
  rw [renderEach_eq_map, List.map_map]
  exact List.map_id tags

theorem render_anyOf (tags : TagSet) : (anyOf tags).render = Expression.anyOf tags := by
  rw [anyOf, render, renderEach_map_has, Expression.anyOf]

theorem wellFormed_anyOf {tags : TagSet} (nonempty : tags ≠ ∅)
    (clean : ∀ tag ∈ tags.toList, CleanTag tag) : (anyOf tags).WellFormed where
  cleanLeaves := by
    intro tag leaf
    obtain ⟨operand, among, leaf⟩ := mem_leavesOfAll.1 leaf
    obtain ⟨listed, member, rfl⟩ := List.mem_map.1 among
    rw [leaves, List.mem_singleton] at leaf
    rw [leaf]
    exact clean listed member
  complete := by
    refine Complete.or ?_ ?_
    · intro noOperands
      apply nonempty
      apply TagSet.ext
      simpa using noOperands
    · intro operand among
      obtain ⟨tag, _, rfl⟩ := List.mem_map.1 among
      exact Complete.has tag

theorem holds_anyOf (tags set : TagSet) : (anyOf tags).holds set = !set.disjoint tags := by
  have shared :
      (anyOf tags).holds set = true ↔ ∃ tag ∈ tags.toList, tag ∈ set := by
    rw [anyOf, holds, someHolds_eq_any, List.any_map, List.any_eq_true]
    simp [holds]
  rw [Bool.eq_iff_iff, shared, Bool.not_eq_true', ← Bool.not_eq_true, TagSet.disjoint_iff]
  simp only [TagSet.mem_iff, not_forall, not_not, exists_prop]
  exact ⟨fun ⟨tag, listed, member⟩ => ⟨tag, member, listed⟩,
    fun ⟨tag, member, listed⟩ => ⟨tag, listed, member⟩⟩

theorem wellFormed_not {operand : Condition} (wellFormed : operand.WellFormed) :
    (Condition.not (some operand)).WellFormed :=
  ⟨wellFormed.cleanLeaves, Complete.not wellFormed.complete⟩

variable {wanted excluded : TagSet}

theorem render_ofLists (someTag : ¬ (wanted = ∅ ∧ excluded = ∅)) :
    (ofLists wanted excluded).render = Expression.ofLists wanted excluded := by
  unfold ofLists Expression.ofLists
  by_cases nothingWanted : wanted = ∅
  · have excludes : excluded ≠ ∅ := fun none => someTag ⟨nothingWanted, none⟩
    rw [if_pos nothingWanted, if_pos nothingWanted, if_neg excludes, render, render_anyOf]
  · rw [if_neg nothingWanted, if_neg nothingWanted]
    by_cases nothingExcluded : excluded = ∅
    · rw [if_pos nothingExcluded, if_pos nothingExcluded, render_anyOf]
    · rw [if_neg nothingExcluded, if_neg nothingExcluded, ← String.toList_inj]
      simp [render, renderEach, render_anyOf]

theorem wellFormed_ofLists (someTag : ¬ (wanted = ∅ ∧ excluded = ∅))
    (cleanWanted : ∀ tag ∈ wanted.toList, CleanTag tag)
    (cleanExcluded : ∀ tag ∈ excluded.toList, CleanTag tag) :
    (ofLists wanted excluded).WellFormed := by
  unfold ofLists
  by_cases nothingWanted : wanted = ∅
  · have excludes : excluded ≠ ∅ := fun none => someTag ⟨nothingWanted, none⟩
    rw [if_pos nothingWanted]
    exact wellFormed_not (wellFormed_anyOf excludes cleanExcluded)
  · have wantedHalf := wellFormed_anyOf nothingWanted cleanWanted
    rw [if_neg nothingWanted]
    by_cases nothingExcluded : excluded = ∅
    · rw [if_pos nothingExcluded]
      exact wantedHalf
    · have excludedHalf := wellFormed_not (wellFormed_anyOf nothingExcluded cleanExcluded)
      rw [if_neg nothingExcluded]
      exact (Expression.Composes.and _ _).wellFormed (by
        simpa using ⟨wantedHalf, excludedHalf⟩)

theorem holds_ofLists (wanted excluded tags : TagSet) :
    (ofLists wanted excluded).holds tags =
      TestFilter.keeps (TagListFilter.mk wanted excluded) tags := by
  change _ = ((wanted.isEmpty || !tags.disjoint wanted) && tags.disjoint excluded)
  unfold ofLists
  -- Each half is left out of the condition where its list is empty.
  by_cases nothingWanted : wanted = ∅
  · rw [if_pos nothingWanted, (TagSet.isEmpty_iff wanted).2 nothingWanted, holds,
      holds_anyOf, Bool.not_not, Bool.true_or, Bool.true_and]
  · have wants : wanted.isEmpty = false := by
      rw [← Bool.not_eq_true, TagSet.isEmpty_iff]
      exact nothingWanted
    rw [if_neg nothingWanted, wants, Bool.false_or]
    by_cases nothingExcluded : excluded = ∅
    · have free : tags.disjoint excluded = true := by
        rw [TagSet.disjoint_iff, nothingExcluded]
        exact fun tag _ => TagSet.not_mem_empty tag
      rw [if_pos nothingExcluded, holds_anyOf, free, Bool.and_true]
    · rw [if_neg nothingExcluded]
      simp [holds, allHold, holds_anyOf]

theorem describes_ofLists (someTag : ¬ (wanted = ∅ ∧ excluded = ∅))
    (cleanWanted : ∀ tag ∈ wanted.toList, CleanTag tag)
    (cleanExcluded : ∀ tag ∈ excluded.toList, CleanTag tag) :
    Expression.Describes (Expression.ofLists wanted excluded).toList
      (ofLists wanted excluded) := by
  have describes :=
    Expression.describes_render (wellFormed_ofLists someTag cleanWanted cleanExcluded)
  rwa [render_ofLists someTag] at describes

end Condition

namespace Selection

/-- Two lists of tags select the suite that their expression selects, whatever lists come
with that expression; only where it is empty, those must be empty too. -/
theorem lists_select_as_their_expression {wanted excluded : TagSet}
    (cleanWanted : ∀ tag ∈ wanted.toList, CleanTag tag)
    (cleanExcluded : ∀ tag ∈ excluded.toList, CleanTag tag) {blank : String}
    (isBlank : Text.isBlankText blank = true) (suite : Group) (prune : Bool) :
    ∃ selected,
      select { expression := blank, tags := wanted, excludedTags := excluded } suite
          prune = .ok selected ∧
        (Expression.ofLists wanted excluded ≠ "" →
          ∀ lists : Selection,
            (lists.withExpression (Expression.ofLists wanted excluded)).select suite
              prune = .ok selected) ∧
        (Expression.ofLists wanted excluded = "" →
          select { expression := Expression.ofLists wanted excluded } suite prune =
            .ok selected) := by
  have isFilter :
      toFilter { expression := blank, tags := wanted, excludedTags := excluded } =
        .ok (.tagLists ⟨wanted, excluded⟩) :=
    toFilter_of_blank isBlank
  refine ⟨_, select_eq_pass isFilter suite prune, ?_, ?_⟩
  · intro notEmpty lists
    have someTag : ¬ (wanted = ∅ ∧ excluded = ∅) := by
      rintro ⟨rfl, rfl⟩
      exact notEmpty rfl
    -- With a tag in one of the lists their expression is in the grammar.
    have describes :=
      Condition.describes_ofLists someTag cleanWanted cleanExcluded
    rw [← select_eq_pass isFilter suite prune]
    exact select_congr (toFilter_of_describes describes lists) isFilter
      (Condition.holds_ofLists wanted excluded) suite prune
  · intro empty
    have noTag : wanted = ∅ ∧ excluded = ∅ := by
      -- A described text is not blank, so the empty one stands for empty lists alone.
      by_contra someTag
      have notBlank :=
        (Condition.describes_ofLists someTag cleanWanted cleanExcluded).not_blank
      rw [empty] at notBlank
      cases notBlank
    obtain ⟨rfl, rfl⟩ := noTag
    rw [← select_eq_pass isFilter suite prune]
    exact select_congr (toFilter_of_blank rfl) isFilter (fun _ => rfl) suite prune

theorem lists_select_as_their_expression_nested :
    let suite : Group :=
      ⟨"all", .ofList ["unit"],
        [⟨"io", .ofList ["slow"], [], [⟨"read", .ofList ["disk"], true⟩]⟩,
          ⟨"text", ∅, [], [⟨"trim", .ofList ["fast"], false⟩, ⟨"wrap", ∅, false⟩]⟩],
        []⟩
    let wanted : TagSet := .ofList ["fast", "disk"]
    let excluded : TagSet := .ofList ["slow"]
    let selected : Group :=
      ⟨"all", .ofList ["unit"], [⟨"text", ∅, [], [⟨"trim", .ofList ["fast"], false⟩]⟩], []⟩
    (∀ tag ∈ wanted.toList, CleanTag tag) ∧
      (∀ tag ∈ excluded.toList, CleanTag tag) ∧
      Expression.ofLists wanted excluded = "and(or(fast, disk), not(or(slow)))" ∧
      select { expression := " ", tags := wanted, excludedTags := excluded } suite true =
        .ok selected ∧
      (withExpression { tags := excluded } "and(or(fast, disk), not(or(slow)))").select suite
        true = .ok selected := by
  intro suite wanted excluded selected
  have cleanWanted : ∀ tag ∈ wanted.toList, CleanTag tag := by decide
  have cleanExcluded : ∀ tag ∈ excluded.toList, CleanTag tag := by decide
  have text :
      Expression.ofLists wanted excluded = "and(or(fast, disk), not(or(slow)))" := by
    decide
  have byLists :
      select { expression := " ", tags := wanted, excludedTags := excluded } suite true =
        .ok selected := by
    decide
  have isBlank : Text.isBlankText " " = true := by decide
  obtain ⟨same, selectsSame, byExpression, _⟩ :=
    lists_select_as_their_expression cleanWanted cleanExcluded isBlank suite true
  rw [byLists] at selectsSame
  cases selectsSame
  rw [text] at byExpression
  exact ⟨cleanWanted, cleanExcluded, text, byLists, byExpression (by decide) _⟩

end Selection

end TagSelection
