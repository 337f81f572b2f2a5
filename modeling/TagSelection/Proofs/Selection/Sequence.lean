import TagSelection.Proofs.Selection.Pass

/-!
# Selections one after another

Several selections can be run in a row, each on the suite that the one before it gave
and each with or without pruning.  Together they are a single filter pass that keeps
what all of them admit: without pruning if none of them prunes, and with pruning behind
it if the last one prunes, whatever the earlier ones do.

What carries the proof is that every run keeps, up to pruning, the suite that the pass
of the selections so far would give.
-/

namespace TagSelection.Selection

structure Run where
  selection : Selection
  prune : Bool
  deriving DecidableEq

/-- Run selections one after another, each on the suite that the one before it gave. -/
def selectInTurn (runs : List Run) (suite : Group) : Except Expression.Fault Group :=
  runs.foldlM (fun current run => run.selection.select current run.prune) suite

def HasFilter (selection : Selection) : Prop :=
  ∃ filter, selection.toFilter = .ok filter

/-- Whether tests with these effective tags are kept by every selection. -/
def allAdmit (selections : List Selection) (tags : TagSet) : Bool :=
  selections.all fun selection => selection.admits tags

def EndsPruning (runs : List Run) : Prop :=
  ∃ earlier last, runs = earlier ++ [last] ∧ last.prune = true

theorem HasFilter.select_eq_pass {selection : Selection} (hasFilter : selection.HasFilter)
    (suite : Group) (prune : Bool) :
    selection.select suite prune = .ok (selection.pass suite prune) := by
  obtain ⟨filter, isFilter⟩ := hasFilter
  exact Selection.select_eq_pass isFilter suite prune

theorem prune_pass (selection : Selection) (suite : Group) (prune : Bool) :
    (selection.pass suite prune).prune = (suite.keepTests selection.admits ∅).prune := by
  cases prune with
  | true => exact Group.prune_prune _
  | false => rfl

theorem pass_pass (selection : Selection) (suite : Group) (prune : Bool) :
    selection.pass (selection.pass suite prune) prune = selection.pass suite prune := by
  have once :
      (suite.keepTests selection.admits ∅).keepTests selection.admits ∅ =
        suite.keepTests selection.admits ∅ := by
    rw [Group.keepTests_keepTests]
    simp only [Bool.and_self]
  cases prune with
  | true =>
      change (Group.keepTests _ _ (Group.prune _)).prune = (Group.keepTests _ _ _).prune
      rw [Group.prune_keepTests_prune, once]
  | false => exact once

theorem selectInTurn_cons (run : Run) (rest : List Run) (suite : Group) :
    selectInTurn (run :: rest) suite =
      run.selection.select suite run.prune >>= selectInTurn rest :=
  List.foldlM_cons

theorem selectInTurn_append (earlier later : List Run) (suite : Group) :
    selectInTurn (earlier ++ later) suite =
      selectInTurn earlier suite >>= selectInTurn later :=
  List.foldlM_append

theorem selectInTurn_cons_of_hasFilter {run : Run} (hasFilter : run.selection.HasFilter)
    (rest : List Run) (suite : Group) :
    selectInTurn (run :: rest) suite =
      selectInTurn rest (run.selection.pass suite run.prune) := by
  rw [selectInTurn_cons, hasFilter.select_eq_pass]
  rfl

theorem keepTests_allAdmit_nil (suite : Group) :
    suite.keepTests (allAdmit []) ∅ = suite :=
  Group.keepTests_of_forall (fun _ => rfl) suite ∅

theorem keepTests_allAdmit_cons (selection : Selection) (rest : List Selection)
    (suite : Group) :
    (suite.keepTests selection.admits ∅).keepTests (allAdmit rest) ∅ =
      suite.keepTests (allAdmit (selection :: rest)) ∅ :=
  Group.keepTests_keepTests selection.admits (allAdmit rest) suite ∅

theorem selectInTurn_of_no_pruning {runs : List Run}
    (valid : ∀ run ∈ runs, run.selection.HasFilter)
    (noPruning : ∀ run ∈ runs, run.prune = false) (suite : Group) :
    selectInTurn runs suite =
      .ok (suite.keepTests (allAdmit (runs.map Run.selection)) ∅) := by
  induction runs generalizing suite with
  | nil =>
      rw [List.map_nil, keepTests_allAdmit_nil]
      rfl
  | cons run rest inductionHypothesis =>
      obtain ⟨validRun, validRest⟩ := List.forall_mem_cons.1 valid
      obtain ⟨unpruned, noneLater⟩ := List.forall_mem_cons.1 noPruning
      rw [selectInTurn_cons_of_hasFilter validRun,
        inductionHypothesis validRest noneLater, pass, unpruned, List.map_cons,
        ← keepTests_allAdmit_cons]
      rfl

/-- Runs give, up to pruning, the suite of one pass, whichever of them prune. -/
theorem selectInTurn_up_to_pruning {runs : List Run}
    (valid : ∀ run ∈ runs, run.selection.HasFilter) (suite : Group) :
    ∃ result,
      selectInTurn runs suite = .ok result ∧
        result.prune =
          (suite.keepTests (allAdmit (runs.map Run.selection)) ∅).prune := by
  induction runs generalizing suite with
  | nil =>
      exact ⟨suite, rfl, by rw [List.map_nil, keepTests_allAdmit_nil]⟩
  | cons run rest inductionHypothesis =>
      obtain ⟨validRun, validRest⟩ := List.forall_mem_cons.1 valid
      obtain ⟨result, reached, pruned⟩ :=
        inductionHypothesis validRest (run.selection.pass suite run.prune)
      refine ⟨result, ?_, ?_⟩
      · rw [selectInTurn_cons_of_hasFilter validRun, reached]
      -- Up to pruning it makes no difference whether the first run prunes.
      · have sameUpToPruning :
            (run.selection.pass suite run.prune).prune =
              (suite.keepTests run.selection.admits ∅).prune :=
          prune_pass _ _ _
        rw [pruned, Group.prune_keepTests_congr sameUpToPruning,
          keepTests_allAdmit_cons]
        rfl

theorem selectInTurn_of_endsPruning {runs : List Run}
    (valid : ∀ run ∈ runs, run.selection.HasFilter) (endsPruning : EndsPruning runs)
    (suite : Group) :
    selectInTurn runs suite =
      .ok (suite.keepTests (allAdmit (runs.map Run.selection)) ∅).prune := by
  obtain ⟨result, reached, upToPruning⟩ := selectInTurn_up_to_pruning valid suite
  obtain ⟨earlier, last, rfl, prunes⟩ := endsPruning
  -- The last run leaves a pruned suite, which pruning does not change.
  have isPruned : result.prune = result := by
    rw [selectInTurn_append, bind_eq_ok_iff] at reached
    obtain ⟨middle, _, lastRun⟩ := reached
    have hasFilter := valid last (by simp)
    rw [selectInTurn_cons_of_hasFilter hasFilter, prunes] at lastRun
    cases lastRun
    exact Group.prune_prune _
  rw [reached, ← upToPruning, isPruned]

/-- Runs of which one prunes do not see whether their suite was pruned. -/
theorem selectInTurn_congr_of_pruning {runs : List Run}
    (valid : ∀ run ∈ runs, run.selection.HasFilter)
    (prunes : ∃ run ∈ runs, run.prune = true) {suite other : Group}
    (same : suite.prune = other.prune) :
    selectInTurn runs suite = selectInTurn runs other := by
  induction runs generalizing suite other with
  | nil =>
      obtain ⟨run, member, _⟩ := prunes
      cases member
  | cons run rest inductionHypothesis =>
      obtain ⟨validRun, validRest⟩ := List.forall_mem_cons.1 valid
      have samePruned := Group.prune_keepTests_congr same run.selection.admits ∅
      rw [selectInTurn_cons_of_hasFilter validRun, selectInTurn_cons_of_hasFilter validRun]
      -- A run that prunes makes the two suites one; any other keeps them the same up to
      -- pruning.
      by_cases pruning : run.prune = true
      · have samePass :
            run.selection.pass suite run.prune = run.selection.pass other run.prune := by
          rw [pass, pass, pruning]
          exact samePruned
        rw [samePass]
      · have later : ∃ run ∈ rest, run.prune = true := by
          simpa [pruning] using prunes
        apply inductionHypothesis validRest later
        rw [prune_pass, prune_pass, samePruned]

theorem allAdmit_perm {selections others : List Selection}
    (sameSelections : selections.Perm others) : allAdmit selections = allAdmit others := by
  funext tags
  exact sameSelections.all_eq

theorem hasFilter_of_perm {runs others : List Run}
    (sameSelections : (others.map Run.selection).Perm (runs.map Run.selection))
    (valid : ∀ run ∈ runs, run.selection.HasFilter) :
    ∀ run ∈ others, run.selection.HasFilter := by
  intro run member
  have among : run.selection ∈ runs.map Run.selection :=
    sameSelections.subset (List.mem_map_of_mem member)
  obtain ⟨sameRun, memberRuns, equality⟩ := List.mem_map.1 among
  rw [← equality]
  exact valid sameRun memberRuns

/-- Runs in a row are one pass; so their order does not matter, repeating one of them
changes nothing, and pruning before a run that prunes makes no difference. -/
theorem runs_in_turn_are_one_pass {runs : List Run}
    (valid : ∀ run ∈ runs, run.selection.HasFilter) (suite : Group) :
    (EndsPruning runs →
        selectInTurn runs suite =
          .ok (suite.keepTests (allAdmit (runs.map Run.selection)) ∅).prune) ∧
      ((∀ run ∈ runs, run.prune = false) →
        selectInTurn runs suite =
          .ok (suite.keepTests (allAdmit (runs.map Run.selection)) ∅)) ∧
      (∀ others,
        (others.map Run.selection).Perm (runs.map Run.selection) →
          (EndsPruning runs ∧ EndsPruning others) ∨
              (∀ run ∈ runs ++ others, run.prune = false) →
            selectInTurn others suite = selectInTurn runs suite) ∧
      (∀ before run after,
        runs = before ++ run :: after →
          selectInTurn (before ++ run :: run :: after) suite = selectInTurn runs suite) ∧
      ((∃ run ∈ runs, run.prune = true) →
        selectInTurn runs suite.prune = selectInTurn runs suite) := by
  refine ⟨?_, ?_, ?_, ?_, ?_⟩
  · intro endsPruning
    exact selectInTurn_of_endsPruning valid endsPruning suite
  · intro noPruning
    exact selectInTurn_of_no_pruning valid noPruning suite
  · intro others sameSelections
    have validOthers := hasFilter_of_perm sameSelections valid
    have sameAdmits := allAdmit_perm sameSelections
    rintro (⟨endsPruning, endsPruningOthers⟩ | noPruning)
    · rw [selectInTurn_of_endsPruning valid endsPruning,
        selectInTurn_of_endsPruning validOthers endsPruningOthers, sameAdmits]
    · obtain ⟨unpruned, unprunedOthers⟩ := List.forall_mem_append.1 noPruning
      rw [selectInTurn_of_no_pruning valid unpruned,
        selectInTurn_of_no_pruning validOthers unprunedOthers, sameAdmits]
  · rintro before run after rfl
    -- What stands around the run is the same on both sides; the run itself is idempotent.
    have hasFilter := valid run (by simp)
    rw [selectInTurn_append, selectInTurn_append]
    congr 1
    funext current
    rw [selectInTurn_cons_of_hasFilter hasFilter, selectInTurn_cons_of_hasFilter hasFilter,
      selectInTurn_cons_of_hasFilter hasFilter, pass_pass]
  · intro prunes
    exact selectInTurn_congr_of_pruning valid prunes (Group.prune_prune suite)

theorem runs_in_turn_are_one_pass_nested :
    let suite : Group :=
      ⟨"all", .ofList ["unit"],
        [⟨"io", .ofList ["slow"], [⟨"disk", ∅, [], [⟨"sync", .ofList ["fast"], false⟩]⟩],
            [⟨"read", .ofList ["fast"], true⟩]⟩,
          ⟨"text", ∅, [], [⟨"trim", .ofList ["fast"], false⟩, ⟨"wrap", ∅, false⟩]⟩],
        []⟩
    let runs : List Run :=
      [⟨{ expression := "not(slow)" }, true⟩, ⟨{ tags := .ofList ["fast"] }, false⟩,
        ⟨{ expression := "unit", tags := .ofList ["slow"] }, true⟩]
    (∀ run ∈ runs, run.selection.HasFilter) ∧
      EndsPruning runs ∧
      selectInTurn runs suite =
        .ok
          ⟨"all", .ofList ["unit"],
            [⟨"text", ∅, [], [⟨"trim", .ofList ["fast"], false⟩]⟩], []⟩ := by
  intro suite runs
  have valid : ∀ run ∈ runs, run.selection.HasFilter := by
    simp only [runs, List.forall_mem_cons]
    exact ⟨⟨_, rfl⟩, ⟨_, rfl⟩, ⟨_, rfl⟩, by simp⟩
  have endsPruning : EndsPruning runs :=
    ⟨runs.take 2, ⟨{ expression := "unit", tags := .ofList ["slow"] }, true⟩, rfl, rfl⟩
  have onePass := (runs_in_turn_are_one_pass valid suite).1 endsPruning
  exact ⟨valid, endsPruning, onePass.trans (by decide)⟩

end TagSelection.Selection
