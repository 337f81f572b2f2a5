import TagSelection.CommandLine
import TagSelection.Proofs.Outline.Lines
import TagSelection.Proofs.SuiteFile.RoundTrip

namespace TagSelection

namespace Outline

def testLineCount (lines : List String) : Nat := lines.countP (!isGroupLine ·)

theorem outline_eq_block (colored : Bool) (suite : Group) :
    suite.outline colored = (block [] suite).map (lineOf colored) :=
  linesFrom_eq_block colored [] suite

theorem testLines_outline (colored : Bool) (suite : Group) :
    (suite.outline colored).filter (!isGroupLine ·) =
      suite.placedTests.map fun entry => lineOf colored (testPieces entry) :=
  testLines_linesFrom colored ∅ [] suite

theorem testLineCount_outline (colored : Bool) (suite : Group) :
    testLineCount (suite.outline colored) = suite.size := by
  rw [testLineCount, List.countP_eq_length_filter, testLines_outline, List.length_map,
    Group.length_placedTests]

end Outline

namespace CommandLine

open Outline

/-- A listing succeeds exactly if its suite is loaded and its expression is sound, and
then it prints the outline and the summary. -/
theorem ListRequest.report_eq_ok_iff (request : ListRequest) (files : Files)
    (settings : Settings) (colored : Bool) (printed : List String) :
    request.report files settings colored = .ok printed ↔
      ∃ suite selected,
        SuiteFile.load files request.path = .ok suite ∧
          (request.adjust settings).selection.select suite
              (request.adjust settings).pruneEmptyGroups = .ok selected ∧
            printed = selected.outline colored ++ [summaryLine selected suite] := by
  simp only [report, bind_eq_ok_iff, mapError_eq_ok_iff, lines, Except.ok.injEq]
  constructor
  · rintro ⟨suite, loaded, selected, isSelected, rfl⟩
    exact ⟨suite, selected, loaded, isSelected, rfl⟩
  · rintro ⟨suite, selected, loaded, isSelected, rfl⟩
    exact ⟨suite, loaded, selected, isSelected, rfl⟩

theorem Outcome.ofReport_eq_printed_iff (report : Report) (printed : List String) :
    Outcome.ofReport report = .printed printed ↔ report = .ok printed := by
  cases report <;> simp [Outcome.ofReport]

/-- An outline is the block of its suite, with colours or without, and apart from the lines
of groups it shows the entries of the suite.  So the summary of a listing counts the tests
that stand above it. -/
theorem outline_shows_entries :
    (∀ (suite : Group) (colored : Bool),
      suite.outline colored = (block [] suite).map (lineOf colored) ∧
        (suite.outline colored).filter (!isGroupLine ·) =
          suite.placedTests.map fun entry => lineOf colored (testPieces entry)) ∧
      ∀ (files : Files) (environment : Environment) (terminal : Bool) (words : List String)
        (color : Option ColorChoice) (request : ListRequest) (printed : List String),
        Request.ofWords words = .ok { color, command := .list request } →
          let used := request.adjust (.ofProcess files environment)
          let colored := usesColors (environment.withFile files) terminal color
          run files environment terminal words = .printed printed ↔
            ∃ suite selected,
              SuiteFile.load files request.path = .ok suite ∧
                used.selection.select suite used.pruneEmptyGroups = .ok selected ∧
                  printed =
                    selected.outline colored ++
                      [toString (testLineCount (selected.outline colored)) ++ " of " ++
                        toString suite.size ++ " test(s) selected"] := by
  refine ⟨fun suite colored => ⟨outline_eq_block colored suite, testLines_outline colored suite⟩,
    ?_⟩
  intro files environment terminal words color request printed asked used colored
  rw [run, asked]
  change Outcome.ofReport (request.report files _ colored) = _ ↔ _
  rw [Outcome.ofReport_eq_printed_iff, ListRequest.report_eq_ok_iff]
  simp only [testLineCount_outline]
  rfl

theorem outline_shows_entries_filtered :
    let io : Group :=
      ⟨"io", .ofList ["disk", "net"], [],
        [⟨"read", .ofList ["unit"], true⟩, ⟨"write", .ofList ["flaky"], false⟩]⟩
    let suite : Group :=
      ⟨"api", .ofList ["net", "slow"], [⟨"none", ∅, [], []⟩, io], [⟨"ping", ∅, false⟩]⟩
    let files : Files :=
      { kind := fun path => if path = "api.json" then .ok .file else .error .notFound
        read := fun path =>
          if path = "api.json" then .ok suite.toJson.toUTF8 else .error .notFound
        around := 0 }
    let words := ["ls", "--color", "never", "--spec", "api.json", "-e", "not(flaky)"]
    let request : ListRequest := { path := "api.json", expression := some "not(flaky)" }
    Request.ofWords words = .ok { color := some .never, command := .list request } ∧
      run files { entries := [] } true words =
        .printed
          ["* api [net, slow]", "  - ping [net, slow]", "  * io [disk, net]",
            "    - read [net, slow, disk, unit] (ignored)",
            "2 of 3 test(s) selected"] := by
  intro io suite files words request
  have asked :
      Request.ofWords words = .ok { color := some .never, command := .list request } := by
    decide
  have loaded : SuiteFile.load files "api.json" = .ok suite := by
    rw [SuiteFile.load_json rfl (by decide), Json.readSuite_toJson (by decide)]
    rfl
  let selected : Group :=
    ⟨"api", .ofList ["net", "slow"],
      [⟨"io", .ofList ["disk", "net"], [], [⟨"read", .ofList ["unit"], true⟩]⟩],
      [⟨"ping", ∅, false⟩]⟩
  let used := request.adjust (.ofProcess files { entries := [] })
  have isSelected : used.selection.select suite used.pruneEmptyGroups = .ok selected := by
    decide +kernel
  have printed := fun lines =>
    outline_shows_entries.2 files { entries := [] } true words _ request lines asked
  exact ⟨asked, (printed _).2 ⟨suite, selected, loaded, isSelected, by decide +kernel⟩⟩

end CommandLine

end TagSelection
