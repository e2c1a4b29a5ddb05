import Survey.Command.Run
import Survey.Proofs.Inspection.Run
import Survey.Proofs.Project.Analysis

/-!
What an analysis leaves of a tree of files. It ends early for many reasons, and none of them comes
after the one file is written; a run that is completed has written it and tells by its exit code
whether errors were found.
-/
namespace Survey

/-- A snapshot is kept whole or the content of all files stays. -/
theorem Snapshot.keep_cases (s : Snapshot) (t : FileTree) (base : Place) (path : String) :
    (∃ fault, (s.keep t base path).2 = some fault ∧
      ∀ p, (s.keep t base path).1.content? p = t.content? p) ∨
    ((s.keep t base path).2 = none ∧ ∀ p, (s.keep t base path).1.content? p =
      if p = FileTree.placeOf base path then some s.text.toUTF8 else t.content? p) := by
  have same := FileTree.content?_makeParent t base path
  rcases way : t.makeParent base path with ⟨made, _ | cause⟩ <;> rw [way] at same
  · cases written : made.write base path s.text.toUTF8 with
    | error cause =>
        simp only [keep, way, written]
        exact .inl ⟨_, rfl, same⟩
    | ok tree =>
        obtain ⟨rfl, inside⟩ := FileTree.write_eq_ok written
        refine .inr ⟨by simp only [keep, way, written], fun p => ?_⟩
        simp only [keep, way, written]
        rw [FileTree.content?_insert_file inside, same]
  · simp only [keep, way]
    exact .inl ⟨_, rfl, same⟩

namespace Command

open Survey.Syntax

variable {s : Session} {a : Arguments} {parser : Parser} {root : Place} {settings : Settings}
  {analysis : Analysis} {tree : FileTree} {report : Report}

/-- The stages up to the analysis. -/
structure Studied (s : Session) (a : Arguments) (parser : Parser) (root : Place)
    (settings : Settings) (analysis : Analysis) : Prop where
  directory : s.tree.find s.here a.path = .ok (root, .directory)
  configured : settingsOf s a root = .ok settings
  known : ∀ id ∈ a.agents ++ a.excludeAgents, (Inspector.ofId? id).isSome
  analysed : Analysis.ofProject s.tree root settings parser = .ok analysis

/-- The stages of a run, with the tree and the report that it ends with. -/
inductive Completes (s : Session) (a : Arguments) (parser : Parser) : FileTree → Report → Prop where
  | unasked {root : Place} {settings : Settings} {analysis : Analysis}
      (studied : Studied s a parser root settings analysis) (unasked : a.snapshot = none) :
      Completes s a parser s.tree ⟨a.path, analysis, inspect s a settings analysis, none⟩
  | kept {root : Place} {settings : Settings} {analysis : Analysis} {path : String}
      {previous : Option Snapshot} {current : Snapshot} {tree : FileTree}
      (studied : Studied s a parser root settings analysis) (asked : a.snapshot = some path)
      (loaded : Snapshot.load? s.tree s.here path = .ok previous)
      (captured : Snapshot.capture s.tree root analysis.graph.ids s.now
        analysis.detection.framework analysis.graph.stats = .ok current)
      (saved : current.save s.tree s.here path = .ok tree) :
      Completes s a parser tree
        ⟨a.path, analysis, inspect s a settings analysis, previous.map current.diff⟩

theorem rootOf_eq_ok_iff :
    rootOf s a = .ok root ↔ s.tree.find s.here a.path = .ok (root, .directory) := by
  unfold rootOf
  cases s.tree.find s.here a.path with
  | error cause => simp
  | ok found => rcases found with ⟨place, _ | bytes⟩ <;> simp

theorem unknownAgents_eq_nil_iff :
    unknownAgents a = [] ↔ ∀ id ∈ a.agents ++ a.excludeAgents, (Inspector.ofId? id).isSome := by
  rw [unknownAgents, List.filter_eq_nil_iff]
  simp only [Option.isNone_iff_eq_none, Option.isSome_iff_ne_none, ne_eq]

theorem study_eq_ok_iff {summary : Inspection.Summary} :
    study s a parser = .ok (root, analysis, summary) ↔
      ∃ settings, Studied s a parser root settings analysis ∧ summary = inspect s a settings analysis := by
  unfold study
  simp only [Stages.bind_eq_ok_iff, Stages.mapError_eq_ok_iff, rootOf_eq_ok_iff]
  constructor
  · rintro ⟨place, directory, settings, configured, rest⟩
    split at rest
    · cases rest
    · next known =>
      simp only [Stages.bind_eq_ok_iff, Stages.mapError_eq_ok_iff] at rest
      obtain ⟨made, analysed, same⟩ := rest
      cases same
      have none : unknownAgents a = [] := by simpa using known
      exact ⟨settings, ⟨directory, configured, unknownAgents_eq_nil_iff.mp none, analysed⟩, rfl⟩
  · rintro ⟨settings, studied, rfl⟩
    have none := unknownAgents_eq_nil_iff.mpr studied.known
    refine ⟨root, studied.directory, settings, studied.configured, ?_⟩
    rw [if_neg (by simp [none]), Stages.bind_eq_ok_iff]
    exact ⟨analysis, Stages.mapError_eq_ok_iff.mpr studied.analysed, rfl⟩

theorem snapshots_eq_ok_iff {path : String} {previous : Option Snapshot} {current : Snapshot} :
    snapshots s root analysis path = .ok (previous, current) ↔
      Snapshot.load? s.tree s.here path = .ok previous ∧
        Snapshot.capture s.tree root analysis.graph.ids s.now analysis.detection.framework
          analysis.graph.stats = .ok current := by
  simp only [snapshots, Stages.bind_eq_ok_iff, pure, Except.pure, Except.ok.injEq, Prod.mk.injEq]
  constructor
  · rintro ⟨_, loaded, _, captured, rfl, rfl⟩
    exact ⟨loaded, captured⟩
  · rintro ⟨loaded, captured⟩
    exact ⟨previous, loaded, current, captured, rfl, rfl⟩

theorem save_eq_ok_iff {current : Snapshot} {t : FileTree} {base : Place} {path : String} :
    current.save t base path = .ok tree ↔ current.keep t base path = (tree, none) := by
  unfold Snapshot.save
  rcases current.keep t base path with ⟨left, _ | fault⟩ <;> simp

theorem content?_of_save {current : Snapshot} {t : FileTree} {base : Place} {path : String}
    (saved : current.save t base path = .ok tree) (p : Place) :
    tree.content? p =
      if p = FileTree.placeOf base path then some current.text.toUTF8 else t.content? p := by
  have outcomes := current.keep_cases t base path
  rw [save_eq_ok_iff.mp saved] at outcomes
  rcases outcomes with ⟨fault, failed, -⟩ | ⟨-, content⟩
  · cases failed
  · exact content p

theorem refreshSnapshot_of_save {path : String} {previous : Option Snapshot} {current : Snapshot}
    (taken : snapshots s root analysis path = .ok (previous, current))
    (saved : current.save s.tree s.here path = .ok tree) :
    refreshSnapshot s root analysis path = (tree, .ok (previous.map current.diff)) := by
  simp only [refreshSnapshot, taken, save_eq_ok_iff.mp saved]

/-- A snapshot is refreshed by all its stages, or the content of all files stays. -/
theorem refreshSnapshot_cases (s : Session) (root : Place) (analysis : Analysis) (path : String) :
    (∃ tree previous current, snapshots s root analysis path = .ok (previous, current) ∧
      current.save s.tree s.here path = .ok tree) ∨
    ∃ tree fault, refreshSnapshot s root analysis path = (tree, .error fault) ∧
      ∀ p, tree.content? p = s.tree.content? p := by
  cases taken : snapshots s root analysis path with
  | error fault => exact .inr ⟨s.tree, fault, by simp only [refreshSnapshot, taken], fun _ => rfl⟩
  | ok pair =>
      obtain ⟨previous, current⟩ := pair
      have outcomes := current.keep_cases s.tree s.here path
      rcases left : current.keep s.tree s.here path with ⟨tree, _ | fault⟩
      · exact .inl ⟨tree, previous, current, rfl, save_eq_ok_iff.mpr left⟩
      · rw [left] at outcomes
        rcases outcomes with ⟨-, -, same⟩ | ⟨whole, -⟩
        · exact .inr ⟨tree, fault, by simp only [refreshSnapshot, taken, left], same⟩
        · cases whole

theorem survey_of_completes (completes : Completes s a parser tree report) :
    survey s a parser = (tree, .ok report) := by
  cases completes with
  | unasked studied unasked =>
      have done := study_eq_ok_iff.mpr ⟨_, studied, rfl⟩
      simp only [survey, done, unasked]
  | kept studied asked loaded captured saved =>
      have done := study_eq_ok_iff.mpr ⟨_, studied, rfl⟩
      have refreshed := refreshSnapshot_of_save (snapshots_eq_ok_iff.mpr ⟨loaded, captured⟩) saved
      simp only [survey, done, asked, refreshed]

/-- A run is completed by all its stages, or the content of all files stays. -/
theorem survey_cases (s : Session) (a : Arguments) (parser : Parser) :
    (∃ tree report, survey s a parser = (tree, .ok report) ∧ Completes s a parser tree report) ∨
    ∃ tree fault, survey s a parser = (tree, .error fault) ∧ ∀ p, tree.content? p = s.tree.content? p := by
  cases done : study s a parser with
  | error fault => exact .inr ⟨s.tree, fault, by simp only [survey, done], fun _ => rfl⟩
  | ok found =>
      obtain ⟨root, analysis, summary⟩ := found
      obtain ⟨settings, studied, rfl⟩ := study_eq_ok_iff.mp done
      -- Up to here nothing was written, and from here only the snapshot is.
      cases asked : a.snapshot with
      | none =>
          have completes := Completes.unasked studied asked
          exact .inl ⟨_, _, survey_of_completes completes, completes⟩
      | some path =>
          rcases refreshSnapshot_cases s root analysis path with
            ⟨tree, previous, current, taken, saved⟩ | ⟨tree, fault, failed, same⟩
          · obtain ⟨loaded, captured⟩ := snapshots_eq_ok_iff.mp taken
            have completes := Completes.kept studied asked loaded captured saved
            exact .inl ⟨_, _, survey_of_completes completes, completes⟩
          · exact .inr ⟨tree, .snapshot fault, by simp only [survey, done, asked, failed], same⟩

theorem Completes.elsewhere {p : Place} (completes : Completes s a parser tree report)
    (other : ∀ path, a.snapshot = some path → p ≠ FileTree.placeOf s.here path) :
    tree.content? p = s.tree.content? p := by
  cases completes with
  | unasked => rfl
  | kept studied asked loaded captured saved =>
      rw [content?_of_save saved, if_neg (other _ asked)]

theorem Completes.unique {tree' : FileTree} {report' : Report}
    (completes : Completes s a parser tree report) (again : Completes s a parser tree' report') :
    tree' = tree ∧ report' = report := by
  have same := (survey_of_completes again).symm.trans (survey_of_completes completes)
  cases same
  exact ⟨rfl, rfl⟩

/-- The file of a snapshot holds what was captured, after an earlier snapshot there was read. -/
def Stored (s : Session) (a : Arguments) (parser : Parser) (path : String) (tree : FileTree) :
    Prop :=
  ∃ root settings analysis previous current, Studied s a parser root settings analysis ∧
    Snapshot.load? s.tree s.here path = .ok previous ∧
    Snapshot.capture s.tree root analysis.graph.ids s.now analysis.detection.framework
      analysis.graph.stats = .ok current ∧
    tree.content? (FileTree.placeOf s.here path) = some current.text.toUTF8

theorem Completes.stored {path : String} (completes : Completes s a parser tree report)
    (named : a.snapshot = some path) : Stored s a parser path tree := by
  cases completes with
  | unasked studied unasked => cases unasked.symm.trans named
  | kept studied asked loaded captured saved =>
      cases asked.symm.trans named
      exact ⟨_, _, _, _, _, studied, loaded, captured, by rw [content?_of_save saved, if_pos rfl]⟩

/-- Some finding of a report is an error. -/
def Erroneous (report : Report) : Prop :=
  ∃ r ∈ report.summary.results, ∃ f ∈ r.findings, f.severity = .error

theorem Completes.hasErrors_iff (completes : Completes s a parser tree report) :
    report.summary.hasErrors ↔ Erroneous report := by
  cases completes with
  | unasked => exact Inspection.Summary.hasErrors_iff _
  | kept => exact Inspection.Summary.hasErrors_iff _

/-- What an analysis may do to files, and what its exit code tells. -/
structure Conduct (s : Session) (a : Arguments) (parser : Parser) (o : Outcome) : Prop where
  elsewhere : ∀ p, (∀ path, a.snapshot = some path → p ≠ FileTree.placeOf s.here path) →
    o.tree.content? p = s.tree.content? p
  stored : ∀ path, a.snapshot = some path → o.exitCode ≠ 2 → Stored s a parser path o.tree
  failed : o.exitCode = 2 → ∀ p, o.tree.content? p = s.tree.content? p
  codes : o.exitCode = 0 ∨ o.exitCode = 1 ∨ o.exitCode = 2
  clean : o.exitCode = 0 ↔ ∃ tree report, Completes s a parser tree report ∧ ¬ Erroneous report
  errors : o.exitCode = 1 ↔ ∃ tree report, Completes s a parser tree report ∧ Erroneous report

theorem conduct_of_completes {o : Outcome} (completes : Completes s a parser o.tree report)
    (code : o.exitCode = if report.summary.hasErrors then 1 else 0) : Conduct s a parser o := by
  have only : ∀ P : Report → Prop,
      (∃ tree report, Completes s a parser tree report ∧ P report) ↔ P report := by
    intro P
    constructor
    · rintro ⟨tree', report', again, holds⟩
      exact (completes.unique again).2 ▸ holds
    · intro holds
      exact ⟨_, _, completes, holds⟩
  have told := completes.hasErrors_iff
  have codes : o.exitCode = 0 ∧ ¬ Erroneous report ∨ o.exitCode = 1 ∧ Erroneous report := by
    by_cases found : report.summary.hasErrors
    · exact .inr ⟨by rw [code, if_pos found], told.mp found⟩
    · exact .inl ⟨by rw [code, if_neg found], mt told.mpr found⟩
  exact {
    elsewhere := fun p => completes.elsewhere
    stored := fun path named _ => completes.stored named
    failed := by omega
    codes := by omega
    clean := by
      rw [only fun report => ¬ Erroneous report]
      rcases codes with ⟨zero, none⟩ | ⟨one, some⟩
      · exact iff_of_true zero none
      · exact iff_of_false (by omega) (not_not_intro some)
    errors := by
      rw [only Erroneous]
      rcases codes with ⟨zero, none⟩ | ⟨one, some⟩
      · exact iff_of_false (by omega) none
      · exact iff_of_true one some }

theorem conduct_of_unchanged {o : Outcome}
    (incomplete : ∀ tree report, ¬ Completes s a parser tree report) (code : o.exitCode = 2)
    (same : ∀ p, o.tree.content? p = s.tree.content? p) : Conduct s a parser o := by
  have none : ∀ P : Report → Prop, ¬ ∃ tree report, Completes s a parser tree report ∧ P report := by
    rintro P ⟨tree, report, completes, _⟩
    exact incomplete tree report completes
  exact {
    elsewhere := fun p _ => same p
    stored := fun path _ ended => absurd code ended
    failed := fun _ => same
    codes := .inr (.inr code)
    clean := iff_of_false (by omega) (none _)
    errors := iff_of_false (by omega) (none _) }

/-- An analysis writes no file but that of its snapshot, and that one when all stages before it
succeeded; its exit code tells whether it was completed and whether it found errors. -/
theorem analysis_conduct (s : Session) (a : Arguments) (parser : Parser) :
    Conduct s a parser (run s (.analyze a) parser) := by
  rcases survey_cases s a parser with ⟨tree, report, surveyed, completes⟩ | ⟨tree, fault, surveyed, same⟩
  · have outcome : run s (.analyze a) parser = ⟨if report.summary.hasErrors then 1 else 0,
        write s a.format report, "", tree⟩ := by simp only [run, runAnalysis, surveyed]
    rw [outcome]
    exact conduct_of_completes completes rfl
  · have outcome : run s (.analyze a) parser = ⟨2, "", unlines fault.lines, tree⟩ := by
      simp only [run, runAnalysis, surveyed]
    have incomplete : ∀ tree report, ¬ Completes s a parser tree report := fun _ _ completes => by
      cases surveyed.symm.trans (survey_of_completes completes)
    rw [outcome]
    exact conduct_of_unchanged incomplete rfl same

section Sessions

def sessionIn (tree : FileTree) : Session where
  tree := tree
  here := ["app"]
  today := ⟨2025, 1, 1⟩
  now := { date := ⟨2025, 1, 1⟩ }

/-- A snapshot is to be kept below a directory that is not there. -/
def keepArguments : Arguments where
  path := "."
  snapshot := some "kept/last.json"

def bareTree : FileTree :=
  ⟨[(["app"], .directory)]⟩

def ringTree : FileTree :=
  ⟨[(["app"], .directory), (["app", "ring.ts"], .file "import './ring'".toUTF8)]⟩

theorem studied_sessionIn {files : List String}
    (directory : tree.find ["app"] "." = .ok (["app"], .directory))
    (unset : Settings.discover tree ["app"] = .ok {})
    (listed : Discovery.files tree ["app"] {} = .ok files) :
    Studied (sessionIn tree) keepArguments parser ["app"] {}
      (.ofFiles tree ["app"] {} parser files) where
  directory := directory
  configured := by
    have found : Settings.discover (sessionIn tree).tree ["app"] = .ok {} := unset
    simp only [settingsOf, keepArguments, found, bind, Except.bind, Settings.validate_default]
    rfl
  known := by decide
  analysed := Analysis.ofProject_eq_ok_iff.mpr ⟨Settings.validate_default, files, listed, rfl⟩

theorem files_bareTree : Discovery.files bareTree ["app"] {} = .ok [] := by
  have listed : (({} : Settings).exclusions.map (Discovery.sources bareTree ["app"] {})).toOption =
    some [] := by decide +kernel
  exact Discovery.files_of_sources listed (.refl []) .nil

theorem files_ringTree : Discovery.files ringTree ["app"] {} = .ok ["ring.ts"] := by
  have listed : (({} : Settings).exclusions.map (Discovery.sources ringTree ["app"] {})).toOption =
    some ["ring.ts"] := by decide +kernel
  exact Discovery.files_of_sources listed (.refl _) (List.pairwise_singleton _ _)

theorem completes_sessionIn (tree : FileTree) {analysis : Analysis}
    (studied : Studied (sessionIn tree) keepArguments Script.parse? ["app"] {} analysis)
    (loaded : Snapshot.load? tree ["app"] "kept/last.json" = .ok none)
    (captured : ((Snapshot.capture tree ["app"] analysis.graph.ids (sessionIn tree).now
      analysis.detection.framework analysis.graph.stats).toOption.map fun _ => ()) = some ())
    (saved : ∀ current : Snapshot, ∃ left, current.save tree ["app"] "kept/last.json" = .ok left) :
    ∃ left report, Completes (sessionIn tree) keepArguments Script.parse? left report ∧
      report.summary = inspect (sessionIn tree) keepArguments {} analysis := by
  obtain ⟨current, captured, -⟩ := Stages.exists_ok_of_map captured
  obtain ⟨left, saved⟩ := saved current
  exact ⟨left, _, .kept studied rfl loaded captured saved, rfl⟩

theorem session_exit_codes :
    (run (sessionIn bareTree) (.analyze keepArguments)).exitCode = 0 ∧
    (run (sessionIn ringTree) (.analyze keepArguments)).exitCode = 1 ∧
    Stored (sessionIn ringTree) keepArguments Script.parse? "kept/last.json"
      (run (sessionIn ringTree) (.analyze keepArguments)).tree := by
  obtain ⟨_, bare, completed, told⟩ := completes_sessionIn bareTree
    (studied_sessionIn rfl rfl files_bareTree) rfl (by decide +kernel) fun _ => ⟨_, rfl⟩
  obtain ⟨_, ring, done, found⟩ := completes_sessionIn ringTree
    (studied_sessionIn rfl rfl files_ringTree) rfl (by decide +kernel) fun _ => ⟨_, rfl⟩
  have quiet : ¬ bare.summary.hasErrors := by
    rw [told]
    decide +kernel
  have loud : ring.summary.hasErrors := by
    rw [found]
    decide +kernel
  have zero := (analysis_conduct _ _ _).clean.mpr
    ⟨_, bare, completed, mt completed.hasErrors_iff.mpr quiet⟩
  have conduct := analysis_conduct (sessionIn ringTree) keepArguments Script.parse?
  have one := conduct.errors.mpr ⟨_, ring, done, done.hasErrors_iff.mp loud⟩
  exact ⟨zero, one, conduct.stored _ rfl (by omega)⟩

end Sessions

end Command

end Survey
