import Survey.Project.Analysis
import Survey.Proofs.Graph.Records
import Survey.Proofs.Project.Discovery

/-!
What becomes of the files of a project. Each one that is found is a module of the graph or is left
out, once and for its own text alone, so that no file takes another one out or brings it in.
-/
namespace Survey

open Survey.Syntax

section Reading

variable (parser : Parser)

theorem ScriptFile.ofText_cases (path : String) (dialect : Dialect) (text : String) :
    (∃ f, ofText path dialect text parser = .ok f ∧ f.path = path) ∨
      ofText path dialect text parser = .error (.invalidSyntax path) := by
  unfold ofText ofGlyphs
  split
  · exact .inl ⟨_, rfl, rfl⟩
  · exact .inr rfl

/-- Whether a text can be read is the same for every resolver. -/
theorem Analyzer.facts_cases (a : Analyzer) (path content : String) :
    (∀ r, ∃ m, a.facts path content r parser = .ok m ∧ m.path = path) ∨
      ∀ r, a.facts path content r parser = .error (.invalidSyntax path) := by
  cases a with
  | script =>
      rcases ScriptFile.ofText_cases parser path (dialectOf path) content with ⟨f, read, own⟩ | broken
      · exact .inl fun r => ⟨f.facts r, by simp only [facts, read]; rfl, own⟩
      · exact .inr fun r => by simp only [facts, broken]; rfl
  | component =>
      rcases ScriptFile.ofText_cases parser path (SingleFile.script content).dialect
        (SingleFile.script content).text with ⟨f, read, own⟩ | broken
      · exact .inl fun r => ⟨_, by simp only [facts, componentFacts, read]; rfl, own⟩
      · exact .inr fun r => by simp only [facts, componentFacts, broken]; rfl

theorem Module.read_cases {id : String} (content : String)
    (supported : ∃ a, Analyzer.ofExtension? (Path.extension id) = some a) :
    (∀ r, ∃ m, Module.read content id r parser = .ok m ∧ m.path = id) ∨
      ∀ r, Module.read content id r parser = .error (.invalidSyntax id) := by
  obtain ⟨a, reads⟩ := supported
  -- The equation of the definition would evaluate the look-up of the extension.
  delta Module.read
  simp only [reads]
  exact a.facts_cases parser id content

end Reading

theorem Settings.validate_default : ({} : Settings).validate = .ok () := by
  have evaluated : ({} : Settings).validate.toOption = some () := by decide +kernel
  cases result : ({} : Settings).validate with
  | error fault =>
      rw [result] at evaluated
      cases evaluated
  | ok _ => rfl

namespace Analysis

section Partition

variable {read : String → Except Omission Module} {ids : List String}

theorem paths_partition (own : ∀ id ∈ ids, ∀ m, read id = .ok m → m.path = id) :
    (partition read ids).1.map Module.path = ids.filter fun id => (read id).isOk := by
  induction ids with
  | nil => rfl
  | cons id ids ih =>
      have rest := ih fun id' held => own id' (List.mem_cons_of_mem id held)
      cases result : read id with
      | ok m =>
          rw [List.filter_cons_of_pos (by rw [result]; rfl), ← rest]
          simp only [partition, result, List.map_cons, own id List.mem_cons_self m result]
      | error reason =>
          rw [List.filter_cons_of_neg (by rw [result]; simp [Except.isOk, Except.toBool]), ← rest]
          simp only [partition, result]

theorem skipped_partition (read : String → Except Omission Module) (ids : List String) :
    (partition read ids).2.map Skipped.path = ids.filter fun id => !(read id).isOk := by
  induction ids with
  | nil => rfl
  | cons id ids ih =>
      cases result : read id with
      | ok m =>
          rw [List.filter_cons_of_neg (by rw [result]; simp [Except.isOk, Except.toBool]), ← ih]
          simp only [partition, result]
      | error reason =>
          rw [List.filter_cons_of_pos (by rw [result]; rfl), ← ih]
          simp only [partition, result, List.map_cons]

theorem read_of_skipped {k : Skipped} (member : k ∈ (partition read ids).2) :
    k.path ∈ ids ∧ read k.path = .error k.reason := by
  induction ids with
  | nil => cases member
  | cons id ids ih =>
      cases result : read id with
      | ok m =>
          simp only [partition, result] at member
          exact (ih member).imp_left (List.mem_cons_of_mem id)
      | error reason =>
          simp only [partition, result, List.mem_cons] at member
          rcases member with rfl | member
          · exact ⟨List.mem_cons_self, result⟩
          · exact (ih member).imp_left (List.mem_cons_of_mem id)

end Partition

variable {t : FileTree} {root p : Place} {s : Settings} {parser : Parser} {id : String}
  {files : List String}

/-- A file can be read, and what it holds is the text of a module. -/
def Legible (t : FileTree) (root : Place) (parser : Parser) (id : String) : Prop :=
  ∃ text m, t.readText root id = .ok text ∧ Module.read text id {} parser = .ok m

/-- Why a file cannot be a module: its bytes cannot be had, or its text is no script. -/
inductive Reason (t : FileTree) (root : Place) (id : String) : Omission → Prop where
  | unreadable {cause : FileError} (lost : t.readText root id = .error cause) :
      Reason t root id (.unreadable cause)
  | broken {text : String} (held : t.readText root id = .ok text) :
      Reason t root id (.faulty (.invalidSyntax id))

/-- What comes of a file is its module or the reason against it, the same for every resolver. -/
theorem moduleOf_cases (t : FileTree) (root : Place) (parser : Parser)
    (supported : ∃ a, Analyzer.ofExtension? (Path.extension id) = some a) :
    (Legible t root parser id ∧ ∀ r, ∃ m, moduleOf t root r parser id = .ok m ∧ m.path = id) ∨
      (¬ Legible t root parser id ∧
        ∃ reason, Reason t root id reason ∧ ∀ r, moduleOf t root r parser id = .error reason) := by
  cases held : t.readText root id with
  | error cause =>
      refine .inr ⟨?_, _, .unreadable held, fun r => by simp only [moduleOf, held]; rfl⟩
      rintro ⟨text, m, had, -⟩
      rw [held] at had
      cases had
  | ok text =>
      rcases Module.read_cases parser text supported with read | broken
      · obtain ⟨m, first, -⟩ := read {}
        refine .inl ⟨⟨text, m, held, first⟩, fun r => ?_⟩
        obtain ⟨m, result, own⟩ := read r
        exact ⟨m, Stages.bind_eq_ok_iff.mpr ⟨text, Stages.mapError_eq_ok_iff.mpr held,
          Stages.mapError_eq_ok_iff.mpr result⟩, own⟩
      · refine .inr ⟨?_, _, .broken held, fun r => ?_⟩
        · rintro ⟨_, m, had, first⟩
          cases held.symm.trans had
          rw [broken] at first
          cases first
        · rw [moduleOf, Stages.bind_of_ok (Stages.mapError_eq_ok_iff.mpr held)]
          exact Stages.mapError_of_error (broken r)

theorem isOk_moduleOf (r : Resolver)
    (supported : ∃ a, Analyzer.ofExtension? (Path.extension id) = some a) :
    (moduleOf t root r parser id).isOk ↔ Legible t root parser id := by
  rcases moduleOf_cases t root parser supported with ⟨legible, read⟩ | ⟨illegible, reason, -, failed⟩
  · obtain ⟨m, result, -⟩ := read r
    rw [result]
    exact iff_of_true rfl legible
  · rw [failed r]
    exact iff_of_false (by simp [Except.isOk, Except.toBool]) illegible

def ofFiles (t : FileTree) (root : Place) (s : Settings) (parser : Parser) (files : List String) :
    Analysis :=
  let parts := partition (moduleOf t root ⟨files, aliases t root⟩ parser) files
  { detection := detectionFor t root s
    files := files
    skipped := parts.2
    graph := Graph.build parts.1 (Schema.ofProject t root s.schema parser) }

theorem ofProject_eq (t : FileTree) (root : Place) (s : Settings) (parser : Parser) :
    ofProject t root s parser =
      s.validate.bind fun _ => (Discovery.files t root s).map (ofFiles t root s parser) := by
  unfold ofProject
  cases s.validate with
  | error fault => rfl
  | ok _ => cases Discovery.files t root s <;> rfl

theorem ofProject_eq_ok_iff {analysis : Analysis} :
    ofProject t root s parser = .ok analysis ↔ s.validate = .ok () ∧
      ∃ files, Discovery.files t root s = .ok files ∧ ofFiles t root s parser files = analysis := by
  rw [ofProject_eq]
  cases s.validate with
  | error fault => simp [Except.bind]
  | ok _ => cases Discovery.files t root s <;> simp [Except.bind, Except.map]

theorem ofPath_eq_ok_iff {base : Place} {path : String} {analysis : Analysis} :
    ofPath t base path s parser = .ok analysis ↔
      ∃ root entry, t.find base path = .ok (root, entry) ∧ ofProject t root s parser = .ok analysis := by
  simp only [ofPath, Stages.bind_eq_ok_iff, Stages.mapError_eq_ok_iff, Prod.exists]

theorem path_of_moduleOf {r : Resolver} {m : Module}
    (supported : ∃ a, Analyzer.ofExtension? (Path.extension id) = some a)
    (read : moduleOf t root r parser id = .ok m) : m.path = id := by
  rcases moduleOf_cases t root parser supported with ⟨-, every⟩ | ⟨-, reason, -, failed⟩
  · obtain ⟨m, result, own⟩ := every r
    cases read.symm.trans result
    exact own
  · cases read.symm.trans (failed r)

section Accounts

variable (supported : ∀ id ∈ files, ∃ a, Analyzer.ofExtension? (Path.extension id) = some a)

include supported

theorem mem_ids_ofFiles :
    id ∈ (ofFiles t root s parser files).graph.ids ↔ id ∈ files ∧ Legible t root parser id := by
  rw [ofFiles, Graph.mem_ids_build,
    paths_partition fun id held m => path_of_moduleOf (supported id held), List.mem_filter]
  exact and_congr_right fun held => isOk_moduleOf _ (supported id held)

/-- Every file is a module or left out, and no more than once. -/
theorem perm_ofFiles (nodup : files.Nodup) :
    ((ofFiles t root s parser files).graph.ids ++
      (ofFiles t root s parser files).skipped.map Skipped.path).Perm files := by
  have modules : (ofFiles t root s parser files).graph.ids.Perm
      (files.filter fun id => (moduleOf t root ⟨files, aliases t root⟩ parser id).isOk) := by
    -- A graph has its modules in an order of its own, so that only their paths can be compared.
    have apart : (ofFiles t root s parser files).graph.ids.Nodup := Graph.nodup_ids_build _ _
    refine (List.perm_ext_iff_of_nodup apart (nodup.filter _)).mpr ?_
    intro id
    rw [mem_ids_ofFiles supported, List.mem_filter]
    exact and_congr_right fun held => (isOk_moduleOf _ (supported id held)).symm
  have others := skipped_partition (moduleOf t root ⟨files, aliases t root⟩ parser) files
  rw [show (ofFiles t root s parser files).skipped.map Skipped.path = _ from others]
  exact (modules.append_right _).trans (List.filter_append_perm _ files)

theorem reason_of_mem_skipped {k : Skipped} (member : k ∈ (ofFiles t root s parser files).skipped) :
    Reason t root k.path k.reason := by
  obtain ⟨held, failed⟩ := read_of_skipped member
  rcases moduleOf_cases t root parser (supported k.path held) with
    ⟨-, every⟩ | ⟨-, reason, because, fails⟩
  · obtain ⟨m, result, -⟩ := every ⟨files, aliases t root⟩
    cases failed.symm.trans result
  · cases failed.symm.trans (fails _)
    exact because

end Accounts

/-- What an analysis says of the files of a project. -/
structure Accounted (t : FileTree) (root : Place) (s : Settings) (parser : Parser) (a : Analysis) :
    Prop where
  ascending : a.files.Pairwise (· < ·)
  found : ∃ excluded, s.exclusions = .ok excluded ∧ ∀ id, id ∈ a.files ↔
    root.getLast? ≠ some Discovery.packageDirectory ∧
      ∃ way, Discovery.Wanted t root s excluded way ∧ Text.join "/" way = id
  /-- Each file is a module or left out, not both and not twice, and nothing else is. -/
  once : (a.graph.ids ++ a.skipped.map Skipped.path).Perm a.files
  modules : ∀ id ∈ a.files, id ∈ a.graph.ids ↔ Legible t root parser id
  reasons : ∀ k ∈ a.skipped, Reason t root k.path k.reason
  supported : ∀ k ∈ a.skipped, ∀ path, k.reason ≠ .faulty (.unsupported path)

theorem accounted_ofFiles (proper : t.Proper) (found : Discovery.files t root s = .ok files) :
    Accounted t root s parser (ofFiles t root s parser files) := by
  have supported : ∀ id ∈ files, ∃ a, Analyzer.ofExtension? (Path.extension id) = some a :=
    fun _ => Discovery.ofExtension?_of_mem_files found
  have reasons : ∀ k ∈ (ofFiles t root s parser files).skipped, Reason t root k.path k.reason :=
    fun k => reason_of_mem_skipped supported
  obtain ⟨excluded, excluding, rfl⟩ := Discovery.files_eq_ok found
  have nodup := Discovery.nodup_sources proper root s excluded
  exact {
    ascending := Sorted.ascending_sort nodup
    found := ⟨excluded, excluding, fun id => Sorted.mem_sort.trans (Discovery.mem_sources proper)⟩
    once := perm_ofFiles supported ((Sorted.perm_sort _).nodup_iff.mpr nodup)
    modules := fun id held => (mem_ids_ofFiles supported).trans (and_iff_right held)
    reasons := reasons
    supported := by
      intro k held path same
      have because := reasons k held
      rw [same] at because
      cases because }

theorem legible_insert_file {old bytes : ByteArray} (held : t.content? p = some old)
    (other : FileTree.placeOf root id ≠ p) :
    Legible (t.insert p (.file bytes)) root parser id ↔ Legible t root parser id := by
  simp only [Legible, FileTree.readText_insert_file held other]

/-- Other bytes in a file change no module but its own. -/
theorem ofProject_insert_file {old : ByteArray} {analysis : Analysis} (proper : t.Proper)
    (made : ofProject t root s parser = .ok analysis) (held : t.content? p = some old)
    (bytes : ByteArray) :
    ∃ changed, ofProject (t.insert p (.file bytes)) root s parser = .ok changed ∧
      changed.files = analysis.files ∧
      ∀ id ∈ analysis.files, FileTree.placeOf root id ≠ p →
        (id ∈ changed.graph.ids ↔ id ∈ analysis.graph.ids) := by
  obtain ⟨valid, files, found, rfl⟩ := ofProject_eq_ok_iff.mp made
  have supported : ∀ id ∈ files, ∃ a, Analyzer.ofExtension? (Path.extension id) = some a :=
    fun _ => Discovery.ofExtension?_of_mem_files found
  have again : Discovery.files (t.insert p (.file bytes)) root s = .ok files :=
    (Discovery.files_insert_file proper held).trans found
  refine ⟨_, ofProject_eq_ok_iff.mpr ⟨valid, files, again, rfl⟩, rfl, ?_⟩
  intro id _ other
  rw [mem_ids_ofFiles supported, mem_ids_ofFiles supported, legible_insert_file held other]

/-- When a project in a tree of proper names can be analysed, each of its files is a module or left
out for its own sake, and other bytes in any file of the tree keep what became of the others. -/
theorem files_accounted_for {base : Place} {path : String} {analysis : Analysis}
    (proper : t.Proper) (done : ofPath t base path s parser = .ok analysis) :
    ∃ root entry, t.find base path = .ok (root, entry) ∧ Accounted t root s parser analysis ∧
      ∀ p old bytes, t.content? p = some old →
        ∃ changed, ofPath (t.insert p (.file bytes)) base path s parser = .ok changed ∧
          changed.files = analysis.files ∧
          ∀ id ∈ analysis.files, FileTree.placeOf root id ≠ p →
            (id ∈ changed.graph.ids ↔ id ∈ analysis.graph.ids) := by
  obtain ⟨root, entry, found, made⟩ := ofPath_eq_ok_iff.mp done
  refine ⟨root, entry, found, ?_, ?_⟩
  · obtain ⟨-, files, listed, rfl⟩ := ofProject_eq_ok_iff.mp made
    exact accounted_ofFiles proper listed
  · intro p old bytes held
    obtain ⟨changed, remade, kept⟩ := ofProject_insert_file proper made held bytes
    obtain ⟨entry, again⟩ := FileTree.find_insert_file held found
    exact ⟨changed, ofPath_eq_ok_iff.mpr ⟨root, entry, again, remade⟩, kept⟩

/-- A project with a module below a directory with a point in its name, a script that breaks off and
a file that is no text. -/
def mixedProject : FileTree :=
  ⟨[(["shop"], .directory), (["shop", "v1.2"], .directory),
    (["shop", "v1.2", "cart.ts"], .file "export const size = 3".toUTF8),
    (["shop", "broken.tsx"], .file "export const (".toUTF8),
    (["shop", "bytes.js"], .file ⟨#[0x61, 0xff]⟩),
    (["shop", "notes.v1.2"], .file "plan".toUTF8)]⟩

theorem proper_mixedProject : mixedProject.Proper where
  once := by decide
  named := by
    have names : ∀ entry ∈ mixedProject.entries, ∀ name ∈ entry.1,
        (name ≠ "" ∧ name ≠ ".") ∧ name ≠ ".." ∧ '/' ∉ name.toList := by decide
    intro entry held name part
    obtain ⟨⟨nonempty, notHere⟩, notParent, slashless⟩ := names entry held name part
    exact ⟨nonempty, notHere, notParent, slashless⟩

theorem files_mixedProject :
    Discovery.files mixedProject ["shop"] {} = .ok ["broken.tsx", "bytes.js", "v1.2/cart.ts"] := by
  have listed : (({} : Settings).exclusions.map (Discovery.sources mixedProject ["shop"] {})).toOption =
    some ["v1.2/cart.ts", "broken.tsx", "bytes.js"] := by decide +kernel
  exact Discovery.files_of_sources listed (by decide) (by decide)

theorem mixed_project_accounted_for :
    ∃ analysis, ofPath mixedProject ["shop", "v1.2"] ".." {} = .ok analysis ∧
      Accounted mixedProject ["shop"] {} Script.parse? analysis ∧ analysis.graph.ids = ["v1.2/cart.ts"] ∧
      analysis.skipped = [⟨"broken.tsx", .faulty (.invalidSyntax "broken.tsx")⟩,
        ⟨"bytes.js", .unreadable .notText⟩] := by
  have made : ofProject mixedProject ["shop"] {} = .ok _ :=
    ofProject_eq_ok_iff.mpr ⟨Settings.validate_default, _, files_mixedProject, rfl⟩
  have place : mixedProject.find ["shop", "v1.2"] ".." = .ok (["shop"], .directory) :=
    FileTree.find_eq_ok_iff.mpr ⟨rfl, rfl⟩
  have done := ofPath_eq_ok_iff.mpr ⟨_, _, place, made⟩
  obtain ⟨root, entry, found, accounted, -⟩ := files_accounted_for proper_mixedProject done
  cases place.symm.trans found
  exact ⟨_, done, accounted, by decide +kernel, by decide +kernel⟩

end Analysis

end Survey
