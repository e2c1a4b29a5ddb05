import Survey.Inspection.Orphans
import Survey.Proofs.Graph.Targets

/-!
Exports that are called unused. The exports of an imported module are looked at one by one, unless it
is a page or a route or is recorded for an import that brings in all of a module. Such an import
spares the module recorded for it; where its arc leads to another, because the recorded one is not
in the graph, it spares none.
-/
namespace Survey.Orphans

variable {g : Graph} {n : Module} {file : String}

/-- A module whose exports need not be named to be in use. -/
def Spared (g : Graph) (n : Module) : Prop :=
  n.has .page ∨ n.has .routeHandler ∨
    ∃ m ∈ g.modules, ∃ i ∈ m.imports, i.isNamespace ∧ i.resolved = some n.path

instance decidableSpared (g : Graph) (n : Module) : Decidable (Spared g n) :=
  inferInstanceAs (Decidable (_ ∨ _ ∨ _))

theorem mem_namespaceTargets {id : String} : id ∈ namespaceTargets g ↔
    ∃ m ∈ g.modules, ∃ i ∈ m.imports, i.isNamespace ∧ i.resolved = some id := by
  simp only [namespaceTargets, List.mem_flatMap, List.mem_filterMap, List.mem_filter, and_assoc]

theorem isExamined_iff (filed : g.Filed) :
    isExamined g n ↔ n.path ∈ g.arcs.map Arc.target ∧ ¬ Spared g n := by
  rw [← filed.importers_ne_nil_iff, Spared, ← mem_namespaceTargets]
  simp [isExamined, and_assoc]

/-- The exports of a module that count by name and that no import names. -/
def unnamed (g : Graph) (n : Module) : List Export :=
  n.exports.filter fun e => e.kind ≠ .default ∧ ¬ e.typeOnly ∧
    ¬ ∃ m ∈ g.modules, ∃ i ∈ m.imports, ∃ specifier ∈ i.specifiers, importedName specifier = e.name

theorem mem_importedNames {name : String} : name ∈ importedNames g ↔
    ∃ m ∈ g.modules, ∃ i ∈ m.imports, ∃ specifier ∈ i.specifiers, importedName specifier = name := by
  simp only [importedNames, List.mem_flatMap, List.mem_map]

theorem unusedExports_eq (g : Graph) : unusedExports g =
    (g.modules.filter (isExamined g)).flatMap fun n => (unnamed g n).map (unusedExport n) := by
  have counted : ∀ n : Module, (n.exports.filter fun e =>
      e.kind != .default && !e.typeOnly && !(importedNames g).contains e.name) = unnamed g n := by
    intro n
    apply List.filter_congr
    intro e _
    rw [Bool.eq_iff_iff, decide_eq_true_iff, ← mem_importedNames]
    simp [and_assoc]
  simp only [unusedExports, counted]

/-- A finding calls an export of a file unused. -/
def callsUnused (file : String) (f : Finding) : Bool :=
  f.title == "Unused export" && f.file == some file

@[simp] theorem callsUnused_orphan (n : Module) : callsUnused file (orphan n) = false := by
  unfold callsUnused orphan
  cases Role.primary n.roles <;> simp

@[simp] theorem callsUnused_unusedExport (n : Module) (e : Export) :
    callsUnused file (unusedExport n e) = (n.path == file) := by
  simp [callsUnused, unusedExport]

theorem filter_unnamed (g : Graph) (n : Module) (file : String) :
    ((unnamed g n).map (unusedExport n)).filter (callsUnused file) =
      if n.path = file then (unnamed g n).map (unusedExport n) else [] := by
  rw [List.filter_map, Function.comp_def]
  by_cases same : n.path = file <;> simp [same]

theorem filter_unusedExports (nodup : g.ids.Nodup) (member : n ∈ g.modules) :
    (unusedExports g).filter (callsUnused n.path) =
      if isExamined g n then (unnamed g n).map (unusedExport n) else [] := by
  have alone : ∀ m ∈ g.modules.filter (isExamined g), m.path = n.path → m = n := by
    intro m held paths
    exact List.inj_on_of_nodup_map nodup (List.mem_of_mem_filter held) member paths
  rw [unusedExports_eq, List.filter_flatMap]
  simp only [filter_unnamed]
  by_cases examined : isExamined g n
  · have here : n ∈ g.modules.filter (isExamined g) := List.mem_filter.mpr ⟨member, examined⟩
    rw [if_pos examined, Keyed.flatMap_of_unique ((List.Nodup.of_map _ nodup).filter _) here,
      if_pos rfl]
    intro m held other
    exact if_neg fun paths => other (alone m held paths)
  · rw [if_neg examined]
    apply List.flatMap_eq_nil_iff.mpr
    intro m held
    apply if_neg
    intro paths
    exact examined (alone m held paths ▸ (List.mem_filter.mp held).2)

theorem filter_findings (nodup : g.ids.Nodup) (settings : Settings) (member : n ∈ g.modules) :
    (inspector.findings g settings).filter (callsUnused n.path) =
      if isExamined g n then (unnamed g n).map (unusedExport n) else [] := by
  have none : (orphans g).filter (callsUnused n.path) = [] := by
    rw [orphans, List.filter_map]
    simp [Function.comp_def]
  change (orphans g ++ unusedExports g).filter (callsUnused n.path) = _
  rw [List.filter_append, none, List.nil_append, filter_unusedExports nodup member]

theorem filter_findings_of_imported (filed : g.Filed) (nodup : g.ids.Nodup) (settings : Settings)
    (member : n ∈ g.modules) (imported : n.path ∈ g.arcs.map Arc.target) :
    (inspector.findings g settings).filter (callsUnused n.path) =
      if Spared g n then [] else (unnamed g n).map (unusedExport n) := by
  have examined : isExamined g n ↔ ¬ Spared g n := (isExamined_iff filed).trans (and_iff_right imported)
  rw [filter_findings nodup settings member]
  by_cases spared : Spared g n
  · rw [if_pos spared, if_neg fun h => examined.mp h spared]
  · rw [if_neg spared, if_pos (examined.mpr spared)]

/-- The module recorded for an import is one of the graph. -/
def Stands (g : Graph) (i : Import) : Prop :=
  ∃ id ∈ g.ids, i.resolved = some id

/-- An import that brings in all of a module spares the exports of the one its arc leads to when a
module of the graph is recorded for it. When none is, or one that the graph lacks, the arc goes to
what its relative specifier resolves to, and the exports there are called unused unless something
else spares them. -/
theorem whole_import_spares_recorded (modules : List Module) (schema : Schema) (settings : Settings)
    (m : Module) (member : m ∈ (Graph.build modules schema).modules) (i : Import)
    (written : i ∈ m.imports) (whole : i.isNamespace) (t : String)
    (means : Graph.target? (Graph.build modules schema).ids m i = some t) :
    let g := Graph.build modules schema
    (Stands g i → (inspector.findings g settings).filter (callsUnused t) = []) ∧
    (¬ Stands g i → i.isRelative ∧
      Resolver.resolve { known := modules.map Module.path } m.path i.source = some t ∧
      ∀ n ∈ g.modules, n.path = t → (inspector.findings g settings).filter (callsUnused t) =
        if Spared g n then [] else (unnamed g n).map (unusedExport n)) := by
  intro g
  have nodup := Graph.nodup_ids_build modules schema
  have filed := Graph.filed_build modules schema
  have imported : t ∈ g.arcs.map Arc.target := by
    have arc : ⟨m.path, t, .ofImport i⟩ ∈ g.arcs :=
      Graph.mem_arcs_build.mpr ⟨m, member, i, written, means, rfl, rfl⟩
    exact List.mem_map_of_mem arc
  rcases Graph.target?_eq_some_iff.mp means with
    ⟨recorded, listed⟩ | ⟨unrecorded, relative, resolved⟩
  · have stands : Stands g i := ⟨t, listed, recorded⟩
    obtain ⟨n, held, rfl⟩ := List.mem_map.mp listed
    have spared : Spared g n := Or.inr (Or.inr ⟨m, member, i, written, whole, recorded⟩)
    refine ⟨fun _ => ?_, fun astray => absurd stands astray⟩
    rw [filter_findings_of_imported filed nodup settings held imported, if_pos spared]
  · have astray : ¬ Stands g i := fun ⟨id, listed, recorded⟩ => unrecorded id recorded listed
    refine ⟨fun stands => absurd stands astray, fun _ => ⟨relative, ?_, ?_⟩⟩
    · rwa [Graph.resolve_ids_build] at resolved
    · rintro n held rfl
      exact filter_findings_of_imported filed nodup settings held imported

/-- An import of all that a module for sums exports, with what is recorded for it. -/
def sumsImport (recorded : Option String) : Import :=
  ⟨"../lib/sums", ["* as sums"], false, .static, recorded⟩

def sumsPage (recorded : Option String) : Module where
  path := "app/page.tsx"
  roles := [.page]
  imports := [sumsImport recorded]

def addition : Export :=
  ⟨"add", .function, false, none⟩

def sums : Module where
  path := "lib/sums.tsx"
  roles := [.library]
  exports := [addition, ⟨"Sum", .type, true, none⟩]

def sumsGraph (recorded : Option String) : Graph :=
  Graph.build [sumsPage recorded, sums] {}

theorem sums_spared_when_recorded :
    sumsPage (some "lib/sums.tsx") ∈ (sumsGraph (some "lib/sums.tsx")).modules ∧
    Stands (sumsGraph (some "lib/sums.tsx")) (sumsImport (some "lib/sums.tsx")) ∧
    (inspector.findings (sumsGraph (some "lib/sums.tsx")) {}).filter (callsUnused "lib/sums.tsx") =
      [] := by
  have member : sumsPage (some "lib/sums.tsx") ∈ (sumsGraph (some "lib/sums.tsx")).modules :=
    Graph.mem_modules_build.mpr rfl
  have means : Graph.target? (sumsGraph (some "lib/sums.tsx")).ids (sumsPage (some "lib/sums.tsx"))
      (sumsImport (some "lib/sums.tsx")) = some "lib/sums.tsx" := by decide +kernel
  have stands : Stands (sumsGraph (some "lib/sums.tsx")) (sumsImport (some "lib/sums.tsx")) :=
    ⟨"lib/sums.tsx", by decide +kernel, rfl⟩
  have spares := whole_import_spares_recorded [sumsPage (some "lib/sums.tsx"), sums] {} {} _ member
    _ (List.mem_singleton_self _) (by decide) _ means
  exact ⟨member, stands, spares.1 stands⟩

/-- With a script recorded that the graph lacks, the arc leads to the module all the same, and what
the page imports with all the rest is called unused. -/
theorem sums_reported_when_astray :
    sumsPage (some "lib/sums.ts") ∈ (sumsGraph (some "lib/sums.ts")).modules ∧
    sumsImport (some "lib/sums.ts") ∈ (sumsPage (some "lib/sums.ts")).imports ∧
    (sumsImport (some "lib/sums.ts")).isNamespace ∧
    Graph.target? (sumsGraph (some "lib/sums.ts")).ids (sumsPage (some "lib/sums.ts"))
      (sumsImport (some "lib/sums.ts")) = some "lib/sums.tsx" ∧
    (inspector.findings (sumsGraph (some "lib/sums.ts")) {}).filter (callsUnused "lib/sums.tsx") =
      [unusedExport sums addition] :=
  ⟨Graph.mem_modules_build.mpr rfl, by decide +kernel⟩

end Survey.Orphans
