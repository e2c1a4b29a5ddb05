import Mathlib.Data.List.Infix
import Survey.Proofs.Graph.Roles
import Survey.Proofs.Inspection.Orphans
import Survey.Proofs.Text.Lines

/-!
Modules that nothing imports. What an import means is said here on the modules given, without the
graph made of them. A module is called an orphan once when no import means it and nothing else loads
it, and no module is called an orphan and has an export called unused.
-/
namespace Survey

variable {modules : List Module} {schema : Schema} {m : Module} {i : Import} {path : String}

/-- An import means the module recorded for it if that is one of the modules given, else the one
that its specifier resolves to if it is written relative: as one point, or with a slash behind its
points. -/
def Import.Means (modules : List Module) (m : Module) (i : Import) (path : String) : Prop :=
  i.resolved = some path ∧ path ∈ modules.map Module.path ∨
    (∀ id ∈ i.resolved, id ∉ modules.map Module.path) ∧
    (Text.leads "./" i.source ∨ Text.leads "../" i.source ∨ i.source = ".") ∧
    Resolver.resolve { known := modules.map Module.path } m.path i.source = some path

instance Import.decidableMeans (modules : List Module) (m : Module) (i : Import) (path : String) :
    Decidable (i.Means modules m path) :=
  inferInstanceAs (Decidable (_ ∨ _))

theorem Graph.target?_build_iff :
    target? (build modules schema).ids m i = some path ↔ i.Means modules m path := by
  rw [target?_eq_some_iff, resolve_ids_build, Import.Means]
  simp only [mem_ids_build, Option.mem_def, Import.isRelative, Bool.or_eq_true, beq_iff_eq, or_assoc]

theorem Graph.mem_targets_build (nodup : (modules.map Module.path).Nodup) :
    path ∈ (build modules schema).arcs.map Arc.target ↔
      ∃ m ∈ modules, ∃ i ∈ m.imports, i.Means modules m path := by
  rw [List.mem_map]
  constructor
  · rintro ⟨arc, member, rfl⟩
    obtain ⟨m, held, i, written, means, _⟩ := mem_arcs_build.mp member
    exact ⟨m, (mem_modules_build_of_nodup nodup).mp held, i, written, target?_build_iff.mp means⟩
  · rintro ⟨m, held, i, written, means⟩
    refine ⟨⟨m.path, path, .ofImport i⟩, mem_arcs_build.mpr ?_, rfl⟩
    exact ⟨m, (mem_modules_build_of_nodup nodup).mpr held, i, written, target?_build_iff.mpr means,
      rfl, rfl⟩

namespace Orphans

variable {g : Graph} {n : Module} {file : String}

/-- A module that is in use without an import of it. -/
def Loaded (m : Module) : Prop :=
  Role.page ∈ m.roles ∨ Role.routeHandler ∈ m.roles ∨
    Path.stem m.path ∈ ["layout", "loading", "error", "global-error", "not-found", "template",
      "default", "route", "middleware", "instrumentation", "_app", "_document", "_error", "404", "500",
      "App", "app", "main"] ∨
    Path.stem m.path = "index" ∨ "config".toList <:+: (Path.stem m.path).toList ∨
    ".d.ts".toList <:+ m.path.toList

instance decidableLoaded (m : Module) : Decidable (Loaded m) :=
  inferInstanceAs (Decidable (_ ∨ _))

theorem isEntryPoint_iff : isEntryPoint m ↔ Loaded m := by
  simp only [isEntryPoint, Loaded, Bool.or_eq_true, Module.has_iff, List.contains_iff_mem,
    beq_iff_eq, Text.holds_iff, Text.endsIn_iff, or_assoc, reservedStems]

/-- A module that is in use neither by an import nor without one. -/
structure Orphaned (modules : List Module) (m : Module) : Prop where
  unloaded : ¬ Loaded m
  unimported : ∀ n ∈ modules, ∀ i ∈ n.imports, ¬ i.Means modules n m.path

instance decidableOrphaned (modules : List Module) (m : Module) : Decidable (Orphaned modules m) :=
  decidable_of_iff (¬ Loaded m ∧ ∀ n ∈ modules, ∀ i ∈ n.imports, ¬ i.Means modules n m.path)
    ⟨fun h => ⟨h.1, h.2⟩, fun h => ⟨h.unloaded, h.unimported⟩⟩

/-- A finding calls a file an orphan of one kind or other. -/
def callsOrphan (file : String) (f : Finding) : Bool :=
  Text.leads "Orphan " f.title && f.file == some file

@[simp] theorem callsOrphan_orphan (n : Module) : callsOrphan file (orphan n) = (n.path == file) := by
  unfold callsOrphan orphan
  cases Role.primary n.roles <;> simp [Text.leads]

@[simp] theorem callsOrphan_unusedExport (n : Module) (e : Export) :
    callsOrphan file (unusedExport n e) = false := by
  simp [callsOrphan, unusedExport, Text.leads]

theorem filter_callsOrphan (g : Graph) (settings : Settings) (file : String) :
    (inspector.findings g settings).filter (callsOrphan file) =
      (orphans g).filter (callsOrphan file) := by
  have none : (unusedExports g).filter (callsOrphan file) = [] := by
    simp [unusedExports_eq, List.filter_flatMap, List.filter_map, Function.comp_def]
  change (orphans g ++ unusedExports g).filter (callsOrphan file) = _
  rw [List.filter_append, none, List.append_nil]

theorem filter_orphans (nodup : g.ids.Nodup) (member : n ∈ g.modules) :
    (orphans g).filter (callsOrphan n.path) =
      if (g.importers n.path).isEmpty && !isEntryPoint n then [orphan n] else [] := by
  refine Keyed.filter_map_of_unique nodup member ?_
  simp

theorem exists_of_callsOrphan (filed : g.Filed) {f : Finding} (held : f ∈ orphans g) (called : callsOrphan file f) :
    ∃ n ∈ g.modules, n.path = file ∧ ¬ Loaded n ∧ file ∉ g.arcs.map Arc.target := by
  obtain ⟨n, member, rfl⟩ := List.mem_map.mp held
  obtain ⟨listed, unused⟩ := List.mem_filter.mp member
  obtain rfl : n.path = file := by simpa using called
  rw [Bool.and_eq_true, List.isEmpty_iff, Bool.not_eq_true', Bool.eq_false_iff, ne_eq,
    isEntryPoint_iff] at unused
  exact ⟨n, listed, rfl, unused.2, fun target => filed.importers_ne_nil_iff.mpr target unused.1⟩

theorem imported_of_callsUnused (filed : g.Filed) {settings : Settings} {f : Finding}
    (held : f ∈ inspector.findings g settings) (called : callsUnused file f) :
    file ∈ g.arcs.map Arc.target := by
  rcases List.mem_append.mp held with orphan | unused
  · obtain ⟨n, _, rfl⟩ := List.mem_map.mp orphan
    simp at called
  · rw [unusedExports_eq] at unused
    obtain ⟨n, examined, listed⟩ := List.mem_flatMap.mp unused
    obtain ⟨e, _, rfl⟩ := List.mem_map.mp listed
    obtain rfl : n.path = file := by simpa using called
    exact ((isExamined_iff filed).mp (List.mem_filter.mp examined).2).1

theorem orphaned_iff (nodup : (modules.map Module.path).Nodup) (schema : Schema) :
    Orphaned modules m ↔
      ¬ Loaded m ∧ m.path ∉ (Graph.build modules schema).arcs.map Arc.target := by
  rw [Graph.mem_targets_build nodup]
  constructor
  · rintro ⟨unloaded, unimported⟩
    exact ⟨unloaded, fun ⟨n, held, i, written, means⟩ => unimported n held i written means⟩
  · rintro ⟨unloaded, unimported⟩
    exact ⟨unloaded, fun n held i written means => unimported ⟨n, held, i, written, means⟩⟩

/-- Of modules with distinct paths one that no import means and nothing else loads is called an orphan
once. No other path is, and none at which an export is called unused. -/
theorem orphans_called_once (modules : List Module) (schema : Schema) (settings : Settings)
    (nodup : (modules.map Module.path).Nodup) (path : String) :
    (∀ m ∈ modules, m.path = path → Orphaned modules m →
      (inspector.findings (Graph.build modules schema) settings).filter (callsOrphan path) =
        [orphan m]) ∧
    ((¬ ∃ m ∈ modules, m.path = path ∧ Orphaned modules m) →
      (inspector.findings (Graph.build modules schema) settings).filter (callsOrphan path) = []) ∧
    ((inspector.findings (Graph.build modules schema) settings).filter (callsOrphan path) = [] ∨
      (inspector.findings (Graph.build modules schema) settings).filter (callsUnused path) = []) := by
  have filed := Graph.filed_build modules schema
  rw [filter_callsOrphan]
  refine ⟨?_, ?_, ?_⟩
  · rintro m member rfl orphaned
    obtain ⟨unloaded, unimported⟩ := (orphaned_iff nodup schema).mp orphaned
    have unused : (Graph.build modules schema).importers m.path = [] :=
      not_not.mp (mt filed.importers_ne_nil_iff.mp unimported)
    rw [filter_orphans (Graph.nodup_ids_build modules schema)
      ((Graph.mem_modules_build_of_nodup nodup).mpr member)]
    simp [unused, mt isEntryPoint_iff.mp unloaded]
  · intro other
    apply List.filter_eq_nil_iff.mpr
    intro f held called
    obtain ⟨m, member, rfl, unused⟩ := exists_of_callsOrphan filed held called
    exact other ⟨m, (Graph.mem_modules_build_of_nodup nodup).mp member, rfl,
      (orphaned_iff nodup schema).mpr unused⟩
  · by_cases imported : path ∈ (Graph.build modules schema).arcs.map Arc.target
    · refine Or.inl (List.filter_eq_nil_iff.mpr ?_)
      intro f held called
      obtain ⟨_, _, _, _, unimported⟩ := exists_of_callsOrphan filed held called
      exact unimported imported
    · refine Or.inr (List.filter_eq_nil_iff.mpr ?_)
      intro f held called
      exact imported (imported_of_callsUnused filed held called)

/-- A library that is imported only by an alias with nothing recorded for it. -/
def ledger : Module where
  path := "lib/ledger.ts"
  roles := [.library]
  exports := [⟨"post", .function, false, none⟩]

/-- The ledger beside a page, a library that it imports with a file recorded that is not there, and
their configuration. -/
def ledgerModules : List Module :=
  [{ path := "app/page.tsx", roles := [.page]
     imports := [⟨"../lib/money", ["pay"], false, .static, some "lib/money.tsx"⟩,
       ⟨"@/lib/ledger", ["post"], false, .static, none⟩] },
    { path := "lib/money.ts", roles := [.library], exports := [⟨"pay", .function, false, none⟩] },
    ledger, { path := "lib/money.config.ts" }]

theorem ledger_called_orphan :
    (ledgerModules.map Module.path).Nodup ∧ Orphaned ledgerModules ledger ∧
    (inspector.findings (Graph.build ledgerModules {}) {}).filter (callsOrphan "lib/ledger.ts") =
      [orphan ledger] ∧
    (inspector.findings (Graph.build ledgerModules {}) {}).filter (callsOrphan "lib/money.ts") = [] := by
  have nodup : (ledgerModules.map Module.path).Nodup := by decide
  have orphaned : Orphaned ledgerModules ledger := by decide +kernel
  have imported : ¬ ∃ m ∈ ledgerModules, m.path = "lib/money.ts" ∧ Orphaned ledgerModules m := by
    decide +kernel
  refine ⟨nodup, orphaned, ?_, ?_⟩
  · exact (orphans_called_once ledgerModules {} {} nodup _).1 ledger (by simp [ledgerModules]) rfl
      orphaned
  · exact (orphans_called_once ledgerModules {} {} nodup _).2.1 imported

end Orphans

end Survey
