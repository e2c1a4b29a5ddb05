import Survey.Proofs.Graph.Records
import Survey.Proofs.Graph.ReverseIndex
import Survey.Proofs.Resolve.Known

/-!
The modules that imports mean. An import without a recorded module makes an arc when it is written
relative and its specifier resolves among the modules of the graph. Without one of the modules no
other gets an arc for an import that had none; where the arc led to that module it may go to the
next place that the specifier can mean.
-/
namespace Survey

theorem Text.leads_trans {a b s : String} (lead : Text.leads a b) (longer : Text.leads b s) :
    Text.leads a s :=
  List.isPrefixOf_iff_prefix.mpr
    ((List.isPrefixOf_iff_prefix.mp lead).trans (List.isPrefixOf_iff_prefix.mp longer))

/-- What is written relative is also resolved as relative. -/
theorem Import.leads_of_isRelative {i : Import} (relative : i.isRelative) :
    Text.leads "." i.source := by
  simp only [Import.isRelative, Bool.or_eq_true, beq_iff_eq] at relative
  rcases relative with (lead | lead) | same
  · exact Text.leads_trans (by decide) lead
  · exact Text.leads_trans (by decide) lead
  · rw [same]
    decide

namespace Graph

variable {modules before after : List Module} {removed m : Module} {schema : Schema} {i : Import}
  {ids larger : List String} {p t : String}

theorem resolve_ids_build (modules : List Module) (schema : Schema) :
    Resolver.resolve { known := (build modules schema).ids } =
      Resolver.resolve { known := modules.map Module.path } :=
  Resolver.resolve_congr rfl fun _ => mem_ids_build

theorem target?_of_recorded {id : String} (recorded : i.resolved = some id) (held : id ∈ ids) :
    target? ids m i = some id := by
  simp only [target?, recorded]
  rw [if_pos (List.contains_iff_mem.mpr held)]

/-- Without a recorded module of the list an import means what it resolves to when it is relative. -/
theorem target?_of_unrecorded (unrecorded : ∀ id, i.resolved = some id → id ∉ ids) :
    target? ids m i =
      if i.isRelative then Resolver.resolve { known := ids } m.path i.source else none := by
  cases recorded : i.resolved with
  | none => simp only [target?, recorded]
  | some id =>
      have missing := unrecorded id recorded
      simp only [target?, recorded]
      rw [if_neg (mt List.contains_iff_mem.mp missing)]

/-- An import means the module recorded for it if that is in the list, else what it resolves to. -/
theorem target?_eq_some_iff : target? ids m i = some t ↔
    i.resolved = some t ∧ t ∈ ids ∨ (∀ id, i.resolved = some id → id ∉ ids) ∧ i.isRelative ∧
      Resolver.resolve { known := ids } m.path i.source = some t := by
  by_cases stands : ∃ id, i.resolved = some id ∧ id ∈ ids
  · obtain ⟨id, recorded, held⟩ := stands
    rw [target?_of_recorded recorded held, recorded]
    constructor
    · rintro ⟨⟩
      exact Or.inl ⟨rfl, held⟩
    · rintro (⟨same, _⟩ | ⟨unrecorded, _⟩)
      · exact same
      · exact absurd held (unrecorded id rfl)
  · have unrecorded : ∀ id, i.resolved = some id → id ∉ ids := by
      intro id recorded held
      exact stands ⟨id, recorded, held⟩
    rw [target?_of_unrecorded unrecorded, Option.ite_none_right_eq_some]
    constructor
    · intro found
      exact Or.inr ⟨unrecorded, found⟩
    · rintro (⟨recorded, held⟩ | ⟨_, found⟩)
      · exact absurd held (unrecorded t recorded)
      · exact found

theorem source_of_mem_arcsFrom {arc : Arc} (member : arc ∈ arcsFrom ids m) :
    arc.source = m.path := by
  obtain ⟨i, _, made⟩ := List.mem_filterMap.mp member
  obtain ⟨_, _, rfl⟩ := Option.map_eq_some_iff.mp made
  rfl

theorem filter_arcsFrom (ids : List String) (m : Module) (id : String) :
    (arcsFrom ids m).filter (·.source == id) = if m.path = id then arcsFrom ids m else [] := by
  split
  next same =>
      apply List.filter_eq_self.mpr
      intro arc member
      exact beq_iff_eq.mpr ((source_of_mem_arcsFrom member).trans same)
  next other =>
      apply List.filter_eq_nil_iff.mpr
      intro arc member matched
      exact other ((source_of_mem_arcsFrom member).symm.trans (beq_iff_eq.mp matched))

/-- The arcs that leave a module of a graph are those of its own imports. -/
theorem filter_arcs_build (member : m ∈ (build modules schema).modules) :
    (build modules schema).arcs.filter (·.source == m.path) =
      arcsFrom (build modules schema).ids m := by
  have nodup := nodup_ids_build modules schema
  rw [arcs_build]
  simp only [List.filter_flatMap, filter_arcsFrom]
  rw [Keyed.flatMap_of_unique (List.Nodup.of_map Module.path nodup) member, if_pos rfl]
  intro n held other
  apply if_neg
  intro same
  exact other (List.inj_on_of_nodup_map nodup held member same)

theorem arcsFrom_append (ids : List String) (m : Module) (before after : List Import) (i : Import) :
    arcsFrom ids { m with imports := before ++ i :: after } =
      arcsFrom ids { m with imports := before } ++
      ((target? ids m i).toList.map fun target => ⟨m.path, target, .ofImport i⟩) ++
      arcsFrom ids { m with imports := after } := by
  have head : (target? ids { m with imports := before ++ i :: after } i) = target? ids m i := rfl
  simp only [arcsFrom, List.filterMap_append, List.filterMap_cons, head]
  cases target? ids m i with
  | none => simp [target?]
  | some target => simp [target?]

/-- An import without a recorded module makes its one arc when its specifier is a point or begins
with a point or two and a slash, and to what it resolves to among all modules. A specifier that
begins with a point in another way is resolved as relative too, but makes no arc. -/
theorem unrecorded_import_arc (modules : List Module) (schema : Schema) (m : Module)
    (member : m ∈ (build modules schema).modules) (before after : List Import) (i : Import)
    (written : m.imports = before ++ i :: after) (unrecorded : i.resolved = none) :
    (build modules schema).arcs.filter (·.source == m.path) =
      arcsFrom (build modules schema).ids { m with imports := before } ++
      ((if Text.leads "./" i.source ∨ Text.leads "../" i.source ∨ i.source = "." then
        Resolver.resolve { known := modules.map Module.path } m.path i.source
      else none).toList.map fun target => ⟨m.path, target, .ofImport i⟩) ++
      arcsFrom (build modules schema).ids { m with imports := after } := by
  have means : target? (build modules schema).ids m i =
      if Text.leads "./" i.source ∨ Text.leads "../" i.source ∨ i.source = "." then
        Resolver.resolve { known := modules.map Module.path } m.path i.source
      else none := by
    rw [target?_of_unrecorded (by simp [unrecorded]), resolve_ids_build]
    simp only [Import.isRelative, Bool.or_eq_true, beq_iff_eq, or_assoc]
  rw [filter_arcs_build member, ← means, ← arcsFrom_append, ← written]

def themeImport (specifier : String) : Import :=
  ⟨specifier, ["theme"], false, .static, none⟩

def button (specifier : String) : Module where
  path := "lib/ui/button.ts"
  imports := [themeImport specifier]

/-- A button that imports from the directory above it, where an index stands. -/
def buttonModules (specifier : String) : List Module :=
  [{ path := "lib/index.ts" }, button specifier]

theorem slashed_parent_makes_arc :
    button "../" ∈ (build (buttonModules "../") {}).modules ∧
    (build (buttonModules "../") {}).arcs.filter (·.source == "lib/ui/button.ts") =
      [⟨"lib/ui/button.ts", "lib/index.ts", .plain⟩] := by
  have member : button "../" ∈ (build (buttonModules "../") {}).modules :=
    mem_modules_build.mpr rfl
  have found : Resolver.resolve { known := (buttonModules "../").map Module.path }
      (button "../").path (themeImport "../").source = some "lib/index.ts" := by decide +kernel
  have arcs := unrecorded_import_arc (buttonModules "../") {} (button "../") member [] []
    (themeImport "../") rfl rfl
  rw [if_pos (by decide), found] at arcs
  exact ⟨member, arcs⟩

/-- Two points alone resolve to the same index and make no arc. -/
theorem bare_parent_makes_no_arc :
    Text.leads "." ".." ∧
    Resolver.resolve { known := (buttonModules "..").map Module.path } "lib/ui/button.ts" ".." =
      some "lib/index.ts" ∧
    (build (buttonModules "..") {}).arcs = [] := by
  decide +kernel

theorem mem_modules_build_with (member : m ∈ (build (before ++ after) schema).modules)
    (kept : removed.path ∉ before.map Module.path → m.path ≠ removed.path) :
    m ∈ (build (before ++ removed :: after) schema).modules := by
  rw [mem_modules_build, List.find?_append] at member ⊢
  cases earlier : before.find? (·.path = m.path) with
  | some first =>
      rw [earlier] at member
      exact member
  | none =>
      have other : m.path ≠ removed.path := by
        intro same
        refine kept ?_ same
        intro held
        obtain ⟨n, given, path⟩ := List.mem_map.mp held
        have differs := List.find?_eq_none.mp earlier n given
        simp [path, same] at differs
      rw [earlier] at member
      rw [List.find?_cons_of_neg (by simpa using other.symm)]
      exact member

theorem mem_ids_build_with {id : String} :
    id ∈ (build (before ++ removed :: after) schema).ids ↔
      id = removed.path ∨ id ∈ (build (before ++ after) schema).ids := by
  rw [mem_ids_build, mem_ids_build, List.map_append, List.map_append, List.map_cons,
    List.mem_append, List.mem_cons, List.mem_append]
  exact or_left_comm

/-- With one module more a relative specifier still resolves, and if to another, to that one. -/
theorem resolve_with (known : ∀ id, id ∈ larger ↔ id = p ∨ id ∈ ids) (relative : i.isRelative)
    (found : Resolver.resolve { known := ids } m.path i.source = some t) :
    ∃ u ∈ [t, p, Resolver.dropSlashes p],
      Resolver.resolve { known := larger } m.path i.source = some u := by
  rw [Resolver.resolve_of_relative (Import.leads_of_isRelative relative)] at found ⊢
  obtain ⟨base, stands, probed⟩ := Option.bind_eq_some_iff.mp found
  rw [stands, Option.bind_some]
  rcases Resolver.probe_with (s := { known := larger }) known probed with same | moved
  · exact ⟨t, by simp, same⟩
  · refine ⟨_, ?_, moved⟩
    rw [Resolver.answer]
    split <;> simp [*]

/-- An import that means a module still means one with one module more, and if another, that one; it
is then relative, and the first was what its specifier resolved to. -/
theorem target?_with (known : ∀ id, id ∈ larger ↔ id = p ∨ id ∈ ids)
    (means : target? ids m i = some t) :
    target? larger m i = some t ∨
      i.isRelative ∧ Resolver.resolve { known := ids } m.path i.source = some t ∧
        ∃ u ∈ [p, Resolver.dropSlashes p], target? larger m i = some u := by
  rcases target?_eq_some_iff.mp means with ⟨recorded, held⟩ | ⟨unrecorded, relative, found⟩
  · exact Or.inl (target?_of_recorded recorded ((known t).mpr (Or.inr held)))
  · -- The import may be resolved only because the module recorded for it is the one not there.
    by_cases stale : i.resolved = some p
    · exact Or.inr ⟨relative, found, p, by simp,
        target?_of_recorded stale ((known p).mpr (Or.inl rfl))⟩
    · have unknown : ∀ id, i.resolved = some id → id ∉ larger := by
        intro id recorded held
        rcases (known id).mp held with rfl | smaller
        · exact stale recorded
        · exact unrecorded id recorded smaller
      rw [target?_of_unrecorded unknown, if_pos relative]
      obtain ⟨u, member, resolved⟩ := resolve_with known relative found
      rcases List.mem_cons.mp member with rfl | moved
      · exact Or.inl resolved
      · exact Or.inr ⟨relative, found, u, moved, resolved⟩

/-- An arc of the modules left, of a relative import whose arc led to the module removed. -/
def Moved (before after : List Module) (removed : Module) (schema : Schema) (arc : Arc) : Prop :=
  ∃ m ∈ (build (before ++ after) schema).modules, ∃ i ∈ m.imports,
    arc.source = m.path ∧ arc.kind = .ofImport i ∧ i.isRelative ∧
    Resolver.resolve { known := (before ++ after).map Module.path } m.path i.source =
      some arc.target ∧
    ∃ old ∈ [removed.path, Resolver.dropSlashes removed.path],
      Arc.mk m.path old (.ofImport i) ∈ (build (before ++ removed :: after) schema).arcs

/-- A graph without one of its modules has an arc that the whole graph lacks only in two cases: a
relative import that led to the module goes to what its specifier means among those left, or a later
record of the same path counts in its place. -/
theorem arcs_without_module (before after : List Module) (removed : Module) (schema : Schema)
    (arc : Arc) (member : arc ∈ (build (before ++ after) schema).arcs) :
    arc ∈ (build (before ++ removed :: after) schema).arcs ∨
      Moved before after removed schema arc ∨
      (arc.source = removed.path ∧ removed.path ∉ before.map Module.path ∧
        removed.path ∈ after.map Module.path) := by
  obtain ⟨m, held, i, written, means, source, kind⟩ := mem_arcs_build.mp member
  by_cases replaced : removed.path ∉ before.map Module.path ∧ m.path = removed.path
  · have path : m.path ∈ (before ++ after).map Module.path :=
      mem_ids_build.mp (List.mem_map_of_mem held)
    rw [replaced.2, List.map_append, List.mem_append] at path
    exact Or.inr (Or.inr ⟨source.trans replaced.2, replaced.1, path.resolve_left replaced.1⟩)
  · have whole := mem_modules_build_with held (not_and.mp replaced)
    rcases target?_with (fun _ => mem_ids_build_with) means with
      same | ⟨relative, found, old, led, target⟩
    · exact Or.inl (mem_arcs_build.mpr ⟨m, whole, i, written, same, source, kind⟩)
    · rw [resolve_ids_build] at found
      refine Or.inr (Or.inl ⟨m, held, i, written, source, kind, relative, found, old, led, ?_⟩)
      exact mem_arcs_build.mpr ⟨m, whole, i, written, target, rfl, rfl⟩

/-- The imports of the modules carry what a resolver of the files gives for them. -/
def Recorded (r : Resolver) (modules : List Module) : Prop :=
  ∀ m ∈ modules, m.path ∈ r.known ∧ ∀ i ∈ m.imports, i.resolved = r.resolve m.path i.source

instance (r : Resolver) (modules : List Module) : Decidable (Recorded r modules) :=
  List.decidableBAll _ modules

/-- A script, its twin with markup, and a module that imports them by the name they share. -/
def twinModules : List Module :=
  [{ path := "lib/a.ts" }, { path := "lib/a.tsx" },
    { path := "lib/b.ts", imports := [⟨"./a", ["A"], false, .static, some "lib/a.ts"⟩] }]

theorem twin_arc_moves :
    ⟨"lib/b.ts", "lib/a.tsx", .plain⟩ ∈ (build ([] ++ twinModules.tail) {}).arcs ∧
    Moved [] twinModules.tail { path := "lib/a.ts" } {} ⟨"lib/b.ts", "lib/a.tsx", .plain⟩ := by
  have member : ⟨"lib/b.ts", "lib/a.tsx", .plain⟩ ∈ (build ([] ++ twinModules.tail) {}).arcs := by
    decide +kernel
  have absent : ⟨"lib/b.ts", "lib/a.tsx", .plain⟩ ∉ (build twinModules {}).arcs := by
    decide +kernel
  rcases arcs_without_module [] twinModules.tail { path := "lib/a.ts" } {} _ member with
    held | moved | replaced
  · exact absurd held absent
  · exact ⟨member, moved⟩
  · exact absurd replaced.1 (by decide)

/-- Without the script its importer has an arc to the twin, which it has not in the whole graph. -/
theorem removed_twin_adds_arc :
    Recorded { known := ["lib/a.ts", "lib/a.tsx", "lib/b.ts"] } twinModules ∧
    ⟨"lib/b.ts", "lib/a.tsx", .plain⟩ ∈ (build twinModules.tail {}).arcs ∧
    ⟨"lib/b.ts", "lib/a.tsx", .plain⟩ ∉ (build twinModules {}).arcs := by
  decide +kernel

end Graph

end Survey
