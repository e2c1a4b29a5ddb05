import Survey.Graph.Build
import Survey.Proofs.Keyed
import Survey.Proofs.Sorted

/-!
The modules of a project's graph and its records. One pass adds the modules and files a record of each
under its roles. Each path has one module, the first record given for it, so that a record of a role
is the one found under its file.
-/
namespace Survey.Graph

variable {g : Graph} {modules : List Module} {schema : Schema}

theorem append_filter_cons {α : Type} (p : Module → Bool) (record : Module → α) (m : Module)
    (rest : List Module) (records : List α) :
    (if p m then records ++ [record m] else records) ++ (rest.filter p).map record =
      records ++ ((m :: rest).filter p).map record := by
  rw [List.filter_cons]
  split
  · rw [List.map_cons, List.append_assoc, List.singleton_append]
  · rfl

/-- What the modules of a list add to a graph. -/
theorem foldl_add (index : List (String × List String)) (added : List Module) (g : Graph) :
    added.foldl (add index) g =
      { g with
        modules := g.modules ++ added
        pages := g.pages ++ (added.filter (·.has .page)).map .ofModule
        routes := g.routes ++ (added.filter (·.has .routeHandler)).map .ofModule
        components := g.components ++ (added.filter fun m => m.has .component || m.has .hook).map
          fun m => .ofModule m ((index.lookup m.path).getD [])
        libraries := g.libraries ++ (added.filter (·.has .library)).map
          fun m => .ofModule m ((index.lookup m.path).getD []) } := by
  induction added generalizing g with
  | nil => simp only [List.foldl_nil, List.filter_nil, List.map_nil, List.append_nil]
  | cons m added ih =>
      rw [List.foldl_cons, ih]
      simp only [add, ← append_filter_cons, List.append_assoc, List.singleton_append]

/-- The index and the records of a graph are those of its modules and arcs. -/
structure Filed (g : Graph) : Prop where
  usedBy : g.usedBy = reverseIndex g.arcs
  pages : g.pages = (g.modules.filter (·.has .page)).map .ofModule
  routes : g.routes = (g.modules.filter (·.has .routeHandler)).map .ofModule
  components : g.components = (g.modules.filter fun m => m.has .component || m.has .hook).map
    fun m => .ofModule m (g.importers m.path)
  libraries : g.libraries = (g.modules.filter (·.has .library)).map
    fun m => .ofModule m (g.importers m.path)

theorem modules_build (modules : List Module) (schema : Schema) :
    (build modules schema).modules = Sorted.ofList Module.path modules := by
  simp only [build, foldl_add, List.nil_append]

theorem arcs_build (modules : List Module) (schema : Schema) : (build modules schema).arcs =
    (build modules schema).modules.flatMap (arcsFrom (build modules schema).ids) := by
  simp only [ids, modules_build]
  simp only [build, foldl_add]

theorem filed_build (modules : List Module) (schema : Schema) : (build modules schema).Filed := by
  constructor <;> simp only [build, foldl_add, List.nil_append, importers]

theorem ascending_ids_build (modules : List Module) (schema : Schema) :
    (build modules schema).ids.Pairwise (· < ·) := by
  rw [ids, modules_build]
  exact List.pairwise_map.mpr (Sorted.ascending_ofList Module.path modules)

theorem nodup_ids_build (modules : List Module) (schema : Schema) :
    (build modules schema).ids.Nodup :=
  Sorted.nodup_of_ascending (ascending_ids_build modules schema)

theorem mem_ids_build {id : String} :
    id ∈ (build modules schema).ids ↔ id ∈ modules.map Module.path := by
  rw [ids, modules_build]
  exact Sorted.mem_map_key_ofList

/-- The modules of a graph are the first records of their paths. -/
theorem mem_modules_build {m : Module} :
    m ∈ (build modules schema).modules ↔ modules.find? (·.path = m.path) = some m := by
  rw [modules_build]
  exact Sorted.mem_ofList_iff

theorem mem_modules_build_of_nodup (nodup : (modules.map Module.path).Nodup) {m : Module} :
    m ∈ (build modules schema).modules ↔ m ∈ modules :=
  mem_modules_build.trans ((Keyed.find?_eq_some_iff nodup).trans (and_iff_left rfl))

theorem file_of_library? {id : String} {l : Library} (found : g.library? id = some l) :
    l.file = id := by
  have matched := List.find?_some found
  exact eq_of_beq matched

section FirstRecords

variable {others : List Module}

/-- Two lists have the same paths, and every path has the same first record in both. -/
structure SameFirst (modules others : List Module) : Prop where
  paths : ∀ path, path ∈ modules.map Module.path ↔ path ∈ others.map Module.path
  first : ∀ path ∈ modules.map Module.path,
    modules.find? (·.path == path) = others.find? (·.path == path)

theorem SameFirst.find? (same : SameFirst modules others) (path : String) :
    modules.find? (·.path == path) = others.find? (·.path == path) := by
  by_cases listed : path ∈ modules.map Module.path
  · exact same.first path listed
  · have unlisted : path ∉ others.map Module.path := mt (same.paths path).mpr listed
    rw [Keyed.find?_eq_none listed, Keyed.find?_eq_none unlisted]

theorem sameFirst_of_perm (perm : modules.Perm others) (nodup : (modules.map Module.path).Nodup) :
    SameFirst modules others where
  paths _ := (perm.map Module.path).mem_iff
  first path _ := Keyed.find?_perm perm nodup path

theorem SameFirst.build_eq (same : SameFirst modules others) (schema : Schema) :
    build modules schema = build others schema := by
  have kept : Sorted.ofList Module.path modules = Sorted.ofList Module.path others :=
    Sorted.ofList_congr same.find?
  simp only [build, kept]

/-- A graph comes out the same, with the order of its modules, arcs and records, from every list that
has the same first record for every path, so from every order of modules with distinct paths. -/
theorem build_of_first_records (modules others : List Module) (schema : Schema) :
    (SameFirst modules others → build modules schema = build others schema) ∧
      (modules.Perm others → (modules.map Module.path).Nodup →
        build modules schema = build others schema) := by
  constructor
  · intro same
    exact same.build_eq schema
  · intro perm nodup
    exact (sameFirst_of_perm perm nodup).build_eq schema

/-- A form, a page that imports it, and a second record of the form that does not count. -/
def formModules : List Module :=
  [{ path := "ui/form.tsx", roles := [.component] },
    { path := "app/page.tsx", roles := [.page], imports := [⟨"../ui/form", [], false, .static, none⟩] },
    { path := "ui/form.tsx", roles := [.library]
      imports := [⟨"../app/page", [], false, .dynamic, none⟩] }]

/-- The same with the page in front and again at the end; the records of the form keep their order. -/
def formReordered : List Module :=
  [1, 0, 2, 1].filterMap (formModules[·]?)

theorem formReordered_builds_alike :
    SameFirst formModules formReordered ∧ build formModules {} = build formReordered {} := by
  have same : SameFirst formModules formReordered := by
    constructor
    · intro path
      simp [formReordered, formModules]
      tauto
    · simp [formReordered, formModules]
  exact ⟨same, (build_of_first_records formModules formReordered {}).1 same⟩

end FirstRecords

end Survey.Graph
