import Survey.Proofs.Graph.Records

/-!
The records of a graph by role. A module stands in the collection of each of its roles, and in each
collection a file stands once, in ascending order; the kind of a module is the first of its roles.
-/
namespace Survey

namespace Role

variable {roles : List Role} {r : Role}

/-- The place of a role in the order of precedence. -/
def rank : Role → Nat
  | .page => 0
  | .routeHandler => 1
  | .hook => 2
  | .component => 3
  | .library => 4

/-- A role is the first of a set, or that of a library where the set is empty. -/
def First (roles : List Role) (r : Role) : Prop :=
  (r ∈ roles ∧ ∀ q ∈ roles, r.rank ≤ q.rank) ∨ (roles = [] ∧ r = .library)

theorem rank_injective {q : Role} (same : q.rank = r.rank) : q = r := by
  cases q <;> cases r <;> simp_all [rank]

theorem First.unique {q : Role} (hr : First roles r) (hq : First roles q) : r = q := by
  rcases hr with ⟨member, least⟩ | ⟨rfl, rfl⟩
  · rcases hq with ⟨held, below⟩ | ⟨rfl, rfl⟩
    · exact rank_injective (Nat.le_antisymm (least q held) (below r member))
    · cases member
  · rcases hq with ⟨held, _⟩ | ⟨_, rfl⟩
    · cases held
    · rfl

theorem mem_all (r : Role) : r ∈ all := by
  cases r <;> decide

theorem ascending_all : all.Pairwise fun q r => q.rank < r.rank := by
  decide

/-- The primary role of a set is its first. -/
theorem first_primary (roles : List Role) : First roles (primary roles) := by
  unfold primary
  cases found : all.find? roles.contains with
  | none =>
      refine Or.inr ⟨?_, rfl⟩
      apply List.eq_nil_iff_forall_not_mem.mpr
      intro r member
      exact List.find?_eq_none.mp found r (mem_all r) (List.contains_iff_mem.mpr member)
  | some r =>
      obtain ⟨held, before, after, split, missing⟩ := List.find?_eq_some_iff_append.mp found
      refine Or.inl ⟨List.contains_iff_mem.mp held, ?_⟩
      intro q member
      -- The roles of lower rank were passed over, so none of them is in the set.
      have order := ascending_all
      have place := mem_all q
      rw [split] at order place
      rcases List.mem_append.mp place with passed | later
      · have absent := missing q passed
        simp [member] at absent
      · rcases List.mem_cons.mp later with rfl | above
        · exact Nat.le_refl _
        · exact Nat.le_of_lt ((List.pairwise_cons.mp (List.pairwise_append.mp order).2.1).1 q above)

theorem primary_eq_iff : primary roles = r ↔ First roles r := by
  constructor
  · rintro rfl
    exact first_primary roles
  · exact (first_primary roles).unique

end Role

theorem Module.has_iff {m : Module} {r : Role} : m.has r ↔ r ∈ m.roles := by
  rw [Module.has, List.contains_iff_mem]

namespace Graph

variable {g : Graph} {modules : List Module} {schema : Schema}

theorem module?_eq_some_iff (nodup : g.ids.Nodup) {id : String} {m : Module} :
    g.module? id = some m ↔ m ∈ g.modules ∧ m.path = id :=
  Keyed.find?_eq_some_iff nodup

/-- The module of a path is the first record given for it. -/
theorem module?_build (id : String) :
    (build modules schema).module? id = modules.find? (·.path == id) := by
  apply Option.ext
  intro m
  rw [module?_eq_some_iff (nodup_ids_build modules schema), mem_modules_build]
  constructor
  · rintro ⟨first, rfl⟩
    exact first
  · intro first
    have matched := List.find?_some first
    obtain rfl : m.path = id := eq_of_beq matched
    exact ⟨first, rfl⟩

/-- The files of a collection: those of the modules with a property, each once and ascending. -/
structure Collects (g : Graph) (files : List String) (p : Module → Prop) : Prop where
  ascending : files.Pairwise (· < ·)
  mem_iff : ∀ file, file ∈ files ↔ ∃ m, g.module? file = some m ∧ p m

theorem collects_records {α : Type} {file : α → String} {record : Module → α} {q : Module → Bool}
    {p : Module → Prop} (ordered : g.ids.Pairwise (· < ·)) (named : ∀ m, file (record m) = m.path)
    (same : ∀ m, q m ↔ p m) : Collects g (((g.modules.filter q).map record).map file) p := by
  have files : ((g.modules.filter q).map record).map file = (g.modules.filter q).map Module.path := by
    rw [List.map_map]
    exact List.map_congr_left fun m _ => named m
  rw [files]
  constructor
  · exact ordered.sublist (List.filter_sublist.map Module.path)
  · intro path
    simp only [List.mem_map, List.mem_filter, same,
      module?_eq_some_iff (Sorted.nodup_of_ascending ordered)]
    constructor
    · rintro ⟨m, ⟨member, holds⟩, rfl⟩
      exact ⟨m, ⟨member, rfl⟩, holds⟩
    · rintro ⟨m, ⟨member, rfl⟩, holds⟩
      exact ⟨m, ⟨member, holds⟩, rfl⟩

/-- The ids of a graph are the paths given, with the first record of each; every collection holds
exactly the files whose module has its role, and the kind of a module is the first of its roles. -/
theorem records_collect_roles (modules : List Module) (schema : Schema) :
    let g := build modules schema
    (∀ id, id ∈ g.ids ↔ ∃ m ∈ modules, m.path = id) ∧
    (∀ id, g.module? id = modules.find? (·.path == id)) ∧
    Collects g (g.pages.map Page.file) (Role.page ∈ ·.roles) ∧
    Collects g (g.routes.map Route.file) (Role.routeHandler ∈ ·.roles) ∧
    Collects g (g.components.map Component.file)
      (fun m => Role.component ∈ m.roles ∨ Role.hook ∈ m.roles) ∧
    Collects g (g.libraries.map Library.file) (Role.library ∈ ·.roles) ∧
    ∀ m ∈ g.modules, ∀ r, Role.primary m.roles = r ↔ Role.First m.roles r := by
  intro g
  have ordered := ascending_ids_build modules schema
  have filed : g.Filed := filed_build modules schema
  refine ⟨?_, module?_build, ?_, ?_, ?_, ?_, fun _ _ _ => Role.primary_eq_iff⟩
  · intro id
    rw [mem_ids_build, List.mem_map]
  · rw [filed.pages]
    exact collects_records ordered (fun _ => rfl) fun _ => Module.has_iff
  · rw [filed.routes]
    exact collects_records ordered (fun _ => rfl) fun _ => Module.has_iff
  · rw [filed.components]
    refine collects_records ordered (fun _ => rfl) ?_
    intro m
    rw [Bool.or_eq_true, Module.has_iff, Module.has_iff]
  · rw [filed.libraries]
    exact collects_records ordered (fun _ => rfl) fun _ => Module.has_iff

def drawer : Module where
  path := "ui/useDrawer.tsx"
  roles := [.hook, .component]

/-- The drawer beside a module without roles and a page, and a later record that calls the drawer a
library. -/
def drawerModules : List Module :=
  [{ path := "pages/_app.tsx" }, drawer, { path := "pages/index.tsx", roles := [.page, .component] },
    { path := "ui/useDrawer.tsx", roles := [.library] }]

theorem drawer_collected_as_hook :
    drawer ∈ (build drawerModules {}).modules ∧ Role.First drawer.roles .hook ∧
    "ui/useDrawer.tsx" ∈ (build drawerModules {}).components.map Component.file ∧
    "ui/useDrawer.tsx" ∉ (build drawerModules {}).libraries.map Library.file := by
  have member : drawer ∈ (build drawerModules {}).modules := mem_modules_build.mpr rfl
  obtain ⟨_, found, _, _, components, libraries, kinds⟩ := records_collect_roles drawerModules {}
  have only : (build drawerModules {}).module? "ui/useDrawer.tsx" = some drawer := found _
  refine ⟨member, (kinds drawer member .hook).mp rfl, ?_, ?_⟩
  · exact (components.mem_iff _).mpr ⟨drawer, only, by decide⟩
  · intro listed
    obtain ⟨m, again, held⟩ := (libraries.mem_iff _).mp listed
    obtain rfl : drawer = m := Option.some.inj (only.symm.trans again)
    exact absurd held (by decide)

end Graph

end Survey
