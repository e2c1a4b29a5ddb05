import Mathlib.Data.List.Induction
import Survey.Proofs.Graph.Records

/-!
The reverse index of a graph. The pass over the arcs that makes it gathers exactly their sources by
their targets, and the records of components and libraries carry copies of it.
-/
namespace Survey.Graph

variable {g : Graph} {arcs : List Arc} {id : String}

/-- The modules that arcs lead from to a module, in the order of the arcs. -/
def sources (arcs : List Arc) (id : String) : List String :=
  (arcs.filter (·.target == id)).map Arc.source

theorem mem_sources {a : String} :
    a ∈ sources arcs id ↔ ∃ arc ∈ arcs, arc.source = a ∧ arc.target = id := by
  simp only [sources, List.mem_map, List.mem_filter, beq_iff_eq, and_assoc, and_comm]

theorem sources_concat (arcs : List Arc) (arc : Arc) (id : String) : sources (arcs ++ [arc]) id =
    if id = arc.target then sources arcs id ++ [arc.source] else sources arcs id := by
  rw [sources, List.filter_append, List.map_append]
  split
  · next here => simp [sources, here]
  · next other => simp [sources, Ne.symm other]

section Pass

theorem ascending_gathered (arcs : List Arc) :
    Sorted.Ascending Prod.fst (arcs.foldl record []) := by
  induction arcs using List.reverseRecOn with
  | nil => exact List.Pairwise.nil
  | append_singleton arcs arc ih =>
      rw [List.foldl_concat]
      exact Sorted.ascending_change ih _ _ _

/-- The pass over the arcs gathers the sources of each target. -/
theorem lookup_gathered (arcs : List Arc) (id : String) : (arcs.foldl record []).lookup id =
    if sources arcs id = [] then none else some (sources arcs id) := by
  induction arcs using List.reverseRecOn with
  | nil => rfl
  | append_singleton arcs arc ih =>
      rw [List.foldl_concat, record, Sorted.lookup_change (ascending_gathered arcs), sources_concat]
      by_cases here : id = arc.target
      · subst here
        -- A target without sources so far has no entry and starts from none.
        have before : ((arcs.foldl record []).lookup arc.target).getD [] = sources arcs arc.target := by
          rw [ih]
          split
          · next none => rw [none, Option.getD_none]
          · rfl
        simp [before]
      · simp only [here, if_false, ih]

theorem mem_reverseIndex {users : List String} : (id, users) ∈ reverseIndex arcs ↔
    users = Sorted.distinct (sources arcs id) ∧ users ≠ [] := by
  have gathered : ∀ found, (id, found) ∈ arcs.foldl record [] ↔
      sources arcs id ≠ [] ∧ sources arcs id = found := by
    intro found
    rw [← Sorted.lookup_eq_some_iff (ascending_gathered arcs), lookup_gathered,
      Option.ite_none_left_eq_some, Option.some_inj]
  simp only [reverseIndex, List.mem_map, Prod.mk.injEq, Prod.exists, Sorted.eraseReps_sort]
  constructor
  · rintro ⟨_, found, member, rfl, rfl⟩
    obtain ⟨nonempty, rfl⟩ := (gathered found).mp member
    exact ⟨rfl, Sorted.distinct_ne_nil nonempty⟩
  · rintro ⟨rfl, nonempty⟩
    refine ⟨id, _, (gathered _).mpr ⟨?_, rfl⟩, rfl, rfl⟩
    intro none
    exact nonempty (congrArg Sorted.distinct none)

theorem ascending_reverseIndex (arcs : List Arc) :
    Sorted.Ascending Prod.fst (reverseIndex arcs) :=
  List.pairwise_map.mpr (ascending_gathered arcs)

/-- Looking a module up in the index gives the sources of its arcs, and none without an entry. -/
theorem lookup_reverseIndex (arcs : List Arc) (id : String) :
    ((reverseIndex arcs).lookup id).getD [] = Sorted.distinct (sources arcs id) := by
  have entry := fun users => Sorted.lookup_eq_some_iff (k := id) (b := users)
    (ascending_reverseIndex arcs)
  cases found : (reverseIndex arcs).lookup id with
  | some users => exact (mem_reverseIndex.mp ((entry users).mp found)).1
  | none =>
      by_contra other
      have member := mem_reverseIndex.mpr ⟨rfl, Ne.symm other⟩
      simp [(entry _).mpr member] at found

end Pass

namespace Filed

theorem importers_eq (filed : g.Filed) (id : String) :
    g.importers id = Sorted.distinct (sources g.arcs id) := by
  rw [importers, filed.usedBy, lookup_reverseIndex]

theorem mem_importers (filed : g.Filed) {a b : String} :
    a ∈ g.importers b ↔ ∃ arc ∈ g.arcs, arc.source = a ∧ arc.target = b := by
  rw [filed.importers_eq, Sorted.mem_distinct, mem_sources]

theorem importers_ne_nil_iff (filed : g.Filed) :
    g.importers id ≠ [] ↔ id ∈ g.arcs.map Arc.target := by
  constructor
  · intro nonempty
    obtain ⟨a, member⟩ := List.exists_mem_of_ne_nil _ nonempty
    obtain ⟨arc, held, _, target⟩ := filed.mem_importers.mp member
    exact List.mem_map.mpr ⟨arc, held, target⟩
  · intro member
    obtain ⟨arc, held, target⟩ := List.mem_map.mp member
    exact List.ne_nil_of_mem (filed.mem_importers.mpr ⟨arc, held, rfl, target⟩)

theorem mem_usedBy (filed : g.Filed) {users : List String} :
    (id, users) ∈ g.usedBy ↔ users = g.importers id ∧ users ≠ [] := by
  rw [filed.importers_eq, filed.usedBy, mem_reverseIndex]

theorem usedBy_of_mem_components (filed : g.Filed) {c : Component} (member : c ∈ g.components) :
    c.usedBy = g.importers c.file := by
  rw [filed.components] at member
  obtain ⟨m, _, rfl⟩ := List.mem_map.mp member
  rfl

theorem usedBy_of_mem_libraries (filed : g.Filed) {l : Library} (member : l ∈ g.libraries) :
    l.usedBy = g.importers l.file := by
  rw [filed.libraries] at member
  obtain ⟨m, _, rfl⟩ := List.mem_map.mp member
  rfl

end Filed

/-- The arcs of a graph are the imports of its modules that mean one of them. -/
theorem mem_arcs_build {modules : List Module} {schema : Schema} {arc : Arc} :
    arc ∈ (build modules schema).arcs ↔ ∃ m ∈ (build modules schema).modules, ∃ i ∈ m.imports,
      target? (build modules schema).ids m i = some arc.target ∧
        arc.source = m.path ∧ arc.kind = .ofImport i := by
  rw [arcs_build]
  rcases arc with ⟨source, target, kind⟩
  simp only [List.mem_flatMap, arcsFrom, List.mem_filterMap, Option.map_eq_some_iff, Arc.mk.injEq]
  constructor
  · rintro ⟨m, held, i, member, _, means, rfl, rfl, rfl⟩
    exact ⟨m, held, i, member, means, rfl, rfl⟩
  · rintro ⟨m, held, i, member, means, rfl, rfl⟩
    exact ⟨m, held, i, member, target, means, rfl, rfl, rfl⟩

/-- The reverse index of a project's graph is exact: an importer is listed once, in ascending order,
exactly when some import of it means the module, the modules with importers have an entry each and no
other has one, and every record repeats the list of its file. -/
theorem build_reverse_index (modules : List Module) (schema : Schema) :
    let g := build modules schema
    (∀ a b, a ∈ g.importers b ↔ ∃ arc ∈ g.arcs, arc.source = a ∧ arc.target = b) ∧
    (∀ a b, a ∈ g.importers b ↔
      ∃ m ∈ g.modules, m.path = a ∧ ∃ i ∈ m.imports, target? g.ids m i = some b) ∧
    (g.usedBy.map Prod.fst).Pairwise (· < ·) ∧
    (∀ b users, (b, users) ∈ g.usedBy ↔ users = g.importers b ∧ users ≠ []) ∧
    (∀ entry ∈ g.usedBy, entry.2.Pairwise (· < ·) ∧ entry.2 ≠ []) ∧
    (∀ c ∈ g.components, c.usedBy = g.importers c.file) ∧
    ∀ l ∈ g.libraries, l.usedBy = g.importers l.file := by
  intro g
  have filed : g.Filed := filed_build modules schema
  refine ⟨fun a b => filed.mem_importers, ?_, ?_, fun b users => filed.mem_usedBy, ?_,
    fun c => filed.usedBy_of_mem_components, fun l => filed.usedBy_of_mem_libraries⟩
  · intro a b
    rw [filed.mem_importers]
    constructor
    · rintro ⟨arc, member, rfl, rfl⟩
      obtain ⟨m, held, i, written, means, source, _⟩ := mem_arcs_build.mp member
      exact ⟨m, held, source.symm, i, written, means⟩
    · rintro ⟨m, held, rfl, i, written, means⟩
      exact ⟨⟨m.path, b, .ofImport i⟩, mem_arcs_build.mpr ⟨m, held, i, written, means, rfl, rfl⟩,
        rfl, rfl⟩
  · rw [filed.usedBy]
    exact List.pairwise_map.mpr (ascending_reverseIndex g.arcs)
  · rintro ⟨id, users⟩ member
    obtain ⟨same, nonempty⟩ := filed.mem_usedBy.mp member
    rw [filed.importers_eq] at same
    exact ⟨same ▸ Sorted.ascending_distinct _, nonempty⟩

/-- A page that imports a card twice, the card, which imports itself, and a second record of the card
that does not count. -/
def cardModules : List Module :=
  [{ path := "app/page.tsx", roles := [.page]
     imports := [⟨"../components/Card", [], false, .static, none⟩,
       ⟨"@/components/Card", [], true, .static, some "components/Card.tsx"⟩] },
    { path := "components/Card.tsx", roles := [.component]
      imports := [⟨"./Card", [], false, .dynamic, none⟩] },
    { path := "components/Card.tsx", roles := [.library]
      imports := [⟨"../app/page", [], false, .static, none⟩] }]

theorem card_users_ascending :
    ("components/Card.tsx", ["app/page.tsx", "components/Card.tsx"]) ∈
      (build cardModules {}).usedBy ∧
    ["app/page.tsx", "components/Card.tsx"].Pairwise (· < ·) := by
  have member : ("components/Card.tsx", ["app/page.tsx", "components/Card.tsx"]) ∈
      (build cardModules {}).usedBy := by decide +kernel
  exact ⟨member, ((build_reverse_index cardModules {}).2.2.2.2.1 _ member).1⟩

end Survey.Graph
