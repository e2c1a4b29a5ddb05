import Mathlib.Data.List.Chain
import Mathlib.Data.List.Induction
import Survey.Proofs.Graph.Records
import Survey.Proofs.Inspection.Reach

/-!
Which variables of the server are reported to reach a browser through libraries. There is one
warning for a client component and a variable exactly when some walk of imports through libraries
ends at one that reads the variable, and the library named ends a shortest such walk.
-/
namespace Survey.Exposure

variable {g : Graph} {file : String} {l : Library} {walk : List Library}

section Walks

variable (nodup : (g.libraries.map Library.file).Nodup)

include nodup

end Walks

/-- The warnings in a file that variables reach a browser through libraries. -/
def warnsIn (file : String) (f : Finding) : Bool :=
  f.title == "Server env var reachable from client" && f.file == some file

@[simp] theorem warnsIn_unguarded (r : Route) : warnsIn file (unguarded r) = false := by
  simp [warnsIn, unguarded]

theorem title_dangerous_ne {title : String} (other : title.toList.head? ≠ some 'D') (m : Module)
    (pattern : String) : (dangerous m pattern).title ≠ title := by
  rintro rfl
  exact other (by simp [dangerous])

@[simp] theorem warnsIn_dangerous (m : Module) (pattern : String) :
    warnsIn file (dangerous m pattern) = false := by
  have titles := title_dangerous_ne (by decide : "Server env var reachable from client".toList.head? ≠ _)
    m pattern
  simp [warnsIn, titles]

@[simp] theorem warnsIn_readInside (s : Settings) (c : Component) (v : String) :
    warnsIn file (readInside s c v) = false := by
  simp [warnsIn, readInside]

@[simp] theorem warnsIn_readThrough (c : Component) (library v : String) :
    warnsIn file (readThrough c library v) = (c.file == file) := by
  simp [warnsIn, readThrough]

theorem filter_ofComponent (s : Settings) (c : Component) :
    (ofComponent g s c).filter (warnsIn file) =
      if c.file = file then (leaks g s c).map fun leak => readThrough c leak.1 leak.2 else [] := by
  have inside : ((c.envVars.filter fun v => !s.isPublicEnv v).map (readInside s c)).filter
      (warnsIn file) = [] := by
    rw [List.filter_map]
    simp [Function.comp_def]
  rw [ofComponent, List.filter_append, inside, List.nil_append, List.filter_map, Function.comp_def]
  by_cases same : c.file = file <;> simp [same]

/-- The warnings in the file of a client component are those for its own leaks. -/
theorem filter_findings (files : (g.components.map Component.file).Nodup) (s : Settings)
    {c : Component} (member : c ∈ g.components) (client : c.renderKind = .client) :
    (inspector.findings g s).filter (warnsIn c.file) =
      (leaks g s c).map fun leak => readThrough c leak.1 leak.2 := by
  have routes : ((g.routes.filter isUnguarded).map unguarded).filter (warnsIn c.file) = [] := by
    rw [List.filter_map]
    simp [Function.comp_def]
  have constructs : ((g.modules.filter fun m => m.has .routeHandler || m.has .library).flatMap
      fun m => m.dangerousPatterns.map (dangerous m)).filter (warnsIn c.file) = [] := by
    simp [List.filter_flatMap, List.filter_map, Function.comp_def]
  have clients : (g.components.filter (·.renderKind == .client)).Nodup := files.of_map.filter _
  have here : c ∈ g.components.filter (·.renderKind == .client) :=
    List.mem_filter.mpr ⟨member, beq_iff_eq.mpr client⟩
  change List.filter _ (_ ++ _ ++ _) = _
  rw [List.filter_append, List.filter_append, routes, constructs, List.filter_flatMap,
    List.nil_append, List.append_nil, Keyed.flatMap_of_unique clients here, filter_ofComponent,
    if_pos rfl]
  intro d held other
  rw [filter_ofComponent, if_neg]
  intro same
  exact other (List.inj_on_of_nodup_map files (List.mem_of_mem_filter held) member same)

end Survey.Exposure
