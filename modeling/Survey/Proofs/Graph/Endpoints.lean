import Mathlib.Data.List.Forall2
import Survey.Proofs.Graph.Targets

/-!
The ends and kinds of arcs. Where no path begins with a slash every arc joins two modules of its
graph, whether its target was recorded or is found by the specifier, and the arcs that leave a module
come one by one from its imports.
-/
namespace Survey

/-- The kind of the arc that an import makes when it is not for types only. -/
def ImportKind.arcKind : ImportKind → ArcKind
  | .static => .plain
  | .reExport => .reExport
  | .dynamic => .dynamic

namespace Graph

variable {m : Module} {i : Import} {ids : List String} {t : String}

theorem mem_of_target? (rooted : ∀ id ∈ ids, ¬ Text.leads "/" id)
    (means : target? ids m i = some t) : t ∈ ids := by
  rcases target?_eq_some_iff.mp means with ⟨_, held⟩ | ⟨_, _, found⟩
  · exact held
  · exact Resolver.mem_known_of_resolve (r := { known := ids }) rooted found

/-- An arc is the one that an import of a module makes in a graph. -/
structure Makes (g : Graph) (m : Module) (i : Import) (arc : Arc) : Prop where
  source : arc.source = m.path
  target : target? g.ids m i = some arc.target
  typeOnly : arc.kind = .typeOnly ↔ i.typeOnly
  otherwise : ¬ i.typeOnly → arc.kind = i.kind.arcKind

theorem makes_of_target? {g : Graph} (means : target? g.ids m i = some t) :
    Makes g m i ⟨m.path, t, .ofImport i⟩ := by
  refine ⟨rfl, means, ?_, ?_⟩
  · unfold ArcKind.ofImport
    cases i.typeOnly <;> cases i.kind <;> simp
  · intro other
    unfold ArcKind.ofImport
    rw [if_neg other]
    cases i.kind <;> rfl

theorem forall₂_arcsFrom (g : Graph) (m : Module) (imports : List Import) :
    List.Forall₂ (Makes g m) (imports.filter fun i => (target? g.ids m i).isSome)
      (arcsFrom g.ids { m with imports }) := by
  induction imports with
  | nil => exact List.Forall₂.nil
  | cons i imports ih =>
      rw [← List.nil_append (i :: imports), arcsFrom_append]
      cases means : target? g.ids m i with
      | none => simpa [means, arcsFrom] using ih
      | some t => simpa [means, arcsFrom] using ⟨makes_of_target? means, ih⟩

/-- Where no path begins with a slash, both ends of every arc are modules of the graph; the arcs that
leave a module come in order from those of its imports that mean a module, one from each. -/
theorem arcs_join_modules (modules : List Module) (schema : Schema)
    (rooted : ∀ m ∈ modules, ¬ Text.leads "/" m.path) :
    let g := build modules schema
    (∀ arc ∈ g.arcs, arc.source ∈ g.ids ∧ arc.target ∈ g.ids) ∧
    ∀ m ∈ g.modules, List.Forall₂ (Makes g m)
      (m.imports.filter fun i => (target? g.ids m i).isSome)
      (g.arcs.filter (·.source == m.path)) := by
  intro g
  constructor
  · intro arc member
    obtain ⟨m, held, i, _, means, source, _⟩ := mem_arcs_build.mp member
    refine ⟨source ▸ List.mem_map_of_mem held, mem_of_target? ?_ means⟩
    intro id listed
    obtain ⟨n, given, rfl⟩ := List.mem_map.mp (mem_ids_build.mp listed)
    exact rooted n given
  · intro m held
    rw [filter_arcs_build held]
    exact forall₂_arcsFrom g m m.imports

/-- A checkout that imports a cart whose recorded module is gone, a package, types that it passes on,
and itself. -/
def checkout : Module where
  path := "app/checkout.tsx"
  imports := [⟨"../lib/cart", ["total"], false, .static, some "lib/gone.ts"⟩,
    ⟨"react", ["useState"], false, .static, none⟩,
    ⟨"@/lib/types", ["Item"], true, .reExport, some "lib/types.ts"⟩,
    ⟨"./checkout", [], false, .dynamic, none⟩]

def checkoutModules : List Module :=
  [checkout, { path := "lib/types.ts" }, { path := "lib/cart/index.ts" }]

theorem checkout_arcs_follow_imports :
    (∀ m ∈ checkoutModules, ¬ Text.leads "/" m.path) ∧
    checkout ∈ (build checkoutModules {}).modules ∧
    List.Forall₂ (Makes (build checkoutModules {}) checkout) ([0, 2, 3].filterMap (checkout.imports[·]?))
      [⟨"app/checkout.tsx", "lib/cart/index.ts", .plain⟩, ⟨"app/checkout.tsx", "lib/types.ts", .typeOnly⟩,
        ⟨"app/checkout.tsx", "app/checkout.tsx", .dynamic⟩] := by
  have rooted : ∀ m ∈ checkoutModules, ¬ Text.leads "/" m.path := by decide
  have member : checkout ∈ (build checkoutModules {}).modules := mem_modules_build.mpr rfl
  have follow := (arcs_join_modules checkoutModules {} rooted).2 checkout member
  have made : (checkout.imports.filter fun i =>
      (target? (build checkoutModules {}).ids checkout i).isSome) =
        [0, 2, 3].filterMap (checkout.imports[·]?) := by decide +kernel
  have arcs : (build checkoutModules {}).arcs.filter (·.source == checkout.path) =
      [⟨"app/checkout.tsx", "lib/cart/index.ts", .plain⟩,
        ⟨"app/checkout.tsx", "lib/types.ts", .typeOnly⟩,
        ⟨"app/checkout.tsx", "app/checkout.tsx", .dynamic⟩] := by decide +kernel
  rw [made, arcs] at follow
  exact ⟨rooted, member, follow⟩

/-- A path that begins with a slash can be found and loses the slash, and then names no module. -/
example : (build [{ path := "/index.ts" },
    { path := "main.ts", imports := [⟨"./", [], false, .static, none⟩] }] {}).arcs =
      [⟨"main.ts", "index.ts", .plain⟩] := by
  decide +kernel

end Graph

end Survey
