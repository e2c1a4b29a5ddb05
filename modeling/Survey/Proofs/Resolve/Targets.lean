import Survey.Proofs.Project.Path
import Survey.Proofs.Resolve.Options
import Survey.Proofs.Resolve.Table

/-!
Targets of aliases as an option file states them. Below a base directory inside the project each
target is joined to the base as it is written, and those that leave the project are left out. A base
directory outside the project is passed over, and the targets are taken from the root in its place.
-/
namespace Survey.AliasTable

open Survey.Json.Lenient
open Survey.Path (Stays normalize? segments)

variable {text base inner : String} {o : Options}

def optionsOf? (text : String) : Option (Option Options) :=
  (Json.parse? (String.ofList (dropLastCommas (stripComments text.toList)))).bind options?

theorem parse?_of_options (read : optionsOf? text = some (some o)) :
    parse? text = some (ofOptions o) := by
  obtain ⟨j, found, stated⟩ := Option.bind_eq_some_iff.mp read
  rw [parse?, found, Option.bind_some, ofJson?_eq, stated]
  rfl

theorem ofOptions_eq (o : Options) :
    ofOptions o = ofAliases (o.baseUrl.bind (normalize? "")) (o.paths.map fun pair =>
      (pair.1, pair.2.filterMap (normalize? ((o.baseUrl.bind (normalize? "")).getD "")))) := by
  rw [ofAliases, List.foldl_map]
  rfl

/-- Options give their aliases, with the targets joined to what the base directory comes to. -/
theorem ofOptions_of_base {dir : Option String} (based : o.baseUrl.bind (normalize? "") = dir) :
    (ofOptions o).baseUrl = dir ∧ (ofOptions o).entries.Perm (o.paths.map fun pair =>
      .ofPattern pair.1 (pair.2.filterMap (normalize? (dir.getD "")))) := by
  subst based
  rw [ofOptions_eq]
  refine ⟨baseUrl_ofAliases _ _, ?_⟩
  have entries := perm_ofAliases (o.baseUrl.bind (normalize? "")) (o.paths.map fun pair =>
    (pair.1, pair.2.filterMap (normalize? ((o.baseUrl.bind (normalize? "")).getD ""))))
  rwa [List.map_map] at entries

theorem ofOptions_single (base : Option String) (pattern : String) (targets : List String) :
    ofOptions ⟨base, [(pattern, targets)]⟩ = ⟨base.bind (normalize? ""),
      [.ofPattern pattern (targets.filterMap (normalize? ((base.bind (normalize? "")).getD "")))]⟩ := by
  simp [ofOptions, insert]

theorem normalize?_root_eq_none_iff : normalize? "" base = none ↔ ¬ Stays (segments base) := by
  rw [Path.normalize?_eq_standing, Path.segments_empty, List.nil_append]
  by_cases stays : Stays (segments base) <;> simp [stays]

theorem filterMap_of_inner (joined : normalize? "" base = some inner) (targets : List String) :
    targets.filterMap (normalize? inner) =
      targets.filterMap fun target => normalize? "" (base ++ "/" ++ target) := by
  refine List.filterMap_congr fun target _ => ?_
  rw [Path.normalize?_slash, joined, Option.bind_some]

/-- The targets stored for an option file with a base. When the base stays inside the project they
are the joins of base and target that do so too. When it does not, no such join does, and the targets
stored are those that stay inside without the base. -/
theorem targets_joined_to_inner_base (text base : String) (o : Options)
    (read : optionsOf? text = some (some o)) (based : o.baseUrl = some base) :
    ∃ t, parse? text = some t ∧
      (Stays (segments base) →
        t.baseUrl = normalize? "" base ∧
        t.entries.Perm (o.paths.map fun pair => .ofPattern pair.1
          (pair.2.filterMap fun target => normalize? "" (base ++ "/" ++ target)))) ∧
      (¬ Stays (segments base) →
        (∀ target, normalize? "" (base ++ "/" ++ target) = none) ∧ t.baseUrl = none ∧
        t.entries.Perm (o.paths.map fun pair => .ofPattern pair.1
          (pair.2.filterMap fun target => normalize? "" target))) := by
  refine ⟨ofOptions o, parse?_of_options read, ?_, ?_⟩
  · intro stays
    obtain ⟨inner, joined⟩ := Option.ne_none_iff_exists'.mp
      (mt normalize?_root_eq_none_iff.mp (not_not.mpr stays))
    have table := @ofOptions_of_base o (some inner) (by rw [based, Option.bind_some, joined])
    simp only [Option.getD_some, filterMap_of_inner joined] at table
    rw [joined]
    exact table
  · intro leaves
    have lost := normalize?_root_eq_none_iff.mpr leaves
    have table := @ofOptions_of_base o none (by rw [based, Option.bind_some, lost])
    refine ⟨?_, table.1, table.2⟩
    intro target
    rw [Path.normalize?_slash, lost, Option.bind_none]

def innerOptions : String :=
  "\x7b\"compilerOptions\": \x7b\"baseUrl\": \"web/.\", " ++
    "\"paths\": \x7b\"@/*\": [\"./src/*\", \"../../out/*\", \"../lib/*\"]\x7d\x7d\x7d"

theorem innerOptions_joined_to_base :
    Stays (segments "web/.") ∧
    ∃ t, parse? innerOptions = some t ∧ t.baseUrl = some "web" ∧
      t.entries = [⟨"@/", true, ["web/src/*", "lib/*"]⟩] := by
  have stays : Stays (segments "web/.") := by decide +kernel
  have read : optionsOf? innerOptions =
      some (some ⟨some "web/.", [("@/*", ["./src/*", "../../out/*", "../lib/*"])]⟩) := by
    decide +kernel
  obtain ⟨t, found, inside, _⟩ := targets_joined_to_inner_base innerOptions "web/." _ read rfl
  obtain ⟨base, entries⟩ := inside stays
  refine ⟨stays, t, found, base.trans (by decide +kernel), ?_⟩
  rw [List.perm_singleton.mp entries]
  decide +kernel

def outerOptions : String :=
  "\x7b\"compilerOptions\": \x7b\"baseUrl\": \"../shared\", " ++
    "\"paths\": \x7b\"@/*\": [\"lib/*\"]\x7d\x7d\x7d"

/-- The target outside the project is stored as one inside, and answers for a module there. -/
theorem outerOptions_taken_from_root :
    optionsOf? outerOptions = some (some ⟨some "../shared", [("@/*", ["lib/*"])]⟩) ∧
    normalize? "" ("../shared" ++ "/" ++ "lib/*") = none ∧
    ∃ t, parse? outerOptions = some t ∧ t.entries = [⟨"@/", true, ["lib/*"]⟩] ∧
      Resolver.resolve ⟨["lib/db.ts"], t⟩ "app.ts" "@/db" = some "lib/db.ts" := by
  have read : optionsOf? outerOptions =
      some (some ⟨some "../shared", [("@/*", ["lib/*"])]⟩) := by decide +kernel
  refine ⟨read, by decide +kernel, ⟨none, [⟨"@/", true, ["lib/*"]⟩]⟩, ?_, rfl, by decide +kernel⟩
  rw [parse?_of_options read, ofOptions_single]
  decide +kernel

end Survey.AliasTable
