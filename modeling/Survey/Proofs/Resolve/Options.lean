import Survey.Proofs.Json.Lenient
import Survey.Resolve.Aliases

/-!
Option files and the alias tables they give. A file that is JSON as it stands gives the table of its
value, unless a string in it has a comma before a closing bracket.
-/
namespace Survey.AliasTable

open Survey.Text (Quoting)
open Survey.Json.Lenient

def options? (j : Json) : Option (Option Options) := do
  let r ← Record.ofJson? ["compilerOptions"] j
  r.withDefault "compilerOptions" none (Json.optional? Options.ofJson?)

theorem ofJson?_eq (j : Json) :
    ofJson? j = (options? j).map fun options => (options.map ofOptions).getD {} := by
  unfold ofJson? options?
  cases Record.ofJson? ["compilerOptions"] j with
  | none => rfl
  | some r => exact Option.map_eq_bind.symm

theorem entries_ofOptions (pattern : String) (targets : List String) :
    (ofOptions ⟨none, [(pattern, targets)]⟩).entries =
      [Alias.ofPattern pattern (targets.filterMap (Path.normalize? ""))] := by
  simp [ofOptions, insert]

/-- A strict text has no comments to take out. What is read from it is its value less the commas in
strings that a closing bracket follows, and just its value where no string has such a comma. -/
theorem table_of_strict_text (text : String) (j : Json) (strict : Json.parse? text = some j) :
    stripComments text.toList = text.toList ∧
      (∃ n j', Thins n (.value j) (.value j') ∧ parse? text = ofJson? j' ∧
        (j' = j ↔ Quoting.outside.Places IsLastComma (· = .outside) text.toList)) ∧
      (Quoting.outside.Places IsLastComma (· = .outside) text.toList →
        parse? text = (Json.parse? text).bind ofJson?) := by
  have quoted := strict_of_parse? strict
  have uncommented : stripComments text.toList = text.toList := by
    apply stripComments_eq_self
    exact fun front c back split comment => quoted front c back split (.inl comment.1)
  have commas : Quoting.outside.Places IsLastComma (· ≠ .outside) text.toList :=
    fun front c back split last => quoted front c back split (.inr last)
  obtain ⟨n, j', thins, read, counted⟩ := exists_thinned strict
  have table : parse? text = ofJson? j' := by
    rw [parse?, uncommented, read]
    rfl
  have same : Quoting.outside.Places IsLastComma (· = .outside) text.toList → j' = j := by
    intro plain
    rw [dropLastCommas_eq_self plain commas, String.ofList_toList, strict] at read
    exact (Option.some.inj read).symm
  refine ⟨uncommented, ⟨n, j', thins, table, ?_, same⟩, ?_⟩
  · intro unchanged
    have none := thins.eq_zero (congrArg Json.Part.value unchanged)
    exact places_of_length_eq (by omega)
  · intro plain
    rw [table, strict, same plain]
    rfl

/-- A base and an alias with what looks like comments, and with commas before other characters. -/
def webOptions : String :=
  "\x7b\"compilerOptions\": \x7b\"baseUrl\": \"a//b,\\\"]\", " ++
    "\"paths\": \x7b\"/*,\": [\"lib/*\"]\x7d\x7d\x7d"

theorem webOptions_read_alike :
    ∃ j, Json.parse? webOptions = some j ∧ parse? webOptions = ofJson? j := by
  have read : (Json.parse? webOptions).isSome := by decide +kernel
  obtain ⟨j, strict⟩ := Option.isSome_iff_exists.mp read
  have table := (table_of_strict_text webOptions j strict).2.2 (by decide +kernel)
  rw [strict] at table
  exact ⟨j, strict, table⟩

/-- An alias with a comma and a closing bracket. -/
def iconOptions : String :=
  "\x7b\"compilerOptions\": \x7b\"paths\": \x7b\"~icons,]\": [\"ui/icons.ts\"]\x7d\x7d\x7d"

theorem iconOptions_loses_comma :
    ¬ ∀ text j, Json.parse? text = some j → parse? text = ofJson? j := by
  intro alike
  have stated : (Json.parse? iconOptions).bind options? =
      some (some ⟨none, [("~icons,]", ["ui/icons.ts"])]⟩) := by decide +kernel
  have found : (Json.parse? (String.ofList
      (dropLastCommas (stripComments iconOptions.toList)))).bind options? =
      some (some ⟨none, [("~icons]", ["ui/icons.ts"])]⟩) := by decide +kernel
  obtain ⟨j, strict, stated⟩ := Option.bind_eq_some_iff.mp stated
  obtain ⟨j', read, found⟩ := Option.bind_eq_some_iff.mp found
  have same := alike iconOptions j strict
  rw [parse?, read, Option.bind_some, ofJson?_eq, ofJson?_eq, found, stated] at same
  have entries := congrArg AliasTable.entries (Option.some.inj same)
  simp only [Option.map_some, Option.getD_some, entries_ofOptions] at entries
  exact absurd entries (by decide +kernel)

end Survey.AliasTable
