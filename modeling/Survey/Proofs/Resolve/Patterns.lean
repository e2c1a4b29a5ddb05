import Survey.Proofs.Resolve.Targets

/-!
Patterns with text behind their star. A table keeps a pattern up to its star, so that the text behind
leaves no trace: specifiers that end otherwise are taken too, and the star stands for their ends.
-/
namespace Survey

namespace Alias

variable {front back specifier place : String} {targets : List String}

/-- What a pattern with texts in front of its star and behind it stands for: specifiers that begin
and end with these texts, with what is between them in place of the star. -/
def Spans (front back : String) (targets : List String) (specifier place : String) : Prop :=
  ∃ between, specifier = front ++ between ++ back ∧ ∃ target ∈ targets, Fills between target place

theorem ofPattern_behind_star (first : '*' ∉ front.toList) :
    ofPattern (front ++ "*" ++ back) targets = ofPattern (front ++ "*") targets := by
  have bare := ofPattern_of_star first "" targets
  rw [String.append_empty] at bare
  rw [ofPattern_of_star first, bare]

theorem mem_expand_ofPattern (first : '*' ∉ front.toList) :
    place ∈ (ofPattern (front ++ "*" ++ back) targets).expand specifier ↔
      Spans front "" targets specifier place := by
  rw [ofPattern_of_star first, mem_expand]
  constructor
  · intro gives
    cases gives with
    | @starred rest target _ _ held filled =>
        exact ⟨rest, (String.append_empty).symm, target, held, filled⟩
    | whole exact _ => cases exact
  · rintro ⟨rest, rfl, target, held, filled⟩
    rw [String.append_empty]
    exact .starred rfl held filled

theorem not_spans_front (solid : back ≠ "") : ¬ Spans front back targets front place := by
  rintro ⟨between, split, _⟩
  rw [← String.toList_inj, String.toList_append, String.toList_append, List.append_assoc,
    List.self_eq_append_right, List.append_eq_nil_iff, String.toList_eq_nil_iff,
    String.toList_eq_nil_iff] at split
  exact solid split.2

/-- A pattern is read as it is written just when nothing stands behind its star, targets given. -/
theorem expand_spans_iff (first : '*' ∉ front.toList) :
    (∀ specifier place, place ∈ (ofPattern (front ++ "*" ++ back) targets).expand specifier →
      Spans front back targets specifier place) ↔ back = "" ∨ targets = [] := by
  constructor
  · intro spanned
    by_contra neither
    obtain ⟨solid, some⟩ := not_or.mp neither
    obtain ⟨target, held⟩ := List.exists_mem_of_ne_nil targets some
    -- The text in front of the star alone is too short for the pattern.
    have taken : fill "" target ∈ (ofPattern (front ++ "*" ++ back) targets).expand front :=
      (mem_expand_ofPattern first).mpr ⟨"", by simp, target, held, fill_eq_iff.mp rfl⟩
    exact not_spans_front solid (spanned _ _ taken)
  · rintro (rfl | rfl) specifier place taken
    · exact (mem_expand_ofPattern first).mp taken
    · obtain ⟨_, _, _, held, _⟩ := (mem_expand_ofPattern first).mp taken
      cases held

end Alias

namespace AliasTable

open Alias (Spans)

/-- The text behind the star of a pattern is not kept. With or without it the table is the same, and
the pattern answers for every specifier that begins as it does, whatever the end, with all that
follows its front in place of the star. So what a pattern answers for is what it spans exactly when
nothing stands behind its star, or when it has no targets. -/
theorem pattern_ends_at_star (front back : String) (targets : List String)
    (first : '*' ∉ front.toList) :
    (∀ base before behind, ofAliases base (before ++ (front ++ "*" ++ back, targets) :: behind) =
      ofAliases base (before ++ (front ++ "*", targets) :: behind)) ∧
    (∀ specifier place, place ∈ (Alias.ofPattern (front ++ "*" ++ back) targets).expand specifier ↔
      Spans front "" targets specifier place) ∧
    (∀ (r : Resolver) (specifier place : String),
      r.Takes specifier (some (.ofPattern (front ++ "*" ++ back) targets)) place →
      Spans front "" targets specifier place) ∧
    ((∀ specifier place,
      place ∈ (Alias.ofPattern (front ++ "*" ++ back) targets).expand specifier →
      Spans front back targets specifier place) ↔ back = "" ∨ targets = []) := by
  refine ⟨?_, fun _ _ => Alias.mem_expand_ofPattern first, ?_, Alias.expand_spans_iff first⟩
  · intro base before behind
    simp only [ofAliases, List.foldl_append, List.foldl_cons, insert,
      Alias.ofPattern_behind_star first]
  · intro r specifier place taken
    have gives := (mem_origins_alias.mp taken.mem_origins).2
    exact (Alias.mem_expand_ofPattern first).mp (Alias.mem_expand.mpr gives)

theorem ending_passed_over :
    '*' ∉ "@/".toList ∧
    "src/db" ∈ (Alias.ofPattern ("@/" ++ "*" ++ ".js") ["src/*"]).expand "@/db" := by
  have first : '*' ∉ "@/".toList := by decide
  refine ⟨first, ((pattern_ends_at_star "@/" ".js" ["src/*"] first).2.1 _ _).mpr ?_⟩
  exact ⟨"db", by decide, "src/*", List.mem_singleton_self _, Alias.fill_eq_iff.mp (by decide)⟩

def moduleOptions : String :=
  "\x7b\"compilerOptions\": \x7b\"paths\": \x7b\"@/*.js\": [\"src/*\"]\x7d\x7d\x7d"

/-- The specifier that the pattern spans finds nothing, and one that it does not span finds the
module. -/
theorem moduleOptions_ending_lost :
    optionsOf? moduleOptions = some (some ⟨none, [("@/" ++ "*" ++ ".js", ["src/*"])]⟩) ∧
    Spans "@/" ".js" ["src/*"] "@/db.js" "src/db" ∧
    (∀ place, ¬ Spans "@/" ".js" ["src/*"] "@/db" place) ∧
    ∃ t, parse? moduleOptions = some t ∧
      Resolver.resolve ⟨["src/db.ts"], t⟩ "app.ts" "@/db.js" = none ∧
      Resolver.resolve ⟨["src/db.ts"], t⟩ "app.ts" "@/db" = some "src/db.ts" := by
  have read : optionsOf? moduleOptions =
      some (some ⟨none, [("@/" ++ "*" ++ ".js", ["src/*"])]⟩) := by decide +kernel
  refine ⟨read, ?_, ?_, ⟨none, [⟨"@/", true, ["src/*"]⟩]⟩, ?_, by decide +kernel⟩
  · exact ⟨"db", by decide, "src/*", List.mem_singleton_self _, Alias.fill_eq_iff.mp (by decide)⟩
  · rintro place ⟨between, split, _⟩
    have ends : ".js".toList <:+ "@/db".toList := by
      rw [split, String.toList_append]
      exact List.suffix_append _ _
    revert ends
    decide
  · rw [parse?_of_options read, ofOptions_single]
    decide +kernel

end AliasTable

end Survey
