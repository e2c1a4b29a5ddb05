import Survey.Proofs.Resolve.Targets

/-!
Detours in specifiers: a segment that stays where it is, a slash too many, or a name that is taken
back at once. Joining of paths leaves them out, so a relative specifier and one from the base
directory mean with a detour what they mean without. An alias puts the text for its star into a
target as it is written, the detour with it, and no module in normal form has such a path.
-/
namespace Survey

namespace Path

open FileTree (IsName)

variable {front back detour segment : String}

/-- A text behind which a segment begins. -/
def AtSegment (front : String) : Prop :=
  front = "" ∨ ∃ before, front = before ++ "/"

inductive Detour : String → Prop
  | here : Detour "./"
  | slash : Detour "/"
  | back {name : String} (named : IsName name) : Detour (name ++ "/../")

theorem Detour.atSegment (idle : Detour detour) : AtSegment detour := by
  cases idle with
  | here => exact Or.inr ⟨".", rfl⟩
  | slash => exact Or.inr ⟨"", rfl⟩
  | @back name _ =>
      refine Or.inr ⟨name ++ "/..", ?_⟩
      rw [String.append_assoc]
      rfl

theorem AtSegment.segments_append (starts : AtSegment front) (back : String) :
    segments (front ++ back) = segments front ++ segments back := by
  rcases starts with rfl | ⟨before, rfl⟩
  · rw [String.empty_append, segments_empty, List.nil_append]
  · have whole := segments_slash before ""
    rw [String.append_empty, segments_empty, List.append_nil] at whole
    rw [segments_slash, whole]

theorem segments_name (named : IsName segment) : segments segment = [segment] := by
  have single : Text.join "/" [segment] = segment := by simp [Text.join]
  have names := @segments_join [segment] (by simpa using named)
  rwa [single] at names

/-- A detour leaves every stack as it is. -/
theorem Detour.foldlM_push (idle : Detour detour) (stack : List String) :
    (segments detour).foldlM push stack = some stack := by
  cases idle with
  | here => rw [show segments "./" = [] by decide +kernel]; rfl
  | slash => rw [show segments "/" = [] by decide +kernel]; rfl
  | @back name named =>
      have split : name ++ "/../" = name ++ "/" ++ "../" := by
        rw [String.append_assoc]
        rfl
      have up : segments "../" = [".."] := by decide +kernel
      rw [split, segments_slash, segments_name named, up, List.singleton_append, List.foldlM_cons,
        push_name ⟨named.nonempty, named.notHere⟩ named.notParent, Option.bind_eq_bind,
        Option.bind_some, List.foldlM_cons, push_up_cons]
      rfl

/-- Joining leaves a detour out, wherever a segment begins. -/
theorem normalize?_detour (starts : AtSegment front) (idle : Detour detour) (dir back : String) :
    normalize? dir (front ++ detour ++ back) = normalize? dir (front ++ back) := by
  rw [normalize?_eq, normalize?_eq, String.append_assoc, starts.segments_append,
    idle.atSegment.segments_append, starts.segments_append]
  simp only [List.foldlM_append, idle.foldlM_push, Option.bind_eq_bind, Option.bind_some]

theorem AtSegment.mem_splitAt (starts : AtSegment front) (held : segment ∈ Text.splitAt '/' back) :
    segment ∈ Text.splitAt '/' (front ++ back) := by
  rcases starts with rfl | ⟨before, rfl⟩
  · rwa [String.empty_append]
  · rw [Text.splitAt_append rfl]
    exact List.mem_append_right _ held

theorem Detour.exists_segment (idle : Detour detour) (back : String) :
    ∃ segment ∈ Text.splitAt '/' (detour ++ back), segment = "" ∨ segment = "." ∨ segment = ".." := by
  cases idle with
  | here =>
      refine ⟨".", ?_, Or.inr (Or.inl rfl)⟩
      rw [show "./" = "." ++ "/" from rfl, Text.splitAt_append rfl]
      exact List.mem_append_left _ (by decide +kernel)
  | slash =>
      refine ⟨"", ?_, Or.inl rfl⟩
      rw [show "/" = "" ++ "/" from rfl, Text.splitAt_append rfl]
      exact List.mem_append_left _ (by decide +kernel)
  | @back name named =>
      refine ⟨"..", ?_, Or.inr (Or.inr rfl)⟩
      have split : name ++ "/../" ++ back = name ++ "/" ++ (".." ++ "/" ++ back) := by
        simp only [String.append_assoc]
        rfl
      rw [split, Text.splitAt_append rfl, Text.splitAt_append rfl]
      exact List.mem_append_right _ (List.mem_append_left _ (by decide +kernel))

/-- No path in normal form has a detour. -/
theorem Detour.not_isNormal (idle : Detour detour) (starts : AtSegment front) (back : String) :
    ¬ IsNormal (front ++ detour ++ back) := by
  rintro (empty | clean)
  · have slash : '/' ∈ detour.toList := by cases idle <;> simp
    have none := congrArg String.toList empty
    simp only [String.toList_append, String.toList_empty, List.append_eq_nil_iff] at none
    rw [none.1.2] at slash
    cases slash
  · rw [String.append_assoc] at clean
    obtain ⟨segment, held, idle | idle | idle⟩ := idle.exists_segment back
    · exact (clean segment (starts.mem_splitAt held)).1 idle
    · exact (clean segment (starts.mem_splitAt held)).2.1 idle
    · exact (clean segment (starts.mem_splitAt held)).2.2 idle

end Path

open Survey.Path (AtSegment Detour IsNormal normalize?)

/-- An alias that puts what comes behind `front` in a specifier where a segment of its place begins:
the alias ends before, and each of its targets has a star. -/
structure Alias.Carries (a : Alias) (front : String) : Prop where
  wild : a.wildcard = true
  filled : ∃ matched, front = a.lead ++ matched ∧ ∀ target ∈ a.targets, ∃ before after,
    '*' ∉ before.toList ∧ target = before ++ "*" ++ after ∧ AtSegment (before ++ matched)

namespace Resolver

variable {r : Resolver} {module specifier front detour back place : String} {a : Alias}

/-- No place that has a detour in it leads to a module in normal form. -/
theorem not_reaches_detour (normal : ∀ id ∈ r.known, IsNormal id) (idle : Detour detour)
    (starts : AtSegment front) (back : String) : ¬ r.Reaches (front ++ detour ++ back) := by
  rintro ⟨ending, _, known⟩
  refine idle.not_isNormal starts (back ++ ending) ?_
  rw [← String.append_assoc]
  exact normal _ known

theorem not_reaches_filled (normal : ∀ id ∈ r.known, IsNormal id) (idle : Detour detour)
    {before matched : String} (starts : AtSegment (before ++ matched)) (back after : String) :
    ¬ r.Reaches (before ++ (matched ++ (detour ++ back)) ++ after) := by
  have parts : before ++ (matched ++ (detour ++ back)) ++ after =
      before ++ matched ++ detour ++ (back ++ after) := by
    simp only [String.append_assoc]
  rw [parts]
  exact not_reaches_detour normal idle starts (back ++ after)

/-- What an alias that ends before a detour still answers with. -/
theorem cases_of_reaches (normal : ∀ id ∈ r.known, IsNormal id) (idle : Detour detour)
    (wild : a.wildcard = true) {matched : String}
    (gives : a.Gives (a.lead ++ matched ++ detour ++ back) place) (reaches : r.Reaches place) :
    place ∈ a.targets ∧ '*' ∉ place.toList ∨ ∃ before after, '*' ∉ before.toList ∧
      before ++ "*" ++ after ∈ a.targets ∧ ¬ AtSegment (before ++ matched) := by
  rw [String.append_assoc, String.append_assoc, Alias.gives_append_iff wild] at gives
  obtain ⟨target, held, rfl⟩ := gives
  rcases Alias.star_cases target with free | ⟨before, after, first, rfl⟩
  · rw [Alias.fill_of_free free]
    exact Or.inl ⟨held, free⟩
  · refine Or.inr ⟨before, after, first, held, fun starts => ?_⟩
    rw [Alias.fill_of_star first] at reaches
    exact not_reaches_filled normal idle starts back after reaches

theorem misses_of_carries (normal : ∀ id ∈ r.known, IsNormal id) (idle : Detour detour)
    (carries : a.Carries front) (back : String) : r.Misses (front ++ detour ++ back) a := by
  obtain ⟨wild, matched, rfl, stars⟩ := carries
  intro place gives
  rw [String.append_assoc, String.append_assoc, Alias.gives_append_iff wild] at gives
  obtain ⟨target, held, rfl⟩ := gives
  obtain ⟨before, after, first, rfl, starts⟩ := stars target held
  rw [Alias.fill_of_star first]
  exact not_reaches_filled normal idle starts back after

/-- The resolver with the base directory alone. -/
def withoutAliases (r : Resolver) : Resolver :=
  { r with aliases := { r.aliases with entries := [] } }

theorem resolve_of_misses (bare : ¬ Text.leads "." specifier)
    (missed : ∀ a ∈ r.aliases.entries, r.Misses specifier a) :
    r.resolve module specifier = r.withoutAliases.resolve module specifier := by
  have none : (r.aliases.entries.flatMap (·.expand specifier)).findSome? r.probe = none := by
    rw [List.findSome?_eq_none_iff]
    intro place listed
    obtain ⟨a, held, given⟩ := List.mem_flatMap.mp listed
    exact probe_eq_none_iff.mpr (missed a held place (Alias.mem_expand.mp given))
  rw [resolve, if_neg bare, resolve, if_neg bare, AliasTable.candidates, List.findSome?_append, none]
  rfl

theorem withoutAliases_resolve (bare : ¬ Text.leads "." specifier) :
    r.withoutAliases.resolve module specifier =
      (r.aliases.baseUrl.bind fun base => normalize? base specifier).bind r.probe := by
  have candidates : r.withoutAliases.aliases.candidates specifier =
      (r.aliases.baseUrl.bind fun base => normalize? base specifier).toList := List.nil_append _
  rw [resolve, if_neg bare, candidates]
  cases r.aliases.baseUrl.bind fun base => normalize? base specifier with
  | none => rfl
  | some place => exact List.findSome?_singleton

/-- With modules in normal form, a detour changes neither what a relative specifier means nor what the
base directory gives for another. An alias that ends before it answers only by a target without a star,
or by one whose star stands inside a segment when the detour comes first behind the lead; and when the
aliases for the specifier have no such targets, the answer is that of the base directory alone. -/
theorem detours_miss_aliases (r : Resolver) (module front detour back : String)
    (normal : ∀ id ∈ r.known, IsNormal id) (starts : AtSegment front) (idle : Detour detour) :
    (Text.leads "." (front ++ detour ++ back) → Text.leads "." (front ++ back) →
      r.resolve module (front ++ detour ++ back) = r.resolve module (front ++ back)) ∧
    (∀ (a : Alias) (matched place : String), a.wildcard = true → front = a.lead ++ matched →
      a.Gives (front ++ detour ++ back) place → r.Reaches place →
      place ∈ a.targets ∧ '*' ∉ place.toList ∨ ∃ before after, '*' ∉ before.toList ∧
        before ++ "*" ++ after ∈ a.targets ∧ ¬ AtSegment (before ++ matched)) ∧
    (¬ Text.leads "." (front ++ detour ++ back) → ¬ Text.leads "." (front ++ back) →
      r.withoutAliases.resolve module (front ++ detour ++ back) =
        r.withoutAliases.resolve module (front ++ back) ∧
      ((∀ a ∈ r.aliases.entries, (∃ place, a.Gives (front ++ detour ++ back) place) →
          a.Carries front) →
        r.resolve module (front ++ detour ++ back) =
          r.withoutAliases.resolve module (front ++ back))) := by
  have joined := fun dir => Path.normalize?_detour starts idle dir back
  refine ⟨?_, ?_, ?_⟩
  · intro relative plain
    rw [resolve_of_relative relative, resolve_of_relative plain, joined]
  · rintro a matched place wild rfl gives reaches
    exact cases_of_reaches normal idle wild gives reaches
  · intro bare plain
    have base : r.withoutAliases.resolve module (front ++ detour ++ back) =
        r.withoutAliases.resolve module (front ++ back) := by
      rw [withoutAliases_resolve bare, withoutAliases_resolve plain]
      simp only [joined]
    refine ⟨base, ?_⟩
    intro carried
    rw [resolve_of_misses bare, base]
    intro a held place gives
    exact misses_of_carries normal idle (carried a held ⟨place, gives⟩) back place gives

def webSite : Resolver where
  known := ["src/lib/db.ts", "web/@/lib/db.tsx"]
  aliases := ⟨some "web", [⟨"@/", true, ["src/*"]⟩]⟩

/-- The answer with the detour is the one that the alias stands before without it. -/
theorem webSite_detour_left_to_base :
    (∀ id ∈ webSite.known, IsNormal id) ∧ AtSegment "@/lib/" ∧ Detour "ui/../" ∧
    webSite.resolve "app.ts" "@/lib/db" = some "src/lib/db.ts" ∧
    webSite.resolve "app.ts" ("@/lib/" ++ "ui/../" ++ "db") = some "web/@/lib/db.tsx" := by
  have normal : ∀ id ∈ webSite.known, IsNormal id := by decide +kernel
  have starts : AtSegment "@/lib/" := Or.inr ⟨"@/lib", rfl⟩
  have idle : Detour "ui/../" := @Detour.back "ui" ⟨by decide, by decide, by decide, by decide⟩
  have carries : Alias.Carries ⟨"@/", true, ["src/*"]⟩ "@/lib/" := by
    refine ⟨rfl, "lib/", rfl, ?_⟩
    intro target held
    rw [List.mem_singleton.mp held]
    exact ⟨"src/", "", by decide, rfl, Or.inr ⟨"src/lib", rfl⟩⟩
  obtain ⟨_, _, left⟩ := detours_miss_aliases webSite "app.ts" "@/lib/" "ui/../" "db" normal starts idle
  have answer := (left (by decide +kernel) (by decide +kernel)).2 (by
    intro a held _
    rwa [List.mem_singleton.mp held])
  exact ⟨normal, starts, idle, by decide +kernel, answer.trans (by decide +kernel)⟩

end Resolver

namespace AliasTable

def sourceOptions : String :=
  "\x7b\"compilerOptions\": \x7b\"paths\": \x7b\"@/*\": [\"src/*\"]\x7d\x7d\x7d"

/-- The module that the alias finds is lost by each kind of detour. -/
theorem sourceOptions_detours_lost :
    ∃ t, parse? sourceOptions = some t ∧ IsNormal "src/lib/db.ts" ∧
      Resolver.resolve ⟨["src/lib/db.ts"], t⟩ "app.ts" "@/lib/db" = some "src/lib/db.ts" ∧
      Resolver.resolve ⟨["src/lib/db.ts"], t⟩ "app.ts" "@/lib/./db" = none ∧
      Resolver.resolve ⟨["src/lib/db.ts"], t⟩ "app.ts" "@/lib//db" = none ∧
      Resolver.resolve ⟨["src/lib/db.ts"], t⟩ "app.ts" "@/lib/ui/../db" = none := by
  have read : optionsOf? sourceOptions = some (some ⟨none, [("@/*", ["src/*"])]⟩) := by
    decide +kernel
  refine ⟨⟨none, [⟨"@/", true, ["src/*"]⟩]⟩, ?_, by decide +kernel⟩
  rw [parse?_of_options read, ofOptions_single]
  decide +kernel

end AliasTable

end Survey
