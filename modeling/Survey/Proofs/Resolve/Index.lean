import Survey.Proofs.Resolve.Known

/-!
Directories as the targets of imports. Below the root of a project a directory stands for its index
file when no place tried before is a module. The root itself stands for none: with the empty path in
front, the places of its index files begin with a slash.
-/
namespace Survey.Resolver

variable {r : Resolver} {dir name : String} {earlier later : List String}

def extensions : List String :=
  [".ts", ".tsx", ".js", ".jsx", ".mts", ".vue"]

def indexNames : List String :=
  ["index.ts", "index.tsx", "index.js", "index.jsx"]

/-- The endings tried before an index file that comes after some others. -/
def endingsBefore (earlier : List String) : List String :=
  "" :: (extensions ++ earlier.map ("/" ++ ·))

/-- The path of a file in a directory, where the empty path is the root. -/
def within (dir name : String) : String :=
  if dir = "" then name else dir ++ "/" ++ name

theorem places_eq (dir : String) : places dir = (endingsBefore indexNames).map (dir ++ ·) := by
  rw [places, endingsBefore, List.map_cons, String.append_empty]
  rfl

theorem endingsBefore_split (order : indexNames = earlier ++ name :: later) :
    endingsBefore indexNames = endingsBefore earlier ++ (name :: later).map ("/" ++ ·) := by
  rw [order, endingsBefore, endingsBefore, List.map_append, List.cons_append, List.append_assoc]

/-- Below the root an index file is the first known place when none tried before it is known. -/
theorem find?_index (below : dir ≠ "") (order : indexNames = earlier ++ name :: later)
    (known : within dir name ∈ r.known) (unknown : ∀ e ∈ endingsBefore earlier, dir ++ e ∉ r.known) :
    (places dir).find? r.contains = some (within dir name) := by
  rw [within, if_neg below] at known ⊢
  rw [List.find?_eq_some_iff_append]
  refine ⟨contains_iff.mpr known, (endingsBefore earlier).map (dir ++ ·),
    later.map fun next => dir ++ ("/" ++ next), ?_, ?_⟩
  · rw [places_eq, endingsBefore_split order]
    simp [Function.comp_def, String.append_assoc]
  · intro place tried
    obtain ⟨e, before, rfl⟩ := List.mem_map.mp tried
    rw [Bool.not_eq_true', Bool.eq_false_iff, ne_eq, contains_iff]
    exact unknown e before

/-- At the root nothing is found but what an extension leads to. -/
theorem find?_root (rooted : ∀ id ∈ r.known, ¬ Text.leads "/" id)
    (unknown : ∀ e ∈ endingsBefore [], "" ++ e ∉ r.known) :
    (places "").find? r.contains = none := by
  have order : indexNames = [] ++ "index.ts" :: indexNames.tail := rfl
  rw [places_eq, endingsBefore_split order, List.find?_eq_none]
  intro place tried
  rw [contains_iff]
  obtain ⟨e, ending, rfl⟩ := List.mem_map.mp tried
  rcases List.mem_append.mp ending with plain | index
  · exact unknown e plain
  · obtain ⟨name, _, rfl⟩ := List.mem_map.mp index
    intro held
    exact rooted _ held (by simp [Text.leads])

/-- A relative specifier that leads to a directory means its index file when nothing tried before is
known, unless the directory is the root: there an index file is never found. -/
theorem index_found_below_root (r : Resolver) (module specifier dir name : String)
    (earlier later : List String) (rooted : ∀ id ∈ r.known, ¬ Text.leads "/" id)
    (relative : Text.leads "." specifier)
    (leads : Path.normalize? (Path.directory module) specifier = some dir)
    (order : indexNames = earlier ++ name :: later) (known : within dir name ∈ r.known)
    (unknown : ∀ e ∈ endingsBefore earlier, dir ++ e ∉ r.known) :
    r.resolve module specifier = if dir = "" then none else some (within dir name) := by
  rw [resolve_of_relative relative, leads, Option.bind_some, probe_eq]
  by_cases root : dir = ""
  · subst root
    have first : ∀ e ∈ endingsBefore [], e ∈ endingsBefore earlier := by
      intro e plain
      simp only [endingsBefore, List.map_nil, List.append_nil, List.mem_cons] at plain
      exact List.mem_cons.mpr (plain.imp_right (List.mem_append_left _))
    rw [find?_root rooted fun e plain => unknown e (first e plain)]
    rfl
  · rw [find?_index root order known unknown, Option.map_some, answer_of_not_leads (rooted _ known),
      if_neg root]

/-- The parts of a page below a directory of their own, with two index files. -/
def parts : Resolver where
  known := ["components/ui/index.tsx", "components/ui/index.js", "components/button.tsx"]

theorem parts_index_found :
    (∀ id ∈ parts.known, ¬ Text.leads "/" id) ∧
      Path.normalize? (Path.directory "app/blog/page.tsx") "../../components/./ui" =
        some "components/ui" ∧
      parts.resolve "app/blog/page.tsx" "../../components/./ui" = some "components/ui/index.tsx" := by
  have rooted : ∀ id ∈ parts.known, ¬ Text.leads "/" id := by decide
  have leads : Path.normalize? (Path.directory "app/blog/page.tsx") "../../components/./ui" =
      some "components/ui" := by decide
  have found := index_found_below_root parts "app/blog/page.tsx" "../../components/./ui"
    "components/ui" "index.tsx" ["index.ts"] ["index.js", "index.jsx"] rooted (by decide) leads rfl
    (by decide) (by decide)
  exact ⟨rooted, leads, found⟩

def indexed : Resolver where
  known := ["app.ts", "index.ts"]

/-- The specifier of the root directory does not find the index file that is known there. -/
theorem indexed_root_missed :
    (∀ id ∈ indexed.known, ¬ Text.leads "/" id) ∧ Text.leads "." "." ∧
      Path.normalize? (Path.directory "app.ts") "." = some "" ∧
      within "" "index.ts" ∈ indexed.known ∧
      (∀ e ∈ endingsBefore [], "" ++ e ∉ indexed.known) ∧
      indexed.resolve "app.ts" "." ≠ some (within "" "index.ts") := by
  decide

end Survey.Resolver
