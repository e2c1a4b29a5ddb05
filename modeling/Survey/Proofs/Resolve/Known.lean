import Survey.Resolve.Resolver

/-!
What the answer of a resolver owes to the modules it knows. It looks at nothing but which modules
are known, takes the first place that is, and with one module more gives another answer only when
that module is the place it takes. Where no path begins with a slash the answer is itself known.
-/
namespace Survey.Resolver

variable {r s : Resolver} {base id p t : String}

def places (base : String) : List String :=
  base :: endings.map (base ++ ·)

/-- The answer for a place: an ending may have brought slashes to its front. -/
def answer (base place : String) : String :=
  if place = base then base else dropSlashes place

theorem probe_eq (r : Resolver) (base : String) :
    r.probe base = ((places base).find? r.contains).map (answer base) := by
  unfold probe places
  rw [List.find?_cons]
  by_cases literal : r.contains base
  · simp [literal, answer]
  · cases found : (endings.map (base ++ ·)).find? r.contains with
    | none => simp [literal]
    | some place =>
        have known := List.find?_some found
        have other : place ≠ base := by
          rintro rfl
          exact literal known
        simp [literal, answer, other]

theorem contains_iff : r.contains id ↔ id ∈ r.known := by
  rw [contains, List.contains_iff_mem]

theorem probe_congr (known : ∀ id, id ∈ r.known ↔ id ∈ s.known) : r.probe = s.probe := by
  have same : r.contains = s.contains := by
    funext id
    rw [Bool.eq_iff_iff, contains_iff, contains_iff]
    exact known id
  funext base
  rw [probe_eq, probe_eq, same]

/-- Resolvers with the same aliases that know the same modules give the same answers. -/
theorem resolve_congr (aliases : r.aliases = s.aliases)
    (known : ∀ id, id ∈ r.known ↔ id ∈ s.known) : r.resolve = s.resolve := by
  funext module specifier
  unfold resolve
  rw [probe_congr known, aliases]

/-- The first place of a larger resolver is that of a smaller one that knows it. -/
theorem find?_of_known (known : ∀ id, id ∈ r.known → id ∈ s.known)
    (found : (places base).find? s.contains = some p) (held : p ∈ r.known) :
    (places base).find? r.contains = some p := by
  rw [List.find?_eq_some_iff_append] at found ⊢
  obtain ⟨_, before, after, split, unknown⟩ := found
  refine ⟨contains_iff.mpr held, before, after, split, ?_⟩
  intro place earlier
  have larger := unknown place earlier
  rw [Bool.not_eq_true', Bool.eq_false_iff] at larger ⊢
  exact fun smaller => larger (contains_iff.mpr (known place (contains_iff.mp smaller)))

/-- A module more changes an answer only by being the place taken. -/
theorem probe_with (known : ∀ id, id ∈ s.known ↔ id = p ∨ id ∈ r.known)
    (found : r.probe base = some t) :
    s.probe base = some t ∨ s.probe base = some (answer base p) := by
  rw [probe_eq] at found ⊢
  obtain ⟨place, first, rfl⟩ := Option.map_eq_some_iff.mp found
  cases larger : (places base).find? s.contains with
  | none =>
      have held : place ∈ s.known :=
        (known place).mpr (Or.inr (contains_iff.mp (List.find?_some first)))
      exact absurd (contains_iff.mpr held)
        (List.find?_eq_none.mp larger place (List.mem_of_find?_eq_some first))
  | some q =>
      rcases (known q).mp (contains_iff.mp (List.find?_some larger)) with rfl | held
      · exact Or.inr rfl
      · have same := find?_of_known (fun id held => (known id).mpr (Or.inr held)) larger held
        rw [first] at same
        cases same
        exact Or.inl rfl

theorem resolve_of_relative {module specifier : String} (relative : Text.leads "." specifier) :
    r.resolve module specifier =
      (Path.normalize? (Path.directory module) specifier).bind r.probe := by
  rw [resolve, if_pos relative]

section Rooted

theorem dropSlashes_of_not_leads {path : String} (rooted : ¬ Text.leads "/" path) :
    dropSlashes path = path := by
  have whole : path.toList.dropWhile (· = '/') = path.toList := by
    cases chars : path.toList with
    | nil => rfl
    | cons c rest =>
        have plain : c ≠ '/' := by
          rintro rfl
          exact rooted (by simp [Text.leads, chars])
        rw [List.dropWhile_cons_of_neg (by simpa using plain)]
  rw [dropSlashes, whole, String.ofList_toList]

theorem answer_of_not_leads {place : String} (rooted : ¬ Text.leads "/" place) :
    answer base place = place := by
  rw [answer]
  split
  · next same => exact same.symm
  · exact dropSlashes_of_not_leads rooted

/-- What is found is known, unless slashes were taken from its front. -/
theorem mem_known_of_probe (rooted : ∀ id ∈ r.known, ¬ Text.leads "/" id)
    (found : r.probe base = some t) : t ∈ r.known := by
  rw [probe_eq] at found
  obtain ⟨place, first, rfl⟩ := Option.map_eq_some_iff.mp found
  have known : place ∈ r.known := contains_iff.mp (List.find?_some first)
  rw [answer_of_not_leads (rooted place known)]
  exact known

theorem mem_known_of_resolve {module specifier : String}
    (rooted : ∀ id ∈ r.known, ¬ Text.leads "/" id)
    (found : r.resolve module specifier = some t) : t ∈ r.known := by
  unfold resolve at found
  split at found
  · obtain ⟨base, _, probed⟩ := Option.bind_eq_some_iff.mp found
    exact mem_known_of_probe rooted probed
  · obtain ⟨base, _, probed⟩ := List.exists_of_findSome?_eq_some found
    exact mem_known_of_probe rooted probed

end Rooted

end Survey.Resolver
