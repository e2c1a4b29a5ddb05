import Survey.Proofs.Schema.Declared

/-!
The fields behind relations. A field line makes its relation, but models of one key are merged by
name, fields and relations apart, so that a relation may outlive its field. It does so exactly when a
field of another type has its name first.
-/
namespace Survey.Schema

section Gathered

variable {α : Type} {name : α → String} {own more all : List α}

theorem Gathers.mem_iff (h : Gathers name own more all) {a : α} :
    a ∈ all ↔ a ∈ own ∨ name a ∉ own.map name ∧ more.find? (name · == name a) = some a := by
  obtain ⟨new, rfl, sub, once, fresh⟩ := h.grown
  have first := h.first (name a)
  rw [List.find?_append, List.find?_append] at first
  rw [List.mem_append]
  refine or_congr Iff.rfl ⟨?_, ?_⟩
  · intro member
    have absent := fresh a member
    rw [Keyed.find?_eq_none absent, Keyed.find?_of_mem once member rfl] at first
    exact ⟨absent, first.symm⟩
  · rintro ⟨absent, found⟩
    rw [Keyed.find?_eq_none absent, found] at first
    exact List.mem_of_find?_eq_some first

end Gathered

section Backed

variable {own more fields : List Field} {r : Relation}

/-- A field has the name of a relation and the type of its target. -/
def Backed (fields : List Field) (r : Relation) : Prop :=
  ∃ f ∈ fields, f.name = r.field ∧ entityName f.type = r.target

theorem Backed.named (h : Backed fields r) : r.field ∈ fields.map Field.name := by
  obtain ⟨f, held, named, -⟩ := h
  exact List.mem_map.mpr ⟨f, held, named⟩

theorem Backed.mono (h : Backed own r) (sub : own ⊆ fields) : Backed fields r := by
  obtain ⟨f, held, backs⟩ := h
  exact ⟨f, sub held, backs⟩

theorem Backed.congr {q : Relation} (h : Backed fields q) (field : q.field = r.field)
    (target : q.target = r.target) : Backed fields r := by
  obtain ⟨f, held, named, typed⟩ := h
  exact ⟨f, held, named.trans field, typed.trans target⟩

theorem backed_gathered_iff (h : Gathers Field.name own more fields) :
    Backed fields r ↔ Backed own r ∨ r.field ∉ own.map Field.name ∧
      ∃ f, more.find? (·.name == r.field) = some f ∧ entityName f.type = r.target := by
  constructor
  · rintro ⟨f, held, named, typed⟩
    rcases h.mem_iff.mp held with mine | ⟨absent, found⟩
    · exact Or.inl ⟨f, mine, named, typed⟩
    · rw [named] at absent found
      exact Or.inr ⟨absent, f, found, typed⟩
  · rintro (⟨f, mine, named, typed⟩ | ⟨absent, f, found, typed⟩)
    · exact ⟨f, h.mem_iff.mpr (Or.inl mine), named, typed⟩
    · have matched := List.find?_some found
      have named : f.name = r.field := eq_of_beq matched
      rw [← named] at absent found
      exact ⟨f, h.mem_iff.mpr (Or.inr ⟨absent, found⟩), named, typed⟩

/-- What is gathered has no field for a relation exactly when its own fields have none and the first
of the name is of another type. -/
theorem not_backed_gathered_iff (h : Gathers Field.name own more fields)
    (named : r.field ∈ fields.map Field.name) :
    ¬ Backed fields r ↔ ¬ Backed own r ∧
      ∃ f, (own ++ more).find? (·.name == r.field) = some f ∧ entityName f.type ≠ r.target := by
  rw [backed_gathered_iff h, not_or]
  refine and_congr_right fun unbacked => ?_
  obtain ⟨f, found⟩ : ∃ f, (own ++ more).find? (·.name == r.field) = some f := by
    apply Option.isSome_iff_exists.mp
    rw [← h.first, List.find?_isSome]
    obtain ⟨g, held, same⟩ := List.mem_map.mp named
    exact ⟨g, held, beq_iff_eq.mpr same⟩
  by_cases owned : r.field ∈ own.map Field.name
  · have other : entityName f.type ≠ r.target := by
      intro typed
      have mine : f ∈ own := by
        obtain ⟨g, held, same⟩ := List.mem_map.mp owned
        rw [List.find?_append, Option.or_of_isSome] at found
        · exact List.mem_of_find?_eq_some found
        · exact List.find?_isSome.mpr ⟨g, held, beq_iff_eq.mpr same⟩
      have matched := List.find?_some found
      exact unbacked ⟨f, mine, eq_of_beq matched, typed⟩
    exact iff_of_true (fun later => later.1 owned) ⟨f, found, other⟩
  · have later : more.find? (·.name == r.field) = some f := by
      rwa [List.find?_append, Keyed.find?_eq_none owned, Option.none_or] at found
    simp only [found, later, owned, not_false_eq_true, true_and, Option.some.injEq, exists_eq_left']

end Backed

namespace Block

open Survey.Text

variable {r : Relation} {declared : List String}

section Models

theorem relation_of_line? {cs : List Char} {line : Line} (read : line? declared cs = some line)
    (related : line.relation = some r) :
    r.field = line.field.name ∧ r.target = entityName line.field.type ∧
      r.cardinality ≠ .manyToMany := by
  unfold line? at read
  simp only at read
  split at read
  · cases read
  · split at read
    · cases read
      simp only [Option.ite_none_right_eq_some, Option.some.injEq] at related
      obtain ⟨-, rfl⟩ := related
      refine ⟨rfl, rfl, ?_⟩
      split <;> simp
    · cases read

/-- Every relation of a model has its field. -/
theorem backed_model {name : String} {body : List Char}
    (held : r ∈ (model declared name body).relations) :
    Backed (model declared name body).fields r := by
  obtain ⟨line, read, related⟩ := List.mem_filterMap.mp held
  obtain ⟨cs, -, written⟩ := List.mem_filterMap.mp read
  obtain ⟨named, typed, -⟩ := relation_of_line? written related
  exact ⟨line.field, List.mem_map_of_mem read, named.symm, typed.symm⟩

end Models

section Contested

theorem filter_entitiesOf (blocks : List Declaration) (key : String) :
    ∃ declared, (entitiesOf blocks).filter (·.key == key) =
      ((modelsOf blocks).filter (·.key == key)).map fun b => model declared b.name b.body := by
  refine ⟨(modelsOf blocks).map fun b => entityKey b.name, ?_⟩
  rw [entitiesOf, List.filter_map]
  rfl

/-- A later model of a key brings a relation, the first has no field for it, and of all fields of its
name the first is of another type. -/
structure Contested (first : Declaration) (later : List Declaration) (r : Relation) : Prop where
  dropped : ∃ b ∈ later, Backed (fieldsIn b.body) r
  unbacked : ¬ Backed (fieldsIn first.body) r
  other : ∃ f, (fieldsIn first.body ++ later.flatMap fun b => fieldsIn b.body).find?
    (·.name == r.field) = some f ∧ entityName f.type ≠ r.target

theorem exists_source {first : Declaration} {later : List Declaration} {relations : List Relation}
    (gathered : Gathers Relation.field (model declared first.name first.body).relations
      ((later.map fun b => model declared b.name b.body).flatMap Entity.relations) relations)
    (held : r ∈ relations) :
    Backed (fieldsIn first.body) r ∨ ∃ b ∈ later, Backed (fieldsIn b.body) r := by
  rcases gathered.mem_iff.mp held with mine | ⟨-, found⟩
  · have backed := backed_model mine
    rw [fields_model] at backed
    exact Or.inl backed
  · obtain ⟨d, member, related⟩ := List.mem_flatMap.mp (List.mem_of_find?_eq_some found)
    obtain ⟨b, listed, rfl⟩ := List.mem_map.mp member
    have backed := backed_model related
    rw [fields_model] at backed
    exact Or.inr ⟨b, listed, backed⟩

/-- Of a relation that comes from a field line of the models, the field is kept unless contested. -/
theorem backed_merged_iff {first : Declaration} {later : List Declaration} {fields : List Field}
    (gathered : Gathers Field.name (fieldsIn first.body) (later.flatMap fun b => fieldsIn b.body) fields)
    (source : Backed (fieldsIn first.body) r ∨ ∃ b ∈ later, Backed (fieldsIn b.body) r) :
    r.field ∈ fields.map Field.name ∧ (Backed fields r ↔ ¬ Contested first later r) := by
  have named : r.field ∈ fields.map Field.name := by
    apply gathered.mem_names.mpr
    rcases source with opening | ⟨b, listed, backed⟩
    · exact Or.inl opening.named
    · exact Or.inr (backed.mono fun f held => List.mem_flatMap.mpr ⟨b, listed, held⟩).named
  refine ⟨named, ?_⟩
  rw [← not_iff_not, not_not, not_backed_gathered_iff gathered named]
  constructor
  · rintro ⟨unbacked, other⟩
    exact ⟨source.resolve_left unbacked, unbacked, other⟩
  · rintro ⟨-, unbacked, other⟩
    exact ⟨unbacked, other⟩

end Contested

/-- Every relation has the name of a field, and a field of that name has the type of its target, but
for relations that a later model of the key brings under a name first used for another type. -/
theorem relations_backed_unless_contested (text : String) (e : Entity)
    (member : e ∈ (parse text).entities) :
    ∃ first later,
      (modelsOf (declarations (stripComments text.toList))).filter (·.key == e.key) =
        first :: later ∧
      ∀ r ∈ e.relations, r.field ∈ e.fields.map Field.name ∧
        (Backed e.fields r ↔ ¬ Contested first later r) := by
  obtain ⟨m, merged, key, fields, unmarked⟩ :=
    exists_of_mem_markManyToMany (entities_assemble _ ▸ member)
  obtain ⟨_, _, group, -, gathered, related⟩ := merges_of_mem merged
  obtain ⟨declared, models⟩ := filter_entitiesOf _ m.key
  rw [models] at group
  obtain ⟨first, later, split, rfl, rfl⟩ := List.map_eq_cons_iff.mp group
  refine ⟨first, later, key ▸ split, ?_⟩
  intro r held
  simp only [fields_model, List.flatMap_map, fields] at gathered
  apply backed_merged_iff gathered
  -- The mark of many to many changes neither the field nor the target that a line gave.
  obtain ⟨q, plain, field, target⟩ := unmarked r held
  rcases exists_source related plain with opening | ⟨b, listed, backed⟩
  · exact Or.inl (opening.congr field target)
  · exact Or.inr ⟨b, listed, backed.congr field target⟩

/-- Two models of a task: an owner is a text in the first and a user in the second. -/
def taskModels : String :=
  "model Task \x7b\n owner String\n reviewer User\n\x7d\nmodel User \x7b\n id Int\n\x7d\nmodel Task \x7b\n owner User\n\x7d\n"

def taskEntity : Entity :=
  ⟨"Task", [⟨"owner", "String", []⟩, ⟨"reviewer", "User", []⟩],
    [⟨"reviewer", "User", .oneToOne⟩, ⟨"owner", "User", .oneToOne⟩]⟩

theorem taskModels_owner_contested :
    taskEntity ∈ (parse taskModels).entities ∧
      ∃ first later,
        (modelsOf (declarations (stripComments taskModels.toList))).filter
          (·.key == taskEntity.key) = first :: later ∧
        ¬ Contested first later ⟨"reviewer", "User", .oneToOne⟩ ∧
        Contested first later ⟨"owner", "User", .oneToOne⟩ := by
  have member : taskEntity ∈ (parse taskModels).entities := by decide +kernel
  obtain ⟨first, later, models, backed⟩ :=
    relations_backed_unless_contested taskModels taskEntity member
  refine ⟨member, first, later, models, ?_, ?_⟩
  · apply (backed _ (by decide)).2.mp
    exact ⟨⟨"reviewer", "User", []⟩, by decide, rfl, by decide +kernel⟩
  · apply not_not.mp
    rw [← (backed _ (by decide)).2]
    unfold Backed
    decide +kernel

/-- A merged entity may hold a relation whose only field is of another type. -/
theorem taskModels_relation_unbacked :
    ¬ ∀ e ∈ (parse taskModels).entities, ∀ r ∈ e.relations,
      ∃ f ∈ e.fields, f.name = r.field ∧ entityName f.type = r.target := by
  decide +kernel

end Block

end Survey.Schema
