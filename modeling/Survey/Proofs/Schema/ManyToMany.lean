import Survey.Proofs.Schema.Backing

/-!
Relations that both sides hold. A relation to many is many to many exactly when the entity it leads
to holds one back, so the mark is found on both sides or on neither. What counts as held back may be
the relation itself: a relation of an entity to itself is its own other side.
-/
namespace Survey.Schema

/-- A relation to many partners. -/
def Relation.ToMany (r : Relation) : Prop :=
  r.cardinality ≠ .oneToOne

/-- An entity has a relation to many that leads to a key. -/
def Entity.HoldsMany (e : Entity) (key : String) : Prop :=
  ∃ r ∈ e.relations, r.ToMany ∧ entityKey r.target = key

namespace Block

variable {es : List Entity} {e f : Entity} {r q : Relation} {own other : String}

section Marks

/-- A relation with the mark that the pairs ask for. -/
def mark (pairs : List (String × String)) (own : String) (r : Relation) : Relation :=
  if r.cardinality == .oneToMany && pairs.contains (entityKey r.target, own) then
    { r with cardinality := .manyToMany }
  else r

theorem markManyToMany_eq (es : List Entity) :
    markManyToMany es =
      es.map fun e => { e with relations := e.relations.map (mark (arrayPairs es) e.key) } := rfl

@[simp] theorem target_mark (pairs : List (String × String)) (own : String) (r : Relation) :
    (mark pairs own r).target = r.target := by
  unfold mark
  split <;> rfl

theorem toMany_mark (pairs : List (String × String)) (own : String) (r : Relation) :
    (mark pairs own r).ToMany ↔ r.ToMany := by
  unfold mark
  split
  · next marked =>
    rw [Bool.and_eq_true, beq_iff_eq] at marked
    simp [Relation.ToMany, marked.1]
  · rfl

theorem cardinality_mark {pairs : List (String × String)} (unmarked : r.cardinality ≠ .manyToMany)
    (many : r.ToMany) :
    (mark pairs own r).cardinality = .manyToMany ↔ (entityKey r.target, own) ∈ pairs := by
  have array : r.cardinality = .oneToMany := by
    cases kind : r.cardinality with
    | oneToOne => exact absurd kind many
    | oneToMany => rfl
    | manyToMany => exact absurd kind unmarked
  unfold mark
  by_cases held : (entityKey r.target, own) ∈ pairs
  · simp [array, held]
  · simp [array, held]

theorem mem_arrayPairs :
    (own, other) ∈ arrayPairs es ↔
      ∃ e ∈ es, e.key = own ∧ ∃ r ∈ e.relations, r.cardinality = .oneToMany ∧
        entityKey r.target = other := by
  simp only [arrayPairs, List.mem_flatMap, List.mem_map, List.mem_filter, beq_iff_eq, Prod.mk.injEq]
  constructor
  · rintro ⟨e, member, r, ⟨held, array⟩, key, target⟩
    exact ⟨e, member, key, r, held, array, target⟩
  · rintro ⟨e, member, key, r, held, array, target⟩
    exact ⟨e, member, r, ⟨held, array⟩, key, target⟩

end Marks

section Marked

/-- No relation is many to many yet. -/
def Unmarked (es : List Entity) : Prop :=
  ∀ e ∈ es, ∀ r ∈ e.relations, r.cardinality ≠ .manyToMany

theorem unmarked_merged (blocks : List Declaration) :
    Unmarked (mergeEntities (entitiesOf blocks)) := by
  intro m merged r held
  obtain ⟨e, member, -, related⟩ := (merges_of_mem merged).exists_of_mem_relations held
  obtain ⟨b, -, rfl⟩ := List.mem_map.mp member
  obtain ⟨line, read, kept⟩ := List.mem_filterMap.mp related
  obtain ⟨cs, -, written⟩ := List.mem_filterMap.mp read
  exact (relation_of_line? written kept).2.2

/-- The pairs taken before the marks are those that the marked entities show. -/
theorem mem_arrayPairs_iff_holdsMany (unmarked : Unmarked es) :
    (own, other) ∈ arrayPairs es ↔ ∃ f ∈ markManyToMany es, f.key = own ∧ f.HoldsMany other := by
  rw [mem_arrayPairs, markManyToMany_eq]
  constructor
  · rintro ⟨e, member, key, r, held, array, target⟩
    refine ⟨_, List.mem_map_of_mem member, key, _, List.mem_map_of_mem held, ?_, ?_⟩
    · rw [toMany_mark, Relation.ToMany, array]
      decide
    · rw [target_mark, target]
  · rintro ⟨f, marked, key, r, related, many, target⟩
    obtain ⟨e, member, rfl⟩ := List.mem_map.mp marked
    obtain ⟨q, held, rfl⟩ := List.mem_map.mp related
    rw [toMany_mark] at many
    rw [target_mark] at target
    refine ⟨e, member, key, q, held, ?_, target⟩
    cases kind : q.cardinality with
    | oneToOne => exact absurd kind many
    | oneToMany => rfl
    | manyToMany => exact absurd kind (unmarked e member q held)

/-- A relation to many is many to many when its partner holds one back, and only then. -/
theorem manyToMany_iff_holdsMany (unmarked : Unmarked es) (member : e ∈ markManyToMany es)
    (held : r ∈ e.relations) (many : r.ToMany) :
    r.cardinality = .manyToMany ↔
      ∃ f ∈ markManyToMany es, f.key = entityKey r.target ∧ f.HoldsMany e.key := by
  rw [← mem_arrayPairs_iff_holdsMany unmarked]
  obtain ⟨d, plain, rfl⟩ := List.mem_map.mp (markManyToMany_eq es ▸ member)
  obtain ⟨q, related, rfl⟩ := List.mem_map.mp held
  rw [toMany_mark] at many
  rw [target_mark, cardinality_mark (unmarked d plain q related) many]
  rfl

end Marked

section Parsed

variable {text : String}

theorem entities_parse (text : String) :
    (parse text).entities =
      markManyToMany (mergeEntities (entitiesOf (declarations (stripComments text.toList)))) := rfl

theorem entity?_parse (text : String) (name : String) :
    (parse text).entity? name = some f ↔ f ∈ (parse text).entities ∧ f.key = entityKey name := by
  apply Keyed.find?_eq_some_iff
  rw [entities_parse, map_key_markManyToMany]
  exact nodup_keys_mergeEntities _

theorem manyToMany_iff_entity? (member : e ∈ (parse text).entities) (held : r ∈ e.relations)
    (many : r.ToMany) :
    r.cardinality = .manyToMany ↔
      ∃ f, (parse text).entity? r.target = some f ∧ f.HoldsMany e.key := by
  rw [entities_parse] at member
  rw [manyToMany_iff_holdsMany (unmarked_merged _) member held many]
  simp only [entity?_parse, entities_parse, and_assoc]

/-- Many to many is symmetric, and no relation to many lacks it whose partner holds one back. -/
theorem manyToMany_on_both_sides (text : String) (e : Entity) (member : e ∈ (parse text).entities)
    (r : Relation) (held : r ∈ e.relations) :
    (r.cardinality = .manyToMany → ∃ f, (parse text).entity? r.target = some f ∧
      ∃ q ∈ f.relations, q.cardinality = .manyToMany ∧ entityKey q.target = e.key) ∧
    ∀ f, (parse text).entity? r.target = some f →
      ∀ q ∈ f.relations, q.ToMany → entityKey q.target = e.key → r.cardinality ≠ .oneToMany := by
  constructor
  · intro both
    have many : r.ToMany := by
      rw [Relation.ToMany, both]
      decide
    obtain ⟨f, found, q, related, back, target⟩ := (manyToMany_iff_entity? member held many).mp both
    refine ⟨f, found, q, related, ?_, target⟩
    -- Seen from the partner, the relation itself is the one held back.
    obtain ⟨partner, key⟩ := (entity?_parse text r.target).mp found
    apply (manyToMany_iff_entity? partner related back).mpr
    exact ⟨e, (entity?_parse text q.target).mpr ⟨member, target.symm⟩, r, held, many, key.symm⟩
  · intro f found q related back target array
    have many : r.ToMany := by
      rw [Relation.ToMany, array]
      decide
    have both := (manyToMany_iff_entity? member held many).mpr ⟨f, found, q, related, back, target⟩
    rw [array] at both
    cases both

/-- Posts and tags that hold each other, where the name of the posts has two spellings. -/
def taggedModels : String :=
  "model blog_post \x7b\n tags Tag[]\n\x7d\nmodel Tag \x7b\n posts BlogPost[]\n\x7d\n"

def blogPost : Entity :=
  ⟨"BlogPost", [⟨"tags", "Tag", ["array"]⟩], [⟨"tags", "Tag", .manyToMany⟩]⟩

def blogTag : Entity :=
  ⟨"Tag", [⟨"posts", "BlogPost", ["array"]⟩], [⟨"posts", "BlogPost", .manyToMany⟩]⟩

theorem entities_taggedModels : (parse taggedModels).entities = [blogPost, blogTag] := by
  decide +kernel

theorem blogPost_mem_taggedModels : blogPost ∈ (parse taggedModels).entities := by
  rw [entities_taggedModels]
  exact List.mem_cons_self

theorem taggedModels_on_both_sides :
    (∃ f, (parse taggedModels).entity? "Tag" = some f ∧
      ∃ q ∈ f.relations, q.cardinality = .manyToMany ∧ entityKey q.target = blogPost.key) ∧
    ∀ r ∈ blogPost.relations, r.cardinality ≠ .oneToMany := by
  have sides := manyToMany_on_both_sides taggedModels blogPost blogPost_mem_taggedModels
  have tag : (parse taggedModels).entity? "Tag" = some blogTag := by
    rw [entity?_parse, entities_taggedModels]
    decide +kernel
  refine ⟨(sides ⟨"tags", "Tag", .manyToMany⟩ (by decide)).1 rfl, ?_⟩
  intro r held
  obtain rfl : r = ⟨"tags", "Tag", .manyToMany⟩ := List.mem_singleton.mp held
  apply (sides _ held).2 blogTag tag ⟨"posts", "BlogPost", .manyToMany⟩ (by decide)
  · exact fun one => (nomatch one)
  · decide +kernel

/-- A relation to many at another place that leads from the partner of a relation back. -/
def Opposed (s : Schema) (e : Entity) (i : Nat) (r : Relation) : Prop :=
  ∃ f k q, s.entity? r.target = some f ∧ f.relations[k]? = some q ∧ q.ToMany ∧
    entityKey q.target = e.key ∧ (f ≠ e ∨ k ≠ i)

/-- A relation to many is many to many when another one opposes it or when it leads to its own
entity, and otherwise not. -/
theorem manyToMany_iff_opposed_or_own (text : String) (e : Entity)
    (member : e ∈ (parse text).entities) (i : Nat) (r : Relation) (place : e.relations[i]? = some r)
    (many : r.ToMany) :
    r.cardinality = .manyToMany ↔ Opposed (parse text) e i r ∨ entityKey r.target = e.key := by
  have held : r ∈ e.relations := List.mem_of_getElem? place
  rw [manyToMany_iff_entity? member held many]
  constructor
  · rintro ⟨f, found, q, related, back, target⟩
    by_cases same : f = e
    · have key := ((entity?_parse text r.target).mp found).2
      exact Or.inr (same ▸ key.symm)
    · obtain ⟨k, there⟩ := List.mem_iff_getElem?.mp related
      exact Or.inl ⟨f, k, q, found, there, back, target, Or.inl same⟩
  · rintro (⟨f, k, q, found, there, back, target, -⟩ | own)
    · exact ⟨f, found, q, List.mem_of_getElem? there, back, target⟩
    · exact ⟨e, (entity?_parse text r.target).mpr ⟨member, own.symm⟩, r, held, many, own⟩

theorem taggedModels_tags_opposed :
    Opposed (parse taggedModels) blogPost 0 ⟨"tags", "Tag", .manyToMany⟩ := by
  have sides := manyToMany_iff_opposed_or_own taggedModels blogPost blogPost_mem_taggedModels 0
    ⟨"tags", "Tag", .manyToMany⟩ rfl fun one => (nomatch one)
  exact (sides.mp rfl).resolve_right (by decide +kernel)

/-- Nodes of a tree: a node has many children and at most one parent. -/
def treeModel : String :=
  "model Node \x7b\n id Int @id\n children Node[]\n parent Node?\n\x7d\n"

def treeNode : Entity :=
  ⟨"Node", [⟨"id", "Int", ["primary key"]⟩, ⟨"children", "Node", ["array"]⟩,
      ⟨"parent", "Node", ["optional"]⟩],
    [⟨"children", "Node", .manyToMany⟩, ⟨"parent", "Node", .oneToOne⟩]⟩

theorem entities_treeModel : (parse treeModel).entities = [treeNode] := by
  decide +kernel

/-- The children of a node are many to many with no other relation to many beside them. -/
theorem treeModel_children_unopposed :
    ¬ ∀ e ∈ (parse treeModel).entities, ∀ i r, e.relations[i]? = some r →
      r.cardinality = .manyToMany → Opposed (parse treeModel) e i r := by
  intro all
  have member : treeNode ∈ (parse treeModel).entities := by
    rw [entities_treeModel]
    exact List.mem_cons_self
  obtain ⟨f, k, q, found, there, many, -, apart⟩ :=
    all treeNode member 0 ⟨"children", "Node", .manyToMany⟩ rfl rfl
  obtain ⟨listed, -⟩ := (entity?_parse treeModel "Node").mp found
  rw [entities_treeModel, List.mem_singleton] at listed
  subst listed
  match k, there with
  | 0, _ => exact apart.elim (fun differs => differs rfl) fun differs => differs rfl
  | 1, there =>
      obtain rfl := Option.some.inj there
      exact many rfl

end Parsed

end Block

end Survey.Schema
