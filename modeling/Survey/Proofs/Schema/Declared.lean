import Survey.Proofs.Schema.Headers
import Survey.Proofs.Schema.Merge

/-!
What blocks declare together. An entity has the fields of all models of its key, whatever else is
declared, so text in front of a schema takes nothing from it.
-/
namespace Survey.Schema.Block

open Survey.Text

variable {blocks : List Declaration} {b : Declaration} {e : Entity} {x k : String}

section Fields

theorem field_line? (declared : List String) (cs : List Char) :
    (line? declared cs).map (·.field) = (line? [] cs).map (·.field) := by
  unfold line?
  simp only
  split
  · rfl
  · split <;> rfl

def fieldsIn (body : List Char) : List Field :=
  (lines body).filterMap fun l => (line? [] l).map (·.field)

theorem fields_model (declared : List String) (name : String) (body : List Char) :
    (model declared name body).fields = fieldsIn body := by
  simp only [model, fieldsIn, List.map_filterMap, field_line? declared]

theorem map_markManyToMany (es : List Entity) :
    (markManyToMany es).map (fun e => (e.name, e.fields)) = es.map fun e => (e.name, e.fields) := by
  simp [markManyToMany, Function.comp_def]

theorem exists_of_mem_markManyToMany {es : List Entity} (member : e ∈ markManyToMany es) :
    ∃ d ∈ es, d.key = e.key ∧ d.fields = e.fields ∧
      ∀ r ∈ e.relations, ∃ q ∈ d.relations, q.field = r.field ∧ q.target = r.target := by
  obtain ⟨d, held, rfl⟩ := List.mem_map.mp member
  refine ⟨d, held, rfl, rfl, ?_⟩
  intro r related
  obtain ⟨q, plain, rfl⟩ := List.mem_map.mp related
  refine ⟨q, plain, ?_⟩
  split <;> exact ⟨rfl, rfl⟩

end Fields

section Assembled

/-- The key of the entity that a block declares. -/
def Declaration.key (b : Declaration) : String :=
  entityKey (entityName b.name)

def modelsOf (blocks : List Declaration) : List Declaration :=
  blocks.filter fun b => b.keyword == .model

def entitiesOf (blocks : List Declaration) : List Entity :=
  (modelsOf blocks).map fun b =>
    model ((modelsOf blocks).map fun b => entityKey b.name) b.name b.body

theorem entities_assemble (blocks : List Declaration) :
    (assemble blocks).entities = markManyToMany (mergeEntities (entitiesOf blocks)) := rfl

theorem mem_entitiesOf {p : String → List Field → Prop} :
    (∃ e ∈ entitiesOf blocks, p e.key e.fields) ↔
      ∃ b ∈ blocks, b.keyword = .model ∧ p b.key (fieldsIn b.body) := by
  simp only [entitiesOf, modelsOf, List.mem_map, List.mem_filter, beq_iff_eq]
  constructor
  · rintro ⟨_, ⟨b, ⟨member, keyword⟩, rfl⟩, held⟩
    rw [fields_model] at held
    exact ⟨b, member, keyword, held⟩
  · rintro ⟨b, member, keyword, held⟩
    refine ⟨_, ⟨b, ⟨member, keyword⟩, rfl⟩, ?_⟩
    rw [fields_model]
    exact held

theorem mem_keys_assemble :
    k ∈ (assemble blocks).entities.map Entity.key ↔
      ∃ b ∈ blocks, b.keyword = .model ∧ b.key = k := by
  rw [entities_assemble, map_key_markManyToMany, map_key_mergeEntities, List.mem_eraseDups,
    List.mem_map, ← @mem_entitiesOf blocks fun key _ => key = k]

theorem mem_fields_assemble (member : e ∈ (assemble blocks).entities) :
    x ∈ e.fields.map Field.name ↔
      ∃ b ∈ blocks, b.keyword = .model ∧ b.key = e.key ∧ x ∈ (fieldsIn b.body).map Field.name := by
  obtain ⟨m, merged, key, fields, -⟩ :=
    exists_of_mem_markManyToMany (entities_assemble blocks ▸ member)
  rw [← fields, (merges_of_mem merged).mem_fields, key]
  exact @mem_entitiesOf blocks fun key fields => key = e.key ∧ x ∈ fields.map Field.name

end Assembled

section After

theorem go_cons {inside : Bool} {c : Char} {cs : List Char} (line : c ≠ '\n')
    (plain : c = '/' → cs.head? ≠ some '/') :
    stripComments.go inside (c :: cs) =
      if inside then stripComments.go true cs else c :: stripComments.go false cs := by
  apply stripComments.go.eq_4 inside c cs line
  intro rest slash double
  exact plain slash (double ▸ rfl)

theorem stripComments_after (front cs : List Char) :
    stripComments (front ++ '\n' :: cs) = stripComments front ++ '\n' :: stripComments cs := by
  suffices lined : ∀ inside, stripComments.go inside (front ++ '\n' :: cs) =
      stripComments.go inside front ++ '\n' :: stripComments.go false cs from lined false
  intro inside
  have single : ∀ {c : Char} {front : List Char},
      (∀ rest, c = '/' → front = '/' :: rest → False) →
      c = '/' → (front ++ '\n' :: cs).head? ≠ some '/' := by
    intro c front plain slash double
    cases front with
    | nil => simp at double
    | cons d front => exact plain front slash (by simpa using double)
  fun_induction stripComments.go inside front with
  | case1 inside => simp [stripComments.go]
  | case2 inside front ih => simp [stripComments.go, ih]
  | case3 inside front ih => simp [stripComments.go, ih]
  | case4 c front line plain ih =>
      rw [List.cons_append, go_cons line (single plain), if_pos rfl, ih]
  | case5 inside c front line plain outside ih =>
      rw [List.cons_append, go_cons line (single plain), if_neg outside, ih, List.cons_append]

/-- Every block of a text is read again after other text. -/
theorem declarations_after (front cs : List Char) :
    ∃ more, declarations (stripComments (front ++ '\n' :: cs)) =
      more ++ declarations (stripComments cs) := by
  obtain ⟨more, found⟩ := findFrom_header_after (stripComments front) (stripComments cs) none
  rw [stripComments_after, declarations, found, List.filterMap_append, declarations]
  exact ⟨_, rfl⟩

/-- Text in front of a schema hides none of its entities, fields and enumerations. -/
theorem earlier_text_hides_nothing (front text : String) :
    (∀ e ∈ (parse text).entities, ∃ d ∈ (parse (front ++ "\n" ++ text)).entities,
      d.key = e.key ∧ ∀ x ∈ e.fields.map Field.name, x ∈ d.fields.map Field.name) ∧
      ∀ n ∈ (parse text).enums, n ∈ (parse (front ++ "\n" ++ text)).enums := by
  obtain ⟨more, found⟩ := declarations_after front.toList text.toList
  have whole : (front ++ "\n" ++ text).toList = front.toList ++ '\n' :: text.toList := by simp
  simp only [parse, whole, found]
  constructor
  · intro e member
    obtain ⟨b, held, keyword, key⟩ := mem_keys_assemble.mp (List.mem_map_of_mem member)
    obtain ⟨d, merged, same⟩ := List.mem_map.mp
      (mem_keys_assemble.mpr ⟨b, List.mem_append_right more held, keyword, key⟩)
    refine ⟨d, merged, same, fun x named => ?_⟩
    obtain ⟨b, held, keyword, key, named⟩ := (mem_fields_assemble member).mp named
    exact (mem_fields_assemble merged).mpr
      ⟨b, List.mem_append_right more held, keyword, key.trans same.symm, named⟩
  · intro n member
    simp only [assemble, List.filter_append, List.map_append]
    exact List.mem_append_right _ member

end After

end Survey.Schema.Block
