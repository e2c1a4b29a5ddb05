import Mathlib.Data.List.Induction
import Mathlib.Data.List.Nodup
import Survey.Proofs.Keyed
import Survey.Schema.Block
import Survey.Schema.Builder

/-!
Entities of one key as one. What is found under a key is the first entity that has it with the fields
and relations that later ones bring under new names, so that a list in which no key recurs stays as
it is.
-/
namespace Survey.Schema

section Names

variable {α : Type} {name : α → String} {own more all : List α}

theorem addNew_concat (a : α) :
    addNew name own (more ++ [a]) =
      if name a ∈ (addNew name own more).map name then addNew name own more
      else addNew name own more ++ [a] := by
  simp [addNew, List.foldl_append]

theorem addNew_append (later : List α) :
    addNew name own (more ++ later) = addNew name (addNew name own more) later := by
  simp [addNew, List.foldl_append]

/-- All items of one list, then of another the first item of every name that is new. -/
structure Gathers (name : α → String) (own more all : List α) : Prop where
  grown : ∃ new, all = own ++ new ∧ new.Sublist more ∧ (new.map name).Nodup ∧
    ∀ a ∈ new, name a ∉ own.map name
  first : ∀ x, all.find? (name · == x) = (own ++ more).find? (name · == x)

theorem Gathers.mem_names (h : Gathers name own more all) {x : String} :
    x ∈ all.map name ↔ x ∈ own.map name ∨ x ∈ more.map name := by
  have found : ∀ items : List α, x ∈ items.map name ↔ (items.find? (name · == x)).isSome := by
    intro items
    simp [List.find?_isSome]
  rw [found, h.first, ← found, List.map_append, List.mem_append]

theorem Gathers.mem_or (h : Gathers name own more all) {a : α} (member : a ∈ all) :
    a ∈ own ∨ a ∈ more := by
  obtain ⟨new, rfl, sub, -, -⟩ := h.grown
  exact (List.mem_append.mp member).imp_right fun fresh => sub.subset fresh

theorem gathers_addNew (name : α → String) (own more : List α) :
    Gathers name own more (addNew name own more) := by
  induction more using List.reverseRecOn with
  | nil => exact ⟨⟨[], by simp [addNew]⟩, by simp [addNew]⟩
  | append_singleton more a ih =>
      obtain ⟨new, all, sub, once, fresh⟩ := ih.grown
      rw [addNew_concat]
      split
      · next known =>
        refine ⟨⟨new, all, sub.trans (List.sublist_append_left more [a]), once, fresh⟩, ?_⟩
        intro x
        rw [← List.append_assoc, List.find?_append, ih.first]
        by_cases same : name a = x
        · have held : ((own ++ more).find? (name · == x)).isSome := by
            rw [← ih.first, List.find?_isSome]
            simpa [same] using known
          rw [Option.or_of_isSome held]
        · simp [same]
      · next unknown =>
        rw [all] at unknown ⊢
        refine ⟨⟨new ++ [a], by simp, sub.append (List.Sublist.refl [a]), ?_, ?_⟩, ?_⟩
        · rw [List.map_append, List.map_singleton, ← List.concat_eq_append]
          exact List.Nodup.concat (fun held => unknown (by simp [held])) once
        · intro b member
          rcases List.mem_append.mp member with old | last
          · exact fresh b old
          · rw [List.mem_singleton.mp last]
            exact fun held => unknown (by simp [held])
        · intro x
          rw [← List.append_assoc, List.find?_append, ← all, ih.first, ← List.find?_append,
            List.append_assoc]

/-- Items of distinct names are added where their names are new. -/
theorem addNew_of_nodup (once : (more.map name).Nodup) :
    addNew name own more = own ++ more.filter fun a => name a ∉ own.map name := by
  induction more using List.reverseRecOn with
  | nil => simp [addNew]
  | append_singleton more a ih =>
      rw [List.map_append, List.map_singleton, ← List.concat_eq_append, List.nodup_concat] at once
      have single : name a ∈ (own ++ more.filter fun a => name a ∉ own.map name).map name ↔
          name a ∈ own.map name := by
        rw [List.map_append, List.mem_append]
        refine or_iff_left fun again => once.1 ?_
        exact (List.filter_sublist.map name).subset again
      rw [addNew_concat, ih once.2]
      simp only [single, List.filter_append, List.filter_singleton]
      by_cases known : name a ∈ own.map name
      · simp [known]
      · simp [known]

theorem perm_addNew {later : List α} (perm : more.Perm later) (once : (more.map name).Nodup) :
    (addNew name own more).Perm (addNew name own later) := by
  rw [addNew_of_nodup once, addNew_of_nodup ((perm.map name).nodup_iff.mp once)]
  exact (perm.filter _).append_left own

end Names

section Keys

variable {es : List Entity} {e m : Entity} {k : String}

@[simp] theorem key_merge (d e : Entity) : (d.merge e).key = d.key := rfl

theorem map_key_insertEntity (e : Entity) (ds : List Entity) :
    (insertEntity e ds).map Entity.key =
      if e.key ∈ ds.map Entity.key then ds.map Entity.key else ds.map Entity.key ++ [e.key] := by
  induction ds with
  | nil => simp [insertEntity]
  | cons d ds ih =>
      unfold insertEntity
      by_cases same : d.key = e.key
      · simp [same]
      · simp only [same, beq_iff_eq, if_false, List.map_cons, ih, List.mem_cons, Ne.symm same, false_or]
        split <;> rfl

theorem find?_insertEntity (e : Entity) (ds : List Entity) (k : String) :
    (insertEntity e ds).find? (·.key == k) =
      if e.key = k then some (((ds.find? (·.key == k)).map (·.merge e)).getD e)
      else ds.find? (·.key == k) := by
  induction ds with
  | nil => by_cases named : e.key = k <;> simp [insertEntity, named]
  | cons d ds ih =>
      unfold insertEntity
      by_cases same : d.key = e.key
      · by_cases named : e.key = k <;> simp [same, named]
      · by_cases named : e.key = k
        · subst named
          simp [same, ih]
        · simp [same, named, ih, List.find?_cons]

theorem mergeEntities_concat (es : List Entity) (e : Entity) :
    mergeEntities (es ++ [e]) = insertEntity e (mergeEntities es) := by
  simp [mergeEntities, List.foldl_append]

theorem map_key_mergeEntities (es : List Entity) :
    (mergeEntities es).map Entity.key = (es.map Entity.key).eraseDups := by
  induction es using List.reverseRecOn with
  | nil => rfl
  | append_singleton es e ih =>
      rw [mergeEntities_concat, map_key_insertEntity, ih, List.map_append, List.eraseDups_append]
      generalize es.map Entity.key = keys
      by_cases known : e.key ∈ keys
      · simp [List.removeAll, known]
      · simp [List.removeAll, known, List.eraseDups_cons]

theorem nodup_keys_mergeEntities (es : List Entity) :
    ((mergeEntities es).map Entity.key).Nodup := by
  induction es using List.reverseRecOn with
  | nil => exact List.nodup_nil
  | append_singleton es e ih =>
      rw [mergeEntities_concat, map_key_insertEntity]
      split
      · exact ih
      · next unknown => exact List.concat_eq_append ▸ ih.concat unknown

/-- What stands under a key is made of the entities that have it, in their order. -/
theorem find?_mergeEntities (es : List Entity) (k : String) :
    (mergeEntities es).find? (·.key == k) =
      match es.filter (·.key == k) with
      | [] => none
      | first :: later => some (later.foldl Entity.merge first) := by
  induction es using List.reverseRecOn with
  | nil => rfl
  | append_singleton es e ih =>
      rw [mergeEntities_concat, find?_insertEntity, ih, List.filter_append]
      by_cases named : e.key = k
      · cases held : es.filter (·.key == k) with
        | nil => simp [named]
        | cons first later => simp [named, List.foldl_append]
      · simp [named]

theorem fields_foldl_merge (first : Entity) (later : List Entity) :
    (later.foldl Entity.merge first).name = first.name ∧
      (later.foldl Entity.merge first).fields =
        addNew Field.name first.fields (later.flatMap Entity.fields) ∧
      (later.foldl Entity.merge first).relations =
        addNew Relation.field first.relations (later.flatMap Entity.relations) := by
  induction later generalizing first with
  | nil => exact ⟨rfl, rfl, rfl⟩
  | cons e later ih =>
      obtain ⟨named, fields, relations⟩ := ih (first.merge e)
      refine ⟨named, ?_, ?_⟩
      · rw [List.foldl_cons, fields, List.flatMap_cons, addNew_append]
        rfl
      · rw [List.foldl_cons, relations, List.flatMap_cons, addNew_append]
        rfl

/-- An entity with what all entities of its key in a list bring. -/
def Merges (es : List Entity) (m : Entity) : Prop :=
  ∃ first later, es.filter (·.key == m.key) = first :: later ∧ m.name = first.name ∧
    Gathers Field.name first.fields (later.flatMap Entity.fields) m.fields ∧
    Gathers Relation.field first.relations (later.flatMap Entity.relations) m.relations

theorem merges_of_mem (member : m ∈ mergeEntities es) : Merges es m := by
  have found := Keyed.find?_of_mem (nodup_keys_mergeEntities es) member rfl
  rw [find?_mergeEntities] at found
  split at found
  · cases found
  · next first later group =>
    obtain ⟨named, fields, relations⟩ := fields_foldl_merge first later
    obtain rfl := Option.some.inj found
    refine ⟨first, later, group, named, ?_, ?_⟩
    · rw [fields]
      exact gathers_addNew _ _ _
    · rw [relations]
      exact gathers_addNew _ _ _

theorem exists_merged (member : e ∈ es) : ∃ m ∈ mergeEntities es, m.key = e.key := by
  have key : e.key ∈ (mergeEntities es).map Entity.key := by
    rw [map_key_mergeEntities, List.mem_eraseDups]
    exact List.mem_map_of_mem member
  exact List.mem_map.mp key

theorem mem_names_group {α : Type} {name : α → String} {part : Entity → List α} {first : Entity}
    {later : List Entity} {x : String} (group : es.filter (·.key == k) = first :: later) :
    x ∈ (part first).map name ∨ x ∈ (later.flatMap part).map name ↔
      ∃ e ∈ es, e.key = k ∧ x ∈ (part e).map name := by
  have members : ∀ e, e ∈ es ∧ e.key = k ↔ e = first ∨ e ∈ later := by
    intro e
    rw [← List.mem_cons, ← group, List.mem_filter, beq_iff_eq]
  have parts : x ∈ (later.flatMap part).map name ↔ ∃ e ∈ later, x ∈ (part e).map name := by
    rw [List.map_flatMap, List.mem_flatMap]
  rw [parts]
  constructor
  · rintro (held | ⟨e, member, held⟩)
    · obtain ⟨member, key⟩ := (members first).mpr (Or.inl rfl)
      exact ⟨first, member, key, held⟩
    · obtain ⟨member, key⟩ := (members e).mpr (Or.inr member)
      exact ⟨e, member, key, held⟩
  · rintro ⟨e, member, key, held⟩
    rcases (members e).mp ⟨member, key⟩ with rfl | later
    · exact Or.inl held
    · exact Or.inr ⟨e, later, held⟩

theorem Merges.mem_fields (h : Merges es m) {x : String} :
    x ∈ m.fields.map Field.name ↔ ∃ e ∈ es, e.key = m.key ∧ x ∈ e.fields.map Field.name := by
  obtain ⟨first, later, group, -, fields, -⟩ := h
  rw [fields.mem_names, mem_names_group group]

theorem Merges.mem_relations (h : Merges es m) {x : String} :
    x ∈ m.relations.map Relation.field ↔
      ∃ e ∈ es, e.key = m.key ∧ x ∈ e.relations.map Relation.field := by
  obtain ⟨first, later, group, -, -, relations⟩ := h
  rw [relations.mem_names, mem_names_group group]

theorem Merges.exists_of_mem_relations (h : Merges es m) {r : Relation} (held : r ∈ m.relations) :
    ∃ e ∈ es, e.key = m.key ∧ r ∈ e.relations := by
  obtain ⟨first, later, group, -, -, relations⟩ := h
  have members : ∀ e ∈ first :: later, e ∈ es ∧ e.key = m.key := by
    intro e member
    rwa [← group, List.mem_filter, beq_iff_eq] at member
  rcases relations.mem_or held with own | brought
  · obtain ⟨member, key⟩ := members first List.mem_cons_self
    exact ⟨first, member, key, own⟩
  · obtain ⟨e, listed, related⟩ := List.mem_flatMap.mp brought
    obtain ⟨member, key⟩ := members e (List.mem_cons_of_mem first listed)
    exact ⟨e, member, key, related⟩

theorem insertEntity_of_new {ds : List Entity} (new : e.key ∉ ds.map Entity.key) :
    insertEntity e ds = ds ++ [e] := by
  induction ds with
  | nil => rfl
  | cons d ds ih =>
      rw [List.map_cons, List.mem_cons, not_or] at new
      simp [insertEntity, Ne.symm new.1, ih new.2]

/-- Nothing is merged where no key recurs. -/
theorem mergeEntities_of_nodup (nodup : (es.map Entity.key).Nodup) : mergeEntities es = es := by
  induction es using List.reverseRecOn with
  | nil => rfl
  | append_singleton es e ih =>
      rw [List.map_append, List.map_singleton, ← List.concat_eq_append, List.nodup_concat] at nodup
      rw [mergeEntities_concat, ih nodup.2, insertEntity_of_new nodup.1]

end Keys

theorem Block.map_key_markManyToMany (es : List Entity) :
    (Block.markManyToMany es).map Entity.key = es.map Entity.key := by
  simp [Block.markManyToMany, Function.comp_def, Entity.key]

/-- A schema has one entity for a key. Merging keeps the order in which keys come and the name and
items that come first. -/
theorem merging_keeps_first_seen (text : String) (sources : List (String × String))
    (parser : Syntax.Parser) (es : List Entity) :
    ((Block.parse text).entities.map Entity.key).Nodup ∧
      ((Builder.parse sources parser).entities.map Entity.key).Nodup ∧
      (mergeEntities es).map Entity.key = (es.map Entity.key).eraseDups ∧
      (∀ m ∈ mergeEntities es, Merges es m) ∧
      (∀ e ∈ es, ∃ m ∈ mergeEntities es, m.key = e.key ∧
        (∀ f ∈ e.fields, f.name ∈ m.fields.map Field.name) ∧
        ∀ r ∈ e.relations, r.field ∈ m.relations.map Relation.field) ∧
      mergeEntities (mergeEntities es) = mergeEntities es := by
  refine ⟨?_, nodup_keys_mergeEntities _, map_key_mergeEntities es, fun _ => merges_of_mem, ?_,
    mergeEntities_of_nodup (nodup_keys_mergeEntities es)⟩
  · change ((Block.markManyToMany _).map Entity.key).Nodup
    rw [Block.map_key_markManyToMany]
    exact nodup_keys_mergeEntities _
  · intro e member
    obtain ⟨m, merged, key⟩ := exists_merged member
    have all := merges_of_mem merged
    refine ⟨m, merged, key, fun f held => ?_, fun r held => ?_⟩
    · exact all.mem_fields.mpr ⟨e, member, key.symm, List.mem_map_of_mem held⟩
    · exact all.mem_relations.mpr ⟨e, member, key.symm, List.mem_map_of_mem held⟩

end Survey.Schema
