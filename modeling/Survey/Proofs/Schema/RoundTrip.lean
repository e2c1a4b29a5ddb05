import Survey.Proofs.Schema.Key
import Survey.Proofs.Schema.Models

/-!
What models and enumerations mean, and that this is what is read from their text. Two models that
hold many of each other are related many to many.
-/
namespace Survey.Schema.Written

open Survey.Text
open Survey.Schema.Block (Declaration argumentsRest arguments? fieldAttribute line? modelsOf entitiesOf
  parse)

section Arguments

variable {cs inner rest : List Char}

/-- A text with parentheses at most one deep. -/
inductive Shallow : List Char → Prop
  | nil : Shallow []
  | char {c : Char} {cs : List Char} (plain : c ∉ ['(', ')']) (more : Shallow cs) : Shallow (c :: cs)
  | group {inner cs : List Char} (flat : ∀ c ∈ inner, c ∉ ['(', ')']) (more : Shallow cs) :
      Shallow ('(' :: (inner ++ ')' :: cs))

theorem argumentsRest_cons {c : Char} (plain : c ∉ ['(', ')']) (deep : Bool) (cs : List Char) :
    argumentsRest deep (c :: cs) =
      (argumentsRest deep cs).map fun read => (c :: read.1, read.2) := by
  simp only [List.mem_cons, List.not_mem_nil, or_false, not_or] at plain
  rw [argumentsRest, if_neg plain.1, if_neg plain.2]

theorem argumentsRest_open (cs : List Char) :
    argumentsRest false ('(' :: cs) =
      (argumentsRest true cs).map fun read => ('(' :: read.1, read.2) := rfl

theorem argumentsRest_inner (flat : ∀ c ∈ inner, c ∉ ['(', ')']) :
    argumentsRest true (inner ++ ')' :: cs) =
      (argumentsRest false cs).map fun read => (inner ++ ')' :: read.1, read.2) := by
  induction inner with
  | nil => rfl
  | cons c inner ih =>
      rw [List.cons_append, argumentsRest_cons (flat c List.mem_cons_self),
        ih fun d member => flat d (List.mem_cons_of_mem c member), Option.map_map]
      rfl

theorem argumentsRest_shallow (shallow : Shallow cs) (rest : List Char) :
    argumentsRest false (cs ++ ')' :: rest) = some (cs ++ [')'], rest) := by
  induction shallow with
  | nil => rfl
  | char plain _ ih => rw [List.cons_append, argumentsRest_cons plain, ih]; rfl
  | @group inner cs flat _ ih =>
      have text : '(' :: (inner ++ ')' :: cs) ++ ')' :: rest =
          '(' :: (inner ++ ')' :: (cs ++ ')' :: rest)) := by simp
      rw [text, argumentsRest_open, argumentsRest_inner flat, ih]
      simp

end Arguments

section Attributes

variable {rest : List Char}

/-- The parentheses in the arguments of an attribute are at most one deep. -/
def Attribute.Shallow (a : Attribute) : Prop :=
  ∀ pieces ∈ a.arguments, Written.Shallow (pieces.flatMap Piece.text)

def Attribute.read (a : Attribute) : Block.Attribute :=
  ⟨String.ofList a.name, String.ofList ((a.arguments.map argumentText).getD [])⟩

theorem arguments?_argumentText {pieces : List Piece}
    (shallow : Written.Shallow (pieces.flatMap Piece.text)) :
    arguments? (argumentText pieces ++ rest) = some (argumentText pieces, rest) := by
  have text : argumentText pieces ++ rest =
      '(' :: (pieces.flatMap Piece.text ++ ')' :: rest) := by simp [argumentText]
  rw [text, arguments?, argumentsRest_shallow shallow]
  rfl

theorem arguments?_eq_none (ends : ∀ c ∈ rest.head?, isBlank c) : arguments? rest = none := by
  unfold arguments?
  split
  · next cs => exact absurd (ends '(' rfl) (by decide)
  · rfl

theorem fieldAttribute_name (a : Attribute) {after args rest : List Char}
    (stops : ∀ c ∈ after.head?, (isWord c || c == '.') = false)
    (read : (arguments? after).getD ([], after) = (args, rest)) :
    fieldAttribute ('@' :: (a.name ++ after)) =
      some (⟨String.ofList a.name, String.ofList args⟩, rest) := by
  have marked : lit "@" ('@' :: (a.name ++ after)) = some (a.name ++ after) := lit_eq_some_iff.mpr rfl
  have named := run1_append a.nonempty a.named stops
  simp only [fieldAttribute, marked, named, Option.bind_eq_bind, Option.bind_some]
  cases found : arguments? after with
  | none =>
      rw [found] at read
      cases read
      rfl
  | some pair =>
      rw [found] at read
      cases read
      rfl

theorem fieldAttribute_core {a : Attribute} (shallow : a.Shallow)
    (ends : ∀ c ∈ rest.head?, isBlank c) :
    fieldAttribute (a.core ++ rest) = some (a.read, rest) := by
  rw [Attribute.core, List.cons_append, List.append_assoc]
  apply fieldAttribute_name
  · cases a.arguments with
    | none =>
        intro c first
        have blank := ends c first
        rw [isWord_of_isBlank blank, Bool.false_or, beq_eq_false_iff_ne]
        rintro rfl
        cases blank
    | some pieces =>
        intro c first
        cases first
        decide
  · cases arguments : a.arguments with
    | none => simp [arguments?_eq_none ends]
    | some pieces => simp [arguments?_argumentText (shallow pieces arguments)]

theorem fieldAttribute_eq_none {c : Char} (other : c ≠ '@') (cs : List Char) :
    fieldAttribute (c :: cs) = none := by
  have unmarked : lit "@" (c :: cs) = none := by
    rw [Option.eq_none_iff_forall_ne_some]
    intro rest read
    exact other (List.cons.inj (lit_eq_some_iff.mp read)).1
  simp [fieldAttribute, unmarked]

theorem findAll_attributes {as : List Attribute} (shallow : ∀ a ∈ as, a.Shallow) :
    findAll fieldAttribute (as.flatMap Attribute.text) = as.map Attribute.read := by
  induction as with
  | nil => rfl
  | cons a as ih =>
      have unmarked : ∀ c ∈ a.gap.chars, ∀ cs, fieldAttribute (c :: cs) = none := by
        intro c member
        apply fieldAttribute_eq_none
        rintro rfl
        exact a.gap.not_mem (by decide) member
      rw [List.flatMap_cons, Attribute.text, List.append_assoc, findAll_skip unmarked,
        findAll_of_some (fieldAttribute_core (shallow a List.mem_cons_self) (isBlank_head?_attributes as))
          (List.cons_ne_nil _ _),
        ih fun b member => shallow b (List.mem_cons_of_mem a member), List.map_cons]

theorem Field.found_eq {f : Field} (shallow : ∀ a ∈ f.attributes, a.Shallow) :
    f.found = f.attributes.map Attribute.read := by
  let text := f.attributes.flatMap Attribute.text
  have unmarked : ∀ c ∈ text.takeWhile (· ≠ '@'), ∀ cs, fieldAttribute (c :: cs) = none := by
    intro c member
    have other := List.mem_takeWhile_imp member
    exact fieldAttribute_eq_none (of_decide_eq_true other)
  calc f.found
    _ = findAll fieldAttribute (text.takeWhile (· ≠ '@') ++ text.dropWhile (· ≠ '@')) :=
        (findAll_skip unmarked).symm
    _ = findAll fieldAttribute text := by rw [List.takeWhile_append_dropWhile]
    _ = f.attributes.map Attribute.read := findAll_attributes shallow

end Attributes

section Meaning

/-- The constraint that an attribute stands for; one that marks a relation stands for none. -/
def Attribute.constraint? (a : Attribute) : Option String :=
  match String.ofList a.name with
  | "id" => some "primary key"
  | "unique" => some "unique"
  | "updatedAt" => some "auto-updated"
  | "relation" => none
  | _ => some (String.ofList a.core)

theorem constraint?_read (a : Attribute) : a.constraint? = a.read.constraint? := by
  have text : "@" ++ a.read.name ++ a.read.arguments = String.ofList a.core := by
    apply String.toList_inj.mp
    simp [Attribute.read, Attribute.core]
  have name : a.read.name = String.ofList a.name := rfl
  rw [Block.Attribute.constraint?, text, name]
  unfold Attribute.constraint?
  split
  · next id => rw [if_pos id]
  · next unique => simp [unique]
  · next updated => simp [updated]
  · next relation => simp [relation]
  · next id unique updated relation =>
    rw [if_neg id, if_neg unique, if_neg updated, if_neg relation]

def Field.column (f : Field) : Schema.Field :=
  ⟨f.name.name, f.base.name, f.mark.constraints ++ f.attributes.filterMap Attribute.constraint?⟩

def Field.key (f : Field) : String :=
  entityKey f.base.name

def Model.key (m : Model) : String :=
  entityKey m.name

/-- A field holds a relation if it is marked so or its type is a model. -/
def Field.Relates (ms : List Model) (f : Field) : Prop :=
  (∃ a ∈ f.attributes, a.name = "relation".toList) ∨ ∃ m ∈ ms, m.key = f.key

/-- Many of the models of a key are held by a model. -/
def Model.HoldsMany (m : Model) (key : String) : Prop :=
  ∃ f ∈ m.fields, f.mark = .array ∧ f.key = key

instance (ms : List Model) (f : Field) : Decidable (f.Relates ms) :=
  inferInstanceAs (Decidable (_ ∨ _))

instance (m : Model) (key : String) : Decidable (m.HoldsMany key) :=
  inferInstanceAs (Decidable (∃ f ∈ m.fields, _))

/-- Arrays relate to many, and are many to many when their type is a model that holds many in turn. -/
def Field.cardinality (ms : List Model) (m : Model) (f : Field) : Cardinality :=
  if f.mark = .array then
    if ∃ t ∈ ms, t.key = f.key ∧ t.HoldsMany m.key then .manyToMany else .oneToMany
  else .oneToOne

def Model.entity (ms : List Model) (m : Model) : Entity where
  name := entityName m.name
  fields := m.fields.map Field.column
  relations := (m.fields.filter (·.Relates ms)).map fun f =>
    ⟨f.name.name, entityName f.base.name, f.cardinality ms m⟩

end Meaning

section Reading

variable {ms : List Model} {m : Model} {f : Field}

/-- A model with ASCII names, no comment in its attributes and parentheses at most one deep. -/
structure Model.Plain (m : Model) : Prop where
  ascii : Ascii m.name
  types : ∀ f ∈ m.fields, Ascii f.base.name
  clear : m.Clear
  shallow : ∀ f ∈ m.fields, ∀ a ∈ f.attributes, a.Shallow

/-- The relation of a field before the other ends of relations are looked at. -/
def Field.relation (f : Field) : Relation :=
  ⟨f.name.name, entityName f.base.name, if f.mark = .array then .oneToMany else .oneToOne⟩

/-- The entity of a model before the other ends of relations are looked at. -/
def Model.draft (ms : List Model) (m : Model) : Entity where
  name := entityName m.name
  fields := m.fields.map Field.column
  relations := (m.fields.filter (·.Relates ms)).map Field.relation

theorem relates_iff : f.Relates ms ↔
    (f.attributes.map Attribute.read).any (·.name == "relation") ||
      (ms.map Model.key).contains (entityKey f.base.name) := by
  have named : ∀ a : Attribute, a.read.name = "relation" ↔ a.name = "relation".toList := by
    intro a
    rw [← String.toList_inj]
    simp [Attribute.read]
  simp [Field.Relates, named, Field.key]

theorem line?_field (shallow : ∀ a ∈ f.attributes, a.Shallow) :
    line? (ms.map Model.key) f.line =
      some ⟨f.column, if f.Relates ms then some f.relation else none⟩ := by
  have constraints : (f.attributes.map Attribute.read).filterMap Block.Attribute.constraint? =
      f.attributes.filterMap Attribute.constraint? := by
    simp [List.filterMap_map, constraint?_read]
  rw [f.line?_line, f.found_eq shallow, constraints]
  simp only [← relates_iff, beq_iff_eq]
  rfl

theorem model_block (plain : m.Plain) :
    Block.model (ms.map Model.key) m.name m.block.body = m.draft ms := by
  have read : (lines m.block.body).filterMap (line? (ms.map Model.key)) =
      m.fields.map fun f => ⟨f.column, if f.Relates ms then some f.relation else none⟩ := by
    have each : ∀ f ∈ m.fields, line? (ms.map Model.key) f.line =
        some ⟨f.column, if f.Relates ms then some f.relation else none⟩ :=
      fun f member => line?_field (plain.shallow f member)
    rw [plain.clear.filterMap_line?, List.filterMap_congr each, List.filterMap_eq_map']
  have relations : (m.fields.filterMap fun f => if f.Relates ms then some f.relation else none) =
      (m.fields.filter (·.Relates ms)).map Field.relation := by
    rw [← List.filterMap_eq_map, List.filterMap_filter]
    simp
  simp only [Block.model, read, List.map_map, List.filterMap_map, Model.draft, ← relations]
  rfl

end Reading

section Pairs

variable {ms : List Model} {m : Model} {f : Field}

theorem key_draft (plain : m.Plain) : (m.draft ms).key = m.key :=
  entityKey_entityName plain.ascii

theorem key_relation (plain : m.Plain) (member : f ∈ m.fields) :
    entityKey f.relation.target = f.key :=
  entityKey_entityName (plain.types f member)

theorem cardinality_relation : f.relation.cardinality == .oneToMany ↔ f.mark = .array := by
  unfold Field.relation
  split <;> simp_all

theorem mem_arrayPairs_drafts (plain : ∀ m ∈ ms, m.Plain) {k k' : String} :
    (k, k') ∈ Block.arrayPairs (ms.map (Model.draft ms)) ↔
      ∃ t ∈ ms, t.key = k ∧ ∃ f ∈ t.fields, f.Relates ms ∧ f.mark = .array ∧ f.key = k' := by
  simp only [Block.arrayPairs, List.mem_flatMap, List.mem_map, List.mem_filter]
  constructor
  · rintro ⟨_, ⟨t, held, rfl⟩, r, ⟨within, many⟩, same⟩
    obtain ⟨f, related, rfl⟩ := List.mem_map.mp within
    obtain ⟨within, related⟩ := List.mem_filter.mp related
    obtain ⟨first, second⟩ := Prod.mk.inj same
    rw [key_draft (plain t held)] at first
    rw [key_relation (plain t held) within] at second
    exact ⟨t, held, first, f, within, of_decide_eq_true related, cardinality_relation.mp many, second⟩
  · rintro ⟨t, held, rfl, f, within, related, many, rfl⟩
    refine ⟨t.draft ms, ⟨t, held, rfl⟩, f.relation, ⟨?_, cardinality_relation.mpr many⟩, ?_⟩
    · exact List.mem_map_of_mem (List.mem_filter.mpr ⟨within, decide_eq_true related⟩)
    · rw [key_draft (plain t held), key_relation (plain t held) within]

/-- A model that holds many of a declared model is related to it. -/
theorem mem_arrayPairs_iff (plain : ∀ m ∈ ms, m.Plain) (member : m ∈ ms) {k : String} :
    (k, m.key) ∈ Block.arrayPairs (ms.map (Model.draft ms)) ↔
      ∃ t ∈ ms, t.key = k ∧ t.HoldsMany m.key := by
  rw [mem_arrayPairs_drafts plain]
  constructor
  · rintro ⟨t, held, key, f, within, -, many, type⟩
    exact ⟨t, held, key, f, within, many, type⟩
  · rintro ⟨t, held, key, f, within, many, type⟩
    exact ⟨t, held, key, f, within, .inr ⟨m, member, type.symm⟩, many, type⟩

theorem markManyToMany_drafts (plain : ∀ m ∈ ms, m.Plain) :
    Block.markManyToMany (ms.map (Model.draft ms)) = ms.map (Model.entity ms) := by
  rw [Block.markManyToMany, List.map_map]
  refine List.map_congr_left fun m member => ?_
  have relations : ∀ f ∈ m.fields.filter (·.Relates ms),
      (if f.relation.cardinality == .oneToMany && (Block.arrayPairs (ms.map (Model.draft ms))).contains
          (entityKey f.relation.target, (m.draft ms).key)
        then { f.relation with cardinality := .manyToMany } else f.relation) =
      ⟨f.name.name, entityName f.base.name, f.cardinality ms m⟩ := by
    intro f held
    rw [key_relation (plain m member) (List.mem_of_mem_filter held), key_draft (plain m member)]
    simp only [Bool.and_eq_true, cardinality_relation, List.contains_iff_mem,
      mem_arrayPairs_iff plain member]
    by_cases array : f.mark = .array
    · simp only [Field.relation, Field.cardinality, array, true_and, if_true]
      split <;> rfl
    · simp [Field.relation, Field.cardinality, array]
  simp only [Function.comp_apply, Model.draft, Model.entity, List.map_map]
  congr 1
  exact List.map_congr_left relations

end Pairs

section Schemas

structure Enum where
  heading : Heading
  values : List Value

def Enum.block (n : Enum) : Block :=
  ⟨.enum, n.heading, n.values.map Value.line⟩

def Enum.enumeration (n : Enum) : Enumeration :=
  ⟨n.heading.name.name, n.values.map fun v => v.name.name⟩

theorem Enum.sound (n : Enum) : ∀ l ∈ n.block.lines, Sound l := by
  intro l member
  obtain ⟨v, -, rfl⟩ := List.mem_map.mp member
  exact v.sound

theorem words_space (s : Space) : words s.chars = [] := by
  have blank := words_blank_append s.blank []
  rwa [List.append_nil] at blank

theorem Value.words_line (v : Value) : words v.line = [v.name.chars] := by
  have apart : ∀ c ∈ v.trail.chars.head?, isBlank c :=
    fun c first => v.trail.blank c (List.mem_of_mem_head? first)
  rw [Value.line, words_blank_append v.indent.blank,
    words_word_append v.name.nonempty v.name.solid apart, words_space]

theorem Enum.enumValues_body (n : Enum) :
    Block.enumValues n.block.body = n.values.map fun v => v.name.name := by
  have unmarked : ∀ v : Value, v.name.chars.head? ≠ some '@' :=
    fun v first => v.name.not_mem (by decide) (List.mem_of_mem_head? first)
  have first : (lines n.block.body).filterMap (fun l => (words l).head?) =
      n.values.map fun v => v.name.chars := by
    rw [lines_body n.sound, List.filterMap_cons, words_space]
    simp [Enum.block, List.filterMap_map, Function.comp_def, Value.words_line]
  rw [Block.enumValues, first, List.filterMap_map]
  simp [unmarked, Word.name]

/-- What a schema is made of, in the order of the text. -/
inductive Item where
  | model (m : Model)
  | enum (n : Enum)

def Item.block : Item → Block
  | .model m => m.block
  | .enum n => n.block

def models (items : List Item) : List Model :=
  items.filterMap fun
    | .model m => some m
    | .enum _ => none

def enums (items : List Item) : List Enum :=
  items.filterMap fun
    | .model _ => none
    | .enum n => some n

variable {items : List Item}

theorem sound_items (plain : ∀ m ∈ models items, m.Plain) :
    ∀ b ∈ items.map Item.block, ∀ l ∈ b.lines, Sound l := by
  intro b member
  obtain ⟨item, held, rfl⟩ := List.mem_map.mp member
  cases item with
  | model m => exact (plain m (List.mem_filterMap.mpr ⟨_, held, rfl⟩)).clear.sound
  | enum n => exact n.sound

theorem modelsOf_items (items : List Item) :
    modelsOf ((items.map Item.block).map Block.declaration) =
      (models items).map fun m => m.block.declaration := by
  induction items with
  | nil => rfl
  | cons item items ih =>
      cases item with
      | model m => exact congrArg (m.block.declaration :: ·) ih
      | enum n => exact ih

theorem enumsOf_items (items : List Item) :
    ((items.map Item.block).map Block.declaration).filter (fun b => b.keyword == .enum) =
      (enums items).map fun n => n.block.declaration := by
  induction items with
  | nil => rfl
  | cons item items ih =>
      cases item with
      | model m => exact ih
      | enum n => exact congrArg (n.block.declaration :: ·) ih

theorem entitiesOf_items (plain : ∀ m ∈ models items, m.Plain) :
    entitiesOf ((items.map Item.block).map Block.declaration) =
      (models items).map (Model.draft (models items)) := by
  change (modelsOf _).map (fun b =>
    Block.model ((modelsOf _).map fun b => entityKey b.name) b.name b.body) = _
  rw [modelsOf_items, List.map_map, List.map_map]
  exact List.map_congr_left fun m member => model_block (plain m member)

/-- The text of models and enumerations is read as what they mean. -/
theorem parse_undoes_writing (items : List Item) (plain : ∀ m ∈ models items, m.Plain)
    (distinct : ((models items).map Model.key).Nodup) :
    parse (written (items.map Item.block)) =
      { dialect := .block
        entities := (models items).map (Model.entity (models items))
        enums := (enums items).map Enum.enumeration } := by
  let blocks := (items.map Item.block).map Block.declaration
  have keys : (modelsOf blocks).map Declaration.key = (models items).map Model.key := by
    rw [modelsOf_items, List.map_map]
    exact List.map_congr_left fun m member => entityKey_entityName (plain m member).ascii
  have entities : (Block.assemble blocks).entities =
      (models items).map (Model.entity (models items)) := by
    rw [entities_of_distinct (keys ▸ distinct), entitiesOf_items plain, markManyToMany_drafts plain]
  have enums : (Block.assemble blocks).enums = (enums items).map Enum.enumeration := by
    change (blocks.filter fun b => b.keyword == .enum).map _ = _
    rw [enumsOf_items, List.map_map]
    exact List.map_congr_left fun n _ => congrArg (Enumeration.mk _) n.enumValues_body
  rw [parse_written (sound_items plain)]
  change (⟨.block, (Block.assemble blocks).entities, (Block.assemble blocks).enums⟩ : Schema) = _
  rw [entities, enums]

def post : Model where
  heading := .usual (.ofString "blog_post")
  fields := [
    .usual (.ofString "authors") (.ofString "user") .array [.usual "relation" none],
    .usual (.ofString "tags") (.ofString "Tag") .array [.usual "relation" none]]

def colour : Enum where
  heading := .usual (.ofString "Colour")
  values := [⟨.none, .ofString "RED", .none⟩, ⟨.none, .ofString "BLUE", .none⟩]

theorem plain_blog : ∀ m ∈ [user, post], m.Plain := by
  have now : Shallow "now()".toList :=
    .char (by decide) (.char (by decide) (.char (by decide) (@Shallow.group [] [] (by decide) .nil)))
  have ascii : ∀ m ∈ [user, post], Ascii m.name := by decide +kernel
  have types : ∀ m ∈ [user, post], ∀ f ∈ m.fields, Ascii f.base.name := by decide +kernel
  have clear : ∀ m ∈ [user, post], m.Clear := by decide +kernel
  have arguments : ∀ m ∈ [user, post], ∀ f ∈ m.fields, ∀ a ∈ f.attributes,
      ∀ pieces ∈ a.arguments, pieces.flatMap Piece.text = "now()".toList := by decide +kernel
  intro m member
  refine ⟨ascii m member, types m member, clear m member, fun f within a held pieces given => ?_⟩
  rw [arguments m member f within a held pieces given]
  exact now

theorem blog_is_read :
    (∀ m ∈ [user, post], m.Plain) ∧ ([user, post].map Model.key).Nodup ∧
    parse (written [user.block, colour.block, post.block]) =
      { dialect := .block
        entities := [
          { name := "User"
            fields := [⟨"id", "Int", ["primary key", "@default(now())"]⟩,
              ⟨"nick", "String", ["optional", "unique"]⟩, ⟨"posts", "BlogPost", ["array"]⟩]
            relations := [⟨"posts", "BlogPost", .manyToMany⟩] },
          { name := "BlogPost"
            fields := [⟨"authors", "user", ["array"]⟩, ⟨"tags", "Tag", ["array"]⟩]
            relations := [⟨"authors", "User", .manyToMany⟩, ⟨"tags", "Tag", .oneToMany⟩] }]
        enums := [⟨"Colour", ["RED", "BLUE"]⟩] } := by
  have distinct : ([user, post].map Model.key).Nodup := by decide +kernel
  refine ⟨plain_blog, distinct, ?_⟩
  exact (parse_undoes_writing [.model user, .enum colour, .model post] plain_blog distinct).trans
    (by decide +kernel)

end Schemas

end Survey.Schema.Written
