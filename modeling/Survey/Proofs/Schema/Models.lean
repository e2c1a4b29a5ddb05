import Survey.Proofs.Schema.Written

/-!
Models as they are written. Every field line is read as its field, and no model and no field of a
text is lost as long as nothing in it looks like a comment.
-/
namespace Survey.Schema.Written

open Survey.Text
open Survey.Schema.Block (Declaration Line line? baseType fieldAttribute fieldsIn modelsOf entitiesOf
  assemble parse)

section Types

variable (w : Word) (m : Mark)

theorem Word.solid : ∀ c ∈ w.chars, isBlank c = false :=
  fun c member => isBlank_of_isWord (w.word c member)

theorem Word.getLast?_ne {c : Char} (other : isWord c = false) : w.chars.getLast? ≠ some c :=
  fun last => w.not_mem other (List.mem_of_getLast? last)

theorem dropPairs_reverse : baseType.dropPairs w.chars.reverse = w.chars.reverse := by
  unfold baseType.dropPairs
  split
  · next pair =>
    exact absurd (by rw [← List.head?_reverse, pair]; rfl) (w.getLast?_ne (c := ']') (by decide))
  · rfl

theorem baseType_mark : baseType (w.chars ++ m.text) = w.chars := by
  have stops : ∀ c ∈ w.chars.reverse.head?, decide (c = '?') = false := by
    intro c last
    rw [List.head?_reverse] at last
    rw [decide_eq_false_iff_not]
    rintro rfl
    exact w.getLast?_ne (by decide) last
  have whole := dropPairs_reverse w
  cases m with
  | none => simp [baseType, Mark.text, dropWhile_eq_self stops, whole]
  | optional => simp [baseType, Mark.text, dropWhile_eq_self stops, whole]
  | array => simp [baseType, Mark.text, baseType.dropPairs, whole]

theorem getLast?_mark : ((w.chars ++ m.text).getLast? == some '?') = (m == .optional) := by
  cases m with
  | none => simpa [Mark.text] using w.getLast?_ne (c := '?') (by decide)
  | optional => simp [Mark.text]
  | array => simp [Mark.text]

theorem isSuffixOf_mark : "[]".toList.isSuffixOf (w.chars ++ m.text) = (m == .array) := by
  have ends : ∀ {cs : List Char}, "[]".toList.isSuffixOf cs → cs.getLast? = some ']' := by
    intro cs held
    obtain ⟨front, rfl⟩ := List.isSuffixOf_iff_suffix.mp held
    simp
  cases m with
  | none =>
      refine Bool.eq_false_iff.mpr fun held => w.getLast?_ne (c := ']') (by decide) ?_
      simpa [Mark.text] using ends held
  | optional =>
      refine Bool.eq_false_iff.mpr fun held => ?_
      simpa [Mark.text] using ends held
  | array => exact List.isSuffixOf_iff_suffix.mpr (List.suffix_append w.chars _)

end Types

section FieldLines

variable (f : Field)

theorem Gap.isBlank_head? (g : Gap) (rest : List Char) : ∀ c ∈ (g.chars ++ rest).head?, isBlank c := by
  obtain ⟨d, ds, chars⟩ := List.exists_cons_of_ne_nil g.nonempty
  intro c member
  rw [chars] at member
  cases member
  exact g.blank _ (by simp [chars])

theorem isBlank_head?_attributes (as : List Attribute) :
    ∀ c ∈ (as.flatMap Attribute.text).head?, isBlank c := by
  cases as with
  | nil => intro c member; cases member
  | cons a as =>
      rw [List.flatMap_cons, Attribute.text, List.append_assoc]
      exact a.gap.isBlank_head? _

/-- A text that does not end with white space. -/
def EndsSolid (cs : List Char) : Prop :=
  ∀ c ∈ cs.getLast?, isBlank c = false

theorem endsSolid_nil : EndsSolid [] := by
  intro c last
  cases last

theorem EndsSolid.append {cs ds : List Char} (h : EndsSolid cs) (h' : EndsSolid ds) :
    EndsSolid (cs ++ ds) := by
  intro c last
  rw [List.getLast?_append] at last
  cases ends : ds.getLast? with
  | none => exact h c (by simpa [ends] using last)
  | some d => exact h' c (by simpa [ends] using last)

theorem Attribute.endsSolid (a : Attribute) : EndsSolid a.text := by
  intro c last
  rcases a.getLast?_text c last with word | rfl | rfl
  · exact isBlank_of_isWord word
  · decide
  · decide

theorem Mark.solid (m : Mark) : ∀ c ∈ m.text, isBlank c = false := by
  cases m <;> decide

/-- The text of a field from its base type on. -/
def Field.back : List Char :=
  (f.base.chars ++ f.mark.text) ++ f.attributes.flatMap Attribute.text

theorem Field.core_eq : f.core = (f.name.chars ++ f.gap.chars) ++ f.back := by
  simp [Field.core, Field.back]

theorem Field.solid_type : ∀ c ∈ f.base.chars ++ f.mark.text, isBlank c = false := by
  intro c member
  exact (List.mem_append.mp member).elim (f.base.solid c) (f.mark.solid c)

theorem Field.type_ne_nil : f.base.chars ++ f.mark.text ≠ [] :=
  List.append_ne_nil_of_left_ne_nil f.base.nonempty _

theorem Field.endsSolid_core : EndsSolid f.core := by
  have type : EndsSolid (f.base.chars ++ f.mark.text) :=
    fun c last => f.solid_type c (List.mem_of_getLast? last)
  have attributes : EndsSolid (f.attributes.flatMap Attribute.text) :=
    flatMap_of_append endsSolid_nil EndsSolid.append fun a _ => a.endsSolid
  have nonempty : f.back ≠ [] := List.append_ne_nil_of_left_ne_nil f.type_ne_nil _
  rw [EndsSolid, f.core_eq, List.getLast?_append_of_ne_nil _ nonempty]
  exact type.append attributes

theorem Field.head?_core : ∃ c, f.core.head? = some c ∧ isWord c := by
  obtain ⟨d, ds, chars⟩ := List.exists_cons_of_ne_nil f.name.nonempty
  exact ⟨d, by simp [Field.core, chars], f.name.word d (by simp [chars])⟩

theorem Field.trim_line : trim f.line = f.core := by
  obtain ⟨d, first, word⟩ := f.head?_core
  refine trim_append f.indent.blank f.trail.blank ?_ ?_ f.endsSolid_core
  · exact List.append_ne_nil_of_left_ne_nil f.name.nonempty _
  · intro c member
    rw [first] at member
    cases member
    exact isBlank_of_isWord word

theorem Field.words_core : words f.core =
    f.name.chars :: (f.base.chars ++ f.mark.text) :: words (f.attributes.flatMap Attribute.text) := by
  rw [f.core_eq, List.append_assoc,
    words_word_append f.name.nonempty f.name.solid (f.gap.isBlank_head? _),
    words_blank_append f.gap.blank, Field.back,
    words_word_append f.type_ne_nil f.solid_type (isBlank_head?_attributes f.attributes)]

theorem Field.dropWhile_core : f.core.dropWhile (· ≠ '@') =
    (f.attributes.flatMap Attribute.text).dropWhile (· ≠ '@') := by
  have free : '@' ∉ (f.name.chars ++ f.gap.chars) ++ (f.base.chars ++ f.mark.text) := by
    have mark : '@' ∉ f.mark.text := by cases f.mark <;> decide
    simp only [List.mem_append, not_or]
    exact ⟨⟨f.name.not_mem (by decide), f.gap.not_mem (by decide)⟩,
      f.base.not_mem (by decide), mark⟩
  rw [f.core_eq, Field.back, ← List.append_assoc, List.dropWhile_append_of_pos]
  intro c member
  rw [decide_eq_true_eq]
  rintro rfl
  exact free member

def Field.found : List Block.Attribute :=
  findAll fieldAttribute ((f.attributes.flatMap Attribute.text).dropWhile (· ≠ '@'))

def Mark.constraints : Mark → List String
  | .none => []
  | .optional => ["optional"]
  | .array => ["array"]

theorem Field.line?_line (declared : List String) :
    line? declared f.line = some
      { field := ⟨f.name.name, f.base.name,
          f.mark.constraints ++ f.found.filterMap Block.Attribute.constraint?⟩
        relation :=
          if f.found.any (·.name == "relation") || declared.contains (entityKey f.base.name) then
            some ⟨f.name.name, entityName f.base.name,
              if f.mark == .array then .oneToMany else .oneToOne⟩
          else none } := by
  obtain ⟨d, first, word⟩ := f.head?_core
  have unmarked : (f.core.head? == some '@') = false := by
    rw [first]
    refine beq_eq_false_iff_ne.mpr fun at_sign => ?_
    cases at_sign
    cases word
  have marks : (if f.mark == .optional then ["optional"] else []) ++
      (if f.mark == .array then ["array"] else []) = f.mark.constraints := by
    cases f.mark <;> rfl
  unfold line?
  simp only [f.trim_line, unmarked, f.words_core, f.dropWhile_core, baseType_mark, getLast?_mark,
    isSuffixOf_mark, marks, Bool.false_eq_true, if_false]
  rfl

end FieldLines

section Texts

def written (bs : List Block) : String :=
  String.ofList (bs.flatMap Block.text)

theorem parse_written {bs : List Block} (sound : ∀ b ∈ bs, ∀ l ∈ b.lines, Sound l) :
    parse (written bs) = assemble (bs.map Block.declaration) := by
  rw [parse, written, String.toList_ofList, declarations_blocks sound]

theorem lines_body {b : Block} (sound : ∀ l ∈ b.lines, Sound l) :
    lines b.body = b.heading.trail.chars :: b.lines := by
  rw [Block.body, lines_append b.heading.trail.no_newline,
    lines_flatMap fun l member => (sound l member).inline]

theorem line?_space (declared : List String) (s : Space) : line? declared s.chars = none := by
  have blank : trim s.chars = [] := by
    have empty : s.chars.dropWhile isBlank = [] := by simpa using s.blank
    rw [trim, empty]
    rfl
  unfold line?
  rw [blank]
  rfl

structure Model where
  heading : Heading
  fields : List Field

def Model.block (m : Model) : Block :=
  ⟨.model, m.heading, m.fields.map Field.line⟩

def Model.name (m : Model) : String :=
  m.heading.name.name

/-- No attribute holds what looks like a comment. -/
def Model.Clear (m : Model) : Prop :=
  ∀ f ∈ m.fields, ∀ a ∈ f.attributes, ¬ ['/', '/'] <:+: a.text

instance (m : Model) : Decidable m.Clear :=
  inferInstanceAs (Decidable (∀ f ∈ m.fields, ∀ a ∈ f.attributes, ¬ ['/', '/'] <:+: a.text))

theorem Model.Clear.sound {m : Model} (clear : m.Clear) : ∀ l ∈ m.block.lines, Sound l := by
  intro l member
  obtain ⟨f, held, rfl⟩ := List.mem_map.mp member
  exact f.sound (clear f held)

theorem Model.Clear.filterMap_line? {m : Model} (clear : m.Clear) (declared : List String) :
    (lines m.block.body).filterMap (line? declared) =
      m.fields.filterMap fun f => line? declared f.line := by
  rw [lines_body clear.sound, List.filterMap_cons, line?_space, Model.block, List.filterMap_map]
  rfl

theorem Model.Clear.map_fieldsIn {m : Model} (clear : m.Clear) :
    (fieldsIn m.block.body).map (fun x => (x.name, x.type)) =
      m.fields.map fun f => (f.name.name, f.base.name) := by
  have read : fieldsIn m.block.body =
      ((lines m.block.body).filterMap (line? [])).map (·.field) := by
    rw [fieldsIn, List.map_filterMap]
  rw [read, clear.filterMap_line?, List.map_map]
  simp [Field.line?_line]

theorem entities_of_distinct {blocks : List Declaration}
    (distinct : ((modelsOf blocks).map Declaration.key).Nodup) :
    (assemble blocks).entities = Block.markManyToMany (entitiesOf blocks) := by
  have keys : (entitiesOf blocks).map Entity.key = (modelsOf blocks).map Declaration.key := by
    simp [entitiesOf, modelsOf, Function.comp_def, Block.model, Entity.key, Declaration.key]
  rw [Block.entities_assemble, mergeEntities_of_nodup (keys ▸ distinct)]

/-- A model has an entity, with its fields alone when it shares its key with no other. -/
theorem exists_entity {blocks : List Declaration} {b : Declaration} (member : b ∈ blocks)
    (keyword : b.keyword = .model) :
    ∃ e ∈ (assemble blocks).entities, e.key = b.key ∧
      (((modelsOf blocks).map Declaration.key).Nodup → e.fields = fieldsIn b.body) := by
  by_cases distinct : ((modelsOf blocks).map Declaration.key).Nodup
  · obtain ⟨d, held, key, fields⟩ := (@Block.mem_entitiesOf blocks
      fun key fields => key = b.key ∧ fields = fieldsIn b.body).mpr ⟨b, member, keyword, rfl, rfl⟩
    have marked : (d.name, d.fields) ∈
        (assemble blocks).entities.map fun e => (e.name, e.fields) := by
      rw [entities_of_distinct distinct, Block.map_markManyToMany]
      exact List.mem_map_of_mem held
    obtain ⟨e, merged, same⟩ := List.mem_map.mp marked
    obtain ⟨names, sameFields⟩ := Prod.mk.inj same
    exact ⟨e, merged, (congrArg entityKey names).trans key, fun _ => sameFields.trans fields⟩
  · obtain ⟨e, merged, key⟩ := List.mem_map.mp (Block.mem_keys_assemble.mpr ⟨b, member, keyword, rfl⟩)
    exact ⟨e, merged, key, fun nodup => absurd nodup distinct⟩

/-- Every model of a text is read with all its fields, and with no others when no other model has
its key. -/
theorem models_are_read (ms : List Model) (clear : ∀ m ∈ ms, m.Clear) :
    ∀ m ∈ ms, ∃ e ∈ (parse (written (ms.map Model.block))).entities,
      e.key = entityKey (entityName m.name) ∧
      (∀ f ∈ m.fields, f.name.name ∈ e.fields.map (·.name)) ∧
      ((ms.map fun m => entityKey (entityName m.name)).Nodup →
        e.fields.map (fun x => (x.name, x.type)) =
          m.fields.map fun f => (f.name.name, f.base.name)) := by
  have sound : ∀ b ∈ ms.map Model.block, ∀ l ∈ b.lines, Sound l := by
    intro b member
    obtain ⟨m, held, rfl⟩ := List.mem_map.mp member
    exact (clear m held).sound
  rw [parse_written sound, List.map_map]
  let blocks := ms.map (Block.declaration ∘ Model.block)
  have keys : (modelsOf blocks).map Declaration.key =
      ms.map fun m => entityKey (entityName m.name) := by
    have all : modelsOf blocks = blocks := by
      rw [modelsOf, List.filter_eq_self]
      simp [blocks, Model.block, Block.declaration]
    rw [all, List.map_map]
    rfl
  intro m member
  have held : m.block.declaration ∈ blocks := List.mem_map_of_mem member
  have fields := (clear m member).map_fieldsIn
  obtain ⟨e, merged, key, exactly⟩ := exists_entity held rfl
  rw [keys] at exactly
  refine ⟨e, merged, key, fun f within => ?_, fun nodup => ?_⟩
  · refine (Block.mem_fields_assemble merged).mpr ⟨_, held, rfl, key.symm, ?_⟩
    have pair : (f.name.name, f.base.name) ∈
        (fieldsIn m.block.body).map fun x => (x.name, x.type) :=
      fields ▸ List.mem_map_of_mem within
    obtain ⟨x, read, same⟩ := List.mem_map.mp pair
    exact List.mem_map.mpr ⟨x, read, congrArg Prod.fst same⟩
  · rw [exactly nodup]
    exact fields

/-- A model with one field, which has a string as its default. -/
def setting (w : List Char) (plain : ∀ c ∈ w, c ∉ ['"', '\\', '\n']) : Model where
  heading := .usual (.ofString "Setting")
  fields := [.usual (.ofString "url") (.ofString "String") .none
    [.usual "default" (some [.string w plain])]]

def user : Model where
  heading := .usual (.ofString "User")
  fields := [
    .usual (.ofString "id") (.ofString "Int") .none [.usual "id" none,
      .usual "default" (some (List.pmap .char "now()".toList (by decide)))],
    .usual (.ofString "nick") (.ofString "String") .optional [.usual "unique" none],
    .usual (.ofString "posts") (.ofString "BlogPost") .array []]

/-- Braces, parentheses and further attributes in a string do no harm. -/
theorem models_are_read_setting :
    let ms := [setting "a\x7d (b @id \x7b model X \x7b".toList (by decide), user]
    (∀ m ∈ ms, m.Clear) ∧ ∃ e ∈ (parse (written (ms.map Model.block))).entities,
      e.key = "setting" ∧ e.fields.map (fun x => (x.name, x.type)) = [("url", "String")] := by
  refine ⟨by decide +kernel, ?_⟩
  obtain ⟨e, member, key, -, fields⟩ := models_are_read
    [setting "a\x7d (b @id \x7b model X \x7b".toList (by decide), user] (by decide +kernel) _
    List.mem_cons_self
  exact ⟨e, member, key.trans (by decide +kernel), fields (by decide +kernel)⟩

/-- Two slashes in a string take its model away: what follows them goes as a comment, and with it the
end of the string. -/
theorem slashes_in_literal_lose_model :
    let ms := [setting "http://x".toList (by decide)]
    ¬ ∀ m ∈ ms, ∃ e ∈ (parse (written (ms.map Model.block))).entities,
      e.key = entityKey (entityName m.name) := by
  decide +kernel

end Texts

end Survey.Schema.Written
