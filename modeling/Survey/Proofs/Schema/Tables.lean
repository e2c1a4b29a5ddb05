import Survey.Proofs.Schema.Merge

/-!
What table variables stand for. The relations declared for a variable go to the first table bound to
it, and what refers to it leads to the last one. The two are one entity exactly when their names have
one key, so whenever the variable is bound once.
-/
namespace Survey.Schema.Builder

section Bindings

variable {α β : Type} {key : α → String} {items : List α}

theorem lookup_map (f : α → β) (items : List α) (k : String) :
    (items.map fun a => (key a, f a)).lookup k = (items.find? (key · == k)).map f := by
  induction items with
  | nil => rfl
  | cons a items ih =>
      rw [List.map_cons, List.lookup_cons, List.find?_cons, ih, BEq.comm]
      cases key a == k <;> rfl

/-- The last binding of a name is that of the last item with it. -/
theorem lastBinding?_map (f : α → β) (items : List α) (k : String) :
    lastBinding? (items.map fun a => (key a, f a)) k = (items.reverse.find? (key · == k)).map f := by
  rw [lastBinding?, ← List.map_reverse, lookup_map]

end Bindings

section Declared

def declared (sources : List (String × String)) (parser : Syntax.Parser := Syntax.Script.parse?) :
    List Declaration :=
  sources.flatMap fun source => declarationsIn source.1 source.2 parser

theorem parse_eq (sources : List (String × String)) (parser : Syntax.Parser) :
    parse sources parser = assemble (declared sources parser) :=
  rfl

def tablesIn (ds : List Declaration) : List Table :=
  ds.filterMap Declaration.table?

def enumsIn (ds : List Declaration) : List EnumBinding :=
  ds.filterMap Declaration.enumeration?

def relationsIn (ds : List Declaration) : List Relations :=
  ds.filterMap Declaration.relations?

/-- The entries that are declared for a variable, in their order. -/
def entriesFor (rs : List Relations) (v : String) : List Entry :=
  (rs.filter (·.table == v)).flatMap Relations.entries

/-- The key of the entity that a table becomes. -/
def Table.key (t : Table) : String :=
  entityKey (entityName t.name)

def enumNames (ds : List Declaration) : List (String × String) :=
  (enumsIn ds).map fun e => (e.var, e.enumeration.name)

def tableNames (ds : List Declaration) : List (String × String) :=
  (tablesIn ds).map fun t => (t.var, entityName t.name)

end Declared

section Settled

variable {enums names : List (String × String)} {rs : List Relations} {ts : List Table} {t : Table}
  {e : Entity} {v : String}

/-- The relation that an entry makes when its target is known. -/
def Entry.relation? (names : List (String × String)) (n : Entry) : Option Relation :=
  (lastBinding? names n.target).map fun target =>
    ⟨n.field, target, if n.toMany then .oneToMany else .oneToOne⟩

theorem addEntry_eq (names : List (String × String)) (e : Entity) (n : Entry) :
    addEntry names e n =
      { e with relations := addNew Relation.field e.relations (n.relation? names).toList } := by
  unfold addEntry Entry.relation?
  cases lastBinding? names n.target with
  | none => rfl
  | some target =>
      simp only [Option.map_some, Option.toList_some, addNew, List.foldl_cons, List.foldl_nil]
      split <;> rfl

theorem foldl_addEntry (names : List (String × String)) (entries : List Entry) (e : Entity) :
    entries.foldl (addEntry names) e =
      { e with
        relations := addNew Relation.field e.relations (entries.filterMap (Entry.relation? names)) } := by
  induction entries generalizing e with
  | nil => rfl
  | cons n entries ih =>
      rw [List.foldl_cons, ih, addEntry_eq, ← addNew_append, List.filterMap_cons]
      cases n.relation? names <;> rfl

/-- The entity of a table that takes the relations declared for its variable. -/
def Table.entity (enums names : List (String × String)) (rs : List Relations) (t : Table) : Entity :=
  let plain := entityOf enums names t
  { plain with
    relations := addNew Relation.field plain.relations
      ((entriesFor rs t.var).filterMap (Entry.relation? names)) }

/-- The entities of tables. The first table of a variable takes all relations declared for it. -/
def settle (enums names : List (String × String)) : List Relations → List Table → List Entity
  | _, [] => []
  | rs, t :: ts => t.entity enums names rs :: settle enums names (rs.filter (·.table != t.var)) ts

theorem foldl_modifyFirst (f : Relations → Entity → Entity) (rs : List Relations) (v : String)
    (e : Entity) (es : List (String × Entity)) :
    rs.foldl (fun es r => modifyFirst r.table (f r) es) ((v, e) :: es) =
      (v, (rs.filter (·.table == v)).foldl (fun e r => f r e) e) ::
        (rs.filter (·.table != v)).foldl (fun es r => modifyFirst r.table (f r) es) es := by
  induction rs generalizing e es with
  | nil => rfl
  | cons r rs ih =>
      rw [List.foldl_cons, modifyFirst]
      by_cases same : v = r.table
      · subst same
        simp [ih]
      · simp [same, Ne.symm same, ih]

theorem map_snd_related (enums names : List (String × String)) (rs : List Relations)
    (ts : List Table) :
    (rs.foldl (fun es r => modifyFirst r.table (fun e => r.entries.foldl (addEntry names) e) es)
      (ts.map fun t => (t.var, entityOf enums names t))).map Prod.snd = settle enums names rs ts := by
  induction ts generalizing rs with
  | nil =>
      induction rs with
      | nil => rfl
      | cons r rs ih => exact ih
  | cons t ts ih =>
      rw [List.map_cons, foldl_modifyFirst fun r e => r.entries.foldl (addEntry names) e, List.map_cons,
        ih, settle, ← List.foldl_flatMap, foldl_addEntry]
      rfl

/-- The entities of all tables, before those of one key are merged. -/
def settled (ds : List Declaration) : List Entity :=
  settle (enumNames ds) (tableNames ds) (relationsIn ds) (tablesIn ds)

theorem entities_assemble (ds : List Declaration) :
    (assemble ds).entities = mergeEntities (settled ds) := by
  rw [settled, ← map_snd_related]
  rfl

theorem nodup_keys_assemble (ds : List Declaration) :
    ((assemble ds).entities.map Entity.key).Nodup := by
  rw [entities_assemble]
  exact nodup_keys_mergeEntities _

theorem entity_filter_self (enums names : List (String × String)) (rs : List Relations) (t : Table) :
    t.entity enums names (rs.filter (·.table != t.var)) = t.entity enums names [] := by
  have none : entriesFor (rs.filter (·.table != t.var)) t.var = [] := by
    simp [entriesFor, List.filter_filter]
  rw [Table.entity, none]
  rfl

theorem entity_filter_of_ne {w : String} (other : t.var ≠ w) :
    t.entity enums names (rs.filter (·.table != w)) = t.entity enums names rs := by
  have same : entriesFor (rs.filter (·.table != w)) t.var = entriesFor rs t.var := by
    rw [entriesFor, entriesFor, List.filter_filter]
    congr 1
    apply List.filter_congr
    intro r _
    by_cases named : r.table = t.var
    · simp [named, other]
    · simp [named]
  rw [Table.entity, same]
  rfl

/-- The first table of a variable takes the relations declared for it. -/
theorem mem_settle_of_first (first : ts.find? (·.var == v) = some t) :
    t.entity enums names rs ∈ settle enums names rs ts := by
  induction ts generalizing rs with
  | nil => cases first
  | cons u ts ih =>
      by_cases same : u.var = v
      · rw [List.find?_cons_of_pos (by simpa using same)] at first
        cases first
        exact List.mem_cons_self
      · rw [List.find?_cons_of_neg (by simpa using same)] at first
        have matched := List.find?_some first
        have named : t.var = v := eq_of_beq matched
        have later : t.entity enums names (rs.filter (·.table != u.var)) ∈ _ := ih first
        rw [entity_filter_of_ne (by rw [named]; exact Ne.symm same)] at later
        exact List.mem_cons_of_mem _ later

theorem exists_of_mem_settle (member : e ∈ settle enums names rs ts) :
    ∃ t ∈ ts, ∃ taken, e = t.entity enums names taken ∧
      (taken = [] ∨ taken = rs ∧ ts.find? (·.var == t.var) = some t) := by
  induction ts generalizing rs with
  | nil => cases member
  | cons u ts ih =>
      rcases List.mem_cons.mp member with rfl | later
      · exact ⟨u, List.mem_cons_self, rs, rfl, Or.inr ⟨rfl, by simp⟩⟩
      · obtain ⟨t, listed, taken, rfl, rfl | ⟨rfl, first⟩⟩ := ih later
        · exact ⟨t, List.mem_cons_of_mem u listed, [], rfl, Or.inl rfl⟩
        · refine ⟨t, List.mem_cons_of_mem u listed, ?_⟩
          -- What was declared for a variable bound before is taken by now.
          by_cases same : u.var = t.var
          · exact ⟨[], by rw [same, entity_filter_self], Or.inl rfl⟩
          · refine ⟨rs, entity_filter_of_ne (Ne.symm same), Or.inr ⟨rfl, ?_⟩⟩
            rw [List.find?_cons_of_neg (by simpa using same)]
            exact first

theorem exists_settled (member : t ∈ ts) :
    ∃ taken, t.entity enums names taken ∈ settle enums names rs ts := by
  induction ts generalizing rs with
  | nil => cases member
  | cons u ts ih =>
      rcases List.mem_cons.mp member with rfl | later
      · exact ⟨rs, List.mem_cons_self⟩
      · obtain ⟨taken, settled⟩ := ih later
        exact ⟨taken, List.mem_cons_of_mem _ settled⟩

end Settled

section Variables

variable {ds : List Declaration} {e : Entity} {q : Relation} {t u : Table} {v w : String}

def first? (ds : List Declaration) (v : String) : Option Table :=
  (tablesIn ds).find? (·.var == v)

def last? (ds : List Declaration) (v : String) : Option Table :=
  (tablesIn ds).reverse.find? (·.var == v)

def entityFor? (ds : List Declaration) (t : Table) : Option Entity :=
  (assemble ds).entity? (entityName t.name)

def owner? (ds : List Declaration) (v : String) : Option Entity :=
  (first? ds v).bind (entityFor? ds)

/-- The entity that a variable means where it is referred to. -/
def target? (ds : List Declaration) (v : String) : Option Entity :=
  (last? ds v).bind (entityFor? ds)

/-- A relation is that of a column of a table of the entity, which refers to a variable. -/
def FromColumn (ds : List Declaration) (e : Entity) (q : Relation) (w : String) : Prop :=
  ∃ t ∈ tablesIn ds, t.key = e.key ∧
    ∃ c ∈ t.columns, c.name = q.field ∧ c.reference = some w ∧ q.cardinality = .oneToOne

/-- A relation is that of an entry declared for one variable, which names another. -/
def FromEntry (ds : List Declaration) (v : String) (q : Relation) (w : String) : Prop :=
  ∃ n ∈ entriesFor (relationsIn ds) v, n.field = q.field ∧ n.target = w ∧
    q.cardinality = if n.toMany then .oneToMany else .oneToOne

theorem mem_of_first? (first : first? ds v = some t) : t ∈ tablesIn ds :=
  List.mem_of_find?_eq_some first

theorem mem_of_last? (last : last? ds v = some t) : t ∈ tablesIn ds :=
  List.mem_reverse.mp (List.mem_of_find?_eq_some last)

theorem lastBinding?_tableNames (ds : List Declaration) (w : String) :
    lastBinding? (tableNames ds) w = (last? ds w).map fun u => entityName u.name :=
  lastBinding?_map _ _ _

theorem entityFor?_eq_some_iff :
    entityFor? ds t = some e ↔ e ∈ (assemble ds).entities ∧ e.key = t.key :=
  Keyed.find?_eq_some_iff (nodup_keys_assemble ds)

theorem exists_entityFor (member : t ∈ tablesIn ds) : ∃ e, entityFor? ds t = some e := by
  obtain ⟨taken, made⟩ := exists_settled member
  obtain ⟨e, merged, key⟩ := exists_merged made
  exact ⟨e, entityFor?_eq_some_iff.mpr ⟨entities_assemble ds ▸ merged, key⟩⟩

theorem exists_target (last : last? ds w = some u) :
    ∃ d, target? ds w = some d ∧ entityFor? ds u = some d := by
  obtain ⟨d, found⟩ := exists_entityFor (mem_of_last? last)
  exact ⟨d, by rw [target?, last, Option.bind_some, found], found⟩

theorem exists_last (known : (target? ds w).isSome) : ∃ u, last? ds w = some u := by
  obtain ⟨d, meant⟩ := Option.isSome_iff_exists.mp known
  obtain ⟨u, last, _⟩ := Option.bind_eq_some_iff.mp meant
  exact ⟨u, last⟩

theorem relation?_of_declared {n : Entry} (known : (target? ds n.target).isSome) :
    ∃ q, n.relation? (tableNames ds) = some q ∧ q.field = n.field := by
  obtain ⟨u, last⟩ := exists_last known
  rw [Entry.relation?, lastBinding?_tableNames, last]
  exact ⟨_, rfl, rfl⟩

theorem field_mem_of_settled {taken : List Relations} {field : String}
    (found : entityFor? ds t = some e)
    (made : t.entity (enumNames ds) (tableNames ds) taken ∈ settled ds)
    (held : field ∈ (t.entity (enumNames ds) (tableNames ds) taken).relations.map Relation.field) :
    field ∈ e.relations.map Relation.field := by
  obtain ⟨member, key⟩ := entityFor?_eq_some_iff.mp found
  rw [entities_assemble] at member
  exact (merges_of_mem member).mem_relations.mpr ⟨_, made, key.symm, held⟩

theorem field_mem_owner (owned : owner? ds v = some e) {n : Entry}
    (listed : n ∈ entriesFor (relationsIn ds) v) (known : (target? ds n.target).isSome) :
    n.field ∈ e.relations.map Relation.field := by
  obtain ⟨t, first, found⟩ := Option.bind_eq_some_iff.mp owned
  have matched := List.find?_some first
  obtain rfl : t.var = v := eq_of_beq matched
  obtain ⟨q, made, field⟩ := relation?_of_declared known
  apply field_mem_of_settled found (mem_settle_of_first first)
  apply (gathers_addNew _ _ _).mem_names.mpr
  exact Or.inr (field ▸ List.mem_map_of_mem (List.mem_filterMap.mpr ⟨n, listed, made⟩))

theorem field_mem_of_reference (bound : t ∈ tablesIn ds) {c : Column} (listed : c ∈ t.columns)
    (refers : c.reference = some w) (known : (target? ds w).isSome) :
    ∃ e ∈ (assemble ds).entities, e.key = t.key ∧ c.name ∈ e.relations.map Relation.field := by
  obtain ⟨e, found⟩ := exists_entityFor bound
  obtain ⟨member, key⟩ := entityFor?_eq_some_iff.mp found
  obtain ⟨taken, made⟩ := exists_settled bound
  refine ⟨e, member, key, field_mem_of_settled found made ?_⟩
  apply (gathers_addNew _ _ _).mem_names.mpr
  obtain ⟨u, last⟩ := exists_last known
  refine Or.inl (List.mem_map.mpr ⟨⟨c.name, entityName u.name, .oneToOne⟩, ?_, rfl⟩)
  apply List.mem_filterMap.mpr
  exact ⟨c, listed, by simp [refers, lastBinding?_tableNames, last]⟩

/-- A relation names the last table of the variable it is written with. -/
theorem exists_of_mem_relations_entity {taken : List Relations}
    (held : q ∈ (t.entity (enumNames ds) (tableNames ds) taken).relations) :
    ∃ w u, last? ds w = some u ∧ q.target = entityName u.name ∧
      ((∃ c ∈ t.columns, c.name = q.field ∧ c.reference = some w ∧ q.cardinality = .oneToOne) ∨
        ∃ n ∈ entriesFor taken t.var, n.field = q.field ∧ n.target = w ∧
          q.cardinality = if n.toMany then .oneToMany else .oneToOne) := by
  rcases (gathers_addNew _ _ _).mem_or held with plain | entered
  · obtain ⟨c, listed, made⟩ := List.mem_filterMap.mp plain
    obtain ⟨name, refers, rfl⟩ := Option.map_eq_some_iff.mp made
    obtain ⟨w, reference, binding⟩ := Option.bind_eq_some_iff.mp refers
    rw [lastBinding?_tableNames] at binding
    obtain ⟨u, last, rfl⟩ := Option.map_eq_some_iff.mp binding
    exact ⟨w, u, last, rfl, Or.inl ⟨c, listed, rfl, reference, rfl⟩⟩
  · obtain ⟨n, listed, made⟩ := List.mem_filterMap.mp entered
    obtain ⟨name, binding, rfl⟩ := Option.map_eq_some_iff.mp made
    rw [lastBinding?_tableNames] at binding
    obtain ⟨u, last, rfl⟩ := Option.map_eq_some_iff.mp binding
    exact ⟨n.target, u, last, rfl, Or.inr ⟨n, listed, rfl, rfl, rfl⟩⟩

/-- Every relation is written in a column of its entity or declared for a variable that its entity
owns, and leads to the target of the variable it is written with. -/
theorem source_of_relation (member : e ∈ (assemble ds).entities) (held : q ∈ e.relations) :
    ∃ w d, target? ds w = some d ∧ (assemble ds).entity? q.target = some d ∧
      (FromColumn ds e q w ∨ ∃ v, owner? ds v = some e ∧ FromEntry ds v q w) := by
  have merged := member
  rw [entities_assemble] at merged
  obtain ⟨x, made, key, related⟩ := (merges_of_mem merged).exists_of_mem_relations held
  obtain ⟨t, bound, taken, rfl, whose⟩ := exists_of_mem_settle made
  obtain ⟨w, u, last, target, written⟩ := exists_of_mem_relations_entity related
  obtain ⟨d, meant, found⟩ := exists_target last
  refine ⟨w, d, meant, target ▸ found, ?_⟩
  rcases written with ⟨c, column⟩ | ⟨n, listed, entry⟩
  · exact Or.inl ⟨t, bound, key, c, column⟩
  · -- Only the first table of its variable has entries.
    rcases whose with rfl | ⟨rfl, first⟩
    · cases listed
    · refine Or.inr ⟨t.var, ?_, n, listed, entry⟩
      rw [owner?, first?, first]
      exact entityFor?_eq_some_iff.mpr ⟨member, key.symm⟩

theorem isSome_first?_iff : (first? ds v).isSome ↔ (last? ds v).isSome := by
  simp [first?, last?, List.find?_isSome]

/-- A variable owns and means one entity exactly when its first and last table have one key. -/
theorem owner?_eq_target?_iff :
    owner? ds v = target? ds v ↔ (first? ds v).map Table.key = (last? ds v).map Table.key := by
  have both := @isSome_first?_iff ds v
  cases first : first? ds v with
  | none =>
      rw [first] at both
      cases last : last? ds v with
      | none => simp [owner?, target?, first, last]
      | some u => simp [last] at both
  | some t =>
      rw [first] at both
      obtain ⟨u, last⟩ := Option.isSome_iff_exists.mp (both.mp rfl)
      obtain ⟨e, owned⟩ := exists_entityFor (mem_of_first? first)
      obtain ⟨d, meant⟩ := exists_entityFor (mem_of_last? last)
      obtain ⟨held, key⟩ := entityFor?_eq_some_iff.mp owned
      obtain ⟨listed, same⟩ := entityFor?_eq_some_iff.mp meant
      simp only [owner?, target?, first, last, Option.bind_some, owned, meant, Option.map_some,
        Option.some.injEq, ← key, ← same]
      constructor
      · exact congrArg Entity.key
      · exact List.inj_on_of_nodup_map (nodup_keys_assemble ds) held listed

/-- The relations of a schema follow the variables that they are written with: those declared for a
variable stand at the entity that owns it, a reference stands at the entity of its table, and all lead
to the entity that the other variable means. -/
structure FollowsVariables (ds : List Declaration) (s : Schema) : Prop where
  declared : ∀ v e, owner? ds v = some e → ∀ n ∈ entriesFor (relationsIn ds) v,
    (target? ds n.target).isSome → n.field ∈ e.relations.map Relation.field
  referred : ∀ t ∈ tablesIn ds, ∀ c ∈ t.columns, ∀ w, c.reference = some w → (target? ds w).isSome →
    ∃ e ∈ s.entities, e.key = t.key ∧ c.name ∈ e.relations.map Relation.field
  written : ∀ e ∈ s.entities, ∀ q ∈ e.relations,
    ∃ w d, target? ds w = some d ∧ s.entity? q.target = some d ∧
      (FromColumn ds e q w ∨ ∃ v, owner? ds v = some e ∧ FromEntry ds v q w)

theorem followsVariables_assemble (ds : List Declaration) : FollowsVariables ds (assemble ds) where
  declared _ _ owned _ listed known := field_mem_owner owned listed known
  referred _ bound _ listed _ refers known := field_mem_of_reference bound listed refers known
  written _ member _ held := source_of_relation member held

/-- The relations of a schema follow its table variables. A variable is owned by the entity of its
first table and means the entity of its last, which is the same one when the two tables have one key,
and only then. -/
theorem relations_follow_variables (sources : List (String × String)) (parser : Syntax.Parser) :
    FollowsVariables (declared sources parser) (parse sources parser) ∧
      ∀ v, owner? (declared sources parser) v = target? (declared sources parser) v ↔
        (first? (declared sources parser) v).map Table.key =
          (last? (declared sources parser) v).map Table.key := by
  rw [parse_eq]
  exact ⟨followsVariables_assemble _, fun _ => owner?_eq_target?_iff⟩

end Variables

section Scripts

/-- Members under the variable of users, with the relations declared for it. -/
def membersScript : String × String :=
  ("db/members.ts", "const users=pgTable('members',\x7b\x7d);const r=relations(users,(\x7bmany\x7d)=>(\x7bposts:many(posts)\x7d))")

def guestsScript : String × String :=
  ("db/guests.ts", "const users=pgTable('guests',\x7b\x7d)")

/-- Posts with a reference to users and a column of an enumeration. -/
def postsScript : String × String :=
  ("db/posts.ts", "const posts=pgTable('posts',\x7bby:int().references(()=>users.id),kind:kinds()\x7d)")

theorem declarationsIn_membersScript :
    declarationsIn membersScript.1 membersScript.2 =
      [.table ⟨"users", "members", []⟩, .relations ⟨"users", [⟨"posts", true, "posts"⟩]⟩] := by
  decide +kernel

theorem declarationsIn_guestsScript :
    declarationsIn guestsScript.1 guestsScript.2 = [.table ⟨"users", "guests", []⟩] := by
  decide +kernel

theorem declarationsIn_postsScript :
    declarationsIn postsScript.1 postsScript.2 =
      [.table ⟨"posts", "posts", [⟨"by", "int", [], some "users"⟩, ⟨"kind", "kinds", [], none⟩]⟩] := by
  decide +kernel

def userScripts : List (String × String) :=
  [membersScript, guestsScript, postsScript]

theorem declared_userScripts :
    declared userScripts =
      [.table ⟨"users", "members", []⟩, .relations ⟨"users", [⟨"posts", true, "posts"⟩]⟩,
        .table ⟨"users", "guests", []⟩,
        .table ⟨"posts", "posts", [⟨"by", "int", [], some "users"⟩, ⟨"kind", "kinds", [], none⟩]⟩] := by
  simp only [declared, userScripts, List.flatMap_cons, List.flatMap_nil, declarationsIn_membersScript,
    declarationsIn_guestsScript, declarationsIn_postsScript, List.cons_append, List.nil_append]

/-- The relations declared for users stand at the members, and the reference to users leads to the
guests. -/
theorem users_owned_and_meant_apart :
    (parse userScripts).entities.map (fun e => (e.name, e.relations)) =
      [("Members", [⟨"posts", "Posts", .oneToMany⟩]), ("Guests", []),
        ("Posts", [⟨"by", "Guests", .oneToOne⟩])] ∧
    ¬ ∀ v, owner? (declared userScripts) v = target? (declared userScripts) v := by
  rw [parse_eq, declared_userScripts]
  constructor
  · decide +kernel
  · intro same
    exact absurd (same "users") (by decide +kernel)

def members : Entity :=
  ⟨"Members", [], [⟨"posts", "Posts", .oneToMany⟩]⟩

theorem members_hold_declared_posts :
    owner? (declared userScripts) "users" = some members ∧
    ⟨"posts", true, "posts"⟩ ∈ entriesFor (relationsIn (declared userScripts)) "users" ∧
    (target? (declared userScripts) "posts").isSome ∧
    "posts" ∈ members.relations.map Relation.field := by
  have owned : owner? (declared userScripts) "users" = some members := by
    rw [declared_userScripts]
    decide +kernel
  have listed : ⟨"posts", true, "posts"⟩ ∈
      entriesFor (relationsIn (declared userScripts)) "users" := by
    rw [declared_userScripts]
    decide
  have known : (target? (declared userScripts) "posts").isSome := by
    rw [declared_userScripts]
    decide +kernel
  exact ⟨owned, listed, known,
    (relations_follow_variables userScripts _).1.declared _ _ owned _ listed known⟩

end Scripts

end Survey.Schema.Builder
