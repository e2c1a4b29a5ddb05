import Mathlib.Data.List.Forall2
import Survey.Proofs.Schema.Tables

/-!
The order of scripts. Variables, keys and declared relations that are each written once mean the same
in every order, whether a script refers to those before it or after it, so that a schema depends on
the order of its scripts only in the order of its parts.
-/
namespace Survey.Schema

/-- Entities of one name with the same fields, and with the same relations up to their order. -/
structure Entity.Alike (d e : Entity) : Prop where
  name : d.name = e.name
  fields : d.fields = e.fields
  relations : d.relations.Perm e.relations

/-- Schemas of one dialect with alike entities and the same enumerations, each up to their order. -/
structure Alike (s t : Schema) : Prop where
  dialect : s.dialect = t.dialect
  entities : ∃ es, List.Forall₂ Entity.Alike s.entities es ∧ es.Perm t.entities
  enums : s.enums.Perm t.enums

namespace Builder

variable {enums names : List (String × String)} {rs later : List Relations} {ts : List Table}
  {t : Table} {ds es : List Declaration}

/-- The fields that relations are declared for, each with its table variable. -/
def declaredFields (rs : List Relations) : List (String × String) :=
  rs.flatMap fun r => r.entries.map fun n => (r.table, n.field)

/-- Every table variable, entity key and enumeration variable is declared once, and so is every field
of the relations of a variable. -/
structure Distinct (ds : List Declaration) : Prop where
  vars : ((tablesIn ds).map Table.var).Nodup
  keys : ((tablesIn ds).map Table.key).Nodup
  enums : ((enumsIn ds).map EnumBinding.var).Nodup
  fields : (declaredFields (relationsIn ds)).Nodup

section Bindings

variable {α β : Type} {key : α → String} {items others : List α}

theorem lastBinding?_perm (f : α → β) (perm : items.Perm others) (nodup : (items.map key).Nodup) :
    lastBinding? (items.map fun a => (key a, f a)) =
      lastBinding? (others.map fun a => (key a, f a)) := by
  have back : items.reverse.Perm others.reverse :=
    (List.reverse_perm items).trans (perm.trans (List.reverse_perm others).symm)
  have once : (items.reverse.map key).Nodup := by
    rw [List.map_reverse]
    exact List.nodup_reverse.mpr nodup
  funext k
  rw [lastBinding?_map, lastBinding?_map, Keyed.find?_perm back once]

end Bindings

section Settled

/-- With every variable bound once, each table takes the relations declared for its own. -/
theorem settle_of_nodup (nodup : (ts.map Table.var).Nodup) :
    settle enums names rs ts = ts.map (Table.entity enums names rs) := by
  induction ts generalizing rs with
  | nil => rfl
  | cons t ts ih =>
      obtain ⟨fresh, rest⟩ := List.nodup_cons.mp nodup
      rw [settle, ih rest, List.map_cons]
      congr 1
      apply List.map_congr_left
      intro u listed
      apply entity_filter_of_ne
      intro same
      exact fresh (same ▸ List.mem_map_of_mem listed)

theorem entity_congr {enums' names' : List (String × String)}
    (sameEnums : @lastBinding? String enums = lastBinding? enums')
    (sameNames : @lastBinding? String names = lastBinding? names') :
    Table.entity enums names rs = Table.entity enums' names' rs := by
  have types : columnType enums = columnType enums' := by
    funext c
    rw [columnType, columnType, sameEnums]
  have entries : Entry.relation? names = Entry.relation? names' := by
    funext n
    rw [Entry.relation?, Entry.relation?, sameNames]
  funext t
  simp only [Table.entity, entityOf, types, entries, sameNames]

theorem map_entriesFor (rs : List Relations) (v : String) :
    (entriesFor rs v).map (fun n => (v, n.field)) = (declaredFields rs).filter (·.1 == v) := by
  induction rs with
  | nil => rfl
  | cons r rs ih =>
      rw [declaredFields, List.flatMap_cons, List.filter_append]
      change _ = _ ++ (declaredFields rs).filter (·.1 == v)
      rw [← ih, List.filter_map]
      by_cases named : r.table = v
      · simp [entriesFor, named, Function.comp_def]
      · simp [entriesFor, named, Function.comp_def]

theorem sublist_fields (names : List (String × String)) (entries : List Entry) :
    ((entries.filterMap (Entry.relation? names)).map Relation.field).Sublist
      (entries.map Entry.field) := by
  induction entries with
  | nil => exact List.Sublist.refl []
  | cons n entries ih =>
      rw [List.filterMap_cons, Entry.relation?]
      cases lastBinding? names n.target with
      | none => exact ih.cons n.field
      | some target => exact ih.cons_cons n.field

theorem nodup_fields_relations (once : (declaredFields rs).Nodup) (v : String) :
    (((entriesFor rs v).filterMap (Entry.relation? names)).map Relation.field).Nodup := by
  refine (sublist_fields names _).nodup ?_
  have pairs : (((entriesFor rs v).map Entry.field).map fun field => (v, field)).Nodup := by
    rw [List.map_map]
    change ((entriesFor rs v).map fun n => (v, n.field)).Nodup
    rw [map_entriesFor]
    exact once.filter _
  exact pairs.of_map _

theorem alike_entity (perm : rs.Perm later) (once : (declaredFields rs).Nodup) (t : Table) :
    (t.entity enums names rs).Alike (t.entity enums names later) where
  name := rfl
  fields := rfl
  relations := by
    have entries : (entriesFor rs t.var).Perm (entriesFor later t.var) :=
      (perm.filter _).flatMap_right _
    exact perm_addNew (entries.filterMap _) (nodup_fields_relations once t.var)

theorem entities_of_distinct (distinct : Distinct ds) :
    (assemble ds).entities =
      (tablesIn ds).map (Table.entity (enumNames ds) (tableNames ds) (relationsIn ds)) := by
  rw [entities_assemble, settled, settle_of_nodup distinct.vars]
  apply mergeEntities_of_nodup
  rw [List.map_map]
  exact distinct.keys

theorem Distinct.perm (distinct : Distinct ds) (perm : ds.Perm es) : Distinct es where
  vars := ((perm.filterMap _).map _).nodup_iff.mp distinct.vars
  keys := ((perm.filterMap _).map _).nodup_iff.mp distinct.keys
  enums := ((perm.filterMap _).map _).nodup_iff.mp distinct.enums
  fields := ((perm.filterMap _).flatMap_right _).nodup_iff.mp distinct.fields

theorem alike_assemble (perm : ds.Perm es) (distinct : Distinct ds) :
    (assemble ds).Alike (assemble es) where
  dialect := rfl
  entities := by
    have tables : (tablesIn ds).Perm (tablesIn es) := perm.filterMap _
    -- Bindings are looked up among all scripts at once, so both orders see the same ones.
    have same : Table.entity (enumNames ds) (tableNames ds) (relationsIn es) =
        Table.entity (enumNames es) (tableNames es) (relationsIn es) :=
      entity_congr (lastBinding?_perm _ (perm.filterMap _) distinct.enums)
        (lastBinding?_perm _ tables distinct.vars)
    rw [entities_of_distinct distinct, entities_of_distinct (distinct.perm perm), ← same]
    refine ⟨_, ?_, tables.map _⟩
    rw [List.forall₂_map_left_iff, List.forall₂_map_right_iff, List.forall₂_same]
    intro t _
    exact alike_entity (perm.filterMap _) distinct.fields t
  enums := (perm.filterMap _).map _

end Settled

/-- Scripts in another order give the same schema up to the order of its entities, of the relations
of each and of its enumerations, wherever every variable, key and declared field is written once. -/
theorem parse_ignores_script_order (sources others : List (String × String)) (parser : Syntax.Parser)
    (perm : sources.Perm others) (distinct : Distinct (declared sources parser)) :
    (parse sources parser).Alike (parse others parser) := by
  rw [parse_eq, parse_eq]
  exact alike_assemble (perm.flatMap_right _) distinct

def kindsScript : String × String :=
  ("db/kinds.ts", "const kinds=pgEnum('kind',['note','link'])")

theorem declarationsIn_kindsScript :
    declarationsIn kindsScript.1 kindsScript.2 =
      [.enumeration ⟨"kinds", ⟨"kind", ["note", "link"]⟩⟩] := by
  decide +kernel

/-- Members and posts that refer to each other, and a script that only others refer to. -/
def blogScripts : List (String × String) :=
  [membersScript, postsScript, kindsScript]

theorem declared_blogScripts :
    declared blogScripts =
      [.table ⟨"users", "members", []⟩, .relations ⟨"users", [⟨"posts", true, "posts"⟩]⟩,
        .table ⟨"posts", "posts", [⟨"by", "int", [], some "users"⟩, ⟨"kind", "kinds", [], none⟩]⟩,
        .enumeration ⟨"kinds", ⟨"kind", ["note", "link"]⟩⟩] := by
  simp only [declared, blogScripts, List.flatMap_cons, List.flatMap_nil, declarationsIn_membersScript,
    declarationsIn_postsScript, declarationsIn_kindsScript, List.cons_append, List.nil_append]

theorem blogScripts_reversed_alike :
    blogScripts.Perm blogScripts.reverse ∧ Distinct (declared blogScripts) ∧
      (parse blogScripts).Alike (parse blogScripts.reverse) := by
  have perm : blogScripts.Perm blogScripts.reverse := (List.reverse_perm blogScripts).symm
  have distinct : Distinct (declared blogScripts) := by
    rw [declared_blogScripts]
    constructor
    · decide
    · decide +kernel
    · decide
    · decide
  exact ⟨perm, distinct, parse_ignores_script_order _ _ _ perm distinct⟩

end Builder

end Survey.Schema
