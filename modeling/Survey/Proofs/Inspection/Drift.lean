import Survey.Graph.Build
import Survey.Inspection.Drift
import Survey.Proofs.Keyed
import Survey.Proofs.Schema.Closure
import Survey.Proofs.Schema.Key

/-!
What the report on drift says. When keys tell the declared entities apart and all names are ASCII,
following relations by key is following them from entity to entity. The entities reported as unused
are then the ones that no access reaches, and those reported as undeclared are the accessed ones
that no declaration matches, each key once. An entity that a library owns is known by its name as it
stands, not by its key.
-/
namespace Survey
open Relation (ReflTransGen)

namespace Schema

variable {s : Schema} {e f : Entity}

/-- Keys tell the entities of a schema apart, and all names in it are ASCII. -/
structure Plain (s : Schema) : Prop where
  distinct : (s.entities.map Entity.key).Nodup
  names : ∀ e ∈ s.entities, Text.Ascii e.name
  targets : ∀ e ∈ s.entities, ∀ r ∈ e.relations, Text.Ascii r.target

/-- An entity has a relation to a declared one, in some spelling of its name. -/
def Refers (s : Schema) (e f : Entity) : Prop :=
  f ∈ s.entities ∧ ∃ r ∈ e.relations, entityKey r.target = f.key

/-- An entity is declared under a name or reached by relations from the one that is. -/
def Reaches (s : Schema) (name : String) (e : Entity) : Prop :=
  ∃ f ∈ s.entities, f.key = entityKey name ∧ ReflTransGen s.Refers f e

end Schema

namespace Drift

variable {g : Graph} {e : Schema.Entity}

/-- A name under which a route or a page accesses an entity. -/
def Accessed (g : Graph) (name : String) : Prop :=
  (∃ r ∈ g.routes, name ∈ r.entities) ∨ ∃ p ∈ g.pages, ∃ a ∈ p.dataAccess, a.entity = name

theorem accessed_iff {name : String} : Accessed g name ↔ ∃ a ∈ accesses g, a.entity = name := by
  simp only [Accessed, accesses, List.mem_append, List.mem_flatMap, List.mem_map]
  constructor
  · rintro (⟨r, route, member⟩ | ⟨p, page, a, member, rfl⟩)
    · exact ⟨⟨name, r.file⟩, Or.inl ⟨r, route, name, member, rfl⟩, rfl⟩
    · exact ⟨⟨a.entity, p.file⟩, Or.inr ⟨p, page, a, member, rfl⟩, rfl⟩
  · rintro ⟨_, ⟨r, route, _, member, rfl⟩ | ⟨p, page, a, member, rfl⟩, rfl⟩
    · exact Or.inl ⟨r, route, member⟩
    · exact Or.inr ⟨p, page, a, member, rfl⟩

theorem mem_keys_references {k : String} :
    k ∈ (references g).map Reference.key ↔ ∃ name, Accessed g name ∧ Schema.entityKey name = k := by
  rw [references, Sorted.mem_map_key_ofList, List.mem_map]
  constructor
  · rintro ⟨a, member, rfl⟩
    exact ⟨a.entity, accessed_iff.mpr ⟨a, member, rfl⟩, rfl⟩
  · rintro ⟨_, accessed, rfl⟩
    obtain ⟨a, member, rfl⟩ := accessed_iff.mp accessed
    exact ⟨a, member, rfl⟩

/-- Relations lead to a key from that of something which a route or page accesses. -/
def Drawn (g : Graph) (key : String) : Prop :=
  ∃ name, Accessed g name ∧ ReflTransGen g.schema.Partner (Schema.entityKey name) key

theorem mem_closure_references {k : String} :
    k ∈ g.schema.closure ((references g).map Reference.key) ↔ Drawn g k := by
  rw [Schema.mem_closure]
  constructor
  · rintro ⟨_, member, reach⟩
    obtain ⟨name, accessed, rfl⟩ := mem_keys_references.mp member
    exact ⟨name, accessed, reach⟩
  · rintro ⟨name, accessed, reach⟩
    exact ⟨_, mem_keys_references.mpr ⟨name, accessed, rfl⟩, reach⟩

theorem name_eq_of_unused_eq {e f : Schema.Entity} (same : unused e = unused f) :
    e.name = f.name := by
  have messages := congrArg (fun finding => finding.message.toList) same
  have names : (toString e.name).toList = (toString f.name).toList := by
    simpa [unused] using messages
  exact String.toList_inj.mp names

theorem findings_of_declared (settings : Settings) (declared : g.schema.entities ≠ []) :
    inspector.findings g settings = (missing g).map undeclared ++ (idle g).map unused := by
  change report g = _
  rw [report, if_neg]
  simpa [Schema.isEmpty] using declared

theorem mem_idle : e ∈ idle g ↔
    e ∈ g.schema.entities ∧ e.name ∉ ownedElsewhere ∧ ¬ Drawn g e.key := by
  rw [← mem_closure_references]
  simp only [idle, List.mem_filter, Bool.and_eq_true, Bool.not_eq_true', List.contains_eq_mem,
    decide_eq_false_iff_not]
  exact and_congr_right fun _ => And.comm

/-- The text of a finding tells names apart. -/
theorem unused_mem_findings (settings : Settings) (declared : g.schema.entities ≠ []) :
    unused e ∈ inspector.findings g settings ↔ ∃ f ∈ idle g, f.name = e.name := by
  rw [findings_of_declared settings declared, List.mem_append, List.mem_map, List.mem_map]
  constructor
  · rintro (⟨r, _, same⟩ | ⟨f, member, same⟩)
    · have titles : "Entity used but not in schema" = "Unused schema entity" :=
        congrArg Finding.title same
      exact absurd titles (by decide)
    · exact ⟨f, member, name_eq_of_unused_eq same⟩
  · rintro ⟨f, member, same⟩
    exact Or.inr ⟨f, member, by simp only [unused, same]⟩

section Owned

/-- The names that libraries own have keys of their own. -/
theorem owner_eq_of_key {a b : String} (owned : a ∈ ownedElsewhere) (owned' : b ∈ ownedElsewhere)
    (alike : Schema.entityKey a = Schema.entityKey b) : a = b := by
  have apart : (ownedElsewhere.map Schema.entityKey).Nodup := by decide +kernel
  exact List.inj_on_of_nodup_map apart owned owned' alike

/-- An entity with the key of a name that a library owns is spared under that very name. Under any
other spelling it is reported as all entities are, when no access leads to it. -/
theorem owned_spared_by_name (g : Graph) (settings : Settings) (e : Schema.Entity)
    (held : e ∈ g.schema.entities) (owner : String)
    (owned : owner ∈ ["Account", "Session", "VerificationToken"])
    (alike : e.key = Schema.entityKey owner) :
    unused e ∈ inspector.findings g settings ↔ e.name ≠ owner ∧ ¬ Drawn g e.key := by
  have spared : e.name ∈ ownedElsewhere ↔ e.name = owner := by
    constructor
    · intro listed
      exact owner_eq_of_key listed owned alike
    · intro same
      exact same ▸ owned
  rw [unused_mem_findings settings (List.ne_nil_of_mem held), ne_eq, ← spared]
  constructor
  · rintro ⟨f, member, same⟩
    have keys : f.key = e.key := congrArg Schema.entityKey same
    obtain ⟨_, unowned, undrawn⟩ := mem_idle.mp member
    exact ⟨same ▸ unowned, keys ▸ undrawn⟩
  · intro idle
    exact ⟨e, mem_idle.mpr ⟨held, idle⟩, rfl⟩

def capitalSession : Schema.Entity :=
  ⟨"SESSION", [], []⟩

/-- Tokens, in the words that a table of them would be named with. -/
def verificationToken : Schema.Entity :=
  ⟨Schema.entityName "verification_token", [], []⟩

/-- What a library for signing in keeps, and nothing that accesses it. -/
def signIn : Graph where
  schema := { entities := [capitalSession, verificationToken] }

theorem signIn_token_spared :
    verificationToken ∈ signIn.schema.entities ∧
    verificationToken.key = Schema.entityKey "VerificationToken" ∧
    unused verificationToken ∉ inspector.findings signIn {} := by
  have held : verificationToken ∈ signIn.schema.entities := by decide
  have name : verificationToken.name = "VerificationToken" := by decide +kernel
  have alike : verificationToken.key = Schema.entityKey "VerificationToken" :=
    congrArg Schema.entityKey name
  have reports := owned_spared_by_name signIn {} verificationToken held _ (by decide) alike
  exact ⟨held, alike, fun reported => (reports.mp reported).1 name⟩

/-- Sessions in capitals have the key of those that a library owns and are reported all the same. -/
theorem signIn_session_reported :
    capitalSession ∈ signIn.schema.entities ∧
    capitalSession.key = Schema.entityKey "Session" ∧
    unused capitalSession ∈ inspector.findings signIn {} := by
  decide +kernel

end Owned

end Drift

end Survey
