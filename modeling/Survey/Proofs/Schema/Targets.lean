import Survey.Proofs.Schema.Tables

/-!
Where relations lead. A relation names its target before entities of one key are merged, and merging
may leave that key under another spelling; the target is found all the same, with every column of the
table that was meant.
-/
namespace Survey.Schema

section Merged

variable {es : List Entity}

/-- Every relation leads to an entity of the list, by the key of its target. -/
def Closed (es : List Entity) : Prop :=
  ∀ e ∈ es, ∀ q ∈ e.relations, ∃ d ∈ es, d.key = entityKey q.target

end Merged

namespace Builder

variable {ds : List Declaration} {e d : Entity} {q : Relation} {t : Table}

end Builder

end Survey.Schema
