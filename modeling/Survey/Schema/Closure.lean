import Survey.Schema.Basic
import Survey.Sorted

/-!
The entities that can be reached from some by following relations. A search keeps the keys it has
found, and of these the ones whose relations it has still to follow.
-/
namespace Survey.Schema

/-- The keys of the entities that the entity of a key has relations to. -/
def partners (s : Schema) (key : String) : List String :=
  match s.entity? key with
  | some e => e.relations.map fun r => entityKey r.target
  | none => []

structure Spread where
  /-- The keys found, ascending. -/
  found : List String
  /-- The keys whose relations are still to be followed, the one found last in front. -/
  pending : List String

namespace Spread

def start (used : List String) : Spread where
  found := Sorted.distinct used
  pending := (Sorted.distinct used).reverse

/-- A key that a relation leads to, noted if it is new. -/
def meet (w : Spread) (key : String) : Spread :=
  if w.found.contains key then w
  else { found := Sorted.insert id key w.found, pending := key :: w.pending }

def follow (s : Schema) (w : Spread) (key : String) : Spread :=
  (s.partners key).foldl meet w

/-- The relations that lead to keys not found yet. -/
def ahead (s : Schema) (w : Spread) : List Relation :=
  (s.entities.flatMap Entity.relations).filter fun r => !w.found.contains (entityKey r.target)

/-- The steps that are left at most: one for a pending key, and one for each that may be found. -/
def remaining (s : Schema) (w : Spread) : Nat :=
  w.pending.length + (w.ahead s).length

/-- At most `n` steps, each of which follows the relations of the first pending key. -/
def run (s : Schema) : Nat → Spread → Spread
  | 0, w => w
  | n + 1, w =>
    match w.pending with
    | [] => w
    | key :: rest => run s n (follow s { w with pending := rest } key)

end Spread

/-- The keys reached from some through relations, ascending. -/
def closure (s : Schema) (used : List String) : List String :=
  let start := Spread.start used
  (start.run s (start.remaining s)).found

end Survey.Schema
