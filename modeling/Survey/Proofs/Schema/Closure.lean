import Mathlib.Data.List.Basic
import Mathlib.Logic.Relation
import Mathlib.Order.Bounds.Defs
import Survey.Proofs.Sorted
import Survey.Schema.Closure

/-!
The closure of some keys under relations. The search may take its pending keys in any order: every
step lessens what remains, and once nothing is pending the keys found are those that relations lead
to from the first ones. They are the least set that holds these and that no relation leads out of.
-/
namespace Survey
open Relation (ReflTransGen)

namespace Schema

variable {s : Schema} {used : List String} {k key : String}

/-- A key and one that the entity of the first has a relation to. -/
def Partner (s : Schema) (a b : String) : Prop :=
  b ∈ s.partners a

theorem partner_iff {a b : String} :
    s.Partner a b ↔ ∃ e, s.entity? a = some e ∧ ∃ r ∈ e.relations, entityKey r.target = b := by
  unfold Partner partners
  split
  · next e found =>
    rw [List.mem_map, found]
    exact ⟨fun member => ⟨e, rfl, member⟩, fun ⟨_, same, member⟩ => Option.some.inj same ▸ member⟩
  · next none =>
    rw [none]
    exact ⟨fun member => (List.not_mem_nil member).elim, fun ⟨_, found, _⟩ => nomatch found⟩

theorem Partner.exists_relation {a b : String} (h : s.Partner a b) :
    ∃ r ∈ s.entities.flatMap Entity.relations, entityKey r.target = b := by
  obtain ⟨e, found, r, held, target⟩ := partner_iff.mp h
  exact ⟨r, List.mem_flatMap.mpr ⟨e, List.mem_of_find?_eq_some found, held⟩, target⟩

namespace Spread

variable {w v : Spread}

theorem meet_of_found (known : key ∈ w.found) : w.meet key = w := by
  rw [meet, if_pos (List.contains_iff_mem.mpr known)]

theorem meet_of_new (new : key ∉ w.found) :
    w.meet key = ⟨Sorted.insert id key w.found, key :: w.pending⟩ := by
  rw [meet, if_neg (mt List.contains_iff_mem.mp new)]

theorem mem_found_meet : k ∈ (w.meet key).found ↔ k = key ∨ k ∈ w.found := by
  by_cases known : key ∈ w.found
  · rw [meet_of_found known]
    exact ⟨Or.inr, fun held => held.elim (fun same => same ▸ known) id⟩
  · rw [meet_of_new known]
    have members : k ∈ (Sorted.insert id key w.found).map id ↔ k = key ∨ k ∈ w.found.map id :=
      Sorted.mem_map_key_insert
    rwa [List.map_id, List.map_id] at members

theorem mem_pending_meet :
    k ∈ (w.meet key).pending ↔ k = key ∧ k ∉ w.found ∨ k ∈ w.pending := by
  by_cases known : key ∈ w.found
  · rw [meet_of_found known]
    exact ⟨Or.inr, fun held => held.elim (fun new => absurd (new.1 ▸ known) new.2) id⟩
  · rw [meet_of_new known, List.mem_cons]
    exact or_congr_left ⟨fun same => ⟨same, same ▸ known⟩, And.left⟩

theorem ascending_meet (ordered : Sorted.Ascending id w.found) :
    Sorted.Ascending id (w.meet key).found := by
  by_cases known : key ∈ w.found
  · rwa [meet_of_found known]
  · rw [meet_of_new known]
    exact Sorted.ascending_insert key ordered

theorem mem_found_foldl {keys : List String} :
    k ∈ (keys.foldl meet w).found ↔ k ∈ keys ∨ k ∈ w.found := by
  induction keys generalizing w with
  | nil => simp only [List.foldl_nil, List.not_mem_nil, false_or]
  | cons key keys ih =>
      rw [List.foldl_cons, ih, mem_found_meet, List.mem_cons, or_assoc, or_left_comm]

theorem mem_pending_foldl {keys : List String} :
    k ∈ (keys.foldl meet w).pending ↔ k ∈ keys ∧ k ∉ w.found ∨ k ∈ w.pending := by
  induction keys generalizing w with
  | nil => simp only [List.foldl_nil, List.not_mem_nil, false_and, false_or]
  | cons key keys ih =>
      rw [List.foldl_cons, ih, mem_found_meet, mem_pending_meet, List.mem_cons]
      tauto

theorem ascending_foldl {keys : List String} (ordered : Sorted.Ascending id w.found) :
    Sorted.Ascending id (keys.foldl meet w).found := by
  induction keys generalizing w with
  | nil => exact ordered
  | cons key keys ih => exact ih (ascending_meet ordered)

theorem mem_found_follow :
    k ∈ (follow s w key).found ↔ s.Partner key k ∨ k ∈ w.found :=
  mem_found_foldl

theorem mem_pending_follow :
    k ∈ (follow s w key).pending ↔ s.Partner key k ∧ k ∉ w.found ∨ k ∈ w.pending :=
  mem_pending_foldl

theorem ahead_meet (s : Schema) (w : Spread) (key : String) :
    (w.meet key).ahead s = (w.ahead s).filter fun r => entityKey r.target ≠ key := by
  rw [ahead, ahead, List.filter_filter]
  apply List.filter_congr
  intro r _
  rw [Bool.eq_iff_iff]
  simp [mem_found_meet]

/-- A new key becomes pending, but no relation that leads to it is ahead any more. -/
theorem remaining_meet_le {r : Relation} (held : r ∈ s.entities.flatMap Entity.relations)
    (target : entityKey r.target = key) : (w.meet key).remaining s ≤ w.remaining s := by
  by_cases known : key ∈ w.found
  · exact Nat.le_of_eq (by rw [meet_of_found known])
  · have leads : r ∈ w.ahead s := by
      refine List.mem_filter.mpr ⟨held, ?_⟩
      simpa [target] using known
    have fewer : ((w.meet key).ahead s).length < (w.ahead s).length := by
      rw [ahead_meet]
      exact List.length_filter_lt_length_iff_exists.mpr ⟨r, leads, by simp [target]⟩
    have waits : (w.meet key).pending.length = w.pending.length + 1 := by
      rw [meet_of_new known, List.length_cons]
    unfold remaining
    omega

theorem remaining_foldl_le {keys : List String}
    (targets : ∀ key ∈ keys, ∃ r ∈ s.entities.flatMap Entity.relations, entityKey r.target = key) :
    (keys.foldl meet w).remaining s ≤ w.remaining s := by
  induction keys generalizing w with
  | nil => exact Nat.le_refl _
  | cons key keys ih =>
      obtain ⟨r, held, target⟩ := targets key List.mem_cons_self
      have rest := @ih (w.meet key) fun k later => targets k (List.mem_cons_of_mem key later)
      exact Nat.le_trans rest (remaining_meet_le held target)

/-- Any one of the pending keys is taken, and its relations are followed. -/
inductive Step (s : Schema) : Spread → Spread → Prop
  | take {found before after} (key : String) :
      Step s ⟨found, before ++ key :: after⟩ (follow s ⟨found, before ++ after⟩ key)

theorem step_first (s : Schema) (found : List String) (key : String) (rest : List String) :
    Step s ⟨found, key :: rest⟩ (follow s ⟨found, rest⟩ key) :=
  @Step.take s found [] rest key

/-- What a step does, but for whether the key that it takes was pending twice. -/
theorem Step.exists_taken (h : Step s w v) : ∃ key ∈ w.pending,
    (∀ k, k ∈ v.found ↔ s.Partner key k ∨ k ∈ w.found) ∧
    ∀ k, k ≠ key → (k ∈ v.pending ↔ s.Partner key k ∧ k ∉ w.found ∨ k ∈ w.pending) := by
  cases h with
  | @take found before after key =>
      refine ⟨key, by simp, fun _ => mem_found_follow, ?_⟩
      intro k other
      rw [mem_pending_follow]
      simp only [List.mem_append, List.mem_cons, other, false_or]

theorem Step.ordered (h : Step s w v) (ordered : Sorted.Ascending id w.found) :
    Sorted.Ascending id v.found := by
  cases h
  exact ascending_foldl ordered

theorem Step.remaining_lt (h : Step s w v) : v.remaining s < w.remaining s := by
  cases h with
  | @take found before after key =>
      have bound : (follow s ⟨found, before ++ after⟩ key).remaining s ≤
          Spread.remaining s ⟨found, before ++ after⟩ :=
        remaining_foldl_le fun _ partner => Partner.exists_relation partner
      refine Nat.lt_of_le_of_lt bound ?_
      simp only [remaining, ahead, List.length_append, List.length_cons]
      omega

/-- No search goes on for ever, whichever of the pending keys it takes. -/
theorem wellFounded_step (s : Schema) : WellFounded fun v w => Step s w v :=
  Subrelation.wf Step.remaining_lt (measure (remaining s)).wf

theorem reach_run (s : Schema) (n : Nat) (w : Spread) : ReflTransGen (Step s) w (w.run s n) := by
  induction n generalizing w with
  | zero => exact .refl
  | succ n ih =>
      rcases w with ⟨found, pending⟩
      cases pending with
      | nil => exact .refl
      | cons key rest => exact .head (step_first s found key rest) (ih _)

theorem pending_run {n : Nat} (enough : w.remaining s ≤ n) : (w.run s n).pending = [] := by
  induction n generalizing w with
  | zero =>
      have none : w.pending.length = 0 := by
        rw [remaining] at enough
        omega
      exact List.eq_nil_of_length_eq_zero none
  | succ n ih =>
      rcases w with ⟨found, pending⟩
      cases pending with
      | nil => rfl
      | cons key rest =>
          have less := (step_first s found key rest).remaining_lt
          exact ih (Nat.le_of_lt_succ (Nat.lt_of_lt_of_le less enough))

/-- A search that began with some keys has found nothing that they do not lead to, and has followed
the relations of every key that is not pending. -/
structure Tracks (s : Schema) (used : List String) (w : Spread) : Prop where
  ordered : Sorted.Ascending id w.found
  begun : ∀ k ∈ used, k ∈ w.found
  reached : ∀ k ∈ w.found, ∃ u ∈ used, ReflTransGen s.Partner u k
  waiting : ∀ k ∈ w.pending, k ∈ w.found
  followed : ∀ k ∈ w.found, k ∉ w.pending → ∀ p, s.Partner k p → p ∈ w.found

namespace Tracks

theorem start (s : Schema) (used : List String) : Tracks s used (Spread.start used) where
  ordered := Sorted.ascending_distinct used
  begun _ given := Sorted.mem_distinct.mpr given
  reached k held := ⟨k, Sorted.mem_distinct.mp held, .refl⟩
  waiting _ waits := List.mem_reverse.mp waits
  followed _ held past := absurd (List.mem_reverse.mpr held) past

theorem step (h : Tracks s used w) (next : Step s w v) : Tracks s used v := by
  obtain ⟨key, taken, found, pending⟩ := next.exists_taken
  have known : key ∈ w.found := h.waiting key taken
  refine ⟨next.ordered h.ordered, ?_, ?_, ?_, ?_⟩
  · intro k given
    exact (found k).mpr (Or.inr (h.begun k given))
  · intro k held
    rcases (found k).mp held with partner | old
    · obtain ⟨u, given, reach⟩ := h.reached key known
      exact ⟨u, given, reach.tail partner⟩
    · exact h.reached k old
  · intro k waits
    apply (found k).mpr
    by_cases same : k = key
    · exact Or.inr (same ▸ known)
    · exact ((pending k same).mp waits).imp And.left (h.waiting k)
  · intro k held past p partner
    apply (found p).mpr
    by_cases same : k = key
    · exact Or.inl (same ▸ partner)
    · -- Any other key that is not pending now was found before and was not pending then.
      have settled := mt (pending k same).mpr past
      have old : k ∈ w.found := by
        by_contra new
        exact settled (Or.inl ⟨((found k).mp held).resolve_right new, new⟩)
      exact Or.inr (h.followed k old (fun waits => settled (Or.inr waits)) p partner)

theorem reach (h : Tracks s used w) (steps : ReflTransGen (Step s) w v) : Tracks s used v := by
  induction steps with
  | refl => exact h
  | tail _ next ih => exact ih.step next

theorem mem_found_iff (h : Tracks s used w) (done : w.pending = []) :
    k ∈ w.found ↔ ∃ u ∈ used, ReflTransGen s.Partner u k := by
  constructor
  · exact h.reached k
  · rintro ⟨u, given, reach⟩
    induction reach with
    | refl => exact h.begun u given
    | tail _ partner ih => exact h.followed _ ih (by simp [done]) _ partner

theorem found_eq (h : Tracks s used w) (h' : Tracks s used v) (done : w.pending = [])
    (done' : v.pending = []) : w.found = v.found := by
  apply Sorted.Ascending.eq_of_members h.ordered h'.ordered
  intro k
  rw [h.mem_found_iff done, h'.mem_found_iff done']

end Tracks

theorem reach_closure (s : Schema) (used : List String) :
    ∃ w, ReflTransGen (Step s) (start used) w ∧ w.pending = [] ∧ w.found = s.closure used :=
  ⟨_, reach_run s _ _, pending_run (Nat.le_refl _), rfl⟩

end Spread

/-- The closure holds what is reached from the given keys by following relations. -/
theorem mem_closure : k ∈ s.closure used ↔ ∃ u ∈ used, ReflTransGen s.Partner u k := by
  obtain ⟨w, steps, done, found⟩ := Spread.reach_closure s used
  rw [← found]
  exact ((Spread.Tracks.start s used).reach steps).mem_found_iff done

theorem ascending_closure (s : Schema) (used : List String) :
    (s.closure used).Pairwise (· < ·) := by
  obtain ⟨w, steps, _, found⟩ := Spread.reach_closure s used
  rw [← found]
  exact ((Spread.Tracks.start s used).reach steps).ordered

/-- A set of keys that no relation leads out of. -/
def ClosedKeys (s : Schema) (keys : Set String) : Prop :=
  ∀ k ∈ keys, ∀ e, s.entity? k = some e → ∀ r ∈ e.relations, entityKey r.target ∈ keys

theorem closedKeys_iff {keys : Set String} :
    s.ClosedKeys keys ↔ ∀ k ∈ keys, ∀ p, s.Partner k p → p ∈ keys := by
  constructor
  · intro closed k held p partner
    obtain ⟨e, found, r, relates, rfl⟩ := partner_iff.mp partner
    exact closed k held e found r relates
  · intro closed k held e found r relates
    exact closed k held _ (partner_iff.mpr ⟨e, found, r, relates, rfl⟩)

theorem ClosedKeys.mem_of_reach {keys : Set String} (closed : s.ClosedKeys keys) {u : String}
    (held : u ∈ keys) (reach : ReflTransGen s.Partner u k) : k ∈ keys := by
  induction reach with
  | refl => exact held
  | tail _ partner ih => exact closedKeys_iff.mp closed _ ih _ partner

theorem isLeast_closure (s : Schema) (used : List String) :
    IsLeast {keys : Set String | (∀ k ∈ used, k ∈ keys) ∧ s.ClosedKeys keys}
      {k | k ∈ s.closure used} := by
  refine ⟨⟨?_, ?_⟩, ?_⟩
  · intro k given
    exact mem_closure.mpr ⟨k, given, .refl⟩
  · apply closedKeys_iff.mpr
    intro k held p partner
    obtain ⟨u, given, reach⟩ := mem_closure.mp held
    exact mem_closure.mpr ⟨u, given, reach.tail partner⟩
  · rintro keys ⟨begun, closed⟩ k held
    obtain ⟨u, given, reach⟩ := mem_closure.mp held
    exact closed.mem_of_reach (begun u given) reach

/-- The closure of some keys is the least set that holds them and that no relation leads out of. So
it grows with the keys and is its own closure. The search comes to an end and finds this set, and so
does every search that takes its pending keys in another order. -/
theorem closure_is_least (s : Schema) (used : List String) :
    IsLeast {keys : Set String | (∀ k ∈ used, k ∈ keys) ∧ s.ClosedKeys keys}
      {k | k ∈ s.closure used} ∧
    (s.closure used).Pairwise (· < ·) ∧
    (∀ more, used ⊆ more → s.closure used ⊆ s.closure more) ∧
    s.closure (s.closure used) = s.closure used ∧
    (WellFounded fun v w => Spread.Step s w v) ∧
    (∃ w, ReflTransGen (Spread.Step s) (Spread.start used) w ∧ w.pending = [] ∧
      w.found = s.closure used) ∧
    ∀ w, ReflTransGen (Spread.Step s) (Spread.start used) w → w.pending = [] →
      w.found = s.closure used := by
  have search := Spread.reach_closure s used
  refine ⟨isLeast_closure s used, ascending_closure s used, ?_, ?_, Spread.wellFounded_step s,
    search, ?_⟩
  · intro more larger k held
    obtain ⟨u, given, reach⟩ := mem_closure.mp held
    exact mem_closure.mpr ⟨u, larger given, reach⟩
  · have ordered : Sorted.Ascending id (s.closure (s.closure used)) := ascending_closure s _
    apply ordered.eq_of_members (ascending_closure s used)
    intro k
    constructor
    · intro held
      obtain ⟨u, given, reach⟩ := mem_closure.mp held
      exact (isLeast_closure s used).1.2.mem_of_reach given reach
    · intro held
      exact mem_closure.mpr ⟨k, held, .refl⟩
  · intro w steps done
    obtain ⟨v, other, ended, found⟩ := search
    have begins := Spread.Tracks.start s used
    rw [← found]
    exact (begins.reach steps).found_eq (begins.reach other) done ended

/-- Relations that lead round, and one to an entity that is not declared. -/
example : closure { entities := [⟨"Post", [], [⟨"author", "User", .oneToOne⟩]⟩,
    ⟨"User", [], [⟨"posts", "Post", .oneToMany⟩, ⟨"team", "Team", .oneToOne⟩]⟩] } ["post"] =
      ["post", "team", "user"] := by
  decide +kernel

end Schema

end Survey
