import Mathlib.Data.List.Chain
import Mathlib.Data.List.Nodup
import Mathlib.Data.List.TakeWhile
import Survey.Proofs.Cycles.Search
import Survey.Proofs.Sorted

/-!
The search for cycles by colours and parents. The gray modules are the open ones, and the parents lead
along them from the innermost out, so that the way back from an arc that closes a cycle runs along the
open path. Seen without colours and parents, the search is the one by its open path alone. Every turn
leaves one less to do.
-/
namespace Survey.Cycles

/-- The way back along the parents gets to `v`: every module before it has a parent. -/
inductive LeadsBack (parents : List (String × String)) (v : String) : String → List String → Prop
  | here : LeadsBack parents v v []
  | back {current parent : String} {path : List String} (differs : current ≠ v)
      (found : parents.lookup current = some parent) (onward : LeadsBack parents v parent path) :
      LeadsBack parents v current (current :: path)

theorem LeadsBack.wayBack_eq {parents : List (String × String)} {v current : String}
    {path : List String} (h : LeadsBack parents v current path) {n : Nat} (room : path.length < n) :
    wayBack parents v n current = path := by
  induction h generalizing n with
  | here =>
      cases n with
      | zero => cases room
      | succ n => exact if_pos rfl
  | back differs found _ ih =>
      cases n with
      | zero => cases room
      | succ n =>
          rw [wayBack, if_neg differs, found]
          exact congrArg _ (ih (Nat.lt_of_succ_lt_succ room))

theorem leadsBack_of_chain {parents : List (String × String)} {v u : String} {opened : List String}
    (chain : (u :: opened).IsChain fun child parent => parents.lookup child = some parent)
    (member : v ∈ u :: opened) : LeadsBack parents v u ((u :: opened).takeWhile (· ≠ v)) := by
  induction opened generalizing u with
  | nil =>
      obtain rfl := List.mem_singleton.mp member
      simpa using LeadsBack.here
  | cons parent opened ih =>
      obtain ⟨found, further⟩ := List.isChain_cons_cons.mp chain
      by_cases same : u = v
      · subst same
        simpa using LeadsBack.here
      · have later : v ∈ parent :: opened := (List.mem_cons.mp member).resolve_left (Ne.symm same)
        rw [List.takeWhile_cons_of_pos (by simpa using same)]
        exact .back same found (ih further later)

namespace Descent
open Relation (ReflTransGen)

/-- All that a turn can do, with the conditions under which it does so. -/
inductive Moves (next : String → List String) (d : Descent) : Descent → Prop
  | root {r rest} (idle : d.stack = []) (first : d.roots = r :: rest)
      (isWhite : d.colour? r = some .white) : Moves next d (d.openRoot next r rest)
  | skip {r rest} (idle : d.stack = []) (first : d.roots = r :: rest)
      (notWhite : d.colour? r ≠ some .white) : Moves next d (d.skipRoot rest)
  | finish {u below} (top : d.stack = (u, []) :: below) : Moves next d (d.finish u below)
  | enter {u v rest below} (top : d.stack = (u, v :: rest) :: below)
      (isWhite : d.colour? v = some .white) : Moves next d (d.enter next u v rest below)
  | close {u v rest below} (top : d.stack = (u, v :: rest) :: below)
      (isGray : d.colour? v = some .gray) : Moves next d (d.close u v rest below)
  | pass {u v rest below} (top : d.stack = (u, v :: rest) :: below)
      (notWhite : d.colour? v ≠ some .white) (notGray : d.colour? v ≠ some .gray) :
      Moves next d (d.pass u rest below)

variable {nodes rest : List String} {next : String → List String} {d e : Descent} {r u v k : String}
  {below : List (String × List String)} {c : Colour}

theorem moves_of_step? (h : step? next d = some e) : Moves next d e := by
  unfold step? at h
  split at h
  · next idle =>
    split at h
    · cases h
    · next first =>
      split at h
      · next isWhite =>
        cases h
        exact .root idle first isWhite
      · next notWhite =>
        cases h
        exact .skip idle first notWhite
  · next top =>
    cases h
    exact .finish top
  · next top =>
    split at h
    · next isWhite =>
      cases h
      exact .enter top isWhite
    · next isGray =>
      cases h
      exact .close top isGray
    · next notWhite notGray =>
      cases h
      exact .pass top notWhite notGray

theorem step?_eq_none_iff : step? next d = none ↔ d.roots = [] ∧ d.stack = [] := by
  constructor
  · intro ended
    unfold step? at ended
    split at ended
    · next idle =>
      split at ended
      · next tried => exact ⟨tried, idle⟩
      · split at ended <;> cases ended
    · cases ended
    · split at ended <;> cases ended
  · rintro ⟨tried, idle⟩
    rw [step?, idle, tried]

/-- The open modules from the innermost out. -/
def opened (d : Descent) : List String :=
  d.stack.map Prod.fst

/-- What colours and parents mean for the modules that are open. -/
structure Sound (nodes : List String) (d : Descent) : Prop where
  ascending : Sorted.Ascending Prod.fst d.colours
  coloured : ∀ id, d.colour? id = none ↔ id ∉ nodes
  roots : d.roots.Nodup
  white : ∀ id, d.colour? id = some .white → id ∈ d.roots
  gray : ∀ id, d.colour? id = some .gray ↔ id ∈ d.opened
  path : d.opened.Nodup
  parents : d.opened.IsChain fun child parent => d.parents.lookup child = some parent
  /-- The way back has room for the whole path. -/
  room : d.opened.length ≤ d.parents.length + 1

theorem colour?_of_paint (asc : Sorted.Ascending Prod.fst d.colours) (painted : e.colours = d.paint k c)
    (id : String) : e.colour? id = if id = k then some c else d.colour? id := by
  rw [colour?, painted]
  exact Sorted.lookup_insert asc id

theorem colour?_start (ascending : nodes.Pairwise (· < ·)) {id : String} :
    (start nodes).colour? id = some c ↔ id ∈ nodes ∧ c = .white := by
  have colours : Sorted.Ascending Prod.fst (start nodes).colours := List.pairwise_map.mpr ascending
  rw [colour?, Sorted.lookup_eq_some_iff colours, start, List.mem_map]
  simp only [Prod.mk.injEq, existsAndEq, true_and, @eq_comm _ _ c]

namespace Sound

theorem start (ascending : nodes.Pairwise (· < ·)) : Sound nodes (start nodes) := by
  refine ⟨List.pairwise_map.mpr ascending, ?_, Sorted.nodup_of_ascending ascending, ?_, ?_,
    List.nodup_nil, .nil, Nat.zero_le _⟩
  · intro id
    rw [Option.eq_none_iff_forall_ne_some]
    constructor
    · intro none node
      exact none .white ((colour?_start ascending).mpr ⟨node, rfl⟩)
    · intro foreign c found
      exact foreign ((colour?_start ascending).mp found).1
  · intro id isWhite
    exact ((colour?_start ascending).mp isWhite).1
  · intro id
    refine iff_of_false ?_ List.not_mem_nil
    intro isGray
    cases ((colour?_start ascending).mp isGray).2

theorem coloured_of_paint (h : Sound nodes d) (known : d.colour? k ≠ none)
    (painted : e.colours = d.paint k c) (id : String) : e.colour? id = none ↔ id ∉ nodes := by
  rw [colour?_of_paint h.ascending painted]
  split
  · next same =>
    subst same
    exact iff_of_false nofun fun foreign => known ((h.coloured id).mpr foreign)
  · exact h.coloured id

theorem white_of_paint (h : Sound nodes d) (painted : e.colours = d.paint k c) (other : c ≠ .white)
    (id : String) (isWhite : e.colour? id = some .white) : id ≠ k ∧ id ∈ d.roots := by
  rw [colour?_of_paint h.ascending painted] at isWhite
  split at isWhite
  · exact absurd (Option.some.inj isWhite) other
  · next differs => exact ⟨differs, h.white id isWhite⟩

/-- What is known of the open modules when one of them is on top. -/
theorem of_top {waiting : List String} (h : Sound nodes d) (top : d.stack = (u, waiting) :: below) :
    (∀ id, d.colour? id = some .gray ↔ id ∈ u :: below.map Prod.fst) ∧
      (u :: below.map Prod.fst).Nodup ∧
      ((u :: below.map Prod.fst).IsChain fun child parent => d.parents.lookup child = some parent) ∧
      (u :: below.map Prod.fst).length ≤ d.parents.length + 1 := by
  have opened : d.opened = u :: below.map Prod.fst := by rw [opened, top, List.map_cons]
  exact opened ▸ ⟨h.gray, h.path, h.parents, h.room⟩

theorem openRoot (h : Sound nodes d) (idle : d.stack = []) (first : d.roots = r :: rest)
    (isWhite : d.colour? r = some .white) : Sound nodes (d.openRoot next r rest) := by
  refine ⟨Sorted.ascending_insert _ h.ascending, h.coloured_of_paint (by rw [isWhite]; decide) rfl,
    (List.nodup_cons.mp (first ▸ h.roots)).2, ?_, ?_, List.pairwise_singleton _ r, .singleton r,
    Nat.le_refl 1⟩
  · intro id stillWhite
    obtain ⟨differs, listed⟩ := h.white_of_paint rfl (by decide) id stillWhite
    rw [first] at listed
    exact (List.mem_cons.mp listed).resolve_left differs
  · intro id
    rw [colour?_of_paint h.ascending rfl]
    split
    · next same => exact iff_of_true rfl (List.mem_singleton.mpr same)
    · next differs =>
      refine iff_of_false ?_ fun member => differs (List.mem_singleton.mp member)
      rw [h.gray, opened, idle]
      exact List.not_mem_nil

theorem skipRoot (h : Sound nodes d) (first : d.roots = r :: rest)
    (notWhite : d.colour? r ≠ some .white) : Sound nodes (d.skipRoot rest) := by
  refine ⟨h.ascending, h.coloured, (List.nodup_cons.mp (first ▸ h.roots)).2, ?_, h.gray, h.path,
    h.parents, h.room⟩
  intro id isWhite
  have listed : id ∈ d.roots := h.white id isWhite
  rw [first] at listed
  refine (List.mem_cons.mp listed).resolve_left ?_
  rintro rfl
  exact notWhite isWhite

theorem finish (h : Sound nodes d) (top : d.stack = (u, []) :: below) :
    Sound nodes (d.finish u below) := by
  obtain ⟨gray, path, chain, room⟩ := h.of_top top
  have isGray : d.colour? u = some .gray := (gray u).mpr List.mem_cons_self
  refine ⟨Sorted.ascending_insert _ h.ascending, h.coloured_of_paint (by rw [isGray]; decide) rfl,
    h.roots, fun id isWhite => (h.white_of_paint rfl (by decide) id isWhite).2, ?_,
    (List.nodup_cons.mp path).2, chain.tail, Nat.le_of_succ_le room⟩
  intro id
  rw [colour?_of_paint h.ascending rfl]
  split
  · next same => exact iff_of_false nofun (same ▸ (List.nodup_cons.mp path).1)
  · next differs => exact (gray id).trans (List.mem_cons.trans (or_iff_right differs))

theorem enter (h : Sound nodes d) (top : d.stack = (u, v :: rest) :: below)
    (isWhite : d.colour? v = some .white) : Sound nodes (d.enter next u v rest below) := by
  obtain ⟨gray, path, chain, room⟩ := h.of_top top
  have closed : v ∉ u :: below.map Prod.fst := by
    rw [← gray, isWhite]
    decide
  refine ⟨Sorted.ascending_insert _ h.ascending, h.coloured_of_paint (by rw [isWhite]; decide) rfl,
    h.roots, fun id isWhite => (h.white_of_paint rfl (by decide) id isWhite).2, ?_,
    List.nodup_cons.mpr ⟨closed, path⟩, .cons_cons List.lookup_cons_self ?_, Nat.succ_le_succ room⟩
  · intro id
    rw [colour?_of_paint h.ascending rfl]
    split
    · next same => exact iff_of_true rfl (same ▸ List.mem_cons_self)
    · next differs => exact (gray id).trans (List.mem_cons.trans (or_iff_right differs)).symm
  · -- The new entry is for a module that was not open, so it hides none of the others.
    refine chain.imp_of_mem_imp ?_
    intro child parent member _ found
    have other : child ≠ v := fun same => closed (same ▸ member)
    rw [Descent.enter, List.lookup_cons, beq_eq_false_iff_ne.mpr other]
    exact found

theorem close (h : Sound nodes d) (top : d.stack = (u, v :: rest) :: below) :
    Sound nodes (d.close u v rest below) := by
  obtain ⟨gray, path, chain, room⟩ := h.of_top top
  exact ⟨h.ascending, h.coloured, h.roots, h.white, gray, path, chain, room⟩

theorem pass (h : Sound nodes d) (top : d.stack = (u, v :: rest) :: below) :
    Sound nodes (d.pass u rest below) := by
  obtain ⟨gray, path, chain, room⟩ := h.of_top top
  exact ⟨h.ascending, h.coloured, h.roots, h.white, gray, path, chain, room⟩

theorem moves (h : Sound nodes d) (step : Moves next d e) : Sound nodes e := by
  cases step with
  | root idle first isWhite => exact h.openRoot idle first isWhite
  | skip _ first notWhite => exact h.skipRoot first notWhite
  | finish top => exact h.finish top
  | enter top isWhite => exact h.enter top isWhite
  | close top _ => exact h.close top
  | pass top _ _ => exact h.pass top

/-- Where a cycle is closed the parents lead back from the innermost module along the open path. -/
theorem leadsBack (h : Sound nodes d) (top : d.stack = (u, v :: rest) :: below)
    (isGray : d.colour? v = some .gray) :
    LeadsBack d.parents v u ((u :: below.map Prod.fst).takeWhile (· ≠ v)) ∧
      rebuild d.parents u v = closing (u :: below.map Prod.fst) v := by
  obtain ⟨gray, _, chain, room⟩ := h.of_top top
  have isOpen := (gray v).mp isGray
  have back := leadsBack_of_chain chain isOpen
  have shorter : ((u :: below.map Prod.fst).takeWhile (· ≠ v)).length <
      (u :: below.map Prod.fst).length := by
    have part := List.takeWhile_prefix (· ≠ v) (l := u :: below.map Prod.fst)
    refine Nat.lt_of_le_of_ne part.length_le fun same => ?_
    have passed : v ∈ (u :: below.map Prod.fst).takeWhile (· ≠ v) := by
      rw [part.eq_of_length same]
      exact isOpen
    simpa using List.mem_takeWhile_imp passed
  refine ⟨back, ?_⟩
  rw [rebuild, back.wayBack_eq (Nat.lt_of_lt_of_le shorter room), closing]

end Sound

/-- The modules that no turn has reached. -/
def whites (d : Descent) : List String :=
  d.roots.filter fun id => d.colour? id = some .white

theorem mem_whites (h : Sound nodes d) {id : String} : id ∈ d.whites ↔ d.colour? id = some .white := by
  rw [whites, List.mem_filter, decide_eq_true_iff]
  exact ⟨And.right, fun isWhite => ⟨h.white id isWhite, isWhite⟩⟩

theorem whites_start (ascending : nodes.Pairwise (· < ·)) : (start nodes).whites = nodes := by
  apply List.filter_eq_self.mpr
  intro id node
  exact decide_eq_true ((colour?_start ascending).mpr ⟨node, rfl⟩)

theorem whites_openRoot (next : String → List String) (h : Sound nodes d)
    (first : d.roots = r :: rest) (isWhite : d.colour? r = some .white) :
    d.whites = r :: (d.openRoot next r rest).whites := by
  have apart := (List.nodup_cons.mp (first ▸ h.roots)).1
  rw [whites, whites, first, List.filter_cons_of_pos (by simpa using isWhite)]
  refine congrArg _ (List.filter_congr ?_)
  intro id member
  have differs : id ≠ r := by
    rintro rfl
    exact apart member
  rw [@colour?_of_paint d (d.openRoot next r rest) r .gray h.ascending rfl, if_neg differs]

theorem whites_skipRoot (first : d.roots = r :: rest) (notWhite : d.colour? r ≠ some .white) :
    (d.skipRoot rest).whites = d.whites := by
  rw [whites, whites, first, List.filter_cons_of_neg (by simpa using notWhite)]
  rfl

theorem whites_of_paint (h : Sound nodes d) (roots : e.roots = d.roots)
    (painted : e.colours = d.paint k c) (other : c ≠ .white) : e.whites = d.whites.erase k := by
  rw [whites, whites, List.Nodup.erase_eq_filter (h.roots.filter _), List.filter_filter, roots]
  apply List.filter_congr
  intro id _
  rw [colour?_of_paint h.ascending painted]
  split
  · next same => simp [same, other]
  · next differs => simp [differs]

theorem whites_enter (h : Sound nodes d) :
    (d.enter next u v rest below).whites = d.whites.erase v :=
  whites_of_paint h rfl rfl (by decide)

theorem whites_finish (h : Sound nodes d) (top : d.stack = (u, []) :: below) :
    (d.finish u below).whites = d.whites := by
  have known : u ∉ d.whites := by
    rw [mem_whites h, ((h.of_top top).1 u).mpr List.mem_cons_self]
    decide
  have erased : (d.finish u below).whites = d.whites.erase u :=
    whites_of_paint h rfl rfl (by decide)
  rw [erased, List.erase_of_not_mem known]

theorem whites_close : (d.close u v rest below).whites = d.whites :=
  rfl

theorem whites_pass : (d.pass u rest below).whites = d.whites :=
  rfl

/-- The search by its open path alone. -/
def view (d : Descent) : Search :=
  ⟨d.whites, d.stack, d.found⟩

/-- A turn is a step of the search by its open path, or passes over a root that is not white. -/
theorem moves_view (h : Sound nodes d) (step : Moves next d e) :
    e.view = d.view ∨ Search.Moves next d.view e.view := by
  cases step with
  | root idle first isWhite =>
      right
      rw [view, whites_openRoot next h first isWhite, idle]
      exact .root
  | skip idle first notWhite =>
      left
      rw [view, whites_skipRoot first notWhite]
      rfl
  | finish top =>
      right
      rw [view, view, whites_finish h top, top]
      exact .finish
  | enter top isWhite =>
      right
      rw [view, view, whites_enter h, top]
      exact .enter ((mem_whites h).mpr isWhite)
  | @close u v rest below top isGray =>
      right
      have known : v ∉ d.whites := by
        rw [mem_whites h, isGray]
        decide
      rw [view, view, Descent.close, (h.leadsBack top isGray).2, top]
      exact .close known (((h.of_top top).1 v).mp isGray)
  | @pass u v rest below top notWhite notGray =>
      right
      rw [view, top]
      refine .pass (fun member => notWhite ((mem_whites h).mp member)) fun isOpen => notGray ?_
      exact ((h.of_top top).1 v).mpr isOpen

section Accounts

/-- The module that a turn puts on the stack. -/
def pushed? (d e : Descent) : Option String :=
  if d.stack.length < e.stack.length then e.opened.head? else none

/-- The successor that a turn looks at, with the module that it is one of. -/
def looked? (d : Descent) : Option (String × String) :=
  match d.stack with
  | (u, v :: _) :: _ => some (u, v)
  | _ => none

/-- The successors of a module, each with the module. -/
def entries (next : String → List String) (id : String) : List (String × String) :=
  (next id).map fun other => (id, other)

/-- The successors that are still to be looked at. -/
def waiting (next : String → List String) (d : Descent) : List (String × String) :=
  d.whites.flatMap (entries next) ++ d.stack.flatMap fun entry => entry.2.map fun other => (entry.1, other)

/-- The turns that are left: one for every root to try, one for every successor to look at, and one for
every module to finish. -/
def remaining (next : String → List String) (d : Descent) : Nat :=
  d.roots.length + (d.waiting next).length + (d.whites.length + d.stack.length)

theorem looked?_of_top (top : d.stack = (u, v :: rest) :: below) : d.looked? = some (u, v) := by
  rw [looked?, top]

theorem pushed?_of_le (notLonger : e.stack.length ≤ d.stack.length) : pushed? d e = none :=
  if_neg (Nat.not_lt.mpr notLonger)

/-- What is not reached is what a turn pushes and what is not reached after it. -/
theorem perm_whites (h : Sound nodes d) (step : Moves next d e) :
    d.whites.Perm ((pushed? d e).toList ++ e.whites) := by
  cases step with
  | root idle first isWhite =>
      rw [whites_openRoot next h first isWhite, pushed?, idle]
      exact .refl _
  | @skip r rest idle first notWhite =>
      have same : (d.skipRoot rest).stack.length ≤ d.stack.length := Nat.le_refl _
      rw [pushed?_of_le same, whites_skipRoot first notWhite]
      exact .refl _
  | finish top =>
      rw [pushed?_of_le (by rw [top]; exact Nat.le_succ _), whites_finish h top]
      exact .refl _
  | enter top isWhite =>
      rw [whites_enter h, pushed?, if_pos (by rw [top]; exact Nat.lt_succ_self _)]
      exact List.perm_cons_erase ((mem_whites h).mpr isWhite)
  | close top _ =>
      rw [pushed?_of_le (by rw [top]; exact Nat.le_refl _)]
      exact .refl _
  | pass top _ _ =>
      rw [pushed?_of_le (by rw [top]; exact Nat.le_refl _)]
      exact .refl _

/-- What waits to be looked at is what a turn looks at and what waits after it. -/
theorem perm_waiting (h : Sound nodes d) (step : Moves next d e) :
    (d.waiting next).Perm (d.looked?.toList ++ e.waiting next) := by
  cases step with
  | root idle first isWhite =>
      rw [looked?, idle, waiting, whites_openRoot next h first isWhite, idle, List.flatMap_cons]
      simp only [waiting, openRoot, List.flatMap_nil, List.append_nil, List.flatMap_cons]
      exact List.perm_append_comm
  | skip idle first notWhite =>
      rw [looked?, idle, waiting, waiting, whites_skipRoot first notWhite]
      exact .refl _
  | finish top =>
      rw [looked?, top, waiting, waiting, whites_finish h top, top]
      exact .refl _
  | @enter u v rest below top isWhite =>
      have taken := (List.perm_cons_erase ((mem_whites h).mpr isWhite)).flatMap_right (entries next)
      rw [looked?_of_top top, waiting, waiting, whites_enter h, top]
      simp only [Descent.enter, List.flatMap_cons, List.map_cons] at taken ⊢
      rw [List.perm_iff_count] at taken ⊢
      intro entry
      have moved := taken entry
      simp only [Option.toList_some, List.count_append, List.count_cons, List.cons_append,
        List.nil_append, entries] at moved ⊢
      omega
  | close top _ =>
      rw [looked?_of_top top, waiting, top]
      exact List.perm_middle
  | pass top _ _ =>
      rw [looked?_of_top top, waiting, top]
      exact List.perm_middle

/-- Every turn leaves exactly one turn less. -/
theorem remaining_moves (h : Sound nodes d) (step : Moves next d e) :
    d.remaining next = e.remaining next + 1 := by
  have unseen := (perm_waiting h step).length_eq
  rw [List.length_append] at unseen
  cases step with
  | root idle first isWhite =>
      rw [looked?, idle] at unseen
      rw [remaining, remaining, unseen, whites_openRoot next h first isWhite, first, idle]
      simp only [openRoot, Option.toList_none, List.length_nil, List.length_cons]
      omega
  | skip idle first notWhite =>
      rw [looked?, idle] at unseen
      rw [remaining, remaining, unseen, whites_skipRoot first notWhite, first]
      simp only [skipRoot, Option.toList_none, List.length_nil, List.length_cons]
      omega
  | finish top =>
      rw [looked?, top] at unseen
      rw [remaining, remaining, unseen, whites_finish h top, top]
      simp only [finish, Option.toList_none, List.length_nil, List.length_cons]
      omega
  | enter top isWhite =>
      have taken := (List.perm_cons_erase ((mem_whites h).mpr isWhite)).length_eq
      rw [looked?_of_top top] at unseen
      rw [remaining, remaining, unseen, whites_enter h, taken, top]
      simp only [enter, Option.toList_some, List.length_cons, List.length_nil]
      omega
  | close top _ =>
      rw [looked?_of_top top] at unseen
      rw [remaining, remaining, unseen, whites_close, top]
      simp only [close, Option.toList_some, List.length_cons, List.length_nil]
      omega
  | pass top _ _ =>
      rw [looked?_of_top top] at unseen
      rw [remaining, remaining, unseen, whites_pass, top]
      simp only [pass, Option.toList_some, List.length_cons, List.length_nil]
      omega

theorem step?_eq_none_iff_remaining : step? next d = none ↔ d.remaining next = 0 := by
  rw [step?_eq_none_iff]
  constructor
  · rintro ⟨tried, idle⟩
    simp only [remaining, waiting, whites, tried, idle, List.filter_nil, List.flatMap_nil,
      List.append_nil, List.length_nil]
  · intro none
    unfold remaining at none
    exact ⟨List.eq_nil_of_length_eq_zero (by omega), List.eq_nil_of_length_eq_zero (by omega)⟩

theorem waiting_start (ascending : nodes.Pairwise (· < ·)) :
    (start nodes).waiting next = nodes.flatMap (entries next) := by
  rw [waiting, whites_start ascending]
  exact List.append_nil _

theorem remaining_start (ascending : nodes.Pairwise (· < ·)) :
    (start nodes).remaining next = turns next nodes := by
  have looks : (nodes.flatMap (entries next)).length = (nodes.flatMap next).length := by
    simp only [List.length_flatMap, entries, List.length_map]
  rw [remaining, waiting_start ascending, whites_start ascending, turns, looks]
  simp only [start, List.length_nil]
  omega

end Accounts

section Runs

variable {n : Nat}

theorem run_of_step (step : step? next d = some e) : run next (n + 1) d = run next n e := by
  rw [run, step]

theorem run_of_ended (ended : step? next d = none) : run next n d = d := by
  cases n with
  | zero => rfl
  | succ n => rw [run, ended]

theorem Sound.run (h : Sound nodes d) : Sound nodes (run next n d) := by
  induction n generalizing d with
  | zero => exact h
  | succ n ih =>
      cases step : step? next d with
      | none => exact (run_of_ended step).symm ▸ h
      | some e =>
          rw [run_of_step step]
          exact ih (h.moves (moves_of_step? step))

theorem remaining_run (h : Sound nodes d) : (run next n d).remaining next = d.remaining next - n := by
  induction n generalizing d with
  | zero => rfl
  | succ n ih =>
      cases step : step? next d with
      | none =>
          rw [run_of_ended step, step?_eq_none_iff_remaining.mp step, Nat.zero_sub]
      | some e =>
          have moves := moves_of_step? step
          rw [run_of_step step, ih (h.moves moves), remaining_moves h moves, Nat.add_sub_add_right]

/-- A search ends when as many turns are taken as were left, and not before. -/
theorem step?_run_eq_none_iff (h : Sound nodes d) :
    step? next (run next n d) = none ↔ d.remaining next ≤ n := by
  rw [step?_eq_none_iff_remaining, remaining_run h, Nat.sub_eq_zero_iff_le]

theorem reach_view (h : Sound nodes d) :
    ReflTransGen (Search.Moves next) d.view (run next n d).view := by
  induction n generalizing d with
  | zero => exact .refl
  | succ n ih =>
      cases step : step? next d with
      | none => exact (run_of_ended step).symm ▸ .refl
      | some e =>
          have moves := moves_of_step? step
          have later := ih (h.moves moves)
          rw [run_of_step step]
          rcases moves_view h moves with same | moved
          · exact same ▸ later
          · exact .head moved later

end Runs

end Descent

/-- The search by colours and parents finds what the search by its open path alone finds. -/
theorem find_eq_search (ids : List String) (arcs : List Arc) : find ids arcs =
    (Search.run (successors arcs) (Search.remaining (successors arcs) ⟨Sorted.distinct ids, [], []⟩)
      ⟨Sorted.distinct ids, [], []⟩).found := by
  have ascending := Sorted.ascending_distinct ids
  have sound := Descent.Sound.start ascending
  have ended : Descent.step? (successors arcs) (Descent.run (successors arcs)
      (turns (successors arcs) (Sorted.distinct ids)) (Descent.start (Sorted.distinct ids))) = none := by
    rw [Descent.step?_run_eq_none_iff sound, Descent.remaining_start ascending]
  obtain ⟨tried, idle⟩ := Descent.step?_eq_none_iff.mp ended
  have reach := @Descent.reach_view (Sorted.distinct ids) (successors arcs) _
    (turns (successors arcs) (Sorted.distinct ids)) sound
  have first : (Descent.start (Sorted.distinct ids)).view = ⟨Sorted.distinct ids, [], []⟩ := by
    rw [Descent.view, Descent.whites_start ascending]
    rfl
  have last := Search.run_eq_of_reach reach (Search.step?_eq_none_iff.mpr ⟨?_, idle⟩) (Nat.le_refl _)
  · rw [first] at last
    rw [last]
    rfl
  · rw [Descent.view, Descent.whites, tried]
    rfl

end Survey.Cycles
