import Mathlib.Data.List.Infix
import Survey.Proofs.Project.FileTree

/-!
Joining of paths. Of the segments of a directory and of a path behind it, a name is taken back by the
step up that matches it. The join stands when no step up is left without a name before it, and it is
spelt by the names that are not taken back. Joining step by step gives the same, and a path in normal
form is the join of itself with the root.
-/
namespace Survey.Path

open FileTree (IsName)

variable {way rest stack names : List String} {path dir rel : String} {k : Nat}

/-- The segments of a path that lead somewhere. -/
def segments (path : String) : List String :=
  (Text.splitAt '/' path).filter fun segment => segment ≠ "" ∧ segment ≠ "."

def ups (way : List String) : Nat :=
  way.count ".."

def downs (way : List String) : Nat :=
  way.countP (· ≠ "..")

/-- A way on which, up to any point of it, there are no more steps up than names. -/
def Stays (way : List String) : Prop :=
  ∀ front ∈ way.inits, ups front ≤ downs front

instance decidableStays (way : List String) : Decidable (Stays way) :=
  List.decidableBAll _ way.inits

/-- A step up on the way that follows a name matches this name: what lies between them leads down and
up again and never above where it began. -/
def TakenBack (rest : List String) : Prop :=
  ∃ between ∈ rest.inits, between ++ [".."] ∈ rest.inits ∧ Stays between ∧ ups between = downs between

instance decidableTakenBack (rest : List String) : Decidable (TakenBack rest) :=
  List.decidableBEx _ rest.inits

/-- The names on a way that no later step up takes back. -/
def standing : List String → List String
  | [] => []
  | segment :: rest =>
    if segment ≠ ".." ∧ ¬ TakenBack rest then segment :: standing rest else standing rest

section Counts

variable {segment : String}

theorem ups_up (way : List String) : ups (".." :: way) = ups way + 1 :=
  List.count_cons_self

theorem ups_name (name : segment ≠ "..") (way : List String) : ups (segment :: way) = ups way :=
  List.count_cons_of_ne name

theorem downs_up (way : List String) : downs (".." :: way) = downs way :=
  List.countP_cons_of_neg (by simp)

theorem downs_name (name : segment ≠ "..") (way : List String) :
    downs (segment :: way) = downs way + 1 :=
  List.countP_cons_of_pos (by simpa using name)

/-- How far a way leads above where it begins. -/
def climb : List String → Nat
  | [] => 0
  | segment :: rest => if segment = ".." then climb rest + 1 else climb rest - 1

theorem climb_up (way : List String) : climb (".." :: way) = climb way + 1 :=
  if_pos rfl

theorem climb_name (name : segment ≠ "..") (way : List String) :
    climb (segment :: way) = climb way - 1 :=
  if_neg name

theorem climb_le_iff : climb way ≤ k ↔ ∀ front ∈ way.inits, ups front ≤ downs front + k := by
  induction way generalizing k with
  | nil => simp [climb, ups, downs]
  | cons segment rest ih =>
      have parts : (∀ front ∈ (segment :: rest).inits, ups front ≤ downs front + k) ↔
          ∀ front ∈ rest.inits, ups (segment :: front) ≤ downs (segment :: front) + k := by
        simp [ups, downs]
      rw [parts]
      by_cases up : segment = ".."
      · subst up
        simp only [climb_up, ups_up, downs_up]
        cases k with
        | zero =>
            refine iff_of_false (Nat.not_succ_le_zero _) ?_
            intro all
            exact Nat.not_succ_le_zero _ (all [] ((List.mem_inits _ _).mpr List.nil_prefix))
        | succ k => simp only [← Nat.add_assoc, Nat.add_le_add_iff_right, ih]
      · simp only [climb_name up, ups_name up, downs_name up, Nat.sub_le_iff_le_add, ih]
        simp only [Nat.add_right_comm, Nat.add_assoc]

theorem stays_iff : Stays way ↔ climb way = 0 := by
  rw [← Nat.le_zero, climb_le_iff]
  rfl

theorem exists_before_up {p : List String → Prop} :
    (∃ front, front ++ [".."] <+: segment :: rest ∧ p front) ↔
      segment = ".." ∧ p [] ∨ ∃ front, front ++ [".."] <+: rest ∧ p (segment :: front) := by
  constructor
  · rintro ⟨front, leads, holds⟩
    cases front with
    | nil => exact Or.inl ⟨(List.cons_prefix_cons.mp leads).1.symm, holds⟩
    | cons first front =>
        obtain ⟨rfl, ahead⟩ := List.cons_prefix_cons.mp leads
        exact Or.inr ⟨front, ahead, holds⟩
  · rintro (⟨rfl, holds⟩ | ⟨front, ahead, holds⟩)
    · exact ⟨[], List.prefix_append [".."] rest, holds⟩
    · exact ⟨segment :: front, List.cons_prefix_cons.mpr ⟨rfl, ahead⟩, holds⟩

/-- A way leads more than some steps above its beginning exactly when a step up on it does so from
just this height, reached for the first time. -/
theorem lt_climb_iff : k < climb way ↔ ∃ front, front ++ [".."] <+: way ∧ climb front ≤ k ∧
    ups front = downs front + k := by
  induction way generalizing k with
  | nil => simp [climb]
  | cons segment rest ih =>
      rw [exists_before_up]
      by_cases up : segment = ".."
      · subst up
        cases k with
        | zero =>
            rw [climb_up]
            exact iff_of_true (Nat.zero_lt_succ _) (Or.inl ⟨rfl, Nat.le_refl _, rfl⟩)
        | succ k =>
            rw [or_iff_right fun here => Nat.noConfusion here.2.2]
            simp only [climb_up, ups_up, downs_up, Nat.add_lt_add_iff_right, Nat.add_le_add_iff_right,
              ← Nat.add_assoc, Nat.add_right_cancel_iff, ih]
      · rw [or_iff_right fun here => up here.1]
        simp only [climb_name up, ups_name up, downs_name up, Nat.lt_sub_iff_add_lt,
          Nat.sub_le_iff_le_add, Nat.add_assoc, Nat.add_comm 1, ih]

theorem takenBack_iff : TakenBack rest ↔ 0 < climb rest := by
  rw [lt_climb_iff]
  constructor
  · rintro ⟨between, _, leads, stays, level⟩
    exact ⟨between, (List.mem_inits _ _).mp leads, Nat.le_of_eq (stays_iff.mp stays), level⟩
  · rintro ⟨between, leads, low, level⟩
    refine ⟨between, ?_, (List.mem_inits _ _).mpr leads, stays_iff.mpr (Nat.le_zero.mp low), level⟩
    exact (List.mem_inits _ _).mpr ((List.prefix_append between _).trans leads)

end Counts

section Standing

theorem push_up_nil : push [] ".." = none := by
  simp [push]

theorem push_up_cons (top : String) (below : List String) : push (top :: below) ".." = some below := by
  simp [push]

theorem push_name {segment : String} (leading : segment ≠ "" ∧ segment ≠ ".") (name : segment ≠ "..")
    (stack : List String) : push stack segment = some (segment :: stack) := by
  simp [push, leading, name]

theorem standing_up (way : List String) : standing (".." :: way) = standing way := by
  simp [standing]

theorem mem_standing {name : String} (member : name ∈ standing way) : name ∈ way ∧ name ≠ ".." := by
  induction way with
  | nil => cases member
  | cons segment rest ih =>
      rw [standing] at member
      split at member
      · next kept =>
        rcases List.mem_cons.mp member with rfl | later
        · exact ⟨List.mem_cons_self, kept.1⟩
        · exact ⟨List.mem_cons_of_mem _ (ih later).1, (ih later).2⟩
      · exact ⟨List.mem_cons_of_mem _ (ih member).1, (ih member).2⟩

/-- From any stack a way takes away as many names as it climbs, and puts what stands of its own on
the rest. -/
theorem foldlM_push (leading : ∀ segment ∈ way, segment ≠ "" ∧ segment ≠ ".") :
    way.foldlM push stack =
      if climb way ≤ stack.length then some ((standing way).reverse ++ stack.drop (climb way))
      else none := by
  induction way generalizing stack with
  | nil => simp [climb, standing]
  | cons segment rest ih =>
      have first := leading segment List.mem_cons_self
      have later := fun stack => @ih stack fun next held => leading next (List.mem_cons_of_mem _ held)
      by_cases up : segment = ".."
      · subst up
        rw [List.foldlM_cons, climb_up, standing_up]
        cases stack with
        | nil => rw [push_up_nil]; rfl
        | cons top below => simpa [push_up_cons] using later below
      · rw [List.foldlM_cons, push_name first up, Option.bind_eq_bind, Option.bind_some, later,
          standing, climb_name up]
        cases height : climb rest with
        | zero =>
            have kept : ¬ TakenBack rest := by
              rw [takenBack_iff, height]
              exact Nat.lt_irrefl 0
            simp [up, kept]
        | succ n =>
            have gone : TakenBack rest := takenBack_iff.mpr (height ▸ Nat.succ_pos n)
            simp [gone]

end Standing

section Joining

theorem foldlM_push_filter (way stack : List String) :
    (way.filter fun segment => segment ≠ "" ∧ segment ≠ ".").foldlM push stack =
      way.foldlM push stack := by
  induction way generalizing stack with
  | nil => rfl
  | cons segment rest ih =>
      by_cases leading : segment ≠ "" ∧ segment ≠ "."
      · rw [List.filter_cons_of_pos (by simpa using leading), List.foldlM_cons, List.foldlM_cons]
        simp only [ih]
      · have idle : segment = "" ∨ segment = "." := by simpa [or_iff_not_imp_left] using leading
        rw [List.filter_cons_of_neg (by simpa using leading), ih, List.foldlM_cons, push.eq_def,
          if_pos idle]
        rfl

theorem normalize?_eq (dir rel : String) : normalize? dir rel =
    ((segments dir ++ segments rel).foldlM push []).map fun stack => Text.join "/" stack.reverse := by
  rw [normalize?, segments, segments, ← List.filter_append, foldlM_push_filter]

theorem mem_segments {segment : String} : segment ∈ segments path ↔
    segment ∈ Text.splitAt '/' path ∧ segment ≠ "" ∧ segment ≠ "." := by
  simp [segments]

theorem exists_path {segment : String} (held : segment ∈ segments dir ++ segments rel) :
    ∃ path, segment ∈ segments path := by
  rcases List.mem_append.mp held with first | second
  · exact ⟨dir, first⟩
  · exact ⟨rel, second⟩

/-- From the root the names that are not taken back are left. -/
theorem foldlM_push_segments (dir rel : String) : (segments dir ++ segments rel).foldlM push [] =
    if Stays (segments dir ++ segments rel) then
      some (standing (segments dir ++ segments rel)).reverse
    else none := by
  have leading : ∀ segment ∈ segments dir ++ segments rel, segment ≠ "" ∧ segment ≠ "." := by
    intro segment held
    obtain ⟨path, here⟩ := exists_path held
    exact (mem_segments.mp here).2
  rw [foldlM_push leading]
  simp [stays_iff]

theorem normalize?_eq_standing (dir rel : String) : normalize? dir rel =
    if Stays (segments dir ++ segments rel) then
      some (Text.join "/" (standing (segments dir ++ segments rel)))
    else none := by
  rw [normalize?_eq, foldlM_push_segments]
  split <;> simp

theorem named_standing {name : String} (member : name ∈ standing (segments dir ++ segments rel)) :
    IsName name := by
  obtain ⟨held, notParent⟩ := mem_standing member
  obtain ⟨path, here⟩ := exists_path held
  obtain ⟨split, nonempty, notHere⟩ := mem_segments.mp here
  exact ⟨nonempty, notHere, notParent, Text.not_mem_of_mem_splitAt split⟩

/-- A path joins to a directory exactly when no step up is without a name to take back. The result is
spelt by the names that no later step up takes back, in their order, and is empty without any. -/
theorem join_spells_standing_names (dir rel : String) :
    ((∃ path, normalize? dir rel = some path) ↔ Stays (segments dir ++ segments rel)) ∧
    ∀ path, normalize? dir rel = some path →
      (standing (segments dir ++ segments rel) = [] → path = "") ∧
      (standing (segments dir ++ segments rel) ≠ [] →
        Text.splitAt '/' path = standing (segments dir ++ segments rel)) ∧
      ∀ name ∈ standing (segments dir ++ segments rel), name ≠ "" ∧ name ≠ "." ∧ name ≠ ".." := by
  rw [normalize?_eq_standing]
  constructor
  · by_cases stays : Stays (segments dir ++ segments rel) <;> simp [stays]
  · intro path found
    obtain ⟨_, spelt⟩ := Option.ite_none_right_eq_some.mp found
    cases spelt
    refine ⟨?_, ?_, ?_⟩
    · intro none
      rw [none]
      rfl
    · intro nonempty
      exact Text.splitAt_join rfl nonempty fun name member => (named_standing member).slashless
    · intro name member
      have named := named_standing member
      exact ⟨named.nonempty, named.notHere, named.notParent⟩

/-- Steps up that cross the border between the two paths, beside idle segments and slashes. -/
theorem crossing_join_stands :
    standing (segments "app//blog/" ++ segments "./a/../../lib/./x") = ["app", "lib", "x"] ∧
    ∃ path, normalize? "app//blog/" "./a/../../lib/./x" = some path ∧
      Text.splitAt '/' path = ["app", "lib", "x"] := by
  have left : standing (segments "app//blog/" ++ segments "./a/../../lib/./x") =
      ["app", "lib", "x"] := by decide +kernel
  obtain ⟨stands, spelt⟩ := join_spells_standing_names "app//blog/" "./a/../../lib/./x"
  obtain ⟨path, found⟩ := stands.mpr (by decide +kernel)
  have split := (spelt path found).2.1
  rw [left] at split
  exact ⟨left, path, found, split (List.cons_ne_nil _ _)⟩

end Joining

section Normal

/-- A path that is spelt by names alone; that of the root is empty. -/
def IsNormal (path : String) : Prop :=
  path = "" ∨ ∀ segment ∈ Text.splitAt '/' path, segment ≠ "" ∧ segment ≠ "." ∧ segment ≠ ".."

instance decidableIsNormal (path : String) : Decidable (IsNormal path) :=
  inferInstanceAs (Decidable (_ ∨ ∀ segment ∈ Text.splitAt '/' path, _))

theorem segments_join (named : ∀ name ∈ names, IsName name) :
    segments (Text.join "/" names) = names := by
  by_cases nonempty : names = []
  · subst nonempty
    decide +kernel
  · rw [segments, Text.splitAt_join rfl nonempty fun name held => (named name held).slashless,
      List.filter_eq_self]
    intro name held
    simpa using ⟨(named name held).nonempty, (named name held).notHere⟩

theorem isNormal_join (named : ∀ name ∈ names, IsName name) : IsNormal (Text.join "/" names) := by
  by_cases nonempty : names = []
  · subst nonempty
    exact Or.inl rfl
  · refine Or.inr ?_
    rw [Text.splitAt_join rfl nonempty fun name held => (named name held).slashless]
    intro name held
    exact ⟨(named name held).nonempty, (named name held).notHere, (named name held).notParent⟩

theorem IsNormal.exists_names (normal : IsNormal path) :
    ∃ names, (∀ name ∈ names, IsName name) ∧ path = Text.join "/" names := by
  rcases normal with rfl | clean
  · exact ⟨[], by simp, rfl⟩
  · refine ⟨Text.splitAt '/' path, ?_, (Text.join_splitAt rfl path).symm⟩
    intro name held
    obtain ⟨nonempty, notHere, notParent⟩ := clean name held
    exact ⟨nonempty, notHere, notParent, Text.not_mem_of_mem_splitAt held⟩

theorem foldlM_push_names (named : ∀ name ∈ names, IsName name) :
    names.foldlM push stack = some (names.reverse ++ stack) := by
  induction names generalizing stack with
  | nil => rfl
  | cons name names ih =>
      have first := named name List.mem_cons_self
      have later : ∀ other ∈ names, IsName other := fun other held =>
        named other (List.mem_cons_of_mem _ held)
      rw [List.foldlM_cons, push_name ⟨first.nonempty, first.notHere⟩ first.notParent,
        Option.bind_eq_bind, Option.bind_some, ih later]
      simp

/-- The names of a directory in normal form are on the stack when the path behind it is read. -/
theorem normalize?_join (named : ∀ name ∈ names, IsName name) (rel : String) :
    normalize? (Text.join "/" names) rel =
      ((segments rel).foldlM push names.reverse).map fun stack => Text.join "/" stack.reverse := by
  rw [normalize?_eq, segments_join named, List.foldlM_append, foldlM_push_names named]
  simp

theorem segments_empty : segments "" = [] := by
  decide +kernel

theorem segments_slash (front back : String) :
    segments (front ++ "/" ++ back) = segments front ++ segments back := by
  rw [segments, Text.splitAt_append rfl, List.filter_append, segments, segments]

/-- A path in two parts is joined part by part, and fails where one of the parts does. -/
theorem normalize?_slash (dir front back : String) : normalize? dir (front ++ "/" ++ back) =
    (normalize? dir front).bind fun path => normalize? path back := by
  rw [normalize?_eq, segments_slash, ← List.append_assoc, List.foldlM_append, foldlM_push_segments,
    normalize?_eq_standing]
  split
  · simp [normalize?_join fun name => named_standing]
  · rfl

theorem isNormal_of_normalize? (found : normalize? dir rel = some path) : IsNormal path := by
  rw [normalize?_eq_standing] at found
  obtain ⟨_, spelt⟩ := Option.ite_none_right_eq_some.mp found
  cases spelt
  exact isNormal_join fun name => named_standing

theorem normalize?_root_iff : normalize? "" path = some path ↔ IsNormal path := by
  constructor
  · exact isNormal_of_normalize?
  · intro normal
    obtain ⟨names, named, rfl⟩ := normal.exists_names
    have root : normalize? "" (Text.join "/" names) = _ := @normalize?_join [] (by simp) _
    rw [root, segments_join named, foldlM_push_names named]
    simp

theorem segments_climbing (n : Nat) (target : String) :
    segments (String.join (List.replicate n "../") ++ target) =
      List.replicate n ".." ++ segments target := by
  induction n with
  | zero => simp
  | succ n ih =>
      have first : String.join (List.replicate (n + 1) "../") ++ target =
          ".." ++ "/" ++ (String.join (List.replicate n "../") ++ target) := by
        rw [List.replicate_succ, String.join_cons, String.append_assoc]
        rfl
      rw [first, segments_slash, ih, List.replicate_succ, List.cons_append]
      rfl

theorem foldlM_push_climbing (stack : List String) :
    (List.replicate stack.length "..").foldlM push stack = some [] := by
  induction stack with
  | nil => rfl
  | cons top below ih =>
      rw [List.length_cons, List.replicate_succ, List.foldlM_cons, push_up_cons]
      exact ih

/-- Joining goes part by part, leaves what is in normal form as it is, and leads from any normal path
to any other by one step up for each segment of the first. -/
theorem joins_compose (dir front back : String) :
    (normalize? dir (front ++ "/" ++ back) =
      (normalize? dir front).bind fun path => normalize? path back) ∧
    (∀ path, normalize? dir front = some path → normalize? "" path = some path) ∧
    (∀ path, normalize? "" path = some path ↔ IsNormal path) ∧
    ∀ start target, IsNormal start → IsNormal target →
      normalize? start (String.join (List.replicate (segments start).length "../") ++ target) =
        some target := by
  refine ⟨normalize?_slash dir front back, ?_, fun _ => normalize?_root_iff, ?_⟩
  · intro path found
    exact normalize?_root_iff.mpr (isNormal_of_normalize? found)
  · intro start target startNormal targetNormal
    obtain ⟨above, named, rfl⟩ := startNormal.exists_names
    obtain ⟨below, belowNamed, rfl⟩ := targetNormal.exists_names
    have up := foldlM_push_climbing above.reverse
    rw [List.length_reverse] at up
    rw [normalize?_join named, segments_climbing, segments_join named, segments_join belowNamed,
      List.foldlM_append, up]
    simp [foldlM_push_names belowNamed]

theorem blog_joins_compose :
    normalize? "app/blog" "../lib" = some "app/lib" ∧ normalize? "" "app/lib" = some "app/lib" ∧
    IsNormal "app/blog" ∧ IsNormal "lib/x.ts" ∧
    normalize? "app/blog" "../../lib/x.ts" = some "lib/x.ts" := by
  have found : normalize? "app/blog" "../lib" = some "app/lib" := by decide +kernel
  have start : IsNormal "app/blog" := by decide +kernel
  have target : IsNormal "lib/x.ts" := by decide +kernel
  have climbing : String.join (List.replicate (segments "app/blog").length "../") ++ "lib/x.ts" =
      "../../lib/x.ts" := by decide +kernel
  obtain ⟨_, again, _, across⟩ := joins_compose "app/blog" "../lib" "x.ts"
  exact ⟨found, again _ found, start, target, climbing ▸ across _ _ start target⟩

end Normal

end Survey.Path
