import Survey.Facts.Roles
import Survey.Proofs.Text.Lines

/-!
Addresses of pages and request handlers. Groups and slots have no part in an address: one more of
them below the root of a path leaves its address as it is, and no address shows any.
-/
namespace Survey

theorem Path.mem_of_mem_fileName {path : String} {c : Char} (member : c ∈ (fileName path).toList) :
    c ∈ path.toList := by
  unfold fileName at member
  split at member
  · next dir name parted =>
    obtain ⟨slash, _, whole, _⟩ := Text.cutLast?_eq_some_iff.mp parted
    rw [String.toList_ofList] at member
    rw [whole]
    exact List.mem_append_right dir (List.mem_cons_of_mem slash member)
  · exact member

theorem Path.mem_of_mem_stem {path : String} {c : Char} (member : c ∈ (stem path).toList) :
    c ∈ path.toList := by
  apply mem_of_mem_fileName
  simp only [stem] at member
  split at member
  · exact member
  · next base ext _ parted =>
    obtain ⟨point, _, whole, _⟩ := Text.cutLast?_eq_some_iff.mp parted
    rw [String.toList_ofList] at member
    rw [whole]
    exact List.mem_append_left (point :: ext) member
  · exact member

namespace Roles

section Segments

variable {path root file segment : String} {outer dirs : List String}

/-- A directory in parentheses, on one line. -/
def Group (segment : String) : Prop :=
  ∃ inner, segment.toList = '(' :: (inner ++ [')']) ∧ '\n' ∉ inner

/-- A directory with an at sign in front. -/
def Slot (segment : String) : Prop :=
  ∃ name, segment.toList = '@' :: name

theorem isGroup_iff : isGroup segment ↔ Group segment := by
  unfold isGroup Group
  simp only [Bool.and_eq_true, decide_eq_true_eq, beq_iff_eq, Bool.not_eq_true', Bool.eq_false_iff,
    ne_eq, List.contains_iff_mem]
  generalize segment.toList = cs
  constructor
  · rintro ⟨⟨⟨long, first⟩, last⟩, line⟩
    rcases cs with _ | ⟨c, cs⟩
    · cases first
    · obtain rfl : c = '(' := Option.some.inj first
      rcases List.eq_nil_or_concat cs with rfl | ⟨inner, d, rfl⟩
      · simp at long
      · rw [List.concat_eq_append] at last line ⊢
        rw [← List.cons_append, List.getLast?_concat] at last
        obtain rfl : d = ')' := Option.some.inj last
        refine ⟨inner, rfl, ?_⟩
        intro held
        exact line (List.mem_cons_of_mem '(' (List.mem_append_left [')'] held))
  · rintro ⟨inner, rfl, line⟩
    refine ⟨⟨⟨?_, rfl⟩, ?_⟩, ?_⟩
    · simp
    · rw [← List.cons_append, List.getLast?_concat]
    · simp [line]

theorem leads_at_iff : Text.leads "@" segment ↔ Slot segment := by
  unfold Text.leads Slot
  rw [List.isPrefixOf_iff_prefix]
  constructor
  · rintro ⟨name, whole⟩
    exact ⟨name, whole.symm⟩
  · rintro ⟨name, whole⟩
    exact ⟨name, whole.symm⟩

theorem isHidden_iff : isHidden segment ↔ segment = "" ∨ Group segment ∨ Slot segment := by
  simp only [isHidden, Bool.or_eq_true, beq_iff_eq, isGroup_iff, leads_at_iff, or_assoc]

theorem belowRoot_append (outside : ∀ dir ∈ outer, dir ∉ routeRoots) (rooted : root ∈ routeRoots)
    (rest : List String) : belowRoot (outer ++ root :: rest) = rest := by
  have passed : ∀ dir ∈ outer, (!routeRoots.contains dir) = true := by
    intro dir member
    simpa using outside dir member
  rw [belowRoot, List.dropWhile_append_of_pos passed, List.dropWhile_cons_of_neg]
  simpa using rooted

/-- The address that directories and a file give. -/
def addressOf (dirs : List String) (file : String) : String :=
  "/" ++ Text.join "/" ((dirs ++ fileSegment file).filter fun s => !isHidden s)

theorem routePath_of_below (below : belowRoot (Text.splitAt '/' path) = dirs ++ [file])
    (other : (dirs ++ [file]).head? ≠ some "routes") : routePath path = addressOf dirs file := by
  have whole : ((dirs ++ [file]).head? == some "routes") = false := beq_eq_false_iff_ne.mpr other
  simp only [routePath, below, whole, Bool.false_eq_true, if_false, List.dropLast_concat,
    List.getLast?_concat, Option.map_some, Option.getD_some, addressOf]

theorem routePath_of_routes (below : belowRoot (Text.splitAt '/' path) = "routes" :: (dirs ++ [file])) :
    routePath path = addressOf dirs file := by
  simp only [routePath, below, List.head?_cons, beq_self_eq_true, if_true, List.tail_cons,
    List.dropLast_concat, List.getLast?_concat, Option.map_some, Option.getD_some, addressOf]

theorem addressOf_insert (hidden : isHidden segment) (front back : List String) (file : String) :
    addressOf (front ++ segment :: back) file = addressOf (front ++ back) file := by
  simp only [addressOf, List.append_assoc, List.filter_append, List.cons_append,
    List.filter_cons, hidden, Bool.not_true, Bool.false_eq_true, if_false]

theorem mem_of_mem_belowRoot {segments : List String} (member : segment ∈ belowRoot segments) :
    segment ∈ segments := by
  unfold belowRoot at member
  split at member
  · exact member
  · next rest split =>
    apply (List.dropWhile_suffix fun s => !routeRoots.contains s).subset
    rw [split]
    exact List.mem_cons_of_mem _ member

theorem slashless_fileSegment (free : '/' ∉ file.toList) :
    ∀ s ∈ fileSegment file, '/' ∉ s.toList := by
  intro s member
  simp only [fileSegment] at member
  split at member
  · cases member
  · obtain rfl := List.mem_singleton.mp member
    exact fun held => free (Path.mem_of_mem_stem held)

theorem slashless_segments {rest : List String} (free : ∀ s ∈ rest, '/' ∉ s.toList) :
    ∀ s ∈ rest.dropLast ++ (rest.getLast?.map fileSegment).getD [], '/' ∉ s.toList := by
  intro s member
  rcases List.mem_append.mp member with dir | last
  · exact free s (List.dropLast_subset rest dir)
  · cases found : rest.getLast? with
    | none => simp [found] at last
    | some file =>
        rw [found, Option.map_some, Option.getD_some] at last
        exact slashless_fileSegment (free file (List.mem_of_getLast? found)) s last

theorem exists_shown (path : String) : ∃ segments, routePath path = "/" ++ Text.join "/" segments ∧
    ∀ s ∈ segments, s ≠ "" ∧ '/' ∉ s.toList ∧ ¬ Group s ∧ ¬ Slot s := by
  have inner : ∀ s ∈ belowRoot (Text.splitAt '/' path), '/' ∉ s.toList := by
    intro s member
    exact Text.not_mem_of_mem_splitAt (mem_of_mem_belowRoot member)
  refine ⟨_, rfl, ?_⟩
  intro s member
  obtain ⟨held, shown⟩ := List.mem_filter.mp member
  rw [Bool.not_eq_true', Bool.eq_false_iff, ne_eq, isHidden_iff, not_or, not_or] at shown
  refine ⟨shown.1, slashless_segments ?_ s held, shown.2⟩
  intro t listed
  split at listed
  · exact inner t (List.mem_of_mem_tail listed)
  · exact inner t listed

end Segments

/-- A path below a root of addresses: directories that are none, the root, the directories below it
and the file. -/
structure Routed where
  outer : List String
  root : String
  inner : List String
  file : String
  outside : ∀ dir ∈ outer, dir ∉ ["app", "pages", "server"]
  rooted : root ∈ ["app", "pages", "server"]
  slashless : ∀ segment ∈ outer ++ inner ++ [file], '/' ∉ segment.toList

namespace Routed

def path (p : Routed) : String :=
  Text.join "/" (p.outer ++ p.root :: (p.inner ++ [p.file]))

/-- The same path with other directories below its root. -/
def through (p : Routed) (inner : List String) (slashless : ∀ dir ∈ inner, '/' ∉ dir.toList) :
    Routed where
  outer := p.outer
  root := p.root
  inner := inner
  file := p.file
  outside := p.outside
  rooted := p.rooted
  slashless := by
    have kept := p.slashless
    simp only [List.mem_append, or_imp, forall_and] at kept ⊢
    exact ⟨⟨kept.1.1, slashless⟩, kept.2⟩

theorem belowRoot_path (p : Routed) : belowRoot (Text.splitAt '/' p.path) = p.inner ++ [p.file] := by
  have roots : ∀ root ∈ ["app", "pages", "server"], '/' ∉ root.toList := by decide
  have free : ∀ segment ∈ p.outer ++ p.root :: (p.inner ++ [p.file]), '/' ∉ segment.toList := by
    have kept := p.slashless
    simp only [List.mem_append, List.mem_cons, or_imp, forall_and, forall_eq] at kept ⊢
    exact ⟨kept.1.1, roots p.root p.rooted, kept.1.2, kept.2⟩
  rw [path, Text.splitAt_join rfl (by simp) free, belowRoot_append p.outside p.rooted]

theorem routePath_of_other (p : Routed) (other : (p.inner ++ [p.file]).head? ≠ some "routes") :
    routePath p.path = addressOf p.inner p.file :=
  routePath_of_below p.belowRoot_path other

theorem routePath_of_leading (p : Routed) {inner : List String} (leading : p.inner = "routes" :: inner) :
    routePath p.path = addressOf inner p.file := by
  apply routePath_of_routes
  rw [p.belowRoot_path, leading, List.cons_append]

/-- A hidden directory below the root, and not right before `routes` at the root, is not seen. -/
theorem routePath_through {p : Routed} {front back : List String} {segment : String}
    (slashless : ∀ dir ∈ front ++ segment :: back, '/' ∉ dir.toList) (parts : p.inner = front ++ back)
    (hidden : Group segment ∨ Slot segment)
    (apart : front = [] → (back ++ [p.file]).head? ≠ some "routes") :
    routePath (p.through (front ++ segment :: back) slashless).path = routePath p.path := by
  have unseen : isHidden segment := isHidden_iff.mpr (Or.inr hidden)
  have named : segment ≠ "routes" := by
    rintro rfl
    revert unseen
    decide
  -- Whether `routes` is left out is up to the first directory, and only an empty front changes that.
  cases front with
  | nil =>
      rw [routePath_of_other p (by rw [parts]; exact apart rfl), parts, ← addressOf_insert unseen]
      exact routePath_of_other _ (by simpa [through] using named)
  | cons dir front =>
      by_cases leading : dir = "routes"
      · subst leading
        have rest : p.inner = "routes" :: (front ++ back) := parts
        rw [routePath_of_leading p rest, ← addressOf_insert unseen]
        exact routePath_of_leading _ rfl
      · rw [routePath_of_other p (by simpa [parts] using leading), parts, ← addressOf_insert unseen]
        exact routePath_of_other _ (by simpa [through] using leading)

end Routed

/-- Groups and slots are not seen in addresses. One more of them below the root leaves the address of a
path as it is, unless it comes between the root and a first `routes`, which is left out only there.
The address of a path below a root lists its other directories and the name of its file, and no
address of any path shows a group, a slot or an empty segment. -/
theorem groups_and_slots_unseen :
    (∀ (p : Routed) (front back : List String) (segment : String)
      (slashless : ∀ dir ∈ front ++ segment :: back, '/' ∉ dir.toList),
      p.inner = front ++ back → Group segment ∨ Slot segment →
      (front = [] → (back ++ [p.file]).head? ≠ some "routes") →
      routePath (p.through (front ++ segment :: back) slashless).path = routePath p.path) ∧
    (∀ p : Routed,
      ((p.inner ++ [p.file]).head? ≠ some "routes" → routePath p.path = addressOf p.inner p.file) ∧
      ∀ inner, p.inner = "routes" :: inner → routePath p.path = addressOf inner p.file) ∧
    ∀ path, ∃ segments, routePath path = "/" ++ Text.join "/" segments ∧
      ∀ s ∈ segments, s ≠ "" ∧ '/' ∉ s.toList ∧ ¬ Group s ∧ ¬ Slot s := by
  refine ⟨?_, ?_, exists_shown⟩
  · intro p front back segment slashless parts hidden apart
    exact Routed.routePath_through slashless parts hidden apart
  · intro p
    exact ⟨p.routePath_of_other, fun inner => p.routePath_of_leading⟩

def teamPage : Routed where
  outer := ["web", "src"]
  root := "app"
  inner := ["routes", "teams"]
  file := "[id].tsx"
  outside := by decide
  rooted := by decide
  slashless := by decide

theorem teamPage_group_unseen :
    Group "(staff)" ∧
    routePath "web/src/app/routes/(staff)/teams/[id].tsx" = routePath "web/src/app/routes/teams/[id].tsx" ∧
    routePath "web/src/app/routes/teams/[id].tsx" = "/teams/[id]" := by
  have group : Group "(staff)" := ⟨"staff".toList, rfl, by decide⟩
  obtain ⟨insertion, address, _⟩ := groups_and_slots_unseen
  have wide : (teamPage.through (["routes"] ++ "(staff)" :: ["teams"]) (by decide)).path =
      "web/src/app/routes/(staff)/teams/[id].tsx" := by decide +kernel
  have narrow : teamPage.path = "web/src/app/routes/teams/[id].tsx" := by decide +kernel
  have listed : addressOf ["teams"] teamPage.file = "/teams/[id]" := by decide +kernel
  rw [← wide, ← narrow, ← listed]
  refine ⟨group, ?_, (address teamPage).2 ["teams"] rfl⟩
  exact insertion teamPage ["routes"] ["teams"] "(staff)" _ rfl (Or.inl group) (by decide)

example : routePath "app/routes/teams.tsx" = "/teams" ∧
    routePath "app/(staff)/routes/teams.tsx" = "/routes/teams" := by
  decide +kernel

end Roles

end Survey
