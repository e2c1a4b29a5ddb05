import Mathlib.Data.List.Nodup
import Survey.Project.FileTree
import Survey.Proofs.Stages
import Survey.Proofs.Text.Lines

/-!
What changes of a tree of files leave alone. Making directories touches no file, and writing touches
the one file that the path names. A tree that differs in the bytes of one file has the same ways
through it.
-/
namespace Survey.FileTree

variable {t u : FileTree} {p q here next base : Place} {e : Entry} {bytes old : ByteArray}
  {path segment : String}

section Entries

theorem lookup_filter_ne (entries : List (Place × Entry)) (other : q ≠ p) :
    (entries.filter fun entry => entry.1 ≠ p).lookup q = entries.lookup q := by
  induction entries with
  | nil => rfl
  | cons entry entries ih =>
      by_cases same : entry.1 = p
      · have apart : (q == entry.1) = false := beq_eq_false_iff_ne.mpr (same ▸ other)
        rw [List.filter_cons_of_neg (by simpa using same), ih, List.lookup_cons, apart]
      · rw [List.filter_cons_of_pos (by simpa using same), List.lookup_cons, List.lookup_cons, ih]

theorem get?_insert (t : FileTree) (p q : Place) (e : Entry) :
    (t.insert p e).get? q = if q = p ∧ q ≠ [] then some e else t.get? q := by
  unfold get? insert
  by_cases root : q = []
  · simp [root]
  · by_cases same : q = p
    · subst same
      simp [root]
    · rw [if_neg root, if_neg root, if_neg (by simp [same]), List.lookup_cons,
        beq_eq_false_iff_ne.mpr same, lookup_filter_ne t.entries same]

def content? (t : FileTree) (p : Place) : Option ByteArray :=
  match t.get? p with
  | some (.file bytes) => some bytes
  | _ => none

theorem content?_eq_some_iff : t.content? p = some bytes ↔ t.get? p = some (.file bytes) := by
  unfold content?
  split
  · next found => simp [found]
  · next other => simpa using fun found => other bytes found

theorem content?_insert_directory (free : t.get? p = none) (q : Place) :
    (t.insert p .directory).content? q = t.content? q := by
  unfold content?
  rw [get?_insert]
  by_cases same : q = p ∧ q ≠ []
  · rw [if_pos same, same.1, free]
  · rw [if_neg same]

theorem content?_insert_file (inside : p ≠ []) (q : Place) :
    (t.insert p (.file bytes)).content? q = if q = p then some bytes else t.content? q := by
  unfold content?
  rw [get?_insert]
  by_cases same : q = p
  · rw [if_pos ⟨same, same ▸ inside⟩, if_pos same]
  · rw [if_neg (fun both => same both.1), if_neg same]

end Entries

section Paths

theorem step_eq_ok (stepped : t.step here segment = .ok next) : next = here.next segment := by
  unfold step at stepped
  split at stepped
  · cases stepped
  · cases stepped
  · exact (Except.ok.inj stepped).symm

/-- A path leads to the place that it names. -/
theorem locate_eq_ok (located : t.locate base path = .ok p) : p = placeOf base path := by
  have along : ∀ (segments : List String) (here : Place),
      segments.foldlM t.step here = .ok p → p = segments.foldl Place.next here := by
    intro segments
    induction segments with
    | nil =>
        intro here stepped
        exact (Except.ok.inj stepped).symm
    | cons segment segments ih =>
        intro here stepped
        rw [List.foldlM_cons, Stages.bind_eq_ok_iff] at stepped
        obtain ⟨next, first, rest⟩ := stepped
        rw [List.foldl_cons, ← step_eq_ok first]
        exact ih next rest
  exact along _ _ located

theorem find_of_located (located : t.locate base path = .ok p) :
    t.find base path = (t.get? p).elim (.error .notFound) fun e => .ok (p, e) := by
  cases found : t.get? p <;> simp [find, located, found, bind, Except.bind]

theorem find_of_lost {cause : FileError} (lost : t.locate base path = .error cause) :
    t.find base path = .error cause := by
  simp [find, lost, bind, Except.bind]

theorem find_eq_ok_iff :
    t.find base path = .ok (p, e) ↔ t.locate base path = .ok p ∧ t.get? p = some e := by
  constructor
  · intro found
    rw [find, Stages.bind_eq_ok_iff] at found
    obtain ⟨q, located, standing⟩ := found
    split at standing
    · next d there =>
      cases standing
      exact ⟨located, there⟩
    · cases standing
  · rintro ⟨located, standing⟩
    rw [find_of_located located, standing, Option.elim_some]

end Paths

section Changes

/-- Directories are made at free places, so that no file is touched, however far it gets. -/
theorem content?_makeAlong (t : FileTree) (here : Place) (making : Bool) (segments : List String)
    (q : Place) : (t.makeAlong here making segments).1.content? q = t.content? q := by
  induction segments generalizing t here making with
  | nil =>
      unfold makeAlong
      split <;> rfl
  | cons segment segments ih =>
      unfold makeAlong
      split
      · rfl
      · next next _ =>
        split
        · exact ih t next making
        · next free => rw [ih, content?_insert_directory free]

theorem content?_makeParent (t : FileTree) (base : Place) (path : String) (q : Place) :
    (t.makeParent base path).1.content? q = t.content? q := by
  unfold makeParent
  split
  · rfl
  · exact content?_makeAlong t _ false _ q

theorem withoutSlash_of_not_endsIn (plain : ¬ Text.endsIn path "/") :
    Path.withoutSlash path = path := by
  have last : ∀ c ∈ path.toList.reverse.head?, decide (c = '/') = false := by
    intro c held
    rw [decide_eq_false_iff_not]
    rintro rfl
    rw [List.head?_reverse, Option.mem_def, List.getLast?_eq_some_iff] at held
    obtain ⟨front, whole⟩ := held
    exact plain (List.isSuffixOf_iff_suffix.mpr ⟨front, whole.symm⟩)
  rw [Path.withoutSlash, Text.dropWhile_eq_self last, List.reverse_reverse, String.ofList_toList]

/-- Writing succeeds only where the path names the place of a file, and puts the bytes there. -/
theorem write_eq_ok (written : t.write base path bytes = .ok u) :
    u = t.insert (placeOf base path) (.file bytes) ∧ placeOf base path ≠ [] := by
  rw [write, Stages.bind_eq_ok_iff] at written
  obtain ⟨place, located, written⟩ := written
  split at written
  · cases written
  · next free =>
    by_cases slashed : Text.endsIn path "/"
    · rw [if_pos slashed] at written
      cases written
    · rw [if_neg slashed] at written
      rw [withoutSlash_of_not_endsIn slashed] at located
      rw [← locate_eq_ok located]
      refine ⟨(Except.ok.inj written).symm, ?_⟩
      rintro rfl
      exact free rfl

end Changes

section Replaced

/-- Other bytes in a file close no way and open none. -/
theorem locate_insert_file (held : t.content? p = some old) (base : Place) (path : String) :
    (t.insert p (.file bytes)).locate base path = t.locate base path := by
  have steps : (t.insert p (.file bytes)).step = t.step := by
    funext here segment
    unfold step
    rw [get?_insert]
    by_cases same : here = p ∧ here ≠ []
    · rw [if_pos same, same.1, content?_eq_some_iff.mp held]
    · rw [if_neg same]
  rw [locate, steps, locate]

theorem find_insert_file (held : t.content? p = some old)
    (found : t.find base path = .ok (q, e)) :
    ∃ d, (t.insert p (.file bytes)).find base path = .ok (q, d) := by
  obtain ⟨located, standing⟩ := find_eq_ok_iff.mp found
  rw [← locate_insert_file held] at located
  by_cases same : q = p ∧ q ≠ []
  · exact ⟨.file bytes, find_eq_ok_iff.mpr ⟨located, by rw [get?_insert, if_pos same]⟩⟩
  · exact ⟨e, find_eq_ok_iff.mpr ⟨located, by rw [get?_insert, if_neg same, standing]⟩⟩

/-- A file is read as before where another one has other bytes. -/
theorem readText_insert_file (held : t.content? p = some old) (other : placeOf base path ≠ p) :
    (t.insert p (.file bytes)).readText base path = t.readText base path := by
  have found : (t.insert p (.file bytes)).find base path = t.find base path := by
    have ways : (t.insert p (.file bytes)).locate base path = t.locate base path :=
      locate_insert_file held base path
    cases located : t.locate base path with
    | error cause => rw [find_of_lost located, find_of_lost (ways.trans located)]
    | ok q =>
        have apart : ¬ (q = p ∧ q ≠ []) := fun both => other (locate_eq_ok located ▸ both.1)
        rw [find_of_located located, find_of_located (ways.trans located), get?_insert, if_neg apart]
  rw [readText, read, found, readText, read]

end Replaced

section Proper

/-- A name that something in a directory can have. -/
structure IsName (name : String) : Prop where
  nonempty : name ≠ ""
  notHere : name ≠ "."
  notParent : name ≠ ".."
  slashless : '/' ∉ name.toList

/-- Nothing stands twice in a tree, and all has names that can be reached by paths. -/
structure Proper (t : FileTree) : Prop where
  once : (t.entries.map Prod.fst).Nodup
  named : ∀ entry ∈ t.entries, ∀ name ∈ entry.1, IsName name

/-- Where nothing stands twice, an entry is apart from all others. -/
theorem Proper.split (proper : t.Proper) (member : (p, e) ∈ t.entries) :
    ∃ before after, t.entries = before ++ (p, e) :: after ∧
      (∀ entry ∈ before, entry.1 ≠ p) ∧ ∀ entry ∈ after, entry.1 ≠ p := by
  obtain ⟨before, after, whole⟩ := List.append_of_mem member
  have once := proper.once
  rw [whole, List.map_append, List.map_cons, List.nodup_middle, List.nodup_cons, List.mem_append,
    not_or] at once
  refine ⟨before, after, whole, ?_, ?_⟩
  · intro entry held same
    exact once.1.1 (List.mem_map.mpr ⟨entry, held, same⟩)
  · intro entry held same
    exact once.1.2 (List.mem_map.mpr ⟨entry, held, same⟩)

theorem Proper.get?_eq_some_iff (proper : t.Proper) (inside : p ≠ []) :
    t.get? p = some e ↔ (p, e) ∈ t.entries := by
  rw [get?, if_neg inside, List.lookup_eq_some_iff]
  constructor
  · rintro ⟨before, after, whole, -⟩
    rw [whole]
    exact List.mem_append_right before List.mem_cons_self
  · intro member
    obtain ⟨before, after, whole, apart, -⟩ := proper.split member
    exact ⟨before, after, whole, fun entry held => bne_iff_ne.mpr (apart entry held).symm⟩

theorem Proper.perm_entries (proper : t.Proper) (member : (p, e) ∈ t.entries) :
    t.entries.Perm ((p, e) :: t.entries.filter fun entry => entry.1 ≠ p) := by
  obtain ⟨before, after, whole, left, right⟩ := proper.split member
  have others : t.entries.filter (fun entry => entry.1 ≠ p) = before ++ after := by
    rw [whole, List.filter_append, List.filter_cons_of_neg (by simp),
      List.filter_eq_self.mpr (by simpa using left), List.filter_eq_self.mpr (by simpa using right)]
  rw [others, whole]
  exact List.perm_middle

theorem mem_filesBelow {dir way : Place} :
    way ∈ t.filesBelow dir ↔ ∃ bytes, (dir ++ way, .file bytes) ∈ t.entries := by
  rw [filesBelow, List.mem_filterMap]
  constructor
  · rintro ⟨⟨p, _ | bytes⟩, held, below⟩
    · cases below
    · obtain rfl := List.isPrefixOf?_eq_some_iff_append_eq.mp below
      exact ⟨bytes, held⟩
  · rintro ⟨bytes, held⟩
    exact ⟨_, held, List.isPrefixOf?_eq_some_iff_append_eq.mpr rfl⟩

theorem Proper.nodup_filesBelow (proper : t.Proper) (dir : Place) : (t.filesBelow dir).Nodup := by
  have apart : t.entries.Pairwise fun a b => a.1 ≠ b.1 := List.pairwise_map.mp proper.once
  refine List.Pairwise.filterMap _ ?_ apart
  rintro ⟨p, _ | _⟩ ⟨q, _ | _⟩ differs way below way' below' rfl
  · cases below
  · cases below
  · cases below'
  · rw [List.isPrefixOf?_eq_some_iff_append_eq] at below below'
    exact differs (below.symm.trans below')

/-- The files of a tree are the same when one of them has other bytes. -/
theorem Proper.perm_filesBelow_insert (proper : t.Proper) (held : t.content? p = some old)
    (dir : Place) : ((t.insert p (.file bytes)).filesBelow dir).Perm (t.filesBelow dir) := by
  have standing := content?_eq_some_iff.mp held
  have inside : p ≠ [] := by
    rintro rfl
    cases standing
  have entries := proper.perm_entries ((proper.get?_eq_some_iff inside).mp standing)
  refine ((entries.filterMap _).trans (List.Perm.of_eq ?_)).symm
  simp only [filesBelow, insert, List.filterMap_cons]

theorem IsName.next_eq {name : String} (h : IsName name) (here : Place) :
    here.next name = here ++ [name] := by
  rw [Place.next, if_neg (not_or.mpr ⟨h.nonempty, h.notHere⟩), if_neg h.notParent]

/-- The path of a place below another names this place. -/
theorem placeOf_join {way : Place} (base : Place) (nonempty : way ≠ [])
    (named : ∀ name ∈ way, IsName name) : placeOf base (Text.join "/" way) = base ++ way := by
  have segments : Text.splitAt '/' (Text.join "/" way) = way :=
    Text.splitAt_join rfl nonempty fun name held => (named name held).slashless
  have relative : ¬ Text.leads "/" (Text.join "/" way) := by
    intro slashed
    obtain ⟨rest, whole⟩ := List.isPrefixOf_iff_prefix.mp slashed
    have first : "" ∈ way := by
      rw [← segments, Text.splitAt, ← whole]
      exact List.mem_cons_self
    exact (named "" first).nonempty rfl
  have along : ∀ (names : Place) (here : Place), (∀ name ∈ names, IsName name) →
      names.foldl Place.next here = here ++ names := by
    intro names
    induction names with
    | nil => intro here _; simp
    | cons name names ih =>
        intro here named
        rw [List.foldl_cons, (named name List.mem_cons_self).next_eq,
          ih _ fun other held => named other (List.mem_cons_of_mem name held), List.append_assoc,
          List.singleton_append]
  rw [placeOf, segments, start, if_neg relative, along way base named]

end Proper

end Survey.FileTree
