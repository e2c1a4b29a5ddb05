import Survey.Project.Discovery
import Survey.Proofs.Project.FileTree
import Survey.Proofs.Sorted

/-!
Which files of a project are analysed. Each is found once, under the path that leads to it. Its
extension is one that files are read by, whether it is taken from the whole path or from the name of
the file, since no point of a directory's name can come after the last slash.
-/
namespace Survey

namespace Path

/-- An extension without a slash stands in the name of the file. -/
theorem extension_eq {id : String} {front ext : List Char}
    (cut : Text.cutLast? (· = '.') id.toList = some (front, ext)) (slashless : '/' ∉ ext) :
    extension id = afterPoint id := by
  obtain ⟨point, isPoint, whole, pointless⟩ := Text.cutLast?_eq_some_iff.mp cut
  obtain rfl : point = '.' := of_decide_eq_true isPoint
  have named : ∃ middle, (fileName id).toList = middle ++ '.' :: ext := by
    unfold fileName
    split
    · next dir name parted =>
      obtain ⟨slash, isSlash, parts, -⟩ := Text.cutLast?_eq_some_iff.mp parted
      obtain rfl : slash = '/' := of_decide_eq_true isSlash
      rw [whole, List.append_eq_append_iff] at parts
      rcases parts with ⟨gap, -, tail⟩ | ⟨gap, -, tail⟩
      · have held : '/' ∈ '.' :: ext := by simp [tail]
        exact absurd held (by simp [slashless])
      · cases gap with
        | nil => simp at tail
        | cons c middle =>
            rw [List.cons_append, List.cons.injEq] at tail
            exact ⟨middle, by rw [String.toList_ofList, tail.2]⟩
    · exact ⟨front, whole⟩
  obtain ⟨middle, name⟩ := named
  have again : Text.cutLast? (· = '.') (fileName id).toList = some (middle, ext) :=
    Text.cutLast?_eq_some_iff.mpr ⟨'.', decide_eq_true rfl, name, pointless⟩
  simp only [extension, afterPoint, again, cut]

theorem extension_of_registered {id : String} (registered : afterPoint id ∈ Analyzer.registered) :
    extension id = afterPoint id := by
  have slashless : ∀ ext ∈ Analyzer.registered, '/' ∉ ext.toList := by decide
  have nonempty : "" ∉ Analyzer.registered := by decide
  cases cut : Text.cutLast? (· = '.') id.toList with
  | none =>
      rw [afterPoint, cut] at registered
      exact absurd registered nonempty
  | some parts =>
      have held : afterPoint id = String.ofList parts.2 := by rw [afterPoint, cut]
      have free := slashless _ registered
      rw [held, String.toList_ofList] at free
      exact extension_eq cut free

end Path

theorem Analyzer.ofExtension?_of_registered {ext : String} (registered : ext ∈ registered) :
    ∃ a, ofExtension? ext = some a := by
  obtain ⟨a, member, reads⟩ := List.mem_flatMap.mp registered
  apply Option.isSome_iff_exists.mp
  rw [ofExtension?, List.find?_isSome]
  exact ⟨a, member, List.contains_iff_mem.mpr reads⟩

namespace Discovery

variable {t : FileTree} {root p way : Place} {s : Settings} {excluded : List Glob} {id : String}
  {bytes old : ByteArray}

/-- A file that is read for facts has an analyzer by the extension of its name. -/
theorem ofExtension?_of_isSource {vue : Bool} (source : isSource vue id) :
    ∃ a, Analyzer.ofExtension? (Path.extension id) = some a := by
  have registered : Path.afterPoint id ∈ Analyzer.registered := by
    rw [isSource, Bool.and_eq_true] at source
    exact List.contains_iff_mem.mp source.2
  rw [Path.extension_of_registered registered]
  exact Analyzer.ofExtension?_of_registered registered

def sources (t : FileTree) (root : Place) (s : Settings) (excluded : List Glob) : List String :=
  if root.getLast? = some packageDirectory then []
  else (((t.filesBelow root).filter isVisible).map (Text.join "/")).filter fun id =>
    isSource s.includeVue id && !Settings.isExcluded excluded id

theorem files_eq (t : FileTree) (root : Place) (s : Settings) :
    files t root s = s.exclusions.map fun excluded => Sorted.sort (sources t root s excluded) := by
  unfold files sources
  cases s.exclusions with
  | error fault => rfl
  | ok excluded =>
      simp only [bind, Except.bind, pure, Except.pure, Except.map]
      split <;> rfl

theorem files_eq_ok {ids : List String} (found : files t root s = .ok ids) :
    ∃ excluded, s.exclusions = .ok excluded ∧ ids = Sorted.sort (sources t root s excluded) := by
  rw [files_eq] at found
  cases excluding : s.exclusions with
  | error fault => simp [excluding, Except.map] at found
  | ok excluded =>
      simp only [excluding, Except.map, Except.ok.injEq] at found
      exact ⟨excluded, rfl, found.symm⟩

theorem files_of_sources {ids ordered : List String}
    (listed : (s.exclusions.map (sources t root s)).toOption = some ids) (perm : ids.Perm ordered)
    (ascending : ordered.Pairwise (· ≤ ·)) : files t root s = .ok ordered := by
  rw [files_eq]
  cases excluding : s.exclusions with
  | error fault => simp [excluding, Except.map, Except.toOption] at listed
  | ok excluded =>
      rw [excluding] at listed
      cases Option.some.inj listed
      rw [Except.map, Sorted.sort_eq_of_ordered perm ascending]

theorem ofExtension?_of_mem_files {ids : List String} (found : files t root s = .ok ids)
    (member : id ∈ ids) : ∃ a, Analyzer.ofExtension? (Path.extension id) = some a := by
  obtain ⟨excluded, -, rfl⟩ := files_eq_ok found
  rw [Sorted.mem_sort, sources] at member
  split at member
  · cases member
  · have wanted := (List.mem_filter.mp member).2
    rw [Bool.and_eq_true] at wanted
    exact ofExtension?_of_isSource wanted.1

/-- What a file on a way from the root of a project needs to be analysed. -/
structure Wanted (t : FileTree) (root : Place) (s : Settings) (excluded : List Glob) (way : Place) :
    Prop where
  file : (t.content? (root ++ way)).isSome
  visible : isVisible way
  source : isSource s.includeVue (Text.join "/" way)
  kept : ¬ Settings.isExcluded excluded (Text.join "/" way)

theorem ne_nil_of_isSource {vue : Bool} (source : isSource vue (Text.join "/" way)) : way ≠ [] := by
  rintro rfl
  have none : ∀ vue, isSource vue (Text.join "/" []) = false := by decide
  rw [none] at source
  cases source

theorem named_of_mem_filesBelow (proper : t.Proper) (member : way ∈ t.filesBelow root) :
    ∀ name ∈ way, FileTree.IsName name := by
  obtain ⟨bytes, entry⟩ := FileTree.mem_filesBelow.mp member
  intro name held
  exact proper.named _ entry name (List.mem_append_right root held)

theorem mem_filesBelow_iff (proper : t.Proper) (nonempty : way ≠ []) :
    way ∈ t.filesBelow root ↔ (t.content? (root ++ way)).isSome := by
  have inside : root ++ way ≠ [] := by simp [nonempty]
  rw [FileTree.mem_filesBelow, Option.isSome_iff_exists]
  apply exists_congr
  intro bytes
  rw [FileTree.content?_eq_some_iff, proper.get?_eq_some_iff inside]

theorem mem_sources (proper : t.Proper) :
    id ∈ sources t root s excluded ↔ root.getLast? ≠ some packageDirectory ∧
      ∃ way, Wanted t root s excluded way ∧ Text.join "/" way = id := by
  unfold sources
  by_cases package : root.getLast? = some packageDirectory
  · simp [package]
  · rw [if_neg package, and_iff_right package]
    simp only [List.mem_filter, List.mem_map, Bool.and_eq_true, Bool.not_eq_true']
    constructor
    · rintro ⟨⟨way, ⟨member, visible⟩, rfl⟩, source, kept⟩
      have file := (mem_filesBelow_iff proper (ne_nil_of_isSource source)).mp member
      exact ⟨way, ⟨file, visible, source, by simp [kept]⟩, rfl⟩
    · rintro ⟨way, wanted, rfl⟩
      have member := (mem_filesBelow_iff proper (ne_nil_of_isSource wanted.source)).mpr wanted.file
      exact ⟨⟨way, ⟨member, wanted.visible⟩, rfl⟩, wanted.source, by simpa using wanted.kept⟩

/-- No two files have one path. -/
theorem nodup_sources (proper : t.Proper) (root : Place) (s : Settings) (excluded : List Glob) :
    (sources t root s excluded).Nodup := by
  unfold sources
  split
  · exact List.nodup_nil
  · rw [List.filter_map]
    have ways := (proper.nodup_filesBelow root).filter isVisible
    refine List.Nodup.map_on ?_ (ways.filter _)
    intro way held way' held' same
    obtain ⟨member, wanted⟩ := List.mem_filter.mp held
    obtain ⟨member', wanted'⟩ := List.mem_filter.mp held'
    have named := named_of_mem_filesBelow proper (List.mem_filter.mp member).1
    have named' := named_of_mem_filesBelow proper (List.mem_filter.mp member').1
    have source := (Bool.and_eq_true _ _ ▸ wanted).1
    have source' := (Bool.and_eq_true _ _ ▸ wanted').1
    -- A path names one place, so that two ways with the same path are one.
    have place := FileTree.placeOf_join [] (ne_nil_of_isSource source) named
    rw [same, FileTree.placeOf_join [] (ne_nil_of_isSource source') named'] at place
    exact place.symm

theorem perm_sources_insert (proper : t.Proper) (held : t.content? p = some old) :
    (sources (t.insert p (.file bytes)) root s excluded).Perm (sources t root s excluded) := by
  unfold sources
  split
  · exact .refl []
  · exact (((proper.perm_filesBelow_insert held root).filter _).map _).filter _

/-- Other bytes in a file do not change which files there are. -/
theorem files_insert_file (proper : t.Proper) (held : t.content? p = some old) :
    files (t.insert p (.file bytes)) root s = files t root s := by
  rw [files_eq, files_eq]
  congr 1
  funext excluded
  exact Sorted.sort_eq_of_perm (perm_sources_insert proper held)

end Discovery

end Survey
