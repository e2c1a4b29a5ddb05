import Mathlib.Data.List.Basic
import Survey.Proofs.Facts.Calls

/-!
Exports that recur. Of exports with one name and kind that follow each other a script lists the first,
so its exports are distinct exactly when nothing stands between any two declared alike.
-/
namespace Survey.ScriptFacts

open Survey.Syntax

/-- Two exports have one name and one kind. -/
def Alike (a b : Export) : Prop :=
  a.name = b.name ∧ a.kind = b.kind

instance decidableAlike (a b : Export) : Decidable (Alike a b) :=
  inferInstanceAs (Decidable (_ ∧ _))

theorem Alike.symm {a b : Export} (h : Alike a b) : Alike b a :=
  ⟨h.1.symm, h.2.symm⟩

theorem Alike.trans {a b c : Export} (h : Alike a b) (k : Alike b c) : Alike a c :=
  ⟨h.1.trans k.1, h.2.trans k.2⟩

theorem sameExport_iff {a b : Export} : sameExport a b ↔ Alike a b := by
  simp only [sameExport, Alike, Bool.and_eq_true, beq_iff_eq]

section Runs

variable {first a b : Export} {repeats rest exports kept : List Export}

/-- Each run of exports that are alike and follow each other, and the first of it. -/
inductive Condensed : List Export → List Export → Prop
  | nil : Condensed [] []
  | run {first : Export} {repeats rest kept : List Export} (alike : ∀ e ∈ repeats, Alike first e)
      (other : ∀ e ∈ rest.head?, ¬ Alike first e) (later : Condensed rest kept) :
      Condensed (first :: (repeats ++ rest)) (first :: kept)

/-- Whatever stands between two exports that are alike is like them. -/
def Together (exports : List Export) : Prop :=
  ∀ a c b, [a, c, b].Sublist exports → Alike a b → Alike a c

theorem condensed_eraseRepsBy : ∀ exports, Condensed exports (exports.eraseRepsBy sameExport)
  | [] => .nil
  | first :: later => by
      have shorter := (List.dropWhile_suffix (sameExport first) (l := later)).length_le
      have whole : first :: later =
          first :: (later.takeWhile (sameExport first) ++ later.dropWhile (sameExport first)) := by
        rw [List.takeWhile_append_dropWhile]
      rw [Keyed.eraseRepsBy_cons, whole]
      refine .run ?_ ?_ (condensed_eraseRepsBy _)
      · intro e member
        exact sameExport_iff.mp (List.mem_takeWhile_imp member)
      · intro e head alike
        have stops := List.head?_dropWhile_not (sameExport first) later
        rw [Option.mem_def.mp head] at stops
        exact Bool.false_ne_true (stops.symm.trans (sameExport_iff.mpr alike))
  termination_by exports => exports.length

theorem Condensed.sublist (h : Condensed exports kept) : kept.Sublist exports := by
  induction h with
  | nil => exact .slnil
  | run _ _ _ ih => exact (ih.trans (List.sublist_append_right _ _)).cons_cons _

theorem Condensed.exists_alike (h : Condensed exports kept) (member : a ∈ exports) :
    ∃ e ∈ kept, Alike e a := by
  induction h with
  | nil => cases member
  | @run first repeats rest kept alike _ _ ih =>
      rcases List.mem_cons.mp member with rfl | member
      · exact ⟨a, List.mem_cons_self, rfl, rfl⟩
      · rcases List.mem_append.mp member with repeated | later
        · exact ⟨first, List.mem_cons_self, alike a repeated⟩
        · obtain ⟨e, held, same⟩ := ih later
          exact ⟨e, List.mem_cons_of_mem first held, same⟩

theorem Together.of_sublist (h : Together exports) (part : rest.Sublist exports) : Together rest :=
  fun a c b three => h a c b (three.trans part)

theorem together_run_iff (alike : ∀ e ∈ repeats, Alike first e)
    (other : ∀ e ∈ rest.head?, ¬ Alike first e) :
    Together (first :: (repeats ++ rest)) ↔ (∀ e ∈ rest, ¬ Alike first e) ∧ Together rest := by
  have run : ∀ e ∈ first :: repeats, Alike first e :=
    List.forall_mem_cons.mpr ⟨⟨rfl, rfl⟩, alike⟩
  rw [← List.cons_append]
  constructor
  · intro together
    refine ⟨?_, together.of_sublist (List.sublist_append_right _ rest)⟩
    intro e member same
    cases rest with
    | nil => cases member
    | cons next rest =>
        have differs : ¬ Alike first next := other next rfl
        rcases List.mem_cons.mp member with rfl | later
        · exact differs same
        · have tail : [next, e].Sublist (next :: rest) :=
            (List.singleton_sublist.mpr later).cons_cons next
          have three : [first, next, e].Sublist (first :: repeats ++ next :: rest) :=
            (tail.trans (List.sublist_append_right repeats _)).cons_cons first
          exact differs (together first next e three same)
  · rintro ⟨apart, together⟩ a c b three same
    -- The three are parted where the run ends.
    obtain ⟨inner, outer, parts, within, beyond⟩ := List.sublist_append_iff.mp three
    rcases inner with _ | ⟨x, _ | ⟨y, more⟩⟩
    · exact together a c b (parts.symm ▸ beyond) same
    · obtain ⟨rfl, rfl⟩ := List.cons.inj parts
      have early : Alike first a := run a (within.subset (by simp))
      have late : b ∈ rest := beyond.subset (by simp)
      exact absurd (early.trans same) (apart b late)
    · obtain ⟨rfl, rfl, _⟩ : a = x ∧ c = y ∧ [b] = more ++ outer := by simpa using parts
      have one : Alike first a := run a (within.subset (by simp))
      exact one.symm.trans (run c (within.subset (by simp)))

theorem Condensed.distinct_iff (h : Condensed exports kept) :
    (kept.Pairwise fun a b => ¬ Alike a b) ↔ Together exports := by
  induction h with
  | nil => exact iff_of_true List.Pairwise.nil fun _ _ _ three => nomatch three
  | @run first repeats rest kept alike other later ih =>
      rw [List.pairwise_cons, together_run_iff alike other, ih]
      refine and_congr_left' ⟨?_, ?_⟩
      · intro apart e member same
        obtain ⟨k, held, close⟩ := later.exists_alike member
        exact apart k held (same.trans close.symm)
      · intro apart e member
        exact apart e (later.sublist.subset member)

end Runs

/-- The exports that the top-level statements of a script declare, in order. -/
def declared (root : Tree) : List Export :=
  root.named.flatMap fun statement => (statementFacts statement).2

/-- How the exports of a module come from what its script declares. -/
structure Listed (root : Tree) (m : Module) : Prop where
  condensed : Condensed (declared root) m.exports
  distinct_iff : (m.exports.Pairwise fun a b => ¬ Alike a b) ↔ Together (declared root)

theorem listed_facts (f : ScriptFile) (resolver : Resolver) : Listed f.root (f.facts resolver) := by
  have made : (f.facts resolver).exports = (declared f.root).eraseRepsBy sameExport := by
    rw [declared, ← List.flatMap_map]
    rfl
  have condensed : Condensed (declared f.root) (f.facts resolver).exports :=
    made ▸ condensed_eraseRepsBy _
  exact ⟨condensed, condensed.distinct_iff⟩

theorem facts_of_parsed {parser : Parser} {path content : String} {root : Tree} (resolver : Resolver)
    (parsed : parser (dialectOf path) (Glyph.ofText content) = some root) :
    ∃ f : ScriptFile, f.root = root ∧
      Analyzer.script.facts path content resolver parser = .ok (f.facts resolver) := by
  refine ⟨⟨path, dialectOf path, root, Glyph.text (Glyph.ofText content)⟩, rfl, ?_⟩
  have opened : ScriptFile.ofText path (dialectOf path) content parser =
      .ok ⟨path, dialectOf path, root, Glyph.text (Glyph.ofText content)⟩ := by
    rw [ScriptFile.ofText, ScriptFile.ofGlyphs, parsed]
  rw [Analyzer.facts, opened]
  rfl

/-- Of the exports that a script declares, the first of each run of alike ones is listed. So no two
exports of a module are alike exactly when no two are declared alike with another one between. Every
text that a parser reads has such a module, and there is no other. -/
theorem exports_recur_when_parted (parser : Parser) (path content : String) (resolver : Resolver) :
    (∀ f : ScriptFile, Listed f.root (f.facts resolver)) ∧
    (∀ root, parser (dialectOf path) (Glyph.ofText content) = some root →
      ∃ m, Analyzer.script.facts path content resolver parser = .ok m ∧ Listed root m) ∧
    ∀ m, Analyzer.script.facts path content resolver parser = .ok m →
      ∃ root, parser (dialectOf path) (Glyph.ofText content) = some root ∧ Listed root m := by
  refine ⟨fun f => listed_facts f resolver, ?_, ?_⟩
  · intro root parsed
    obtain ⟨f, rfl, read⟩ := facts_of_parsed resolver parsed
    exact ⟨f.facts resolver, read, listed_facts f resolver⟩
  · intro m read
    obtain ⟨f, opened, made⟩ := Stages.bind_eq_ok_iff.mp read
    obtain rfl : f.facts resolver = m := Except.ok.inj made
    exact ⟨f.root, root_of_ofText opened, listed_facts f resolver⟩

/-- Two signatures of one function, and a clause that exports it under another name. -/
def overloadScript : String :=
  "export function f(a: A): B;\nexport function f(c) {}\nexport { f as g }"

theorem overloadScript_distinct :
    ∃ m, Analyzer.script.facts "lib/f.ts" overloadScript {} = .ok m ∧
      m.exports = [⟨"f", .function, false, some "(a: A) => B"⟩, ⟨"g", .variable, false, none⟩] ∧
      ∃ root, Script.parse? .plain (Glyph.ofText overloadScript) = some root ∧
        Together (declared root) := by
  have evaluated : (Analyzer.script.facts "lib/f.ts" overloadScript {}).toOption.map
      Module.exports = some [⟨"f", .function, false, some "(a: A) => B"⟩,
        ⟨"g", .variable, false, none⟩] := by decide +kernel
  obtain ⟨m, read, exports⟩ := Stages.exists_ok_of_map evaluated
  obtain ⟨root, parsed, listed⟩ := (exports_recur_when_parted _ _ _ _).2.2 m read
  refine ⟨m, read, exports, root, parsed, listed.distinct_iff.mp ?_⟩
  rw [exports]
  decide

/-- An interface declared in two parts, with a constant between. -/
def partedScript : String :=
  "export interface Box {}\nexport const unit = 1\nexport interface Box {}"

/-- The two parts are listed as two exports. -/
theorem partedScript_recurs :
    ∃ m, Analyzer.script.facts "lib/box.ts" partedScript {} = .ok m ∧
      m.exports = [⟨"Box", .interface, true, none⟩, ⟨"unit", .variable, false, none⟩,
        ⟨"Box", .interface, true, none⟩] ∧
      ¬ m.exports.Pairwise fun a b => ¬ Alike a b := by
  have evaluated : (Analyzer.script.facts "lib/box.ts" partedScript {}).toOption.map
      Module.exports = some [⟨"Box", .interface, true, none⟩, ⟨"unit", .variable, false, none⟩,
        ⟨"Box", .interface, true, none⟩] := by decide +kernel
  obtain ⟨m, read, exports⟩ := Stages.exists_ok_of_map evaluated
  refine ⟨m, read, exports, ?_⟩
  rw [exports]
  decide

end Survey.ScriptFacts
