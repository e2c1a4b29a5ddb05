import Survey.Facts.Read
import Survey.Proofs.Keyed
import Survey.Proofs.Stages
import Survey.Proofs.Text.Scan

/-!
What a script shows of the calls in it. An access to data is recorded exactly where a call of that
form stands in the tree, however deep, and with it the side effect that it counts as.
-/
namespace Survey

namespace Syntax

/-- A tree is another or stands somewhere below it. -/
inductive Within (s : Tree) : Tree → Prop
  | self : Within s s
  | child {t c : Tree} (listed : c ∈ t.children) (inside : Within s c) : Within s t

mutual

theorem mem_subtrees_iff (s : Tree) : ∀ t : Tree, s ∈ t.subtrees ↔ Within s t
  | .leaf l gs => by
      rw [Tree.subtrees, List.mem_singleton]
      constructor
      · rintro rfl
        exact .self
      · intro within
        cases within with
        | self => rfl
        | child listed _ => cases listed
  | .node l ts => by
      rw [Tree.subtrees, List.mem_cons, mem_subtreesOf_iff s ts]
      constructor
      · rintro (rfl | ⟨c, listed, inside⟩)
        · exact .self
        · exact .child listed inside
      · intro within
        cases within with
        | self => exact Or.inl rfl
        | child listed inside => exact Or.inr ⟨_, listed, inside⟩

theorem mem_subtreesOf_iff (s : Tree) :
    ∀ ts : List Tree, s ∈ Tree.subtreesOf ts ↔ ∃ t ∈ ts, Within s t
  | [] => by simp [Tree.subtreesOf]
  | t :: ts => by
      rw [Tree.subtreesOf, List.mem_append, mem_subtrees_iff s t, mem_subtreesOf_iff s ts]
      simp

end

end Syntax

namespace Signals

open Survey.Text

/-- A callee names an operation on an entity of a database client: white space apart, it is the
client, the entity and the operation with points between. -/
structure Names (callee : String) (a : DataAccess) : Prop where
  spelled : ∃ client ∈ ["prisma", "db"], callee.toList.filter (fun c => !isBlank c) =
    client.toList ++ '.' :: (a.entity.toList ++ '.' :: a.operation.toList)
  entity : a.entity.toList ≠ [] ∧ ∀ c ∈ a.entity.toList, isWord c
  operation : a.operation ∈ ["findMany", "findUnique", "findFirst", "create", "createMany", "update",
    "updateMany", "delete", "deleteMany", "upsert", "count", "aggregate", "groupBy"]

theorem names_of_dataAccess? {callee : String} {a : DataAccess} (read : dataAccess? callee = some a) :
    Names callee a := by
  simp only [dataAccess?, Option.bind_eq_bind, Option.bind_eq_some_iff, Option.or_eq_some_iff,
    Prod.exists, lit_eq_some_iff, Option.ite_none_right_eq_some, Bool.and_eq_true, List.isEmpty_iff,
    List.contains_iff_mem, Option.some.injEq] at read
  obtain ⟨rest, client, entity, _, named, after, rfl, operation, _, last, ⟨rfl, known⟩, rfl⟩ := read
  obtain ⟨word, some, all, rfl, rfl⟩ := run1_eq_some named
  obtain ⟨verb, _, _, rfl, rfl⟩ := run1_eq_some last
  refine ⟨?_, ⟨?_, ?_⟩, known⟩
  · simp only [String.toList_ofList]
    rcases client with client | ⟨_, client⟩
    · exact ⟨"prisma", by simp, by simpa using client⟩
    · exact ⟨"db", by simp, by simpa using client⟩
  · simpa using some
  · simpa using all

theorem dataAccess?_of_names {callee : String} {a : DataAccess} (names : Names callee a) :
    dataAccess? callee = some a := by
  rcases a with ⟨entity, operation⟩
  obtain ⟨⟨client, listed, whole⟩, ⟨some, word⟩, known⟩ := names
  have verbs : ∀ verb ∈ dataOperations, verb.toList ≠ [] ∧ ∀ c ∈ verb.toList, isWord c := by
    decide +kernel
  obtain ⟨verb, letters⟩ := verbs operation known
  have opened : (lit "prisma." (callee.toList.filter fun c => !isBlank c)).or
      (lit "db." (callee.toList.filter fun c => !isBlank c)) =
        Option.some (entity.toList ++ '.' :: operation.toList) := by
    rw [whole]
    rcases List.mem_cons.mp listed with rfl | listed
    · rfl
    · obtain rfl := List.mem_singleton.mp listed
      rfl
  -- A point is no letter of a word, so the entity is read up to the one before the operation.
  have stops : ∀ c ∈ ('.' :: operation.toList).head?, isWord c = false := by
    intro c head
    cases head
    decide
  have named : run1 isWord (entity.toList ++ '.' :: operation.toList) =
      Option.some (entity, '.' :: operation.toList) := by
    rw [run1_append some word stops, String.ofList_toList]
  have point : lit "." ('.' :: operation.toList) = Option.some operation.toList := rfl
  have last : run1 isWord operation.toList = Option.some (operation, []) := by
    have read : run1 isWord (operation.toList ++ []) = _ := run1_append verb letters (by simp)
    rwa [List.append_nil, String.ofList_toList] at read
  have contained : dataOperations.contains operation = true := List.contains_iff_mem.mpr known
  simp only [dataAccess?, opened, named, point, last, contained, Option.bind_eq_bind,
    Option.bind_some, List.isEmpty_nil, Bool.and_self, if_true]

end Signals

namespace ScriptFacts

open Survey.Syntax

variable {t : Tree} {a : DataAccess}

/-- A call performs an operation on an entity when its callee is a member that names it. -/
structure Performs (call : Tree) (a : DataAccess) : Prop where
  kind : call.kind = .call
  callee : ∃ function, call.child? .function = some function ∧ function.kind = .member ∧
    Signals.Names function.text a

theorem Performs.unique {b : DataAccess} (one : Performs t a) (other : Performs t b) : a = b := by
  obtain ⟨_, function, found, _, names⟩ := one
  obtain ⟨_, again, foundAgain, _, namesToo⟩ := other
  obtain rfl : function = again := Option.some.inj (found.symm.trans foundAgain)
  have read := Signals.dataAccess?_of_names names
  rw [Signals.dataAccess?_of_names namesToo] at read
  exact (Option.some.inj read).symm

/-- What is shown apart from accesses to data; of side effects only those of a component's life. -/
def CallFact.Plain : CallFact → Prop
  | .access _ => False
  | .sideEffect name => name ∈ Signals.lifecycleHooks
  | _ => True

theorem plain_toList_map {α : Type} {f : α → CallFact} (plain : ∀ b, (f b).Plain) (found : Option α) :
    ∀ fact ∈ (found.map f).toList, fact.Plain := by
  intro fact member
  cases found with
  | none => cases member
  | some b =>
      obtain rfl := List.mem_singleton.mp member
      exact plain b

theorem plain_namedCall (callee : String) (arguments : Option Tree) :
    ∀ fact ∈ namedCall callee arguments, fact.Plain := by
  intro fact member
  simp only [namedCall, List.mem_append] at member
  rcases member with (hook | effect) | other
  · obtain ⟨_, rfl⟩ : _ ∧ fact = .hook callee := by simpa using hook
    trivial
  · obtain ⟨listed, rfl⟩ : _ ∧ fact = .sideEffect callee := by simpa using effect
    exact listed
  · split at other
    · exact plain_toList_map (f := .request) (fun _ => trivial) _ fact other
    · split at other
      · obtain rfl := List.mem_singleton.mp other
        trivial
      · split at other
        · obtain rfl := List.mem_singleton.mp other
          trivial
        · split at other
          · exact plain_toList_map (f := .dynamicImport) (fun _ => trivial) _ fact other
          · cases other

theorem memberCall_cases (function : Tree) (arguments : Option Tree) :
    (∃ a, Signals.Names function.text a ∧ memberCall function arguments = [.access a]) ∨
      (∀ a, ¬ Signals.Names function.text a) ∧
        ∀ fact ∈ memberCall function arguments, fact.Plain := by
  unfold memberCall
  cases read : Signals.dataAccess? function.text with
  | some a => exact Or.inl ⟨a, Signals.names_of_dataAccess? read, rfl⟩
  | none =>
      refine Or.inr ⟨?_, ?_⟩
      · intro a names
        rw [Signals.dataAccess?_of_names names] at read
        cases read
      · intro fact member
        -- Apart from accesses only members of `document` and of `React` show anything.
        dsimp only at member
        split at member
        · obtain ⟨_, rfl⟩ : _ ∧ fact = .danger "document.write()" := by simpa using member
          trivial
        · exact plain_namedCall _ arguments fact member
        · cases member

theorem plain_callFacts (t : Tree)
    (other : ∀ function, t.kind = .call → t.child? .function = some function → function.kind ≠ .member) :
    ∀ fact ∈ callFacts t, fact.Plain := by
  intro fact member
  unfold callFacts at member
  split at member
  · next call =>
    split at member
    · cases member
    · next function found =>
      dsimp only at member
      split at member
      · exact plain_namedCall _ _ fact member
      · exact plain_toList_map (f := .dynamicImport) (fun _ => trivial) _ fact member
      · next kind => exact absurd kind (other function call found)
      · cases member
  · obtain ⟨_, rfl⟩ : _ ∧ fact = .danger "new Function()" := by simpa using member
    trivial
  · cases member

/-- A tree by itself shows one access to data, or none and only plain facts. -/
theorem callFacts_cases (t : Tree) :
    (∃ a, Performs t a ∧ callFacts t = [.access a]) ∨
      (∀ a, ¬ Performs t a) ∧ ∀ fact ∈ callFacts t, fact.Plain := by
  by_cases calls : ∃ function, t.kind = .call ∧ t.child? .function = some function ∧
      function.kind = .member
  · obtain ⟨function, call, found, member⟩ := calls
    have shown : callFacts t = memberCall function (t.child? .arguments) := by
      simp only [callFacts, call, found, member]
    rw [shown]
    rcases memberCall_cases function (t.child? .arguments) with ⟨a, names, only⟩ | ⟨none, plain⟩
    · exact Or.inl ⟨a, ⟨call, function, found, member, names⟩, only⟩
    · refine Or.inr ⟨?_, plain⟩
      rintro a ⟨_, again, foundAgain, _, names⟩
      obtain rfl : function = again := Option.some.inj (found.symm.trans foundAgain)
      exact none a names
  · refine Or.inr ⟨?_, plain_callFacts t ?_⟩
    · rintro a ⟨call, function, found, member, _⟩
      exact calls ⟨function, call, found, member⟩
    · intro function call found member
      exact calls ⟨function, call, found, member⟩

section Gathered

variable {trees : List Tree}

theorem access_mem_iff : .access a ∈ trees.flatMap callFacts ↔ ∃ t ∈ trees, Performs t a := by
  rw [List.mem_flatMap]
  refine exists_congr fun t => and_congr_right fun _ => ?_
  rcases callFacts_cases t with ⟨b, performs, only⟩ | ⟨none, plain⟩
  · rw [only, List.mem_singleton, CallFact.access.injEq]
    constructor
    · rintro rfl
      exact performs
    · exact fun other => other.unique performs
  · exact iff_of_false (fun member => plain _ member) (none a)

theorem sideEffect_mem {name : String} (member : .sideEffect name ∈ trees.flatMap callFacts) :
    name ∈ Signals.lifecycleHooks := by
  obtain ⟨t, _, shown⟩ := List.mem_flatMap.mp member
  rcases callFacts_cases t with ⟨b, _, only⟩ | ⟨_, plain⟩
  · rw [only] at shown
    cases List.mem_singleton.mp shown
  · exact plain _ shown

theorem mem_accesses {calls : List CallFact} :
    a ∈ (calls.filterMap CallFact.access?).eraseDups ↔ .access a ∈ calls := by
  rw [List.mem_eraseDups, List.mem_filterMap]
  constructor
  · rintro ⟨fact, member, found⟩
    cases fact <;> cases found
    exact member
  · intro member
    exact ⟨_, member, rfl⟩

/-- No call of a component's life is named like the mark of an access. -/
theorem marker_mem_iff {operation : String} :
    "DB:" ++ operation ∈ ((trees.flatMap callFacts).filterMap CallFact.sideEffect?).eraseDups ↔
      ∃ a, .access a ∈ trees.flatMap callFacts ∧ a.operation = operation := by
  rw [List.mem_eraseDups, List.mem_filterMap]
  constructor
  · rintro ⟨fact, member, found⟩
    cases fact with
    | sideEffect name =>
        have apart : ∀ hook ∈ Signals.lifecycleHooks, hook.toList.head? ≠ some 'D' := by decide
        obtain rfl : name = "DB:" ++ operation := Option.some.inj found
        exact absurd (by simp) (apart _ (sideEffect_mem member))
    | access a =>
        refine ⟨a, member, ?_⟩
        have same : "DB:" ++ a.operation = "DB:" ++ operation := Option.some.inj found
        rw [← String.toList_inj, String.toList_append, String.toList_append] at same
        exact String.toList_inj.mp (List.append_cancel_left same)
    | hook _ => cases found
    | request _ => cases found
    | danger _ => cases found
    | dynamicImport _ => cases found
  · rintro ⟨a, member, rfl⟩
    exact ⟨.access a, member, rfl⟩

end Gathered

/-- What the facts of a script say of its calls, seen from its tree. -/
structure Recorded (root : Tree) (m : Module) : Prop where
  accesses : ∀ a, a ∈ m.dataAccess ↔ ∃ call, Within call root ∧ Performs call a
  marks : ∀ operation, "DB:" ++ operation ∈ m.sideEffects ↔
    ∃ a ∈ m.dataAccess, a.operation = operation
  operations : ∀ a ∈ m.dataAccess, a.operation ∈ ["findMany", "findUnique", "findFirst", "create",
    "createMany", "update", "updateMany", "delete", "deleteMany", "upsert", "count", "aggregate",
    "groupBy"]
  hooks : m.hooks.Nodup
  sideEffects : m.sideEffects.Nodup
  apiCalls : m.apiCalls.Nodup
  dataAccess : m.dataAccess.Nodup
  elements : m.elements.Nodup
  dangers : m.dangerousPatterns.Nodup

theorem mem_dataAccess_facts (f : ScriptFile) (resolver : Resolver) :
    a ∈ (f.facts resolver).dataAccess ↔ ∃ call, Within call f.root ∧ Performs call a := by
  refine mem_accesses.trans (access_mem_iff.trans ?_)
  exact exists_congr fun call => and_congr_left' (mem_subtrees_iff call f.root)

theorem recorded_facts (f : ScriptFile) (resolver : Resolver) :
    Recorded f.root (f.facts resolver) where
  accesses a := mem_dataAccess_facts f resolver
  marks operation := by
    refine marker_mem_iff.trans (exists_congr fun a => and_congr_left' ?_)
    exact mem_accesses.symm
  operations a member := by
    obtain ⟨call, _, _, function, _, _, names⟩ := (mem_dataAccess_facts f resolver).mp member
    exact names.operation
  hooks := Keyed.nodup_eraseDups _
  sideEffects := Keyed.nodup_eraseDups _
  apiCalls := Keyed.nodup_eraseDups _
  dataAccess := Keyed.nodup_eraseDups _
  elements := by
    rcases f with ⟨path, dialect, root, text⟩
    cases dialect with
    | plain => exact List.nodup_nil
    | markup => exact Keyed.nodup_eraseDups _
  dangers := Keyed.nodup_eraseDups _

theorem root_of_ofText {parser : Parser} {path content : String} {dialect : Dialect} {f : ScriptFile}
    (read : ScriptFile.ofText path dialect content parser = .ok f) :
    parser dialect (Glyph.ofText content) = some f.root := by
  unfold ScriptFile.ofText ScriptFile.ofGlyphs at read
  split at read
  · next root parsed =>
    obtain rfl := Except.ok.inj read
    exact parsed
  · cases read

/-- The accesses to data that a script records are those that the calls in its tree perform, each once
and with a known operation, and an access is marked among the side effects exactly when one with its
operation is recorded. Nothing that is recorded of calls, elements and dangers recurs. The tree may be
read by any parser. -/
theorem calls_recorded_in_step :
    (∀ (f : ScriptFile) (resolver : Resolver), Recorded f.root (f.facts resolver)) ∧
    ∀ parser path content resolver m, Analyzer.script.facts path content resolver parser = .ok m →
      ∃ root, parser (dialectOf path) (Glyph.ofText content) = some root ∧ Recorded root m := by
  refine ⟨recorded_facts, ?_⟩
  intro parser path content resolver m read
  obtain ⟨f, opened, made⟩ := Stages.bind_eq_ok_iff.mp read
  obtain rfl : f.facts resolver = m := Except.ok.inj made
  exact ⟨f.root, root_of_ofText opened, recorded_facts f resolver⟩

/-- Two accesses, one in the arguments of the other and written over two lines. -/
def countScript : String :=
  "go(db.post.count(prisma\n .user.count()))"

theorem countScript_recorded :
    ∃ m, Analyzer.script.facts "lib/count.ts" countScript {} = .ok m ∧
      m.dataAccess = [⟨"post", "count"⟩, ⟨"user", "count"⟩] ∧ "DB:count" ∈ m.sideEffects := by
  have evaluated : (Analyzer.script.facts "lib/count.ts" countScript {}).toOption.map
      Module.dataAccess = some [⟨"post", "count"⟩, ⟨"user", "count"⟩] := by decide +kernel
  cases read : Analyzer.script.facts "lib/count.ts" countScript {} with
  | error fault =>
      rw [read] at evaluated
      cases evaluated
  | ok m =>
      rw [read] at evaluated
      have accesses : m.dataAccess = [⟨"post", "count"⟩, ⟨"user", "count"⟩] :=
        Option.some.inj evaluated
      obtain ⟨_, _, recorded⟩ := calls_recorded_in_step.2 _ _ _ _ m read
      refine ⟨m, rfl, accesses, (recorded.marks "count").mpr ⟨⟨"post", "count"⟩, ?_, rfl⟩⟩
      rw [accesses]
      exact List.mem_cons_self

end ScriptFacts

end Survey
