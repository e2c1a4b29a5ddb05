import Survey.Inspection.Impact
import Survey.Proofs.Graph.Degrees

/-!
Bridges and hubs. A bridge is reported by the degrees of a file, which count arcs, a hub by the
importers of a component, which count modules, and no file is reported as both.
-/
namespace Survey.Impact

variable {g : Graph} {limits : Thresholds} {file : String} {f : Finding}

/-- A file is reported under a title. -/
def Reports (findings : List Finding) (title file : String) : Prop :=
  ∃ f ∈ findings, f.title = title ∧ f.file = some file

theorem isHub_iff {c : Component} : isHub limits c ↔
    limits.hubUsers < c.usedBy.length ∧ limits.hubRenders < c.renders.length := by
  simp only [isHub, Bool.and_eq_true, decide_eq_true_eq]

theorem isBridge_iff {d : Degree} : isBridge limits d ↔
    limits.bridgeDegree < d.fanIn ∧ limits.bridgeDegree < d.fanOut := by
  simp only [isBridge, Bool.and_eq_true, decide_eq_true_eq]

theorem title_of_mem_ofDegree {d : Degree} (member : f ∈ ofDegree limits file d) :
    f.title = "High-impact file (fan-in)" ∨ f.title = "High coupling (fan-out)" := by
  rcases List.mem_append.mp member with entered | left
  · obtain ⟨_, listed⟩ := List.mem_ite_nil_right.mp entered
    rw [List.mem_singleton.mp listed]
    exact Or.inl rfl
  · obtain ⟨_, listed⟩ := List.mem_ite_nil_right.mp left
    rw [List.mem_singleton.mp listed]
    exact Or.inr rfl

theorem mem_report : f ∈ report g limits ↔
    (∃ file d, (file, d) ∈ Degree.table g.arcs ∧ f ∈ ofDegree limits file d) ∨
    (∃ c ∈ g.components, isHub limits c ∧ f = hub c) ∨
    ∃ file d, (file, d) ∈ Degree.table g.arcs ∧ isBridge limits d ∧
      (∀ c ∈ g.components, isHub limits c → c.file ≠ file) ∧ f = bridge file d := by
  simp only [report, List.mem_append, List.mem_flatMap, List.mem_map, List.mem_filter, Prod.exists,
    or_assoc, Bool.and_eq_true, Bool.not_eq_true', ← Bool.not_eq_true, List.contains_iff_mem,
    not_exists, not_and, and_assoc, @eq_comm _ f, ne_eq]

theorem reports_hub_iff : Reports (report g limits) "Hub component" file ↔
    ∃ c ∈ g.components, c.file = file ∧ isHub limits c := by
  constructor
  · rintro ⟨f, held, titled, placed⟩
    rcases mem_report.mp held with ⟨_, _, _, counted⟩ | ⟨c, member, isHub, rfl⟩ | ⟨_, _, _, _, _, rfl⟩
    · rcases title_of_mem_ofDegree counted with other | other <;> simp [titled] at other
    · exact ⟨c, member, Option.some.inj placed, isHub⟩
    · simp [bridge] at titled
  · rintro ⟨c, member, rfl, isHub⟩
    exact ⟨hub c, mem_report.mpr (Or.inr (Or.inl ⟨c, member, isHub, rfl⟩)), rfl, rfl⟩

theorem reports_bridge_iff : Reports (report g limits) "Bridge file" file ↔
    ∃ d, (file, d) ∈ Degree.table g.arcs ∧ isBridge limits d ∧
      ∀ c ∈ g.components, isHub limits c → c.file ≠ file := by
  constructor
  · rintro ⟨f, held, titled, placed⟩
    rcases mem_report.mp held with ⟨_, _, _, counted⟩ | ⟨c, _, _, rfl⟩ |
      ⟨_, d, entry, isBridge, apart, rfl⟩
    · rcases title_of_mem_ofDegree counted with other | other <;> simp [titled] at other
    · simp [hub] at titled
    · obtain rfl := Option.some.inj placed
      exact ⟨d, entry, isBridge, apart⟩
  · rintro ⟨d, entry, isBridge, apart⟩
    exact ⟨bridge file d, mem_report.mpr (Or.inr (Or.inr ⟨file, d, entry, isBridge, apart, rfl⟩)), rfl,
      rfl⟩

/-- The table of degrees counts the arcs, as one pass over them does; the importers of a module, which
a component has as its users, are as many as the arcs to it exactly where no module has two; and a
file is reported as a bridge exactly where both of its degrees are above the limit and it is not
reported as a hub. -/
theorem bridges_apart_from_hubs (g : Graph) (settings : Settings) :
    Degree.Counts g.arcs (Degree.table g.arcs) ∧
    Degree.table g.arcs = g.arcs.foldl Degree.tally [] ∧
    (∀ modules schema file,
      ((Graph.build modules schema).importers file).length ≤
        (Graph.build modules schema).arcs.countP (·.target == file) ∧
      (((Graph.build modules schema).importers file).length =
          (Graph.build modules schema).arcs.countP (·.target == file) ↔
        ¬ ∃ m ∈ (Graph.build modules schema).modules, 2 ≤ (Graph.build modules schema).arcs.countP
          fun arc => arc.source == m.path && arc.target == file) ∧
      ∀ c ∈ (Graph.build modules schema).components, c.file = file →
        c.usedBy = (Graph.build modules schema).importers file) ∧
    (∀ file, Reports (inspector.findings g settings) "Hub component" file ↔
      ∃ c ∈ g.components, c.file = file ∧
        settings.inspection.thresholds.hubUsers < c.usedBy.length ∧
        settings.inspection.thresholds.hubRenders < c.renders.length) ∧
    ∀ file, Reports (inspector.findings g settings) "Bridge file" file ↔
      (∃ d, (file, d) ∈ Degree.table g.arcs ∧
        settings.inspection.thresholds.bridgeDegree < d.fanIn ∧
        settings.inspection.thresholds.bridgeDegree < d.fanOut) ∧
      ¬ Reports (inspector.findings g settings) "Hub component" file := by
  have findings : inspector.findings g settings = report g settings.inspection.thresholds := rfl
  rw [findings]
  refine ⟨Degree.counts_table g.arcs, Degree.table_eq_foldl g.arcs, ?_, ?_, ?_⟩
  · intro modules schema file
    have filed := Graph.filed_build modules schema
    refine ⟨filed.length_importers_le file, Graph.length_importers_build_eq_iff, ?_⟩
    rintro c member rfl
    exact filed.usedBy_of_mem_components member
  · intro file
    simp only [reports_hub_iff, isHub_iff]
  · intro file
    rw [reports_bridge_iff, reports_hub_iff]
    constructor
    · rintro ⟨d, entry, above, apart⟩
      refine ⟨⟨d, entry, isBridge_iff.mp above⟩, ?_⟩
      rintro ⟨c, member, same, isHub⟩
      exact apart c member isHub same
    · rintro ⟨⟨d, entry, above⟩, none⟩
      refine ⟨d, entry, isBridge_iff.mpr above, ?_⟩
      intro c member isHub same
      exact none ⟨c, member, same, isHub⟩

end Survey.Impact
