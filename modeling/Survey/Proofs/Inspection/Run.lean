import Mathlib.Data.List.Forall2
import Mathlib.Tactic.MkIffOfInductiveProp
import Survey.Inspection.Run

/-!
What a run of inspectors owes to each of them. A result tells of its own inspector alone, a fault
counts as one error, and an inspector without its license is not even asked.
-/
namespace Survey.Inspection

variable {i : Inspector} {g : Graph} {s : Settings} {selection : Selection}
  {license : License.Standing}

section Admission

/-- All that an inspector needs to run. -/
@[mk_iff]
structure Admitted (i : Inspector) (s : Settings) (selection : Selection)
    (license : License.Standing) : Prop where
  enabled : s.inspection.enabled
  selected : selection.only = [] ∨ i.id ∈ selection.only
  free : selection.freeOnly → i.tier ≠ .pro
  unexcluded : i.id ∉ selection.exclude
  unexcludedInSettings : i.id ∉ s.inspection.exclude
  licensed : i.tier = .pro → license.isValid

theorem skipReason?_eq_none_iff :
    skipReason? i s selection license = none ↔ Admitted i s selection license := by
  have passed : ∀ {hindrance : Prop} [Decidable hindrance] {reason : SkipReason}
      {rest : Option SkipReason},
      (if hindrance then some reason else rest) = none ↔ ¬ hindrance ∧ rest = none := by
    intro hindrance _ reason rest
    by_cases holds : hindrance <;> simp [holds]
  rw [admitted_iff, or_iff_not_imp_left]
  simp [skipReason?, passed]

theorem not_admitted_of_unlicensed (paid : i.tier = .pro) (unlicensed : license.isValid = false) :
    ¬ Admitted i s selection license := by
  intro admitted
  have licensed := admitted.licensed paid
  rw [unlicensed] at licensed
  cases licensed

end Admission

section Results

/-- An inspector that gives up or breaks off. -/
def Faults (i : Inspector) (g : Graph) (s : Settings) : Prop :=
  (∃ causes, i.inspect g s = .failed causes) ∨ ∃ text, i.inspect g s = .broken text

theorem findings_of_faults (fault : Faults i g s) : ∃ cause, i.findings g s = [i.crash cause] := by
  rcases fault with ⟨causes, failed⟩ | ⟨text, broken⟩
  · exact ⟨": ".intercalate causes, by rw [Inspector.findings, failed]⟩
  · exact ⟨text.getD "unknown panic", by rw [Inspector.findings, broken]⟩

theorem findings_of_reported {findings : List Finding} (reported : i.inspect g s = .reported findings) :
    i.findings g s = findings := by
  rw [Inspector.findings, reported]

/-- What the result of an inspector says of it. -/
structure Tells (g : Graph) (s : Settings) (selection : Selection) (license : License.Standing)
    (i : Inspector) (r : Result) : Prop where
  id : r.inspector = i.id
  tier : r.tier = i.tier
  skipped : r.isSkipped ↔ ¬ Admitted i s selection license
  reason : r.isSkipped ↔ r.skipReason.isSome
  silent : r.isSkipped → r.findings = []
  reported : ∀ findings, ¬ r.isSkipped → i.inspect g s = .reported findings → r.findings = findings
  fault : ¬ r.isSkipped → Faults i g s →
    ∃ f, r.findings = [f] ∧ f.severity = .error ∧ f.inspector = i.id

theorem tells_skipped (hindered : ¬ Admitted i s selection license) (reason : SkipReason) :
    Tells g s selection license i (.skipped i reason) where
  id := rfl
  tier := rfl
  skipped := iff_of_true rfl hindered
  reason := iff_of_true rfl rfl
  silent _ := rfl
  reported _ ran := absurd rfl ran
  fault ran := absurd rfl ran

theorem tells_executed (admitted : Admitted i s selection license) :
    Tells g s selection license i (.executed i g s) where
  id := rfl
  tier := rfl
  skipped := iff_of_false Bool.false_ne_true (not_not_intro admitted)
  reason := iff_of_false Bool.false_ne_true Bool.false_ne_true
  silent skipped := absurd skipped Bool.false_ne_true
  reported _ _ reported := findings_of_reported reported
  fault _ fault := by
    obtain ⟨cause, crashed⟩ := findings_of_faults fault
    exact ⟨i.crash cause, crashed, rfl, rfl⟩

theorem tells_resultOf (g : Graph) (s : Settings) (selection : Selection)
    (license : License.Standing) (i : Inspector) :
    Tells g s selection license i (resultOf g s selection license i) := by
  cases barred : skipReason? i s selection license with
  | some reason =>
      have hindered : ¬ Admitted i s selection license := by
        rw [← skipReason?_eq_none_iff, barred]
        exact Option.some_ne_none reason
      rw [resultOf, barred]
      exact tells_skipped hindered reason
  | none =>
      rw [resultOf, barred]
      exact tells_executed (skipReason?_eq_none_iff.mp barred)

/-- What an inspector would find does not matter to the result of one that is not admitted. -/
theorem resultOf_of_not_admitted (hindered : ¬ Admitted i s selection license)
    (inspect : Graph → Settings → Outcome) :
    resultOf g s selection license { i with inspect } = resultOf g s selection license i := by
  obtain ⟨reason, barred⟩ : ∃ reason, skipReason? i s selection license = some reason := by
    apply Option.ne_none_iff_exists'.mp
    rwa [ne_eq, skipReason?_eq_none_iff]
  have same : skipReason? { i with inspect } s selection license = some reason := barred
  rw [resultOf, resultOf, barred, same]
  rfl

end Results

section Totals

theorem countP_severities (findings : List Finding) :
    findings.countP (·.severity == .error) + findings.countP (·.severity == .warning) +
      findings.countP (·.severity == .info) = findings.length := by
  induction findings with
  | nil => rfl
  | cons f findings ih =>
      rcases f with ⟨_, severity, _, _, _, _⟩
      cases severity <;> simp [← ih] <;> omega

theorem Summary.total_ofResults (results : List Result) :
    (ofResults results).total = (results.flatMap Result.findings).length :=
  countP_severities (results.flatMap Result.findings)

theorem Summary.ran_add_skipped (results : List Result) :
    (ofResults results).ran + (ofResults results).skipped = results.length :=
  Nat.sub_add_cancel List.countP_le_length

theorem Summary.hasErrors_iff (results : List Result) :
    (ofResults results).hasErrors ↔ ∃ r ∈ results, ∃ f ∈ r.findings, f.severity = .error := by
  rw [hasErrors, decide_eq_true_iff, gt_iff_lt, ofResults, List.countP_pos_iff]
  simp only [List.mem_flatMap, beq_iff_eq]
  constructor
  · rintro ⟨f, ⟨r, held, found⟩, error⟩
    exact ⟨r, held, f, found, error⟩
  · rintro ⟨r, held, f, found, error⟩
    exact ⟨f, ⟨r, held, found⟩, error⟩

/-- What the summary of a run owes to its inspectors. -/
structure Accounts (inspectors : List Inspector) (g : Graph) (s : Settings) (selection : Selection)
    (license : License.Standing) (summary : Summary) : Prop where
  each : List.Forall₂ (Tells g s selection license) inspectors summary.results
  bySeverity : summary.total = summary.errors + summary.warnings + summary.infos
  total : summary.total = (summary.results.flatMap Result.findings).length
  ran : summary.ran + summary.skipped = inspectors.length
  errors : summary.hasErrors ↔ ∃ r ∈ summary.results, ∃ f ∈ r.findings, f.severity = .error

theorem accounts_run (inspectors : List Inspector) (g : Graph) (s : Settings)
    (selection : Selection) (license : License.Standing) :
    Accounts inspectors g s selection license (run inspectors g s selection license) where
  each := by
    change List.Forall₂ _ inspectors (inspectors.map (resultOf g s selection license))
    rw [List.forall₂_map_right_iff, List.forall₂_same]
    intro i _
    exact tells_resultOf g s selection license i
  bySeverity := rfl
  total := Summary.total_ofResults _
  ran := by rw [run, Summary.ran_add_skipped, List.length_map]
  errors := Summary.hasErrors_iff _

theorem results_getElem? (inspectors : List Inspector) (g : Graph) (s : Settings)
    (selection : Selection) (license : License.Standing) (n : Nat) :
    (run inspectors g s selection license).results[n]? =
      inspectors[n]?.map (resultOf g s selection license) :=
  List.getElem?_map

/-- The same inspectors, with other work for those of a tier. -/
def replaceWork (tier : Tier) (work : Inspector → Graph → Settings → Outcome)
    (inspectors : List Inspector) : List Inspector :=
  inspectors.map fun i => if i.tier = tier then { i with inspect := work i } else i

theorem run_replaceWork (unlicensed : license.isValid = false)
    (work : Inspector → Graph → Settings → Outcome) (inspectors : List Inspector) :
    run (replaceWork .pro work inspectors) g s selection license =
      run inspectors g s selection license := by
  rw [run, replaceWork, List.map_map, run]
  congr 1
  apply List.map_congr_left
  intro i _
  by_cases paid : i.tier = .pro
  · rw [Function.comp_apply, if_pos paid,
      resultOf_of_not_admitted (not_admitted_of_unlicensed paid unlicensed)]
  · rw [Function.comp_apply, if_neg paid]

end Totals

/-- A run has one result for every inspector, in their order, and its totals count all of them. A
result is the same among other inspectors, and without a license those that need one are skipped
whatever they would do. -/
theorem run_isolates_inspectors (inspectors : List Inspector) (g : Graph) (s : Settings)
    (selection : Selection) (license : License.Standing) :
    Accounts inspectors g s selection license (run inspectors g s selection license) ∧
      (∀ (others : List Inspector) (n m : Nat), inspectors[n]? = others[m]? →
        (run inspectors g s selection license).results[n]? =
          (run others g s selection license).results[m]?) ∧
      (license.isValid = false →
        (∀ r ∈ (run inspectors g s selection license).results, r.tier = .pro → r.isSkipped) ∧
        ∀ work, run (replaceWork .pro work inspectors) g s selection license =
          run inspectors g s selection license) := by
  refine ⟨accounts_run inspectors g s selection license, ?_, ?_⟩
  · intro others n m same
    rw [results_getElem?, results_getElem?, same]
  · intro unlicensed
    refine ⟨?_, fun work => run_replaceWork unlicensed work inspectors⟩
    intro r held paid
    obtain ⟨i, _, rfl⟩ := List.mem_map.mp held
    have tells := tells_resultOf g s selection license i
    rw [tells.skipped]
    exact not_admitted_of_unlicensed (tells.tier ▸ paid) unlicensed

/-- An inspector that breaks off without a text. -/
def wreck : Inspector where
  id := "wreck"
  name := "Wreck"
  description := ""
  tier := .free
  inspect _ _ := .broken none

/-- An inspector that needs a license and would give up. -/
def paidSurvey : Inspector where
  id := "paid-survey"
  name := "Paid survey"
  description := ""
  tier := .pro
  inspect _ _ := .failed ["no graph", "no modules"]

theorem wreck_beside_paidSurvey :
    (License.Standing.refused .missing).isValid = false ∧
      (∀ r ∈ (run [wreck, paidSurvey] {} {} {} (.refused .missing)).results,
        r.tier = .pro → r.isSkipped) ∧
      [wreck, paidSurvey][1]? = [paidSurvey][0]? ∧
      (run [wreck, paidSurvey] {} {} {} (.refused .missing)).results[1]? =
        (run [paidSurvey] {} {} {} (.refused .missing)).results[0]? := by
  have isolates := run_isolates_inspectors [wreck, paidSurvey] {} {} {} (.refused .missing)
  exact ⟨rfl, (isolates.2.2 rfl).1, rfl, isolates.2.1 [paidSurvey] 1 0 rfl⟩

end Survey.Inspection
