import Mathlib.Data.List.Induction
import Mathlib.Data.List.Infix
import Mathlib.Data.List.Nodup
import Survey.Proofs.Resolve.Known
import Survey.Proofs.Text.Lines

/-!
Tables of aliases and where a search in them ends. Whatever the order of insertion, a table keeps its
aliases by the length of their leads, so that an answer from one alias means that no alias with a
longer lead has any, and the base directory answers only when no alias does. Where no two leads are
alike the order of insertion leaves no trace.
-/
namespace Survey

namespace Alias

variable {a b : Alias} {pattern rest specifier target place : String}

/-- The text of a pattern before its first star, all of it when there is none. -/
def leadOf (pattern : String) : String :=
  String.ofList (pattern.toList.takeWhile (· ≠ '*'))

theorem toList_star (front back : String) :
    (front ++ "*" ++ back).toList = front.toList ++ '*' :: back.toList := by
  simp

theorem star_cases (text : String) :
    '*' ∉ text.toList ∨ ∃ front back, '*' ∉ front.toList ∧ text = front ++ "*" ++ back := by
  by_cases star : '*' ∈ text.toList
  · obtain ⟨front, back, split, first⟩ := List.eq_append_cons_of_mem star
    refine Or.inr ⟨String.ofList front, String.ofList back, by rwa [String.toList_ofList], ?_⟩
    rw [← String.toList_inj, toList_star, split, String.toList_ofList, String.toList_ofList]
  · exact Or.inl star

theorem ofPattern_of_star {front : String} (first : '*' ∉ front.toList) (back : String)
    (targets : List String) : ofPattern (front ++ "*" ++ back) targets = ⟨front, true, targets⟩ := by
  simp only [ofPattern, toList_star, Text.cut_append_cons first, String.ofList_toList]

theorem ofPattern_of_free (free : '*' ∉ pattern.toList) (targets : List String) :
    ofPattern pattern targets = ⟨pattern, false, targets⟩ := by
  simp only [ofPattern, Text.cut_of_free free]

theorem lead_ofPattern (pattern : String) (targets : List String) :
    (ofPattern pattern targets).lead = leadOf pattern := by
  rcases star_cases pattern with free | ⟨front, back, first, rfl⟩
  · have all : ∀ c ∈ pattern.toList, decide (c ≠ '*') = true := by
      simpa using Text.all_other_of_free free
    rw [ofPattern_of_free free, leadOf, List.takeWhile_eq_self_iff.mpr all, String.ofList_toList]
  · have all : ∀ c ∈ front.toList, decide (c ≠ '*') = true := by
      simpa using Text.all_other_of_free first
    rw [ofPattern_of_star first, leadOf, toList_star, Text.takeWhile_run all (by simp),
      String.ofList_toList]

section Places

/-- A target becomes a place when a text stands for its first star; one without a star is a place
as it is. -/
inductive Fills (rest : String) : String → String → Prop
  | star {front back : String} (first : '*' ∉ front.toList) :
      Fills rest (front ++ "*" ++ back) (front ++ rest ++ back)
  | plain {target : String} (free : '*' ∉ target.toList) : Fills rest target target

theorem fill_of_star {front : String} (first : '*' ∉ front.toList) (rest back : String) :
    fill rest (front ++ "*" ++ back) = front ++ rest ++ back := by
  simp only [fill, toList_star, Text.cut_append_cons first, String.ofList_toList]

theorem fill_of_free (free : '*' ∉ target.toList) (rest : String) : fill rest target = target := by
  simp only [fill, Text.cut_of_free free]

theorem fill_eq_iff : fill rest target = place ↔ Fills rest target place := by
  constructor
  · rintro rfl
    rcases star_cases target with free | ⟨front, back, first, rfl⟩
    · rw [fill_of_free free]
      exact .plain free
    · rw [fill_of_star first]
      exact .star first
  · intro filled
    cases filled with
    | star first => exact fill_of_star first _ _
    | plain free => exact fill_of_free free _

/-- The places of an alias for a specifier. With a star it stands for whatever begins with its lead,
without one for its lead alone. -/
inductive Gives (a : Alias) : String → String → Prop
  | starred {rest target place : String} (wild : a.wildcard = true) (held : target ∈ a.targets)
      (filled : Fills rest target place) : Gives a (a.lead ++ rest) place
  | whole {place : String} (exact : a.wildcard = false) (held : place ∈ a.targets) :
      Gives a a.lead place

theorem expand_append (wild : a.wildcard = true) (rest : String) :
    a.expand (a.lead ++ rest) = a.targets.map (fill rest) := by
  rw [expand, if_pos wild, Text.dropLeading?_eq_some_iff.mpr rfl]

theorem mem_expand : place ∈ a.expand specifier ↔ a.Gives specifier place := by
  constructor
  · intro member
    unfold expand at member
    split at member
    · next wild =>
      split at member
      · next rest leads =>
        obtain ⟨target, held, filled⟩ := List.mem_map.mp member
        obtain rfl := Text.dropLeading?_eq_some_iff.mp leads
        exact .starred wild held (fill_eq_iff.mp filled)
      · cases member
    · next exact =>
      split at member
      · next same =>
        subst same
        exact .whole (Bool.eq_false_iff.mpr exact) member
      · cases member
  · intro gives
    cases gives with
    | @starred rest target place wild held filled =>
        rw [expand_append wild]
        exact List.mem_map.mpr ⟨target, held, fill_eq_iff.mpr filled⟩
    | whole exact held => simpa [expand, exact] using held

theorem gives_append_iff (wild : a.wildcard = true) :
    a.Gives (a.lead ++ rest) place ↔ ∃ target ∈ a.targets, fill rest target = place := by
  rw [← mem_expand, expand_append wild, List.mem_map]

theorem Gives.lead_isPrefix (gives : a.Gives specifier place) :
    a.lead.toList <+: specifier.toList := by
  cases gives with
  | starred => exact ⟨_, String.toList_append.symm⟩
  | whole => exact List.prefix_rfl

/-- Of two leads of one specifier the one with more characters has more bytes. -/
theorem Gives.size_lt {other : String} (first : a.Gives specifier place)
    (second : b.Gives specifier other) (longer : a.lead.length < b.lead.length) :
    a.lead.utf8ByteSize < b.lead.utf8ByteSize := by
  rw [← String.length_toList, ← String.length_toList] at longer
  obtain ⟨more, whole⟩ := List.prefix_of_prefix_length_le first.lead_isPrefix second.lead_isPrefix
    (Nat.le_of_lt longer)
  have nonempty : more ≠ [] := by
    rintro rfl
    rw [List.append_nil] at whole
    rw [whole] at longer
    exact Nat.lt_irrefl _ longer
  have parts : b.lead = a.lead ++ String.ofList more := by
    rw [← String.toList_inj, String.toList_append, String.toList_ofList, whole]
  have grows : 0 < (String.ofList more).utf8ByteSize := by
    apply Nat.pos_of_ne_zero
    rw [ne_eq, String.utf8ByteSize_eq_zero_iff, ← String.toList_inj, String.toList_ofList]
    exact nonempty
  rw [parts, String.utf8ByteSize_append]
  omega

end Places

section Order

theorem before_iff : a.before b ↔ b.lead.utf8ByteSize < a.lead.utf8ByteSize ∨
    a.lead.utf8ByteSize = b.lead.utf8ByteSize ∧ a.lead ≤ b.lead := by
  simp [before]

theorem before_trans (a b c : Alias) (first : a.before b) (second : b.before c) : a.before c := by
  rw [before_iff] at *
  rcases first with longer | ⟨same, below⟩
  · exact Or.inl (by omega)
  · rcases second with longer | ⟨same', below'⟩
    · exact Or.inl (by omega)
    · exact Or.inr ⟨same.trans same', String.le_trans below below'⟩

theorem before_total (a b : Alias) : a.before b || b.before a := by
  rw [Bool.or_eq_true, before_iff, before_iff]
  rcases Nat.lt_trichotomy a.lead.utf8ByteSize b.lead.utf8ByteSize with shorter | same | longer
  · exact Or.inr (Or.inl shorter)
  · rcases String.le_total a.lead b.lead with below | above
    · exact Or.inl (Or.inr ⟨same, below⟩)
    · exact Or.inr (Or.inr ⟨same.symm, above⟩)
  · exact Or.inl (Or.inl longer)

theorem lead_eq_of_before (first : a.before b) (second : b.before a) : a.lead = b.lead := by
  rw [before_iff] at first second
  rcases first with longer | ⟨same, below⟩
  · rcases second with shorter | ⟨same, _⟩ <;> omega
  · rcases second with shorter | ⟨_, above⟩
    · omega
    · exact String.le_antisymm below above

end Order

end Alias

namespace AliasTable

variable {t : AliasTable} {base : Option String} {aliases others : List (String × List String)}
  {specifier place : String} {e : Alias}

attribute [ext] AliasTable

/-- The table that aliases give when they are inserted one after the other. -/
def ofAliases (base : Option String) (aliases : List (String × List String)) : AliasTable :=
  aliases.foldl (fun t pair => t.insert pair.1 pair.2) ⟨base, []⟩

/-- The aliases of a table stand in the order that a search wants. -/
def Ordered (t : AliasTable) : Prop :=
  t.entries.Pairwise fun a b => a.before b

section Insertion

theorem perm_insert (t : AliasTable) (pattern : String) (targets : List String) :
    (t.insert pattern targets).entries.Perm (t.entries ++ [.ofPattern pattern targets]) :=
  List.mergeSort_perm _ _

theorem ordered_insert (t : AliasTable) (pattern : String) (targets : List String) :
    (t.insert pattern targets).Ordered :=
  List.pairwise_mergeSort Alias.before_trans Alias.before_total _

theorem ofAliases_concat (base : Option String) (aliases : List (String × List String))
    (last : String × List String) :
    ofAliases base (aliases ++ [last]) = (ofAliases base aliases).insert last.1 last.2 := by
  rw [ofAliases, List.foldl_concat]
  rfl

theorem baseUrl_ofAliases (base : Option String) (aliases : List (String × List String)) :
    (ofAliases base aliases).baseUrl = base := by
  induction aliases using List.reverseRecOn with
  | nil => rfl
  | append_singleton aliases last ih =>
      rw [ofAliases_concat]
      exact ih

theorem perm_ofAliases (base : Option String) (aliases : List (String × List String)) :
    (ofAliases base aliases).entries.Perm (aliases.map fun pair => .ofPattern pair.1 pair.2) := by
  induction aliases using List.reverseRecOn with
  | nil => exact .nil
  | append_singleton aliases last ih =>
      rw [ofAliases_concat, List.map_append]
      exact (perm_insert _ _ _).trans (ih.append_right _)

theorem ordered_ofAliases (base : Option String) (aliases : List (String × List String)) :
    (ofAliases base aliases).Ordered := by
  rcases List.eq_nil_or_concat aliases with rfl | ⟨front, last, rfl⟩
  · exact List.Pairwise.nil
  · rw [List.concat_eq_append, ofAliases_concat]
    exact ordered_insert _ _ _

theorem entries_of_ordered
    (ordered : (aliases.map fun pair => Alias.ofPattern pair.1 pair.2).Pairwise fun a b => a.before b) :
    (ofAliases base aliases).entries = aliases.map fun pair => .ofPattern pair.1 pair.2 := by
  induction aliases using List.reverseRecOn with
  | nil => rfl
  | append_singleton aliases last ih =>
      have whole := ordered
      rw [List.map_append] at whole
      rw [ofAliases_concat, insert, ih (List.pairwise_append.mp whole).1, List.map_append]
      exact List.mergeSort_of_pairwise whole

/-- With leads that all differ the table does not depend on the order of insertion. -/
theorem ofAliases_perm (perm : aliases.Perm others)
    (apart : (aliases.map fun pair => Alias.leadOf pair.1).Nodup) :
    ofAliases base aliases = ofAliases base others := by
  have same : (ofAliases base aliases).entries.Perm (ofAliases base others).entries :=
    ((perm_ofAliases base aliases).trans (perm.map _)).trans (perm_ofAliases base others).symm
  have leads : ((ofAliases base aliases).entries.map Alias.lead).Nodup := by
    refine ((perm_ofAliases base aliases).map Alias.lead).nodup_iff.mpr ?_
    simpa [Function.comp_def, Alias.lead_ofPattern] using apart
  have entries : (ofAliases base aliases).entries = (ofAliases base others).entries := by
    refine List.Perm.eq_of_pairwise ?_ (ordered_ofAliases base aliases)
      (ordered_ofAliases base others) same
    intro a b first second before after
    exact List.inj_on_of_nodup_map leads first (same.mem_iff.mpr second)
      (Alias.lead_eq_of_before before after)
  exact AliasTable.ext (by rw [baseUrl_ofAliases, baseUrl_ofAliases]) entries

end Insertion

section Origins

/-- The places that a bare specifier may mean, each with the alias it comes from; the last, from the
base directory, comes from none. -/
def origins (t : AliasTable) (specifier : String) : List (Option Alias × String) :=
  t.entries.flatMap (fun e => (e.expand specifier).map fun place => (some e, place)) ++
    (t.baseUrl.bind fun base => Path.normalize? base specifier).toList.map fun place => (none, place)

theorem map_snd_origins (t : AliasTable) (specifier : String) :
    (t.origins specifier).map Prod.snd = t.candidates specifier := by
  simp [origins, candidates, List.map_flatMap, Function.comp_def]

theorem mem_origins_alias :
    (some e, place) ∈ t.origins specifier ↔ e ∈ t.entries ∧ e.Gives specifier place := by
  simp [origins, Alias.mem_expand]

theorem mem_origins_base : (none, place) ∈ t.origins specifier ↔
    ∃ base, t.baseUrl = some base ∧ Path.normalize? base specifier = some place := by
  simp [origins, Option.bind_eq_some_iff]

/-- What comes from an alias stands behind nothing but what comes from an alias as long. -/
def Precedes (first second : Option Alias) : Prop :=
  ∀ a ∈ second, ∃ e ∈ first, a.lead.utf8ByteSize ≤ e.lead.utf8ByteSize

theorem precedes_rfl (origin : Option Alias) : Precedes origin origin :=
  fun a held => ⟨a, held, Nat.le_refl _⟩

theorem ordered_origins (ordered : t.Ordered) (specifier : String) :
    (t.origins specifier).Pairwise fun x y => Precedes x.1 y.1 := by
  refine List.pairwise_append.mpr ⟨List.pairwise_flatMap.mpr ⟨?_, ?_⟩, ?_, ?_⟩
  · intro e _
    refine List.pairwise_map.mpr (List.pairwise_of_forall ?_)
    exact fun _ _ => precedes_rfl (some e)
  · refine List.Pairwise.imp ?_ ordered
    intro e a before x first y second
    obtain ⟨_, _, rfl⟩ := List.mem_map.mp first
    obtain ⟨_, _, rfl⟩ := List.mem_map.mp second
    rintro _ ⟨⟩
    refine ⟨e, rfl, ?_⟩
    rcases Alias.before_iff.mp before with longer | ⟨same, _⟩ <;> omega
  · refine List.pairwise_map.mpr (List.pairwise_of_forall ?_)
    exact fun _ _ => precedes_rfl none
  · intro x _ y second
    obtain ⟨_, _, rfl⟩ := List.mem_map.mp second
    rintro _ ⟨⟩

end Origins

end AliasTable

namespace Resolver

open AliasTable (ofAliases)

variable {r s : Resolver} {module specifier place other id : String} {origin : Option Alias}

/-- A place leads to a known module, as it is or with an ending. -/
def Reaches (r : Resolver) (place : String) : Prop :=
  ∃ ending ∈ ["", ".ts", ".tsx", ".js", ".jsx", ".mts", ".vue", "/index.ts", "/index.tsx",
    "/index.js", "/index.jsx"], place ++ ending ∈ r.known

instance decidableReaches (r : Resolver) (place : String) : Decidable (r.Reaches place) :=
  inferInstanceAs (Decidable (∃ ending ∈ _, place ++ ending ∈ r.known))

theorem probe_eq_none_iff : r.probe place = none ↔ ¬ r.Reaches place := by
  have all : places place = ("" :: endings).map (place ++ ·) := by
    rw [places, List.map_cons, String.append_empty]
  rw [probe_eq, Option.map_eq_none_iff, List.find?_eq_none, all]
  simp only [List.forall_mem_map, contains_iff, Reaches, not_exists, not_and]
  rfl

/-- The search for a specifier ends at the first place that leads to a module. -/
def Takes (r : Resolver) (specifier : String) (origin : Option Alias) (place : String) : Prop :=
  r.Reaches place ∧ ∃ front back, r.aliases.origins specifier = front ++ (origin, place) :: back ∧
    ∀ tried ∈ front, ¬ r.Reaches tried.2

theorem resolve_of_bare (bare : ¬ Text.leads "." specifier) : r.resolve module specifier =
    (r.aliases.origins specifier).findSome? fun tried => r.probe tried.2 := by
  rw [resolve, if_neg bare, ← AliasTable.map_snd_origins, List.findSome?_map]
  rfl

theorem resolve_eq_some_iff (bare : ¬ Text.leads "." specifier) :
    r.resolve module specifier = some id ↔
      ∃ origin place, r.Takes specifier origin place ∧ r.probe place = some id := by
  rw [resolve_of_bare bare, List.findSome?_eq_some_iff]
  simp only [probe_eq_none_iff]
  constructor
  · rintro ⟨front, ⟨origin, place⟩, back, split, found, failed⟩
    have reaches : r.Reaches place := by
      by_contra fails
      rw [probe_eq_none_iff.mpr fails] at found
      cases found
    exact ⟨origin, place, ⟨reaches, front, back, split, failed⟩, found⟩
  · rintro ⟨origin, place, ⟨_, front, back, split, failed⟩, found⟩
    exact ⟨front, (origin, place), back, split, found, failed⟩

theorem Takes.mem_origins (taken : r.Takes specifier origin place) :
    (origin, place) ∈ r.aliases.origins specifier := by
  obtain ⟨_, front, back, split, _⟩ := taken
  simp [split]

/-- Where the search ends, every place that the order puts first has failed. -/
theorem Takes.unreached {first : Option Alias} (taken : r.Takes specifier origin place)
    (ordered : r.aliases.Ordered) (listed : (first, other) ∈ r.aliases.origins specifier)
    (earlier : ¬ AliasTable.Precedes origin first) : ¬ r.Reaches other := by
  obtain ⟨_, front, back, split, failed⟩ := taken
  have order := AliasTable.ordered_origins ordered specifier
  rw [split] at listed order
  rcases List.mem_append.mp listed with before | rest
  · exact failed _ before
  · rcases List.mem_cons.mp rest with same | behind
    · cases same
      exact absurd (AliasTable.precedes_rfl origin) earlier
    · have here := (List.pairwise_append.mp order).2.1
      exact absurd ((List.pairwise_cons.mp here).1 _ behind) earlier

/-- No place of an alias for a specifier leads to a module. -/
def Misses (r : Resolver) (specifier : String) (a : Alias) : Prop :=
  ∀ place, a.Gives specifier place → ¬ r.Reaches place

theorem Takes.misses_longer {e a : Alias} (taken : r.Takes specifier (some e) place)
    (ordered : r.aliases.Ordered) (listed : a ∈ r.aliases.entries)
    (longer : e.lead.length < a.lead.length) : r.Misses specifier a := by
  intro other gives
  refine taken.unreached ordered (AliasTable.mem_origins_alias.mpr ⟨listed, gives⟩) ?_
  intro precedes
  obtain ⟨_, ⟨⟩, size⟩ := precedes a rfl
  have given := (AliasTable.mem_origins_alias.mp taken.mem_origins).2
  exact absurd (given.size_lt gives longer) (Nat.not_lt.mpr size)

theorem Takes.misses_all {a : Alias} (taken : r.Takes specifier none place)
    (ordered : r.aliases.Ordered) (listed : a ∈ r.aliases.entries) :
    r.Misses specifier a := by
  intro other gives
  refine taken.unreached ordered (AliasTable.mem_origins_alias.mpr ⟨listed, gives⟩) ?_
  intro precedes
  obtain ⟨_, ⟨⟩, _⟩ := precedes a rfl

theorem unreached_of_resolve_eq_none (bare : ¬ Text.leads "." specifier)
    (unanswered : r.resolve module specifier = none)
    (listed : (origin, place) ∈ r.aliases.origins specifier) : ¬ r.Reaches place := by
  rw [resolve_of_bare bare, List.findSome?_eq_none_iff] at unanswered
  exact probe_eq_none_iff.mp (unanswered _ listed)

/-- In a table made by insertions the answer for a bare specifier comes from the first place that
leads to a module. If an alias gives this place, no alias with a longer lead has one that leads to a
module; if the base directory does, no alias has; and without an answer neither has. -/
theorem longest_lead_answers (r : Resolver) (base : Option String)
    (aliases : List (String × List String)) (module specifier : String)
    (built : r.aliases = ofAliases base aliases) (bare : ¬ Text.leads "." specifier) :
    r.aliases.entries.Perm (aliases.map fun pair => .ofPattern pair.1 pair.2) ∧
    (∀ id, r.resolve module specifier = some id ↔
      ∃ origin place, r.Takes specifier origin place ∧ r.probe place = some id) ∧
    (∀ e place, r.Takes specifier (some e) place →
      e ∈ r.aliases.entries ∧ e.Gives specifier place ∧
      ∀ a ∈ r.aliases.entries, e.lead.length < a.lead.length → r.Misses specifier a) ∧
    (∀ place, r.Takes specifier none place →
      (∃ dir, base = some dir ∧ Path.normalize? dir specifier = some place) ∧
      ∀ a ∈ r.aliases.entries, r.Misses specifier a) ∧
    (r.resolve module specifier = none →
      (∀ a ∈ r.aliases.entries, r.Misses specifier a) ∧
      ∀ dir place, base = some dir → Path.normalize? dir specifier = some place →
        ¬ r.Reaches place) := by
  have ordered : r.aliases.Ordered := built ▸ AliasTable.ordered_ofAliases base aliases
  have based : r.aliases.baseUrl = base := built ▸ AliasTable.baseUrl_ofAliases base aliases
  refine ⟨built ▸ AliasTable.perm_ofAliases base aliases, fun id => resolve_eq_some_iff bare,
    ?_, ?_, ?_⟩
  · intro e place taken
    obtain ⟨listed, gives⟩ := AliasTable.mem_origins_alias.mp taken.mem_origins
    exact ⟨listed, gives, fun a held longer => taken.misses_longer ordered held longer⟩
  · intro place taken
    have joined := AliasTable.mem_origins_base.mp taken.mem_origins
    rw [based] at joined
    exact ⟨joined, fun a held => taken.misses_all ordered held⟩
  · intro unanswered
    constructor
    · intro a held place gives
      exact unreached_of_resolve_eq_none bare unanswered
        (AliasTable.mem_origins_alias.mpr ⟨held, gives⟩)
    · intro dir place here joined
      exact unreached_of_resolve_eq_none bare unanswered
        (AliasTable.mem_origins_base.mpr ⟨dir, based.trans here, joined⟩)

/-- Aliases of a site, the shortest first. -/
def siteAliases : List (String × List String) :=
  [("~", ["app/root.ts"]), ("@/*", ["src/*"]), ("@/lib/*", ["vendor/*", "lib/*/main"])]

def site : Resolver where
  known := ["src/lib/db.ts", "web/@/lib/db.ts"]
  aliases := ofAliases (some "web") siteAliases

theorem entries_site : site.aliases.entries =
    [⟨"@/lib/", true, ["vendor/*", "lib/*/main"]⟩, ⟨"@/", true, ["src/*"]⟩,
      ⟨"~", false, ["app/root.ts"]⟩] := by
  have turned : siteAliases.Perm siteAliases.reverse := (List.reverse_perm _).symm
  have same : site.aliases = ofAliases (some "web") siteAliases.reverse :=
    AliasTable.ofAliases_perm turned (by decide +kernel)
  rw [same, AliasTable.entries_of_ordered (by decide +kernel)]
  decide +kernel

/-- The longest lead has two places for the specifier, and neither leads to a module. -/
theorem site_answers_by_shorter_lead :
    ¬ Text.leads "." "@/lib/db" ∧ site.resolve "app.ts" "@/lib/db" = some "src/lib/db.ts" ∧
    site.Takes "@/lib/db" (some ⟨"@/", true, ["src/*"]⟩) "src/lib/db" ∧
    site.Misses "@/lib/db" ⟨"@/lib/", true, ["vendor/*", "lib/*/main"]⟩ := by
  have bare : ¬ Text.leads "." "@/lib/db" := by decide
  obtain ⟨_, answers, through, _⟩ :=
    longest_lead_answers site (some "web") siteAliases "app.ts" "@/lib/db" rfl bare
  have origins : site.aliases.origins "@/lib/db" =
      [(some ⟨"@/lib/", true, ["vendor/*", "lib/*/main"]⟩, "vendor/db"),
        (some ⟨"@/lib/", true, ["vendor/*", "lib/*/main"]⟩, "lib/db/main")] ++
      (some ⟨"@/", true, ["src/*"]⟩, "src/lib/db") :: [(none, "web/@/lib/db")] := by
    rw [AliasTable.origins, entries_site]
    decide +kernel
  have taken : site.Takes "@/lib/db" (some ⟨"@/", true, ["src/*"]⟩) "src/lib/db" :=
    ⟨by decide +kernel, _, _, origins, by decide +kernel⟩
  refine ⟨bare, (answers _).mpr ⟨_, _, taken, by decide +kernel⟩, taken, ?_⟩
  exact (through _ _ taken).2.2 _ (by simp [entries_site]) (by decide +kernel)

/-- Aliases with leads that all differ answer alike in whatever order they are inserted. -/
theorem insertion_order_immaterial (r s : Resolver) (base : Option String)
    (aliases others : List (String × List String)) (perm : aliases.Perm others)
    (apart : (aliases.map fun pair => Alias.leadOf pair.1).Nodup)
    (built : r.aliases = ofAliases base aliases) (rebuilt : s.aliases = ofAliases base others)
    (known : ∀ id, id ∈ r.known ↔ id ∈ s.known) :
    r.aliases.entries.Perm (aliases.map fun pair => .ofPattern pair.1 pair.2) ∧
    ∀ module specifier, r.resolve module specifier = s.resolve module specifier := by
  have same : r.aliases = s.aliases := by
    rw [built, rebuilt, AliasTable.ofAliases_perm perm apart]
  constructor
  · rw [built]
    exact AliasTable.perm_ofAliases base aliases
  · intro module specifier
    rw [resolve_congr same known]

def turnedSite : Resolver where
  known := site.known.reverse
  aliases := ofAliases (some "web") siteAliases.reverse

theorem turnedSite_answers_alike :
    siteAliases.Perm siteAliases.reverse ∧
    (siteAliases.map fun pair => Alias.leadOf pair.1) = ["~", "@/", "@/lib/"] ∧
    ∀ module specifier, site.resolve module specifier = turnedSite.resolve module specifier := by
  have turned : siteAliases.Perm siteAliases.reverse := (List.reverse_perm _).symm
  have leads : (siteAliases.map fun pair => Alias.leadOf pair.1) = ["~", "@/", "@/lib/"] := by
    decide +kernel
  have alike := insertion_order_immaterial site turnedSite (some "web") siteAliases
    siteAliases.reverse turned (by rw [leads]; decide) rfl rfl fun _ => List.mem_reverse.symm
  exact ⟨turned, leads, alike.2⟩

end Resolver

end Survey
