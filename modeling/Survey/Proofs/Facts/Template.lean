import Mathlib.Data.List.Nodup
import Survey.Proofs.Facts.TagNames

/-!
The custom elements of a template. The tags of both forms are found in two scans, whose finds are put in
the order of their places and named once each. One scan that takes the name at every angle bracket and
passes over the names it has seen gives the same: no tag reaches the next bracket, and a bracket starts
tags of one form only.
-/
namespace Survey.SingleFile

open Survey.Text

section Places

variable {α : Type} {f g : List Char → Option α} {n : Nat} {cs : List Char}

/-- What starts at each place of a text, with the places counted from `n`. -/
def places (f : List Char → Option α) : Nat → List Char → List (Nat × α)
  | _, [] => []
  | n, c :: cs => ((f (c :: cs)).map fun a => (n, a)).toList ++ places f (n + 1) cs

theorem le_of_mem_places {entry : Nat × α} (member : entry ∈ places f n cs) : n ≤ entry.1 := by
  induction cs generalizing n with
  | nil => cases member
  | cons c cs ih =>
      rcases List.mem_append.mp member with here | later
      · obtain ⟨a, _, rfl⟩ := Option.map_eq_some_iff.mp (Option.mem_toList.mp here)
        exact Nat.le_refl n
      · exact Nat.le_of_succ_le (ih later)

theorem ascending_places (f : List Char → Option α) (n : Nat) (cs : List Char) :
    (places f n cs).Pairwise fun a b => a.1 < b.1 := by
  induction cs generalizing n with
  | nil => exact .nil
  | cons c cs ih =>
      rw [places]
      cases f (c :: cs) with
      | none => exact ih (n + 1)
      | some a => exact .cons (fun entry member => le_of_mem_places member) (ih (n + 1))

theorem map_places {β : Type} (convert : α → β) (f : List Char → Option α) (n : Nat)
    (cs : List Char) : (places f n cs).map (fun entry => (entry.1, convert entry.2)) =
      places (fun cs => (f cs).map convert) n cs := by
  induction cs generalizing n with
  | nil => rfl
  | cons c cs ih =>
      rw [places, places, List.map_append, ih]
      cases f (c :: cs) <;> rfl

/-- What starts at the same places in two ways, never both at one place, taken together. -/
theorem perm_places (apart : ∀ cs, f cs = none ∨ g cs = none) (n : Nat) (cs : List Char) :
    (places f n cs ++ places g n cs).Perm (places (fun cs => (f cs).or (g cs)) n cs) := by
  induction cs generalizing n with
  | nil => exact .nil
  | cons c cs ih =>
      simp only [places]
      rcases apart (c :: cs) with none | none
      · rw [none, Option.none_or]
        cases g (c :: cs) with
        | none => exact ih (n + 1)
        | some a => exact List.perm_middle.trans ((ih (n + 1)).cons (n, a))
      · rw [none, Option.or_none]
        cases f (c :: cs) with
        | none => exact ih (n + 1)
        | some a => exact (ih (n + 1)).cons (n, a)

theorem mergeSort_places (apart : ∀ cs, f cs = none ∨ g cs = none) (n : Nat) (cs : List Char) :
    ((places f n cs ++ places g n cs).mergeSort fun a b => a.1 ≤ b.1) =
      places (fun cs => (f cs).or (g cs)) n cs := by
  have strict := ascending_places (fun cs => (f cs).or (g cs)) n cs
  have perm := (List.mergeSort_perm _ fun a b => decide (a.1 ≤ b.1)).trans (perm_places apart n cs)
  have ordered : ((places f n cs ++ places g n cs).mergeSort fun a b => a.1 ≤ b.1).Pairwise
      fun a b => decide (a.1 ≤ b.1) := by
    apply List.pairwise_mergeSort
    · intro a b c below above
      exact decide_eq_true (Nat.le_trans (of_decide_eq_true below) (of_decide_eq_true above))
    · intro a b
      simpa using Nat.le_total a.1 b.1
  refine List.Perm.eq_of_pairwise ?_ ordered (strict.imp fun less => decide_eq_true less.le) perm
  intro a b left right below above
  have same : a.1 = b.1 := Nat.le_antisymm (of_decide_eq_true below) (of_decide_eq_true above)
  have once : ((places (fun cs => (f cs).or (g cs)) n cs).map Prod.fst).Nodup :=
    List.pairwise_map.mpr (strict.imp Nat.ne_of_lt)
  exact List.inj_on_of_nodup_map once (perm.mem_iff.mp left) right same

end Places

section Tags

variable {α : Type} {p : Recogniser α} {c : Char} {cs : List Char}

/-- What a recogniser reads starts with an angle bracket and holds no other. -/
def Bracketed (p : Recogniser α) : Prop :=
  ∀ cs a rest, p cs = some (a, rest) → ∃ read, cs = '<' :: read ++ rest ∧ '<' ∉ read

theorem Bracketed.eq_none (h : Bracketed p) (other : c ≠ '<') : p (c :: cs) = none := by
  cases found : p (c :: cs) with
  | none => rfl
  | some entry =>
      obtain ⟨read, whole, _⟩ := h _ entry.1 entry.2 found
      exact absurd (List.cons.inj whole).1 other

/-- A search goes on right behind every bracket: what was read there hides nothing. -/
theorem Bracketed.findAll_cons (h : Bracketed p) (c : Char) (cs : List Char) :
    findAll p (c :: cs) = ((p (c :: cs)).map Prod.fst).toList ++ findAll p cs := by
  cases found : p (c :: cs) with
  | none =>
      rw [findAll, findFrom_of_none found, findFrom_const]
      rfl
  | some entry =>
      obtain ⟨read, whole, free⟩ := h _ entry.1 entry.2 found
      obtain ⟨rfl, rfl⟩ := List.cons.inj whole
      have passed : findAll p (read ++ entry.2) = findAll p entry.2 := by
        refine findAll_skip fun d member cs => h.eq_none ?_
        rintro rfl
        exact free member
      have behind : findAll p (('<' :: read) ++ entry.2) = entry.1 :: findAll p entry.2 :=
        findAll_of_some found (List.cons_ne_nil _ _)
      rw [List.append_eq, passed]
      exact behind

theorem Bracketed.labelled (h : Bracketed p) (label : List Char → Nat) :
    Bracketed fun cs => (p cs).map fun found => ((label cs, found.1), found.2) := by
  intro cs a rest read
  obtain ⟨found, plain, same⟩ := Option.map_eq_some_iff.mp read
  cases same
  exact h cs found.1 found.2 plain

theorem Bracketed.findAll_labelled (h : Bracketed p) {length n : Nat} (whole : length = n + cs.length) :
    findAll (fun cs => (p cs).map fun found => ((length - cs.length, found.1), found.2)) cs =
      places (fun cs => (p cs).map Prod.fst) n cs := by
  induction cs generalizing n with
  | nil => rfl
  | cons c cs ih =>
      rw [List.length_cons] at whole
      have place : length - (c :: cs).length = n := by
        rw [List.length_cons]
        omega
      rw [(h.labelled _).findAll_cons, @ih (n + 1) (by omega), places, place]
      cases p (c :: cs) <;> rfl

theorem tags_eq_places {p : Recogniser (List Char)} (h : Bracketed p) (template : List Char) :
    tags p template = places (fun cs => (p cs).map Prod.fst) 0 template :=
  h.findAll_labelled (Nat.zero_add _).symm

theorem bracketed_pascalTag : Bracketed pascalTag := by
  intro cs name rest read
  unfold pascalTag at read
  split at read
  · next c cs =>
    split at read
    · next capital =>
      cases read
      refine ⟨c :: cs.takeWhile Char.isAlphanum, by simp, fun held => ?_⟩
      rcases List.mem_cons.mp held with rfl | later
      · cases capital
      · exact absurd (List.mem_takeWhile_imp later) (by decide)
    · cases read
  · cases read

theorem isKebab_of_mem_kebabRest (member : c ∈ kebabRest cs) : isKebab c ∨ c = '-' := by
  induction cs with
  | nil => cases member
  | cons d cs ih =>
      rw [kebabRest] at member
      split at member
      · next goesOn =>
        rcases List.mem_cons.mp member with rfl | later
        · exact (Bool.or_eq_true_iff.mp goesOn).imp_right fun hyphen =>
            beq_iff_eq.mp (Bool.and_eq_true_iff.mp hyphen).1
        · exact ih later
      · cases member

theorem bracketed_kebabTag : Bracketed kebabTag := by
  intro cs name rest read
  unfold kebabTag at read
  split at read
  · next c cs =>
    dsimp only at read
    split at read
    · next named =>
      cases read
      refine ⟨c :: kebabRest cs, ?_, fun held => ?_⟩
      · rw [List.cons_append, List.cons_append, ← List.prefix_append_drop (kebabRest_isPrefix cs)]
      · rcases List.mem_cons.mp held with rfl | later
        · exact absurd (Bool.and_eq_true_iff.mp named).1 (by decide)
        · exact absurd (isKebab_of_mem_kebabRest later) (by decide)
    · cases read
  · cases read

end Tags

section Scan

/-- The name that an angle bracket at the start of a text is followed by: the longest capitalised one,
or the longest hyphenated one as a capitalised one. -/
def nameAt? : List Char → Option (List Char)
  | [] => none
  | c :: cs =>
    if c = '<' then
      (longest? isPascalName cs).or ((longest? isDashedName cs).map (camel true))
    else none

/-- The names at the brackets of a text from left to right, without those seen before. -/
def scan : List String → List Char → List String
  | _, [] => []
  | seen, c :: cs =>
    match nameAt? (c :: cs) with
    | none => scan seen cs
    | some name =>
      if String.ofList name ∈ seen then scan seen cs
      else String.ofList name :: scan (String.ofList name :: seen) cs

theorem pascalTag_eq_longest? (cs : List Char) :
    (pascalTag ('<' :: cs)).map Prod.fst = longest? isPascalName cs := by
  cases cs with
  | nil => rfl
  | cons c cs =>
      by_cases capital : c.isUpper
      · rw [longest?_isPascalName capital, pascalTag, if_pos capital]
        rfl
      · rw [pascalTag, if_neg capital, longest?_eq_none_of_head rfl]
        · rfl
        · intro d head part
          cases head
          simp [isPascalName, capital]

theorem kebabTag_eq_longest? (cs : List Char) :
    (kebabTag ('<' :: cs)).map Prod.fst = longest? isDashedName cs := by
  cases cs with
  | nil => rfl
  | cons c cs =>
      by_cases small : c.isLower
      · rw [longest?_isDashedName small, kebabTag]
        by_cases held : '-' ∈ kebabRest cs <;> simp [small, held]
      · rw [longest?_eq_none_of_head rfl]
        · simp [kebabTag, small]
        · intro d head part
          cases head
          simp [isDashedName, small]

/-- The name at a bracket is the one that the two recognisers read there. -/
theorem nameAt?_eq (cs : List Char) : nameAt? cs =
    ((pascalTag cs).map Prod.fst).or (((kebabTag cs).map Prod.fst).map kebabToPascal) := by
  cases cs with
  | nil => rfl
  | cons c cs =>
      by_cases bracket : c = '<'
      · subst bracket
        rw [nameAt?, if_pos rfl, pascalTag_eq_longest?, kebabTag_eq_longest?,
          funext kebabToPascal_eq_camel]
      · rw [nameAt?, if_neg bracket, bracketed_pascalTag.eq_none bracket,
          bracketed_kebabTag.eq_none bracket]
        rfl

theorem isLower_of_isUpper {c : Char} (capital : c.isUpper) : c.isLower = false := by
  have upper : c.val ≤ 90 := (of_decide_eq_true capital).2
  cases small : c.isLower with
  | false => rfl
  | true =>
      have lower : 97 ≤ c.val := of_decide_eq_true (Bool.and_eq_true_iff.mp small).1
      exact absurd (UInt32.le_trans lower upper) (by decide)

/-- The letter behind a bracket tells the two forms of tags apart. -/
theorem tags_apart (cs : List Char) : (pascalTag cs).map Prod.fst = none ∨
    ((kebabTag cs).map Prod.fst).map kebabToPascal = none := by
  cases cs with
  | nil => exact .inl rfl
  | cons c cs =>
      by_cases bracket : c = '<'
      · subst bracket
        cases cs with
        | nil => exact .inl rfl
        | cons d cs =>
            by_cases capital : d.isUpper
            · exact .inr (by simp [kebabTag, isLower_of_isUpper capital])
            · exact .inl (by simp [pascalTag, capital])
      · exact .inl (by rw [bracketed_pascalTag.eq_none bracket]; rfl)

theorem scan_eq (seen : List String) (n : Nat) (cs : List Char) : scan seen cs =
    (((places nameAt? n cs).map fun entry => String.ofList entry.2).filter (· ∉ seen)).eraseDups := by
  induction cs generalizing seen n with
  | nil => rfl
  | cons c cs ih =>
      rw [scan, places]
      cases nameAt? (c :: cs) with
      | none => exact ih seen (n + 1)
      | some name =>
          simp only [Option.map_some, Option.toList_some, List.singleton_append, List.map_cons]
          split
          · next known =>
            rw [List.filter_cons_of_neg (by simpa using known)]
            exact ih seen (n + 1)
          · next new =>
            rw [List.filter_cons_of_pos (by simpa using new), List.eraseDups_cons, List.filter_filter,
              ih _ (n + 1)]
            simp only [List.mem_cons, not_or, Bool.decide_and, decide_not]
            rfl

theorem elements_of_template? {content : String} {body : List Char}
    (block : template? content = some body) : elements content = scan [] body := by
  have hyphenated : ((tags kebabTag body).map fun found => (found.1, kebabToPascal found.2)) =
      places (fun cs => ((kebabTag cs).map Prod.fst).map kebabToPascal) 0 body := by
    rw [tags_eq_places bracketed_kebabTag, map_places]
  have merged : ((tags pascalTag body ++
      (tags kebabTag body).map fun found => (found.1, kebabToPascal found.2)).mergeSort
        fun a b => a.1 ≤ b.1) = places nameAt? 0 body := by
    rw [hyphenated, tags_eq_places bracketed_pascalTag, mergeSort_places tags_apart,
      ← funext nameAt?_eq]
  rw [scan_eq [] 0, ← merged, List.filter_eq_self.mpr (by simp), elements, block]

end Scan

section Block

variable {cs attributes body rest mark before : List Char}

theorem openTag?_eq_some_iff {name : String} : openTag? name cs = some (attributes, rest) ↔
    cs = ("<" ++ name).toList ++ (attributes ++ '>' :: rest) ∧ '>' ∉ attributes ∧
      ∀ c ∈ attributes.head?, isWord c = false := by
  have heads : (attributes ++ '>' :: rest).head?.any isWord = attributes.head?.any isWord := by
    cases attributes <;> rfl
  have words : (attributes.head?.any isWord = false) ↔ ∀ c ∈ attributes.head?, isWord c = false := by
    cases attributes.head? <;> simp
  constructor
  · intro read
    obtain ⟨tail, named, read⟩ := Option.bind_eq_some_iff.mp read
    rw [lit_eq_some_iff] at named
    split at read
    · cases read
    · next plain =>
      split at read
      · next found =>
        cases read
        obtain ⟨rfl, free⟩ := cut_eq_iff.mp found
        exact ⟨named, free, words.mp (by rw [← heads]; simpa using plain)⟩
      · cases read
  · rintro ⟨rfl, free, plain⟩
    have named := (@lit_eq_some_iff _ (attributes ++ '>' :: rest) ("<" ++ name)).mpr rfl
    rw [openTag?, named]
    simp only [Option.bind_eq_bind, Option.bind_some, heads, words.mpr plain, cut_append_cons free]
    rfl

theorem upToLast?_eq_none_iff (nonempty : mark ≠ []) : upToLast? mark cs = none ↔
    ∀ before after, cs ≠ before ++ (mark ++ after) := by
  induction cs with
  | nil =>
      refine iff_of_true rfl fun before after whole => nonempty ?_
      exact (List.append_eq_nil_iff.mp (List.append_eq_nil_iff.mp whole.symm).2).1
  | cons c cs ih =>
      rw [upToLast?]
      cases found : upToLast? mark cs with
      | some inner =>
          refine iff_of_false (by simp) fun never => ?_
          rw [found] at ih
          refine absurd (ih.mpr fun before after whole => ?_) (by simp)
          exact never (c :: before) after (congrArg (c :: ·) whole)
      | none =>
          have later := ih.mp found
          by_cases here : mark.isPrefixOf (c :: cs)
          · obtain ⟨after, whole⟩ := List.isPrefixOf_iff_prefix.mp here
            refine iff_of_false (by simp [here]) fun never => never [] after whole.symm
          · refine iff_of_true (by simp [here]) fun before after whole => ?_
            cases before with
            | nil => exact here (List.isPrefixOf_iff_prefix.mpr ⟨after, whole.symm⟩)
            | cons d before => exact later before after (List.cons.inj whole).2

/-- A text goes on with a mark, and with none further on. -/
structure UpToLast (mark cs before : List Char) : Prop where
  marked : ∃ after, cs = before ++ (mark ++ after)
  last : ∀ longer after, cs = longer ++ (mark ++ after) → longer.length ≤ before.length

theorem upToLast_of_upToLast? (nonempty : mark ≠ []) (found : upToLast? mark cs = some before) :
    UpToLast mark cs before := by
  induction cs generalizing before with
  | nil => cases found
  | cons c cs ih =>
      rw [upToLast?] at found
      cases inner : upToLast? mark cs with
      | some part =>
          rw [inner] at found
          cases found
          obtain ⟨⟨after, rfl⟩, last⟩ := ih inner
          refine ⟨⟨after, rfl⟩, fun longer after whole => ?_⟩
          cases longer with
          | nil => exact Nat.zero_le _
          | cons d longer => exact Nat.succ_le_succ (last longer after (List.cons.inj whole).2)
      | none =>
          have never := (upToLast?_eq_none_iff nonempty).mp inner
          simp only [inner] at found
          split at found
          · next here =>
            cases found
            obtain ⟨after, whole⟩ := List.isPrefixOf_iff_prefix.mp here
            refine ⟨⟨after, whole.symm⟩, fun longer after split => ?_⟩
            cases longer with
            | nil => exact Nat.le_refl 0
            | cons d longer => exact absurd (List.cons.inj split).2 (never longer after)
          · cases found

theorem upToLast?_eq_some_iff (nonempty : mark ≠ []) :
    upToLast? mark cs = some before ↔ UpToLast mark cs before := by
  refine ⟨upToLast_of_upToLast? nonempty, ?_⟩
  rintro ⟨⟨after, whole⟩, last⟩
  cases found : upToLast? mark cs with
  | none => exact absurd whole ((upToLast?_eq_none_iff nonempty).mp found before after)
  | some other =>
      obtain ⟨⟨behind, split⟩, most⟩ := upToLast_of_upToLast? nonempty found
      have length := Nat.le_antisymm (last other behind split) (most before after whole)
      rw [(List.append_inj (whole.symm.trans split) length.symm).1]

/-- A text starts with a template block: a tag with its attributes, and the body up to the last closing
tag. -/
def StartsBlock (cs body : List Char) : Prop :=
  ∃ attributes rest, cs = "<template".toList ++ (attributes ++ '>' :: rest) ∧ '>' ∉ attributes ∧
    (∀ c ∈ attributes.head?, isWord c = false) ∧ UpToLast "</template>".toList rest body

/-- The body of the first template block of a text. -/
def TemplateBody (cs body : List Char) : Prop :=
  ∃ front rest, cs = front ++ rest ∧ StartsBlock rest body ∧
    ∀ other back, cs = other ++ back → (∃ body, StartsBlock back body) → front.length ≤ other.length

theorem templateBlock_eq_some_iff {after : List Char} :
    templateBlock cs = some (body, after) ↔ StartsBlock cs body ∧ after = [] := by
  have marked : "</template>".toList ≠ [] := by decide
  constructor
  · intro read
    obtain ⟨⟨attributes, rest⟩, opened, read⟩ := Option.bind_eq_some_iff.mp read
    obtain ⟨inner, closed, read⟩ := Option.bind_eq_some_iff.mp read
    cases read
    obtain ⟨whole, free, plain⟩ := openTag?_eq_some_iff.mp opened
    exact ⟨⟨attributes, rest, whole, free, plain, (upToLast?_eq_some_iff marked).mp closed⟩, rfl⟩
  · rintro ⟨⟨attributes, rest, whole, free, plain, closed⟩, rfl⟩
    have opened : openTag? "template" cs = some (attributes, rest) :=
      openTag?_eq_some_iff.mpr ⟨whole, free, plain⟩
    refine Option.bind_eq_some_iff.mpr ⟨(attributes, rest), opened, ?_⟩
    exact Option.bind_eq_some_iff.mpr ⟨body, (upToLast?_eq_some_iff marked).mpr closed, rfl⟩

theorem isSome_templateBlock : (templateBlock cs).isSome ↔ ∃ body, StartsBlock cs body := by
  rw [Option.isSome_iff_exists]
  constructor
  · rintro ⟨⟨body, after⟩, read⟩
    exact ⟨body, (templateBlock_eq_some_iff.mp read).1⟩
  · rintro ⟨body, starts⟩
    exact ⟨(body, []), templateBlock_eq_some_iff.mpr ⟨starts, rfl⟩⟩

theorem template?_eq_some_iff {content : String} :
    template? content = some body ↔ TemplateBody content.toList body := by
  rw [template?, findFirst?_eq_some_iff rfl]
  simp only [templateBlock_eq_some_iff, isSome_templateBlock, TemplateBody]
  constructor
  · rintro ⟨front, rest, _, whole, ⟨starts, _⟩, first⟩
    exact ⟨front, rest, whole, starts, first⟩
  · rintro ⟨front, rest, whole, starts, first⟩
    exact ⟨front, rest, [], whole, ⟨starts, rfl⟩, first⟩

end Block

/-- The elements of a component with a template are what one scan of the template's body names: at every
bracket the longest capitalised name, or the longest hyphenated one as a capitalised one, unless it was
named before. Without a template there are none. -/
theorem elements_eq_scan (content : String) :
    (∀ body, TemplateBody content.toList body → elements content = scan [] body) ∧
    ((∀ body, ¬TemplateBody content.toList body) → elements content = []) := by
  constructor
  · intro body block
    exact elements_of_template? (template?_eq_some_iff.mpr block)
  · intro absent
    have none : template? content = none := Option.eq_none_iff_forall_ne_some.mpr fun body found =>
      absent body (template?_eq_some_iff.mp found)
    rw [elements, none]

/-- Two spellings of one name, a hyphen that ends no name, a tag inside another, and a closing tag before
the last one. -/
theorem nested_template_elements :
    TemplateBody "<p><template lang=x><my-a1/><MyA1><b-2-c--d><Ef<g-h></template><i></template>".toList
      "<my-a1/><MyA1><b-2-c--d><Ef<g-h></template><i>".toList ∧
    elements "<p><template lang=x><my-a1/><MyA1><b-2-c--d><Ef<g-h></template><i></template>" =
      ["MyA1", "B2C", "Ef", "GH"] := by
  have block : TemplateBody
      "<p><template lang=x><my-a1/><MyA1><b-2-c--d><Ef<g-h></template><i></template>".toList
      "<my-a1/><MyA1><b-2-c--d><Ef<g-h></template><i>".toList :=
    template?_eq_some_iff.mp (by decide)
  exact ⟨block, ((elements_eq_scan _).1 _ block).trans (by decide)⟩

end Survey.SingleFile
