import Survey.Proofs.Text.Scan

/-!
Lines and words of a text put together of parts. A separator between two parts keeps the pieces of
one apart from those of the other, and a text is cut where a separator stands last. Splitting at a
separator and joining with it undo each other.
-/
namespace Survey.Text

section Pieces

variable {p : Char → Bool} {cs : List Char}

theorem pieces_append_cons {c : Char} (separates : p c) (front back : List Char) :
    pieces p (front ++ c :: back) = pieces p front ++ pieces p back := by
  induction front with
  | nil => simp [pieces, separates]
  | cons d front ih =>
      obtain ⟨w, ws, first⟩ := List.exists_cons_of_ne_nil (pieces_ne_nil p front)
      by_cases held : p d
      · simp [pieces, held, ih]
      · simp [pieces, held, ih, first]

theorem pieces_of_free (free : ∀ c ∈ cs, p c = false) : pieces p cs = [cs] := by
  induction cs with
  | nil => rfl
  | cons c cs ih =>
      have first := free c List.mem_cons_self
      have rest := ih fun d member => free d (List.mem_cons_of_mem c member)
      simp [pieces, first, rest]

/-- The first piece of a text is empty at a separator, and otherwise takes in its first character. -/
theorem pieces_cons_cases {c : Char} {first : List Char} {rest : List (List Char)}
    (split : pieces p (c :: cs) = first :: rest) :
    (p c ∧ first = [] ∧ ∃ next others, rest = next :: others ∧ pieces p cs = next :: others) ∨
      (p c = false ∧ ∃ tail, first = c :: tail ∧ pieces p cs = tail :: rest) := by
  obtain ⟨next, others, parts⟩ := List.exists_cons_of_ne_nil (pieces_ne_nil p cs)
  rw [pieces, parts] at split
  by_cases held : p c
  · rw [if_pos held] at split
    cases split
    exact .inl ⟨held, rfl, next, others, rfl, parts⟩
  · rw [if_neg held] at split
    cases split
    exact .inr ⟨Bool.not_eq_true _ ▸ held, next, rfl, parts⟩

theorem flatten_pieces (p : Char → Bool) (cs : List Char) :
    (pieces p cs).flatten = cs.filter fun c => !p c := by
  induction cs with
  | nil => rfl
  | cons c cs ih =>
      unfold pieces
      split
      · next separates => simp [separates, ih]
      · next plain =>
        split
        · next none => exact absurd none (pieces_ne_nil p cs)
        · next w ws split =>
          rw [split] at ih
          simp [plain, ← ih]

theorem mem_of_mem_piece {piece : List Char} {c : Char} (held : piece ∈ pieces p cs)
    (member : c ∈ piece) : c ∈ cs ∧ p c = false := by
  have kept : c ∈ cs.filter fun c => !p c := by
    rw [← flatten_pieces]
    exact List.mem_flatten_of_mem held member
  simpa using List.mem_filter.mp kept

theorem intercalate_pieces (c : Char) (cs : List Char) :
    [c].intercalate (pieces (· = c) cs) = cs := by
  induction cs with
  | nil => rfl
  | cons d cs ih =>
      obtain ⟨w, ws, first⟩ := List.exists_cons_of_ne_nil (pieces_ne_nil (· = c) cs)
      rw [first] at ih
      by_cases same : d = c
      · simp only [pieces, same, decide_true, if_true, first]
        rw [List.intercalate_cons_cons, ih]
        rfl
      · simp only [pieces, same, decide_false, first]
        cases ws with
        | nil =>
            rw [List.intercalate_singleton] at ih
            simp [ih]
        | cons v ws =>
            rw [List.intercalate_cons_cons] at ih
            simp [List.intercalate_cons_cons, ← ih]

/-- Parts without a separator are the pieces of what it joins. -/
theorem pieces_intercalate {c : Char} {parts : List (List Char)} (separates : p c)
    (nonempty : parts ≠ []) (free : ∀ part ∈ parts, ∀ d ∈ part, p d = false) :
    pieces p ([c].intercalate parts) = parts := by
  induction parts with
  | nil => exact absurd rfl nonempty
  | cons part parts ih =>
      have first := pieces_of_free (free part List.mem_cons_self)
      cases parts with
      | nil => rw [List.intercalate_singleton, first]
      | cons next parts =>
          have rest := ih (List.cons_ne_nil next parts) fun other member =>
            free other (List.mem_cons_of_mem part member)
          rw [List.intercalate_cons_cons, List.append_assoc, List.singleton_append,
            pieces_append_cons separates, first, rest, List.singleton_append]

theorem splitAt_join {c : Char} {mark : String} {parts : List String} (single : mark.toList = [c])
    (nonempty : parts ≠ []) (free : ∀ part ∈ parts, c ∉ part.toList) :
    splitAt c (join mark parts) = parts := by
  have listed : pieces (· = c) ([c].intercalate (parts.map String.toList)) =
      parts.map String.toList := by
    apply pieces_intercalate (decide_eq_true rfl) (by simpa using nonempty)
    intro chars member d held
    obtain ⟨part, listed, rfl⟩ := List.mem_map.mp member
    rw [decide_eq_false_iff_not]
    rintro rfl
    exact free part listed held
  rw [splitAt, join, String.toList_intercalate, single, listed, List.map_map]
  simp [Function.comp_def]

theorem join_splitAt {c : Char} {mark : String} (single : mark.toList = [c]) (s : String) :
    join mark (splitAt c s) = s := by
  rw [join, splitAt, ← String.toList_inj, String.toList_intercalate, single, List.map_map]
  simp [Function.comp_def, intercalate_pieces]

theorem not_mem_of_mem_splitAt {c : Char} {s part : String} (held : part ∈ splitAt c s) :
    c ∉ part.toList := by
  obtain ⟨piece, member, rfl⟩ := List.mem_map.mp held
  rw [String.toList_ofList]
  intro inside
  simpa using (mem_of_mem_piece member inside).2

/-- A separator between two texts keeps their parts apart. -/
theorem splitAt_append {c : Char} {mark : String} (single : mark.toList = [c]) (front back : String) :
    splitAt c (front ++ mark ++ back) = splitAt c front ++ splitAt c back := by
  simp only [splitAt, String.toList_append, single, List.append_assoc, List.singleton_append]
  rw [pieces_append_cons (decide_eq_true rfl), List.map_append]

end Pieces

section Occurrences

variable {s sub : String}

theorem occursIn_iff {part cs : List Char} : occursIn part cs ↔ part <:+: cs := by
  induction cs with
  | nil => simp [occursIn]
  | cons c cs ih =>
      rw [occursIn, Bool.or_eq_true, List.isPrefixOf_iff_prefix, ih, List.infix_cons_iff]

theorem holds_iff : holds s sub ↔ sub.toList <:+: s.toList :=
  occursIn_iff

theorem endsIn_iff : endsIn s sub ↔ sub.toList <:+ s.toList :=
  List.isSuffixOf_iff_suffix

end Occurrences

section Lines

theorem lines_append {line : List Char} (free : '\n' ∉ line) (rest : List Char) :
    lines (line ++ '\n' :: rest) = line :: lines rest := by
  have one : pieces (· = '\n') line = [line] := by
    apply pieces_of_free
    intro c member
    rw [decide_eq_false_iff_not]
    rintro rfl
    exact free member
  obtain ⟨w, ws, some⟩ := List.exists_cons_of_ne_nil (pieces_ne_nil (· = '\n') rest)
  rw [lines, lines, pieces_append_cons (by decide), one, some]
  simp only [List.singleton_append, List.getLast?_cons_cons, List.dropLast_cons_cons]
  split <;> rfl

theorem lines_flatMap {ls : List (List Char)} (free : ∀ l ∈ ls, '\n' ∉ l) :
    lines (ls.flatMap fun l => l ++ ['\n']) = ls := by
  induction ls with
  | nil => rfl
  | cons l ls ih =>
      have rest := ih fun m member => free m (List.mem_cons_of_mem l member)
      rw [List.flatMap_cons, List.append_assoc, List.singleton_append,
        lines_append (free l List.mem_cons_self), rest]

end Lines

section Words

variable {blanks word rest : List Char}

theorem words_append_cons {c : Char} (blank : isBlank c) (front back : List Char) :
    words (front ++ c :: back) = words front ++ words back := by
  rw [words, pieces_append_cons blank, List.filter_append, words, words]

theorem words_blank_append (blank : ∀ c ∈ blanks, isBlank c) (rest : List Char) :
    words (blanks ++ rest) = words rest := by
  induction blanks with
  | nil => rfl
  | cons c blanks ih =>
      have first := words_append_cons (blank c List.mem_cons_self) [] (blanks ++ rest)
      rw [List.nil_append] at first
      rw [List.cons_append, first, ih fun d member => blank d (List.mem_cons_of_mem c member)]
      rfl

theorem words_of_solid (nonempty : word ≠ []) (solid : ∀ c ∈ word, isBlank c = false) :
    words word = [word] := by
  rw [words, pieces_of_free solid]
  simp [nonempty]

theorem words_word_append (nonempty : word ≠ []) (solid : ∀ c ∈ word, isBlank c = false)
    (apart : ∀ c ∈ rest.head?, isBlank c) : words (word ++ rest) = word :: words rest := by
  cases rest with
  | nil => rw [List.append_nil, words_of_solid nonempty solid]; rfl
  | cons c rest =>
      have blank := apart c rfl
      have skipped := words_append_cons blank [] rest
      rw [List.nil_append] at skipped
      rw [words_append_cons blank, words_of_solid nonempty solid, skipped]
      rfl

end Words

/-- White space around a text that neither starts nor ends with any. -/
theorem trim_append {front middle back : List Char} (before : ∀ c ∈ front, isBlank c)
    (after : ∀ c ∈ back, isBlank c) (nonempty : middle ≠ [])
    (starts : ∀ c ∈ middle.head?, isBlank c = false)
    (ends : ∀ c ∈ middle.getLast?, isBlank c = false) :
    trim (front ++ (middle ++ back)) = middle := by
  have head : ∀ c ∈ (middle ++ back).head?, isBlank c = false := by
    obtain ⟨d, rest, rfl⟩ := List.exists_cons_of_ne_nil nonempty
    exact starts
  have last : ∀ c ∈ middle.reverse.head?, isBlank c = false := by
    rw [List.head?_reverse]
    exact ends
  have reversed : ∀ c ∈ back.reverse, isBlank c := fun c member => after c (List.mem_reverse.mp member)
  rw [trim, List.dropWhile_append_of_pos before, dropWhile_eq_self head, List.reverse_append,
    List.dropWhile_append_of_pos reversed, dropWhile_eq_self last, List.reverse_reverse]

section Cuts

variable {p : Char → Bool} {cs before after : List Char}

theorem dropLeading?_eq_some_iff {lead s rest : String} :
    dropLeading? lead s = some rest ↔ s = lead ++ rest := by
  rw [dropLeading?, Option.map_eq_some_iff, ← String.toList_inj, String.toList_append]
  constructor
  · rintro ⟨cs, found, rfl⟩
    rw [String.toList_ofList]
    exact (List.isPrefixOf?_eq_some_iff_append_eq.mp found).symm
  · intro whole
    exact ⟨rest.toList, List.isPrefixOf?_eq_some_iff_append_eq.mpr whole.symm, String.ofList_toList⟩

theorem all_other_of_free {mark : Char} (free : mark ∉ cs) :
    ∀ c ∈ cs, (!decide (c = mark)) = true := by
  intro c held
  have other : c ≠ mark := by
    rintro rfl
    exact free held
  simp [other]

theorem cut_of_free {mark : Char} (free : mark ∉ cs) : cut (· = mark) cs = (cs, none) := by
  rw [cut, List.dropWhile_eq_nil_iff.mpr (all_other_of_free free)]

theorem cut_append_cons {mark : Char} (free : mark ∉ before) (after : List Char) :
    cut (· = mark) (before ++ mark :: after) = (before, some after) := by
  have stops : ∀ c ∈ (mark :: after).head?, (!decide (c = mark)) = false := by
    intro c head
    cases head
    simp
  rw [cut, dropWhile_run (all_other_of_free free) stops, takeWhile_run (all_other_of_free free) stops]

theorem cut_eq_iff {mark : Char} :
    cut (· = mark) cs = (before, some after) ↔ cs = before ++ mark :: after ∧ mark ∉ before := by
  constructor
  · intro found
    by_cases held : mark ∈ cs
    · obtain ⟨front, back, rfl, free⟩ := List.eq_append_cons_of_mem held
      rw [cut_append_cons free] at found
      cases found
      exact ⟨rfl, free⟩
    · rw [cut_of_free held] at found
      cases found
  · rintro ⟨rfl, free⟩
    exact cut_append_cons free after

/-- A text is cut at the last separator exactly when none follows. -/
theorem cutLast?_eq_some_iff :
    cutLast? p cs = some (before, after) ↔
      ∃ c, p c ∧ cs = before ++ c :: after ∧ ∀ d ∈ after, p d = false := by
  constructor
  · intro found
    unfold cutLast? at found
    split at found
    · cases found
    · next c front rest =>
      cases found
      have whole := List.takeWhile_append_dropWhile (p := fun c => !p c) (l := cs.reverse)
      rw [rest] at whole
      refine ⟨c, ?_, ?_, ?_⟩
      · have stop := List.head?_dropWhile_not (fun c => !p c) cs.reverse
        rw [rest] at stop
        simpa using stop
      · have reversed := congrArg List.reverse whole
        simpa using reversed.symm
      · intro d held
        simpa using List.mem_takeWhile_imp (List.mem_reverse.mp held)
  · rintro ⟨c, stop, rfl, clear⟩
    have all : ∀ d ∈ after.reverse, (!p d) = true := by
      intro d held
      rw [clear d (List.mem_reverse.mp held)]
      rfl
    have stops : ∀ d ∈ (c :: before.reverse).head?, (!p d) = false := by
      intro d head
      cases head
      rw [stop]
      rfl
    have turned : (before ++ c :: after).reverse = after.reverse ++ c :: before.reverse := by simp
    rw [cutLast?, turned, dropWhile_run all stops, takeWhile_run all stops]
    simp only [List.reverse_reverse]

end Cuts

end Survey.Text
