import Survey.Json.Lenient
import Survey.Proofs.Json.Grammar

/-!
Strict texts under lenient reading. A text that is JSON as it stands has no comments, and a comma in
it that a closing bracket follows stands in a string. Lenient reading takes such commas out of their
strings and changes nothing else.
-/
namespace Survey.Json.Lenient

open Survey.Text (Quoting)

section Comments

variable {q : Quoting} {cs : List Char}

def IsComment (c : Char) (cs : List Char) : Prop :=
  c = '/' ∧ cs.head? ∈ [some '/', some '*']

def Place.ofQuoting : Quoting → Place
  | .outside => .plain
  | .inside => .string
  | .escaped => .escaped

theorem stripFrom_plain {c : Char} (solid : ¬ IsComment c cs) :
    stripFrom .plain (c :: cs) = c :: stripFrom (if c = '"' then .string else .plain) cs := by
  rw [stripFrom]
  · rintro more rfl rfl
    exact solid ⟨rfl, by simp⟩
  · rintro more rfl rfl
    exact solid ⟨rfl, by simp⟩

theorem stripFrom_eq_self (quoted : q.Places IsComment (· ≠ .outside) cs) :
    stripFrom (.ofQuoting q) cs = cs := by
  induction cs generalizing q with
  | nil => cases q <;> rfl
  | cons c cs ih =>
      obtain ⟨here, later⟩ := Quoting.places_cons.mp quoted
      have rest := ih later
      cases q with
      | outside =>
          have solid : ¬ IsComment c cs := fun starts => here starts rfl
          have place : Place.ofQuoting (Quoting.outside.next c) =
              if c = '"' then .string else .plain := by
            rw [Quoting.next]
            split <;> rfl
          rw [place] at rest
          rw [Place.ofQuoting, stripFrom_plain solid, rest]
      | inside =>
          have place : Place.ofQuoting (Quoting.inside.next c) =
              if c = '\\' then .escaped else if c = '"' then .plain else .string := by
            rw [Quoting.next]
            split
            · rfl
            · split <;> rfl
          rw [place] at rest
          rw [Place.ofQuoting, stripFrom, rest]
      | escaped =>
          rw [Place.ofQuoting, stripFrom]
          exact congrArg (c :: ·) rest

/-- A text with comments only in strings is left as it is. -/
theorem stripComments_eq_self (quoted : Quoting.outside.Places IsComment (· ≠ .outside) cs) :
    stripComments cs = cs :=
  stripFrom_eq_self quoted

end Comments

section Commas

variable {q : Quoting} {p : Quoting → Prop} {s : Spelling} {w cs rest : List Char} {c : Char}

def IsLastComma (c : Char) (cs : List Char) : Prop :=
  c = ',' ∧ closesNext cs

instance decidableIsLastComma (c : Char) (cs : List Char) : Decidable (IsLastComma c cs) :=
  instDecidableAnd

theorem closesNext_cons (c : Char) (cs : List Char) :
    closesNext (c :: cs) = if Text.isBlank c then closesNext cs else c == '\x7d' || c == ']' := by
  unfold closesNext
  by_cases blank : Text.isBlank c
  · rw [List.dropWhile_cons_of_pos blank, if_pos blank]
  · rw [List.dropWhile_cons_of_neg blank, if_neg blank]

theorem dropLastCommas_append (free : ',' ∉ w) :
    dropLastCommas (w ++ cs) = w ++ dropLastCommas cs := by
  induction w with
  | nil => rfl
  | cons c w ih =>
      rw [List.mem_cons, not_or] at free
      rw [List.cons_append, dropLastCommas, if_neg (fun last => free.1 last.1.symm), ih free.2]
      rfl

theorem dropLastCommas_spaces (blank : ∀ c ∈ w, isSpace c) :
    dropLastCommas (w ++ cs) = w ++ dropLastCommas cs :=
  dropLastCommas_append fun member => absurd (blank ',' member) (by decide)

theorem dropLastCommas_cons (kept : ¬ IsLastComma c cs) :
    dropLastCommas (c :: cs) = c :: dropLastCommas cs :=
  if_neg kept

theorem dropLastCommas_of_last (last : IsLastComma c cs) :
    dropLastCommas (c :: cs) = dropLastCommas cs :=
  if_pos last

theorem length_dropLastCommas_le (cs : List Char) : (dropLastCommas cs).length ≤ cs.length := by
  induction cs with
  | nil => exact Nat.le_refl 0
  | cons c cs ih =>
      rw [dropLastCommas]
      split
      · exact Nat.le_succ_of_le ih
      · exact Nat.succ_le_succ ih

theorem dropLastCommas_eq_self (plain : q.Places IsLastComma (· = .outside) cs)
    (quoted : q.Places IsLastComma (· ≠ .outside) cs) : dropLastCommas cs = cs := by
  induction cs generalizing q with
  | nil => rfl
  | cons c cs ih =>
      obtain ⟨here, later⟩ := Quoting.places_cons.mp plain
      obtain ⟨here', later'⟩ := Quoting.places_cons.mp quoted
      rw [dropLastCommas_cons fun last => here' last (here last), ih later later']

theorem places_of_length_eq (same : (dropLastCommas cs).length = cs.length) :
    q.Places IsLastComma p cs := by
  induction cs generalizing q with
  | nil => exact Quoting.places_nil
  | cons c cs ih =>
      have kept : ¬ IsLastComma c cs := by
        intro last
        rw [dropLastCommas_of_last last, List.length_cons] at same
        have shorter := length_dropLastCommas_le cs
        omega
      rw [dropLastCommas_cons kept, List.length_cons, List.length_cons] at same
      exact Quoting.places_cons.mpr ⟨fun last => absurd last kept, ih (by omega)⟩

theorem isBlank_of_isSpace (space : isSpace c) : Text.isBlank c := by
  have blank : ∀ d ∈ [' ', '\n', '\t', '\r'], Text.isBlank d := by decide
  simp only [isSpace, Bool.or_eq_true, beq_iff_eq] at space
  exact blank c (by simpa [or_assoc] using space)

theorem closesNext_of_starts (starts : Starts cs) : closesNext cs = false := by
  obtain ⟨c, rest, lexed, solid, within⟩ := starts
  obtain ⟨spaces, blank, split⟩ := exists_skipSpace cs
  rw [split, lexed]
  clear split
  induction spaces with
  | nil =>
      rw [List.nil_append, closesNext_cons, solid]
      simpa [and_comm] using within
  | cons d spaces ih =>
      rw [List.forall_mem_cons] at blank
      rw [List.cons_append, closesNext_cons, if_pos (isBlank_of_isSpace blank.1), ih blank.2]

/-- The sign of a unit as a reader sees it; halves of characters share one. -/
def shown : CodeUnit → Char
  | .char c => c
  | _ => Char.ofNat 0xFFFD

/-- A closing bracket that comes next in the text of a string comes next in the string. -/
theorem closesNext_of_literal (h : Literal s cs rest) (closed : closesNext cs) :
    closesNext (s.map shown) := by
  induction h with
  | close rest => simp [closesNext_cons, show Text.isBlank '"' = false by decide] at closed
  | escape _ _ _ => simp [closesNext_cons, show Text.isBlank '\\' = false by decide] at closed
  | char _ _ _ _ ih =>
      rw [List.map_cons, shown]
      rw [closesNext_cons] at closed ⊢
      split at closed
      · next blank => rw [if_pos blank, ih closed]
      · next solid => rw [if_neg solid, closed]

end Commas

section Strict

/-- What is taken out of a text: a slash may begin a comment. -/
def IsLoose (c : Char) (cs : List Char) : Prop :=
  c = '/' ∨ IsLastComma c cs

/-- Outside strings a text has nothing that may be taken out. -/
def Strict (q : Quoting) (cs : List Char) : Prop :=
  q.Places IsLoose (· ≠ .outside) cs

variable {s : Spelling} {w cs rest : List Char} {c : Char} {t : Token} {j : Json} {text : String}

theorem Strict.append (free : ∀ c ∈ w, c ∉ ['"', '/', ',']) (h : Strict .outside rest) :
    Strict .outside (w ++ rest) := by
  apply Quoting.Places.append_of_free _ _ h
  · exact fun member => free _ member (by decide)
  · rintro c member cs (rfl | ⟨rfl, -⟩)
    · exact free _ member (by decide)
    · exact free _ member (by decide)

theorem strict_of_skipSpace (h : Strict .outside (skipSpace cs)) : Strict .outside cs := by
  obtain ⟨spaces, blank, split⟩ := exists_skipSpace cs
  rw [split]
  apply h.append
  intro c member special
  have solid : ∀ c ∈ ['"', '/', ','], isSpace c = false := by decide
  exact absurd (blank c member) (by simp [solid c special])

theorem strict_of_literal (h : Literal s cs rest) (after : Strict .outside rest) :
    Strict .inside cs := by
  induction h with
  | close rest => exact Quoting.places_cons.mpr ⟨fun _ => by decide, after⟩
  | @escape u s e cs rest escape _ ih =>
      refine Quoting.places_cons.mpr ⟨fun _ => by decide, ?_⟩
      -- The first character of an escape may be a quotation mark, but it does not count as one.
      obtain ⟨d, more, rfl⟩ := List.exists_cons_of_ne_nil escape.ne_nil
      refine Quoting.places_cons.mpr ⟨fun _ => by decide, ?_⟩
      have ends : Quoting.inside.run more = .inside := escape.ends
      have within : Quoting.inside ≠ .outside := by decide
      exact Quoting.Places.append_within within escape.unclosed (ends.symm ▸ ih after)
  | char unquoted plain _ _ ih =>
      refine Quoting.places_cons.mpr ⟨fun _ => by decide, ?_⟩
      rw [Quoting.next, if_neg plain, if_neg unquoted]
      exact ih after

theorem strict_of_lexes (other : t ≠ .mark ',') (h : Lexes t cs rest)
    (after : Strict .outside rest) : Strict .outside cs := by
  apply strict_of_skipSpace
  cases h with
  | @mark c cs rest bracket lexed =>
      have plain : ∀ c ∈ marks, c ≠ ',' → c ∉ ['"', '/', ','] := by decide
      rw [lexed]
      apply after.append (w := [c])
      rintro d member
      obtain rfl := List.mem_singleton.mp member
      exact plain d bracket (fun same => other (congrArg Token.mark same))
  | word listed lexed =>
      have plain : ∀ entry ∈ words, ∀ c ∈ entry.1, c ∉ ['"', '/', ','] := by simp [words]
      rw [lexed]
      exact after.append (plain _ listed)
  | string lexed literal =>
      rw [lexed]
      refine Quoting.places_cons.mpr ⟨?_, strict_of_literal literal after⟩
      simp [IsLoose, IsLastComma]
  | number taken =>
      obtain ⟨text, numeric, -⟩ := exists_of_number? taken
      rw [text]
      apply after.append
      intro c member special
      have plain : ∀ c ∈ ['"', '/', ','], isNumeric c = false := by decide
      exact absurd (numeric c member) (by simp [plain c special])

theorem strict_of_reads {p : Part} (h : Reads p cs rest) :
    Strict .outside rest → Strict .outside cs := by
  apply h.spans fun cs rest => Strict .outside rest → Strict .outside cs
  · exact fun first second after => first (second after)
  · exact strict_of_lexes
  · intro cs rest comma starts after
    apply strict_of_skipSpace
    rw [comma.skipSpace_eq]
    refine Quoting.places_cons.mpr ⟨?_, after⟩
    simp [IsLoose, IsLastComma, closesNext_of_starts starts]

theorem strict_of_parse? (read : Json.parse? text = some j) : Strict .outside text.toList := by
  obtain ⟨rest, reads, ended⟩ := parse?_eq_some_iff.mp read
  apply strict_of_reads reads
  apply strict_of_skipSpace
  rw [ended]
  exact Quoting.places_nil

end Strict

section Thinning

/-- Some commas that a closing bracket follows are left out of a string. -/
inductive Drops : Nat → Spelling → Spelling → Prop
  | nil : Drops 0 [] []
  | keep {n : Nat} {s s' : Spelling} (u : CodeUnit) : Drops n s s' → Drops n (u :: s) (u :: s')
  | drop {n : Nat} {s s' : Spelling} : closesNext (s.map shown) → Drops n s s' →
      Drops (n + 1) (.char ',' :: s) s'

/-- Some commas are left out of the strings of a part, and all else is kept. -/
inductive Thins : Nat → Part → Part → Prop
  | same (p : Part) : Thins 0 p p
  | string {n : Nat} {s s' : Spelling} : Drops n s s' →
      Thins n (.value (.string s)) (.value (.string s'))
  | array {n : Nat} {js js' : List Json} : Thins n (.items js) (.items js') →
      Thins n (.value (.array js)) (.value (.array js'))
  | object {n : Nat} {ms ms' : List (Spelling × Json)} : Thins n (.members ms) (.members ms') →
      Thins n (.value (.object ms)) (.value (.object ms'))
  | item {n m : Nat} {j j' : Json} {js js' : List Json} : Thins n (.value j) (.value j') →
      Thins m (.items js) (.items js') → Thins (n + m) (.items (j :: js)) (.items (j' :: js'))
  | member {k n m : Nat} {s s' : Spelling} {j j' : Json} {ms ms' : List (Spelling × Json)} :
      Drops k s s' → Thins n (.value j) (.value j') →
      Thins m (.members ms) (.members ms') →
      Thins (k + n + m) (.members ((s, j) :: ms)) (.members ((s', j') :: ms'))

variable {n m : Nat} {p p' : Part} {s : Spelling} {w a b c cs rest : List Char} {d : Char} {j : Json}

theorem Drops.length_eq {s s' : Spelling} (h : Drops n s s') : s.length = s'.length + n := by
  induction h with
  | nil => rfl
  | keep c _ ih =>
      rw [List.length_cons, List.length_cons]
      omega
  | drop _ _ ih =>
      rw [List.length_cons]
      omega

theorem Thins.eq_zero (h : Thins n p p') (same : p' = p) : n = 0 := by
  induction h with
  | same p => rfl
  | string drops =>
      cases same
      have kept := drops.length_eq
      omega
  | array _ ih =>
      cases same
      exact ih rfl
  | object _ ih =>
      cases same
      exact ih rfl
  | item _ _ ih ih' =>
      cases same
      rw [ih rfl, ih' rfl]
  | member drops _ _ ih ih' =>
      cases same
      have kept := drops.length_eq
      rw [ih rfl, ih' rfl]
      omega

theorem Thins.exists_value (h : Thins n (.value j) p) : ∃ j', p = .value j' := by
  cases h <;> exact ⟨_, rfl⟩

theorem Thins.exists_items {js : List Json} (h : Thins n (.items js) p) :
    ∃ js', p = .items js' := by
  cases h <;> exact ⟨_, rfl⟩

theorem Thins.exists_members {ms : List (Spelling × Json)} (h : Thins n (.members ms) p) :
    ∃ ms', p = .members ms' := by
  cases h <;> exact ⟨_, rfl⟩

/-- So many commas are dropped between two places in a text. -/
def Loses (n : Nat) (cs rest : List Char) : Prop :=
  cs.length + (dropLastCommas rest).length = rest.length + (dropLastCommas cs).length + n

theorem Loses.refl (cs : List Char) : Loses 0 cs cs :=
  rfl

theorem Loses.keep (h : Loses n cs rest) (kept : dropLastCommas (w ++ cs) = w ++ dropLastCommas cs) :
    Loses n (w ++ cs) rest := by
  unfold Loses at *
  rw [kept, List.length_append, List.length_append]
  omega

theorem Loses.trans (first : Loses n a b) (second : Loses m b c) : Loses (n + m) a c := by
  unfold Loses at *
  omega

/-- What stands in front of the rest of a text is kept, and so is the white space before it. -/
structure Keeps (w cs rest : List Char) : Prop where
  again : skipSpace (dropLastCommas cs) = w ++ dropLastCommas rest
  loses : Loses 0 cs rest
  head? : (dropLastCommas cs).head? = cs.head?

theorem keeps_of_skipSpace (nonempty : w ≠ []) (lexed : skipSpace cs = w ++ rest)
    (kept : dropLastCommas (w ++ rest) = w ++ dropLastCommas rest) : Keeps w cs rest := by
  obtain ⟨spaces, blank, split⟩ := exists_skipSpace cs
  obtain ⟨d, w, rfl⟩ := List.exists_cons_of_ne_nil nonempty
  have solid : isSpace d = false := by
    have stops := List.head?_dropWhile_not isSpace cs
    rwa [← skipSpace, lexed] at stops
  rw [split, lexed]
  have dropped : dropLastCommas (spaces ++ (d :: w ++ rest)) =
      spaces ++ (d :: w ++ dropLastCommas rest) := by
    rw [dropLastCommas_spaces blank, kept]
  refine ⟨?_, ((Loses.refl rest).keep kept).keep (dropLastCommas_spaces blank), ?_⟩
  · rw [dropped]
    exact Text.dropWhile_run blank (by simp [solid])
  · rw [dropped]
    cases spaces <;> rfl

theorem keeps_of_free (nonempty : w ≠ []) (free : ',' ∉ w) (lexed : skipSpace cs = w ++ rest) :
    Keeps w cs rest :=
  keeps_of_skipSpace nonempty lexed (dropLastCommas_append free)

theorem keeps_of_mark (h : Lexes (.mark d) cs rest) (kept : ¬ IsLastComma d rest) :
    Keeps [d] cs rest :=
  keeps_of_skipSpace (List.cons_ne_nil d []) h.skipSpace_eq (dropLastCommas_cons kept)

theorem keeps_of_comma (h : Lexes (.mark ',') cs rest) (starts : Starts rest) :
    Keeps [','] cs rest := by
  apply keeps_of_mark h
  rintro ⟨-, closed⟩
  rw [closesNext_of_starts starts] at closed
  cases closed

theorem Keeps.mark (keeps : Keeps [d] cs rest) (h : Lexes (.mark d) cs rest) :
    Lexes (.mark d) (dropLastCommas cs) (dropLastCommas rest) := by
  cases h with
  | mark bracket _ => exact .mark bracket keeps.again

theorem drops_of_literal (h : Literal s cs rest) :
    ∃ n s', Drops n s s' ∧ Literal s' (dropLastCommas cs) (dropLastCommas rest) ∧
      Loses n cs rest := by
  induction h with
  | close rest =>
      have kept : dropLastCommas ('"' :: rest) = '"' :: dropLastCommas rest :=
        dropLastCommas_append (w := ['"']) (by decide)
      exact ⟨0, [], .nil, kept ▸ .close _, (Loses.refl rest).keep (w := ['"']) kept⟩
  | @escape u s e cs rest escape _ ih =>
      obtain ⟨n, s', drops, literal, loses⟩ := ih
      have kept : dropLastCommas ('\\' :: (e ++ cs)) = '\\' :: (e ++ dropLastCommas cs) :=
        dropLastCommas_append (w := '\\' :: e) (by simpa using escape.plain)
      exact ⟨n, u :: s', .keep u drops, kept ▸ .escape escape literal,
        loses.keep (w := '\\' :: e) kept⟩
  | @char c s cs rest unquoted plain control inner ih =>
      obtain ⟨n, s', drops, literal, loses⟩ := ih
      by_cases last : IsLastComma c cs
      · have dropped := dropLastCommas_of_last last
        obtain ⟨rfl, closed⟩ := last
        refine ⟨n + 1, s', .drop (closesNext_of_literal inner closed) drops, dropped ▸ literal, ?_⟩
        rw [Loses] at loses ⊢
        rw [dropped, List.length_cons]
        omega
      · have kept := dropLastCommas_cons last
        exact ⟨n, .char c :: s', .keep _ drops, kept ▸ .char unquoted plain control literal,
          loses.keep (w := [c]) kept⟩

theorem drops_of_name {name : Spelling} (h : Lexes (.atom (.string name)) cs rest) :
    ∃ n name', Drops n name name' ∧
      Lexes (.atom (.string name')) (dropLastCommas cs) (dropLastCommas rest) ∧
      Loses n cs rest := by
  obtain ⟨body, lexed, literal⟩ := h.exists_literal
  have opens : Keeps ['"'] cs body := keeps_of_free (by simp) (by simp) lexed
  obtain ⟨n, name', drops, literal', loses⟩ := drops_of_literal literal
  refine ⟨n, name', drops, .string opens.again literal', ?_⟩
  simpa using opens.loses.trans loses

theorem thins_of_atom (h : Lexes (.atom j) cs rest)
    (same : (dropLastCommas rest).head? = rest.head?) :
    ∃ n j', Thins n (.value j) (.value j') ∧
      Lexes (.atom j') (dropLastCommas cs) (dropLastCommas rest) ∧ Loses n cs rest := by
  cases h with
  | word listed lexed =>
      have plain : ∀ entry ∈ words, entry.1 ≠ [] ∧ ',' ∉ entry.1 := by simp [words]
      have keeps := keeps_of_free (plain _ listed).1 (plain _ listed).2 lexed
      exact ⟨0, j, .same _, .word listed keeps.again, keeps.loses⟩
  | string lexed literal =>
      obtain ⟨n, name, drops, lexes, loses⟩ := drops_of_name (.string lexed literal)
      exact ⟨n, .string name, .string drops, lexes, loses⟩
  | @number digits cs rest taken =>
      obtain ⟨text, numeric, again⟩ := exists_of_number? taken
      have free : ',' ∉ digits.toList := fun member => absurd (numeric _ member) (by decide)
      have keeps := keeps_of_free (ne_nil_of_number? taken) free text
      refine ⟨0, .number digits, .same _, .number ?_, keeps.loses⟩
      rw [keeps.again]
      exact again same

/-- A part is read again when commas are dropped from its text, but for the commas that its strings
lose. -/
theorem thins_of_reads (h : Reads p cs rest) :
    (dropLastCommas rest).head? = rest.head? →
      ∃ n p', Thins n p p' ∧ Reads p' (dropLastCommas cs) (dropLastCommas rest) ∧
        Loses n cs rest := by
  -- The character after a number ends it, so what comes next has to begin as before.
  have other : ∀ {d : Char} {cs : List Char}, d ≠ ',' → ¬ IsLastComma d cs :=
    fun differs last => differs last.1
  induction h with
  | atom lexes =>
      intro same
      obtain ⟨n, j', thins, lexes', loses⟩ := thins_of_atom lexes same
      exact ⟨n, .value j', thins, .atom lexes', loses⟩
  | emptyArray opens closes =>
      intro _
      have first := keeps_of_mark opens (other (by decide))
      have last := keeps_of_mark closes (other (by decide))
      exact ⟨0, _, .same _, .emptyArray (first.mark opens) (last.mark closes),
        first.loses.trans last.loses⟩
  | array opens _ ih =>
      intro same
      have first := keeps_of_mark opens (other (by decide))
      obtain ⟨n, p', thins, inner, loses⟩ := ih same
      obtain ⟨js', rfl⟩ := thins.exists_items
      exact ⟨n, _, .array thins, .array (first.mark opens) inner,
        by simpa using first.loses.trans loses⟩
  | emptyObject opens closes =>
      intro _
      have first := keeps_of_mark opens (other (by decide))
      have last := keeps_of_mark closes (other (by decide))
      exact ⟨0, _, .same _, .emptyObject (first.mark opens) (last.mark closes),
        first.loses.trans last.loses⟩
  | object opens _ ih =>
      intro same
      have first := keeps_of_mark opens (other (by decide))
      obtain ⟨n, p', thins, inner, loses⟩ := ih same
      obtain ⟨ms', rfl⟩ := thins.exists_members
      exact ⟨n, _, .object thins, .object (first.mark opens) inner,
        by simpa using first.loses.trans loses⟩
  | lastItem _ closes ih =>
      intro _
      have last := keeps_of_mark closes (other (by decide))
      obtain ⟨n, p', thins, value, loses⟩ := ih last.head?
      obtain ⟨j', rfl⟩ := thins.exists_value
      exact ⟨n, _, .item thins (.same _), .lastItem value (last.mark closes),
        loses.trans last.loses⟩
  | item _ parts more ih ih' =>
      intro same
      have comma := keeps_of_comma parts more.starts
      obtain ⟨n, p', thins, value, loses⟩ := ih comma.head?
      obtain ⟨m, p'', thins', items, loses'⟩ := ih' same
      obtain ⟨j', rfl⟩ := thins.exists_value
      obtain ⟨js', rfl⟩ := thins'.exists_items
      exact ⟨n + m, _, .item thins thins', .item value (comma.mark parts) items,
        (loses.trans comma.loses).trans loses'⟩
  | lastMember named marked _ closes ih =>
      intro _
      obtain ⟨k, name', drops, named', loses⟩ := drops_of_name named
      have colon := keeps_of_mark marked (other (by decide))
      have last := keeps_of_mark closes (other (by decide))
      obtain ⟨n, p', thins, value, loses'⟩ := ih last.head?
      obtain ⟨j', rfl⟩ := thins.exists_value
      exact ⟨k + n, _, .member drops thins (.same _),
        .lastMember named' (colon.mark marked) value (last.mark closes),
        ((loses.trans colon.loses).trans loses').trans last.loses⟩
  | member named marked _ parts more ih ih' =>
      intro same
      obtain ⟨k, name', drops, named', loses⟩ := drops_of_name named
      have colon := keeps_of_mark marked (other (by decide))
      have comma := keeps_of_comma parts more.starts
      obtain ⟨n, p', thins, value, loses'⟩ := ih comma.head?
      obtain ⟨m, p'', thins', members, loses''⟩ := ih' same
      obtain ⟨j', rfl⟩ := thins.exists_value
      obtain ⟨ms', rfl⟩ := thins'.exists_members
      exact ⟨k + n + m, _, .member drops thins thins',
        .member named' (colon.mark marked) value (comma.mark parts) members,
        (((loses.trans colon.loses).trans loses').trans comma.loses).trans loses''⟩

theorem exists_thinned {text : String} (read : Json.parse? text = some j) :
    ∃ n j', Thins n (.value j) (.value j') ∧
      Json.parse? (String.ofList (dropLastCommas text.toList)) = some j' ∧
      text.toList.length = (dropLastCommas text.toList).length + n := by
  obtain ⟨rest, reads, ended⟩ := parse?_eq_some_iff.mp read
  obtain ⟨spaces, blank, split⟩ := exists_skipSpace rest
  have kept : dropLastCommas rest = rest := by
    rw [split, ended, dropLastCommas_spaces blank]
    rfl
  obtain ⟨n, p', thins, again, loses⟩ := thins_of_reads reads (by rw [kept])
  obtain ⟨j', rfl⟩ := thins.exists_value
  rw [kept] at again
  refine ⟨n, j', thins, parse?_eq_some_iff.mpr ⟨rest, by simpa using again, ended⟩, ?_⟩
  rw [Loses, kept] at loses
  omega

end Thinning

end Survey.Json.Lenient
