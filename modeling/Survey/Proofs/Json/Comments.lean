import Mathlib.Data.List.Induction
import Mathlib.Data.List.Infix
import Survey.Proofs.Json.Lenient

/-!
Texts with comments as they are made: of plain characters, strings and comments, where a string or
comment that is not closed goes on to the end. Stripping takes the comments out and leaves all other
pieces as they are and in their order. No two of them make a comment where they meet, so that a
stripped text has none.
-/
namespace Survey.Json.Lenient

open Survey.Text (Quoting)

section Pieces

/-- What a text is made of. -/
inductive Piece where
  | plain (c : Char)
  | string (text : List Char)
  | comment (text : List Char)
  deriving DecidableEq

def Piece.isComment : Piece → Bool
  | .comment _ => true
  | _ => false

/-- A string behind its opening mark, and what follows the string. -/
inductive StringRest : List Char → List Char → Prop
  | close {rest : List Char} : StringRest ['"'] rest
  | char {c : Char} {w rest : List Char} : c ≠ '"' → c ≠ '\\' → StringRest w rest →
      StringRest (c :: w) rest
  | escape {c : Char} {w rest : List Char} : StringRest w rest → StringRest ('\\' :: c :: w) rest
  | unclosed : StringRest [] []
  | unescaped : StringRest ['\\'] []

/-- A comment, and what follows it. One to the end of a line leaves the line end to the text. -/
inductive Remark : List Char → List Char → Prop
  | line {body rest : List Char} : '\n' ∉ body → rest.head? ∈ [none, some '\n'] →
      Remark ('/' :: '/' :: body) rest
  | block {body rest : List Char} : ¬ ['*', '/'] <:+: body →
      Remark ('/' :: '*' :: (body ++ ['*', '/'])) rest
  | unclosed {body : List Char} : ¬ ['*', '/'] <:+: body → Remark ('/' :: '*' :: body) []

/-- A text and the pieces it is made of. A slash is plain when it begins no comment. -/
inductive Made : List Piece → List Char → Prop
  | nil : Made [] []
  | plain {c : Char} {ps : List Piece} {cs : List Char} : c ≠ '"' → ¬ IsComment c cs → Made ps cs →
      Made (.plain c :: ps) (c :: cs)
  | string {w : List Char} {ps : List Piece} {cs : List Char} : StringRest w cs → Made ps cs →
      Made (.string ('"' :: w) :: ps) ('"' :: (w ++ cs))
  | comment {w : List Char} {ps : List Piece} {cs : List Char} : Remark w cs → Made ps cs →
      Made (.comment w :: ps) (w ++ cs)

end Pieces

section Stripping

variable {w body rest cs : List Char} {ps : List Piece} {c : Char}

theorem stripComments_plain (unquoted : c ≠ '"') (solid : ¬ IsComment c cs) :
    stripComments (c :: cs) = c :: stripComments cs := by
  rw [stripComments, stripFrom_plain solid, if_neg unquoted, stripComments]

/-- What stands behind a plain slash stays there. -/
theorem not_isComment_stripComments (solid : ¬ IsComment c cs) :
    ¬ IsComment c (stripComments cs) := by
  rintro ⟨rfl, opens⟩
  cases cs with
  | nil => simp [stripComments, stripFrom] at opens
  | cons d cs =>
      have plain : ¬ IsComment d cs := by
        rintro ⟨rfl, _⟩
        exact solid ⟨rfl, by simp⟩
      rw [stripComments, stripFrom_plain plain] at opens
      exact solid ⟨rfl, opens⟩

theorem stripFrom_string (h : StringRest w rest) :
    stripFrom .string (w ++ rest) = w ++ stripComments rest := by
  induction h with
  | close => rfl
  | char unquoted plain _ ih =>
      rw [List.cons_append, stripFrom, if_neg plain, if_neg unquoted, ih, List.cons_append]
  | escape _ ih =>
      rw [List.cons_append, List.cons_append, stripFrom, if_pos rfl, stripFrom, ih]
      rfl
  | unclosed => rfl
  | unescaped => rfl

theorem stripFrom_line (within : '\n' ∉ body) (ends : rest.head? ∈ [none, some '\n']) :
    stripFrom .lineComment (body ++ rest) = stripComments rest := by
  induction body with
  | nil =>
      cases rest with
      | nil => rfl
      | cons d rest =>
          have same : d = '\n' := by simpa using ends
          subst same
          rfl
  | cons d body ih =>
      rw [List.mem_cons, not_or] at within
      rw [List.cons_append, stripFrom, if_neg (Ne.symm within.1), ih within.2]

theorem unclosed_cons (unclosed : ¬ ['*', '/'] <:+: c :: body) :
    (c = '*' → body.head? ≠ some '/') ∧ ¬ ['*', '/'] <:+: body := by
  constructor
  · rintro rfl slash
    obtain ⟨more, rfl⟩ := List.head?_eq_some_iff.mp slash
    exact unclosed ⟨[], more, rfl⟩
  · exact fun later => unclosed (List.infix_cons later)

/-- A block comment goes on as long as nothing closes it. -/
theorem stripFrom_block {star : Bool} (unclosed : ¬ ['*', '/'] <:+: body)
    (apart : star → body.head? ≠ some '/') :
    stripFrom (.blockComment star) (body ++ '*' :: '/' :: rest) = stripComments rest ∧
      stripFrom (.blockComment star) body = [] := by
  induction body generalizing star with
  | nil =>
      refine ⟨?_, rfl⟩
      have opening : (star && decide ('*' = '/')) = false := by simp
      rw [List.nil_append, stripFrom, opening, if_neg Bool.false_ne_true, stripFrom]
      rfl
  | cons d body ih =>
      obtain ⟨next, later⟩ := unclosed_cons unclosed
      have goesOn : ¬ (star && decide (d = '/')) = true := by
        intro closes
        rw [Bool.and_eq_true, decide_eq_true_iff] at closes
        exact apart closes.1 (congrArg some closes.2)
      rw [List.cons_append, stripFrom, if_neg goesOn, stripFrom, if_neg goesOn]
      exact ih later fun starred => next (of_decide_eq_true starred)

theorem stripComments_remark (h : Remark w rest) :
    stripComments (w ++ rest) = stripComments rest := by
  cases h with
  | line within ends => exact stripFrom_line within ends
  | @block body _ unclosed =>
      have whole : ['*', '/'] ++ rest = '*' :: '/' :: rest := rfl
      rw [List.cons_append, List.cons_append, List.append_assoc, whole]
      exact (@stripFrom_block body rest false unclosed (by simp)).1
  | @unclosed body unclosed =>
      rw [List.append_nil]
      exact (@stripFrom_block body [] false unclosed (by simp)).2

theorem StringRest.stripped (h : StringRest w rest) : StringRest w (stripComments rest) := by
  induction h with
  | close => exact .close
  | char unquoted plain _ ih => exact .char unquoted plain ih
  | escape _ ih => exact .escape ih
  | unclosed => exact .unclosed
  | unescaped => exact .unescaped

/-- A stripped text is made of the pieces that are no comments. -/
theorem Made.stripped (h : Made ps cs) :
    Made (ps.filter (!·.isComment)) (stripComments cs) := by
  induction h with
  | nil => exact .nil
  | plain unquoted solid _ ih =>
      rw [stripComments_plain unquoted solid]
      exact .plain unquoted (not_isComment_stripComments solid) ih
  | @string w ps cs literal _ ih =>
      have kept : stripComments ('"' :: (w ++ cs)) = '"' :: (w ++ stripComments cs) :=
        congrArg ('"' :: ·) (stripFrom_string literal)
      rw [kept]
      exact .string literal.stripped ih
  | comment remark _ ih =>
      rw [stripComments_remark remark]
      exact ih

end Stripping

section Readings

variable {w rest cs : List Char} {ps : List Piece}

theorem exists_stringRest (cs : List Char) : ∃ w rest, cs = w ++ rest ∧ StringRest w rest := by
  -- An escape takes two characters at once.
  induction cs using List.twoStepInduction with
  | nil => exact ⟨[], [], rfl, .unclosed⟩
  | singleton c =>
      by_cases quoted : c = '"'
      · exact ⟨['"'], [], by rw [quoted]; rfl, .close⟩
      · by_cases plain : c = '\\'
        · exact ⟨['\\'], [], by rw [plain]; rfl, .unescaped⟩
        · exact ⟨[c], [], rfl, .char quoted plain .unclosed⟩
  | cons_cons c d cs ih ih' =>
      by_cases quoted : c = '"'
      · exact ⟨['"'], d :: cs, by rw [quoted]; rfl, .close⟩
      · by_cases plain : c = '\\'
        · obtain ⟨w, rest, rfl, literal⟩ := ih
          exact ⟨'\\' :: d :: w, rest, by rw [plain]; rfl, .escape literal⟩
        · obtain ⟨w, rest, split, literal⟩ := ih' d
          exact ⟨c :: w, rest, by rw [split]; rfl, .char quoted plain literal⟩

theorem exists_closed (cs : List Char) : ¬ ['*', '/'] <:+: cs ∨
    ∃ body rest, cs = body ++ '*' :: '/' :: rest ∧ ¬ ['*', '/'] <:+: body := by
  induction cs with
  | nil => exact Or.inl (by simp)
  | cons c cs ih =>
      by_cases here : ['*', '/'] <+: c :: cs
      · obtain ⟨rest, split⟩ := here
        exact Or.inr ⟨[], rest, split.symm, by simp⟩
      · rcases ih with unclosed | ⟨body, rest, rfl, unclosed⟩
        · left
          intro closed
          exact (List.infix_cons_iff.mp closed).elim here unclosed
        · refine Or.inr ⟨c :: body, rest, rfl, ?_⟩
          intro closed
          rcases List.infix_cons_iff.mp closed with first | later
          · exact here (first.trans (List.prefix_append (c :: body) _))
          · exact unclosed later

theorem exists_remark {c : Char} (opens : IsComment c cs) :
    ∃ w rest, c :: cs = w ++ rest ∧ Remark w rest ∧ rest.length ≤ cs.length := by
  obtain ⟨rfl, second⟩ := opens
  rw [List.mem_pair] at second
  rcases second with slash | star
  · obtain ⟨cs, rfl⟩ := List.head?_eq_some_iff.mp slash
    have within : '\n' ∉ cs.takeWhile (· ≠ '\n') := by
      intro member
      simpa using List.mem_takeWhile_imp member
    have ends : (cs.dropWhile (· ≠ '\n')).head? ∈ [none, some '\n'] := by
      have stops := List.head?_dropWhile_not (· ≠ '\n') cs
      cases left : cs.dropWhile (· ≠ '\n') with
      | nil => simp
      | cons d rest =>
          rw [left] at stops
          simpa using stops
    refine ⟨'/' :: '/' :: cs.takeWhile (· ≠ '\n'), cs.dropWhile (· ≠ '\n'), ?_,
      .line within ends, ?_⟩
    · simp
    · exact Nat.le_succ_of_le (List.dropWhile_sublist _).length_le
  · obtain ⟨cs, rfl⟩ := List.head?_eq_some_iff.mp star
    rcases exists_closed cs with unclosed | ⟨body, rest, rfl, unclosed⟩
    · exact ⟨'/' :: '*' :: cs, [], by simp, .unclosed unclosed, Nat.zero_le _⟩
    · refine ⟨'/' :: '*' :: (body ++ ['*', '/']), rest, by simp, .block unclosed, ?_⟩
      simp only [List.length_cons, List.length_append]
      omega

theorem exists_made (cs : List Char) : ∃ ps, Made ps cs := by
  induction size : cs.length using Nat.strong_induction_on generalizing cs with
  | _ n ih =>
      cases cs with
      | nil => exact ⟨[], .nil⟩
      | cons c cs =>
          rw [List.length_cons] at size
          by_cases quoted : c = '"'
          · obtain ⟨w, rest, rfl, literal⟩ := exists_stringRest cs
            rw [List.length_append] at size
            obtain ⟨ps, made⟩ := ih rest.length (by omega) rest rfl
            rw [quoted]
            exact ⟨_, .string literal made⟩
          · by_cases opens : IsComment c cs
            · obtain ⟨w, rest, split, remark, shorter⟩ := exists_remark opens
              obtain ⟨ps, made⟩ := ih rest.length (by omega) rest rfl
              rw [split]
              exact ⟨_, .comment remark made⟩
            · obtain ⟨ps, made⟩ := ih cs.length (by omega) cs rfl
              exact ⟨_, .plain quoted opens made⟩

theorem StringRest.places (h : StringRest w rest)
    (after : Quoting.outside.Places IsComment (· ≠ .outside) rest) :
    Quoting.inside.Places IsComment (· ≠ .outside) (w ++ rest) := by
  have within : Quoting.inside ≠ .outside := by decide
  induction h with
  | close => exact Quoting.places_cons.mpr ⟨fun _ => within, after⟩
  | char unquoted plain _ ih =>
      refine Quoting.places_cons.mpr ⟨fun _ => within, ?_⟩
      rw [Quoting.next, if_neg plain, if_neg unquoted]
      exact ih after
  | escape _ ih =>
      refine Quoting.places_cons.mpr ⟨fun _ => within, ?_⟩
      exact Quoting.places_cons.mpr ⟨fun _ => by decide, ih after⟩
  | unclosed => exact Quoting.places_nil
  | unescaped => exact Quoting.places_cons.mpr ⟨fun _ => within, Quoting.places_nil⟩

/-- A text that is made without comments has none outside its strings. -/
theorem Made.places (h : Made ps cs) (free : ∀ p ∈ ps, !p.isComment) :
    Quoting.outside.Places IsComment (· ≠ .outside) cs := by
  induction h with
  | nil => exact Quoting.places_nil
  | plain unquoted solid _ ih =>
      refine Quoting.places_cons.mpr ⟨fun opens => absurd opens solid, ?_⟩
      rw [Quoting.next, if_neg unquoted]
      exact ih (List.forall_mem_cons.mp free).2
  | string literal _ ih =>
      refine Quoting.places_cons.mpr ⟨fun opens => absurd opens.1 (by decide), ?_⟩
      exact literal.places (ih (List.forall_mem_cons.mp free).2)
  | comment _ _ _ =>
      have plain := (List.forall_mem_cons.mp free).1
      cases plain

end Readings

theorem places_stripComments (cs : List Char) :
    Quoting.outside.Places IsComment (· ≠ .outside) (stripComments cs) := by
  obtain ⟨ps, made⟩ := exists_made cs
  exact made.stripped.places fun p member => (List.mem_filter.mp member).2

/-- Stripping leaves exactly the texts without comments as they are, it leaves a stripped text as it
is, and such a text has no comment outside its strings. Every text is made of pieces, and what
stripping leaves is made of the same pieces without the comments: all strings of the text that are
not in a comment are there, unchanged and in order. -/
theorem comments_alone_taken_out (cs : List Char) :
    (stripComments cs = cs ↔ Quoting.outside.Places IsComment (· ≠ .outside) cs) ∧
    stripComments (stripComments cs) = stripComments cs ∧
    Quoting.outside.Places IsComment (· ≠ .outside) (stripComments cs) ∧
    (∃ ps, Made ps cs) ∧
    ∀ ps, Made ps cs → Made (ps.filter (!·.isComment)) (stripComments cs) := by
  have free := places_stripComments cs
  refine ⟨⟨?_, stripComments_eq_self⟩, stripComments_eq_self free, free, exists_made cs, ?_⟩
  · intro unchanged
    rwa [unchanged] at free
  · exact fun ps made => made.stripped

/-- A mark of comments in a string is kept, and one of strings in a comment is not. -/
theorem marks_in_pieces :
    Made [.string "\"//\"".toList, .comment "/*\"*/".toList, .plain ','] "\"//\"/*\"*/,".toList ∧
    Made [.string "\"//\"".toList, .plain ','] (stripComments "\"//\"/*\"*/,".toList) := by
  have comma : Made [.plain ','] [','] :=
    .plain (by decide) (fun opens => absurd opens.1 (by decide)) .nil
  have remark : Made [.comment "/*\"*/".toList, .plain ','] "/*\"*/,".toList :=
    .comment (@Remark.block ['"'] [','] (by decide)) comma
  have literal : StringRest ['/', '/', '"'] "/*\"*/,".toList :=
    .char (by decide) (by decide) (.char (by decide) (by decide) .close)
  have made : Made [.string "\"//\"".toList, .comment "/*\"*/".toList, .plain ',']
      "\"//\"/*\"*/,".toList := .string literal remark
  exact ⟨made, (comments_alone_taken_out _).2.2.2.2 _ made⟩

end Survey.Json.Lenient
