import Survey.Proofs.Schema.Declared
import Survey.Proofs.Text.Lines

/-!
Schemas as they are written. A declaration comes with its layout, and the blocks read from the text
of some declarations are these declarations, as long as no line holds what looks like a comment.
-/
namespace Survey.Schema.Written

open Survey.Text
open Survey.Schema.Block (Keyword Opens stripComments bodyFrom header declarations)

section Syntax

/-- White space that does not end a line. -/
structure Space where
  chars : List Char
  inline : ∀ c ∈ chars, isBlank c ∧ c ≠ '\n'

structure Gap extends Space where
  nonempty : chars ≠ []

structure Word where
  chars : List Char
  nonempty : chars ≠ []
  word : ∀ c ∈ chars, isWord c

def Word.name (w : Word) : String :=
  String.ofList w.chars

/-- A part of the arguments of an attribute. Quotation marks and braces stand only in strings, and a
string holds neither a quotation mark nor a backslash. -/
inductive Piece where
  | char (c : Char) (plain : c ∉ ['"', '\x7b', '\x7d', '\n'])
  | string (w : List Char) (plain : ∀ c ∈ w, c ∉ ['"', '\\', '\n'])

def Piece.text : Piece → List Char
  | .char c _ => [c]
  | .string w _ => '"' :: (w ++ ['"'])

structure Attribute where
  gap : Gap
  name : List Char
  nonempty : name ≠ []
  named : ∀ c ∈ name, isWord c || c == '.'
  arguments : Option (List Piece)

def argumentText (pieces : List Piece) : List Char :=
  '(' :: (pieces.flatMap Piece.text ++ [')'])

/-- The text of an attribute without the white space in front of it. -/
def Attribute.core (a : Attribute) : List Char :=
  '@' :: (a.name ++ (a.arguments.map argumentText).getD [])

def Attribute.text (a : Attribute) : List Char :=
  a.gap.chars ++ a.core

/-- What stands after the type of a field. -/
inductive Mark where
  | none | optional | array
  deriving DecidableEq

def Mark.text : Mark → List Char
  | .none => []
  | .optional => ['?']
  | .array => ['[', ']']

structure Field where
  indent : Space
  name : Word
  gap : Gap
  base : Word
  mark : Mark
  attributes : List Attribute
  trail : Space

/-- The text of a field between the white space around it. -/
def Field.core (f : Field) : List Char :=
  f.name.chars ++ (f.gap.chars ++ (f.base.chars ++ (f.mark.text ++
    f.attributes.flatMap Attribute.text)))

def Field.line (f : Field) : List Char :=
  f.indent.chars ++ (f.core ++ f.trail.chars)

structure Value where
  indent : Space
  name : Word
  trail : Space

def Value.line (v : Value) : List Char :=
  v.indent.chars ++ (v.name.chars ++ v.trail.chars)

/-- The layout and name at the start of a block; lines may be left empty in front of it. -/
structure Heading where
  lead : List Char
  blank : ∀ c ∈ lead, isBlank c
  gap : Gap
  name : Word
  space : Space
  trail : Space

structure Block where
  keyword : Keyword
  heading : Heading
  lines : List (List Char)

/-- The text of a heading in front of the brace. -/
def Heading.opening (h : Heading) (k : Keyword) : List Char :=
  h.lead ++ (k.word ++ (h.gap.chars ++ (h.name.chars ++ h.space.chars)))

def Block.body (b : Block) : List Char :=
  b.heading.trail.chars ++ '\n' :: b.lines.flatMap fun l => l ++ ['\n']

def Block.text (b : Block) : List Char :=
  b.heading.opening b.keyword ++ '\x7b' :: (b.body ++ ['\x7d', '\n'])

def Space.none : Space :=
  ⟨[], by decide⟩

def Gap.one : Gap :=
  ⟨⟨[' '], by decide⟩, by decide⟩

def Word.ofString (s : String) (named : s.toList ≠ [] ∧ ∀ c ∈ s.toList, isWord c := by decide) :
    Word :=
  ⟨s.toList, named.1, named.2⟩

def Heading.usual (name : Word) : Heading :=
  ⟨[], by decide, .one, name, Gap.one.toSpace, .none⟩

def Attribute.usual (name : String) (arguments : Option (List Piece))
    (named : name.toList ≠ [] ∧ ∀ c ∈ name.toList, isWord c || c == '.' := by decide) : Attribute :=
  ⟨.one, name.toList, named.1, named.2, arguments⟩

def Field.usual (name base : Word) (mark : Mark) (attributes : List Attribute) : Field :=
  ⟨Gap.one.toSpace, name, .one, base, mark, attributes, .none⟩

theorem Space.not_mem (s : Space) {c : Char} (solid : isBlank c = false) : c ∉ s.chars := by
  intro member
  rw [(s.inline c member).1] at solid
  cases solid

theorem Space.no_newline (s : Space) : '\n' ∉ s.chars :=
  fun member => (s.inline _ member).2 rfl

theorem Word.not_mem (w : Word) {c : Char} (other : isWord c = false) : c ∉ w.chars := by
  intro member
  rw [w.word c member] at other
  cases other

end Syntax

section Scanners

variable {cs ds : List Char}

/-- A text in which comments are looked for in vain, whatever follows. -/
def Kept (cs : List Char) : Prop :=
  ∀ rest, stripComments (cs ++ rest) = cs ++ stripComments rest

/-- A text that neither opens nor closes a block, whatever follows. -/
def Inert (cs : List Char) : Prop :=
  ∀ rest, bodyFrom .plain (cs ++ rest) = (bodyFrom .plain rest).map (cs ++ ·)

/-- What holds of texts together when it holds of each. -/
theorem flatMap_of_append {p : List Char → Prop} (empty : p [])
    (append : ∀ {cs ds}, p cs → p ds → p (cs ++ ds)) {α : Type} {f : α → List Char} {items : List α}
    (each : ∀ a ∈ items, p (f a)) : p (items.flatMap f) := by
  induction items with
  | nil => exact empty
  | cons a items ih =>
      exact append (each a List.mem_cons_self) (ih fun b member => each b (List.mem_cons_of_mem a member))

theorem kept_nil : Kept [] := fun _ => rfl

theorem Kept.append (h : Kept cs) (h' : Kept ds) : Kept (cs ++ ds) := by
  intro rest
  rw [List.append_assoc, h, h', List.append_assoc]

theorem inert_nil : Inert [] := fun _ => by simp

theorem Inert.append (h : Inert cs) (h' : Inert ds) : Inert (cs ++ ds) := by
  intro rest
  rw [List.append_assoc, h, h', Option.map_map]
  congr 1
  funext body
  simp

/-- The mark of a comment must not stand in a text nor be made up by its end and what follows. -/
theorem kept_of_clear (clear : ¬ ['/', '/'] <:+: cs) (ends : cs.getLast? ≠ some '/') : Kept cs := by
  induction cs with
  | nil => exact kept_nil
  | cons c cs ih =>
      have tail : Kept cs := by
        apply ih
        · exact fun inside => clear (inside.trans (List.suffix_cons c cs).isInfix)
        · intro last
          apply ends
          rw [List.getLast?_cons, last]
          rfl
      intro rest
      have step : stripComments.go false (c :: (cs ++ rest)) =
          c :: stripComments.go false (cs ++ rest) := by
        by_cases line : c = '\n'
        · rw [line, stripComments.go]
        · apply Block.go_cons line
          rintro rfl next
          cases cs with
          | nil => exact ends rfl
          | cons d cs =>
              obtain rfl : d = '/' := by simpa using next
              exact clear ⟨[], cs, rfl⟩
      exact step.trans (congrArg (c :: ·) (tail rest))

theorem kept_of_free (free : '/' ∉ cs) : Kept cs := by
  apply kept_of_clear
  · exact fun inside => free (inside.mem (by simp))
  · exact fun last => free (List.mem_of_getLast? last)

theorem inert_of_free (free : ∀ c ∈ cs, c ∉ ['"', '\x7b', '\x7d']) : Inert cs := by
  induction cs with
  | nil => exact inert_nil
  | cons c cs ih =>
      intro rest
      have first := free c List.mem_cons_self
      simp only [List.mem_cons, List.not_mem_nil, or_false, not_or] at first
      have tail := ih (fun d member => free d (List.mem_cons_of_mem c member)) rest
      rw [List.cons_append, bodyFrom, if_neg first.2.1, if_neg first.2.2, if_neg first.1, tail,
        Option.map_map]
      rfl

theorem inert_string {w : List Char} (plain : ∀ c ∈ w, c ∉ ['"', '\\', '\n']) :
    Inert ('"' :: (w ++ ['"'])) := by
  intro rest
  have inside : bodyFrom .string (w ++ '"' :: rest) =
      (bodyFrom .plain rest).map (w ++ '"' :: ·) := by
    induction w with
    | nil => rw [List.nil_append, bodyFrom]; rfl
    | cons c w ih =>
        have first := plain c List.mem_cons_self
        simp only [List.mem_cons, List.not_mem_nil, or_false, not_or] at first
        rw [List.cons_append, bodyFrom, if_neg first.2.1, if_neg first.1,
          ih fun d member => plain d (List.mem_cons_of_mem c member), Option.map_map]
        rfl
  have text : '"' :: (w ++ ['"']) ++ rest = '"' :: (w ++ '"' :: rest) := by simp
  rw [text, bodyFrom, if_neg (by decide), if_neg (by decide), if_pos rfl, inside, Option.map_map]
  congr 1
  funext body
  simp

/-- A part of a line that no scanner minds. -/
structure Safe (cs : List Char) : Prop where
  inline : '\n' ∉ cs
  kept : Kept cs
  inert : Inert cs

theorem safe_nil : Safe [] :=
  ⟨List.not_mem_nil, kept_nil, inert_nil⟩

theorem Safe.append (h : Safe cs) (h' : Safe ds) : Safe (cs ++ ds) where
  inline member := (List.mem_append.mp member).elim h.inline h'.inline
  kept := h.kept.append h'.kept
  inert := h.inert.append h'.inert

theorem safe_of_free (free : ∀ c ∈ ['/', '"', '\x7b', '\x7d', '\n'], c ∉ cs) : Safe cs where
  inline := free '\n' (by decide)
  kept := kept_of_free (free '/' (by decide))
  inert := inert_of_free fun c member special => by
    have within : ∀ c ∈ ['"', '\x7b', '\x7d'], c ∈ ['/', '"', '\x7b', '\x7d', '\n'] := by decide
    exact free c (within c special) member

theorem Space.safe (s : Space) : Safe s.chars := by
  have solid : ∀ c ∈ ['/', '"', '\x7b', '\x7d', '\n'], ¬ (isBlank c ∧ c ≠ '\n') := by decide
  exact safe_of_free fun c special member => solid c special (s.inline c member)

theorem Word.safe (w : Word) : Safe w.chars := by
  have other : ∀ c ∈ ['/', '"', '\x7b', '\x7d', '\n'], isWord c = false := by decide
  exact safe_of_free fun c special => w.not_mem (other c special)

theorem Mark.safe (m : Mark) : Safe m.text := by
  apply safe_of_free
  cases m <;> decide

end Scanners

section Headers

variable {cs : List Char} {before : Option Char}

/-- What stands after some words and the white space around them. -/
def past : Nat → List Char → List Char
  | 0, cs => skipBlank cs
  | n + 1, cs => past n ((skipBlank cs).dropWhile isWord)

/-- A text that does not go on with a brace after up to two words. -/
def Closed (cs : List Char) : Prop :=
  ∀ n ≤ 2, (past n cs).head? ≠ some '\x7b'

theorem past_blank_append {blanks : List Char} (blank : ∀ c ∈ blanks, isBlank c) (n : Nat)
    (rest : List Char) : past n (blanks ++ rest) = past n rest := by
  cases n <;> simp only [past, skipBlank_append blank]

theorem past_word_append {w rest : List Char} (nonempty : w ≠ []) (word : ∀ c ∈ w, isWord c)
    (stops : ∀ c ∈ rest.head?, isWord c = false) (n : Nat) :
    past (n + 1) (w ++ rest) = past n rest := by
  rw [past, Block.skipBlank_of_isWord nonempty word, dropWhile_run word stops]

theorem past_two_of_opens {k : Keyword} {name : String} {lead rest : List Char}
    (h : Opens k name lead) : past 2 (lead ++ '\x7b' :: rest) = '\x7b' :: rest := by
  obtain ⟨indented, apart, gap, nonempty, named, spaced⟩ := h
  simp only [List.append_assoc]
  rw [past_blank_append indented,
    past_word_append k.word_ne_nil k.isWord_word
      (isWord_head?_blanks gap fun empty => absurd empty apart),
    past_blank_append gap,
    past_word_append nonempty named
      (isWord_head?_blanks spaced fun _ c member => by cases member; decide),
    past_blank_append spaced]
  exact skipBlank_cons (by decide) rest

theorem header_eq_none_of_closed (closed : Closed cs) : header before cs = none := by
  cases read : header before cs with
  | none => rfl
  | some found =>
      obtain ⟨-, k, name, lead, opens, -, rfl⟩ := Block.opens_of_header read
      exact absurd (congrArg List.head? (past_two_of_opens opens)) (closed 2 (Nat.le_refl 2))

end Headers

section Lines

variable {rest : List Char}

/-- A line of which no scanner takes any part for the end or the start of a block. -/
structure Sound (l : List Char) : Prop extends Safe l where
  closed : ∀ {rest}, Closed rest → Closed (l ++ '\n' :: rest)

theorem head?_past_word {w : List Char} (nonempty : w ≠ []) (word : ∀ c ∈ w, isWord c) :
    (past 0 (w ++ rest)).head? ≠ some '\x7b' := by
  rw [past, Block.skipBlank_of_isWord nonempty word]
  cases w with
  | nil => exact absurd rfl nonempty
  | cons c w =>
      have first := word c List.mem_cons_self
      intro brace
      obtain rfl : c = '\x7b' := by simpa using brace
      cases first

theorem Space.blank (s : Space) : ∀ c ∈ s.chars, isBlank c :=
  fun c member => (s.inline c member).1

theorem isWord_head?_trail (s : Space) : ∀ c ∈ (s.chars ++ '\n' :: rest).head?, isWord c = false :=
  isWord_head?_blanks s.blank fun _ c member => by cases member; decide

theorem past_trail (s : Space) (n : Nat) : past n (s.chars ++ '\n' :: rest) = past n rest := by
  rw [past_blank_append s.blank]
  exact @past_blank_append ['\n'] (by decide) n rest

theorem Value.sound (v : Value) : Sound v.line where
  toSafe := v.indent.safe.append (v.name.safe.append v.trail.safe)
  closed := by
    intro rest closed n bound
    have text : v.line ++ '\n' :: rest =
        v.indent.chars ++ (v.name.chars ++ (v.trail.chars ++ '\n' :: rest)) := by simp [Value.line]
    rw [text, past_blank_append v.indent.blank]
    cases n with
    | zero => exact head?_past_word v.name.nonempty v.name.word
    | succ n =>
        rw [past_word_append v.name.nonempty v.name.word (isWord_head?_trail v.trail), past_trail]
        exact closed n (by omega)

/-- What stands after the base type of a field up to the next line. -/
def Field.after (f : Field) (rest : List Char) : List Char :=
  f.mark.text ++ (f.attributes.flatMap Attribute.text ++ (f.trail.chars ++ '\n' :: rest))

theorem Field.isWord_head?_after (f : Field) : ∀ c ∈ (f.after rest).head?, isWord c = false := by
  rw [Field.after]
  cases f.mark with
  | optional => intro c member; cases member; decide
  | array => intro c member; cases member; decide
  | none =>
      cases f.attributes with
      | nil => exact isWord_head?_trail f.trail
      | cons a as =>
          simp only [Mark.text, Attribute.text, List.flatMap_cons, List.nil_append, List.append_assoc]
          exact isWord_head?_blanks a.gap.blank fun empty => absurd empty a.gap.nonempty

theorem Field.head?_past_after (f : Field) (closed : Closed rest) :
    (past 0 (f.after rest)).head? ≠ some '\x7b' := by
  rw [Field.after]
  cases f.mark with
  | optional => rw [Mark.text, past, List.cons_append, skipBlank_cons (by decide)]; simp
  | array => rw [Mark.text, past, List.cons_append, skipBlank_cons (by decide)]; simp
  | none =>
      cases f.attributes with
      | nil =>
          simp only [Mark.text, List.flatMap_nil, List.nil_append]
          rw [past_trail]
          exact closed 0 (by omega)
      | cons a as =>
          simp only [Mark.text, Attribute.text, List.flatMap_cons, List.nil_append, List.append_assoc]
          rw [past_blank_append a.gap.blank, past, Attribute.core, List.cons_append,
            skipBlank_cons (by decide)]
          simp

theorem Field.closed_line (f : Field) (closed : Closed rest) : Closed (f.line ++ '\n' :: rest) := by
  have text : f.line ++ '\n' :: rest = f.indent.chars ++ (f.name.chars ++ (f.gap.chars ++
      (f.base.chars ++ f.after rest))) := by
    simp [Field.line, Field.core, Field.after]
  intro n bound
  rw [text, past_blank_append f.indent.blank]
  cases n with
  | zero => exact head?_past_word f.name.nonempty f.name.word
  | succ n =>
      rw [past_word_append f.name.nonempty f.name.word
          (isWord_head?_blanks f.gap.blank fun empty => absurd empty f.gap.nonempty),
        past_blank_append f.gap.blank]
      cases n with
      | zero => exact head?_past_word f.base.nonempty f.base.word
      | succ n =>
          obtain rfl : n = 0 := by omega
          rw [past_word_append f.base.nonempty f.base.word f.isWord_head?_after]
          exact f.head?_past_after closed

end Lines

section Attributes

theorem Piece.inert (p : Piece) : Inert p.text := by
  cases p with
  | string w plain => exact inert_string plain
  | char c plain =>
      apply inert_of_free
      intro d member special
      obtain rfl : d = c := by simpa [Piece.text] using member
      have within : ∀ c ∈ ['"', '\x7b', '\x7d'], c ∈ ['"', '\x7b', '\x7d', '\n'] := by decide
      exact plain (within d special)

theorem Piece.inline (p : Piece) : '\n' ∉ p.text := by
  cases p with
  | string w plain =>
      intro member
      have inside : '\n' ∈ w := by simpa [Piece.text] using member
      exact plain '\n' inside (by decide)
  | char c plain =>
      intro member
      obtain rfl : '\n' = c := by simpa [Piece.text] using member
      exact plain (by decide)

theorem Attribute.getLast?_core (a : Attribute) :
    ∀ c ∈ a.core.getLast?, isWord c ∨ c = '.' ∨ c = ')' := by
  intro c last
  cases arguments : a.arguments with
  | none =>
      have text : a.core = '@' :: a.name := by simp [Attribute.core, arguments]
      obtain ⟨front, d, name⟩ := List.eq_nil_or_concat a.name |>.resolve_left a.nonempty
      obtain rfl : d = c := by simpa [text, name, List.getLast?_cons] using last
      have named := a.named d (by simp [name])
      simp only [Bool.or_eq_true, beq_iff_eq] at named
      exact named.imp_right Or.inl
  | some pieces =>
      have text : a.core = '@' :: (a.name ++ '(' :: pieces.flatMap Piece.text) ++ [')'] := by
        simp [Attribute.core, argumentText, arguments]
      rw [text, List.getLast?_concat] at last
      exact .inr (.inr (Option.some.inj last).symm)

theorem Attribute.getLast?_text (a : Attribute) :
    ∀ c ∈ a.text.getLast?, isWord c ∨ c = '.' ∨ c = ')' := by
  have nonempty : a.core ≠ [] := List.cons_ne_nil _ _
  rw [Attribute.text, List.getLast?_append_of_ne_nil _ nonempty]
  exact a.getLast?_core

theorem inert_argumentText (pieces : List Piece) : Inert (argumentText pieces) := by
  have opening : Inert ['('] := inert_of_free (by decide)
  have closing : Inert [')'] := inert_of_free (by decide)
  exact opening.append ((flatMap_of_append inert_nil Inert.append fun p _ => p.inert).append closing)

theorem inline_argumentText (pieces : List Piece) : '\n' ∉ argumentText pieces := by
  intro member
  obtain ⟨p, -, inside⟩ : ∃ p ∈ pieces, '\n' ∈ p.text := by simpa [argumentText] using member
  exact p.inline inside

theorem Attribute.safe (a : Attribute) (clear : ¬ ['/', '/'] <:+: a.text) : Safe a.text := by
  have named : Safe ('@' :: a.name) := by
    apply safe_of_free
    intro c special member
    have other : ∀ c ∈ ['/', '"', '\x7b', '\x7d', '\n'], ¬ (c = '@' ∨ isWord c || c == '.') := by decide
    exact other c special ((List.mem_cons.mp member).imp_right (a.named c))
  have text : a.text =
      a.gap.chars ++ ('@' :: a.name) ++ (a.arguments.map argumentText).getD [] := by
    simp [Attribute.text, Attribute.core]
  have front := a.gap.safe.append named
  refine ⟨?_, kept_of_clear clear fun last => ?_, ?_⟩
  · rw [text, List.mem_append, not_or]
    refine ⟨front.inline, ?_⟩
    cases a.arguments with
    | none => exact List.not_mem_nil
    | some pieces => exact inline_argumentText pieces
  · have ends := a.getLast?_text '/' last
    revert ends
    decide
  · rw [text]
    apply front.inert.append
    cases a.arguments with
    | none => exact inert_nil
    | some pieces => exact inert_argumentText pieces

theorem Field.sound (f : Field) (clear : ∀ a ∈ f.attributes, ¬ ['/', '/'] <:+: a.text) :
    Sound f.line where
  toSafe :=
    have attributes : Safe (f.attributes.flatMap Attribute.text) :=
      flatMap_of_append safe_nil Safe.append fun a member => a.safe (clear a member)
    f.indent.safe.append ((f.name.safe.append (f.gap.safe.append (f.base.safe.append
      (f.mark.safe.append attributes)))).append f.trail.safe)
  closed := f.closed_line

end Attributes

section Blocks

variable {l cs rest : List Char} {ls : List (List Char)}

theorem findFrom_inline {c : Char} (inline : c ≠ '\n') (free : '\n' ∉ cs) :
    findFrom header (some c) 0 (cs ++ '\n' :: rest) = findFrom header (some '\n') 0 rest := by
  have closed : ∀ {c : Char}, c ≠ '\n' → ∀ text, header (some c) text = none := by
    intro c inline text
    simp [header, inline]
  induction cs generalizing c with
  | nil => exact findFrom_of_none (closed inline _)
  | cons d cs ih =>
      rw [List.mem_cons, not_or] at free
      rw [List.cons_append, findFrom_of_none (closed inline _), ih (Ne.symm free.1) free.2]

theorem findFrom_line (free : '\n' ∉ l) (closed : Closed (l ++ '\n' :: rest)) :
    findFrom header (some '\n') 0 (l ++ '\n' :: rest) = findFrom header (some '\n') 0 rest := by
  cases l with
  | nil => exact findFrom_of_none (header_eq_none_of_closed closed)
  | cons c l =>
      rw [List.mem_cons, not_or] at free
      rw [List.cons_append] at closed ⊢
      rw [findFrom_of_none (header_eq_none_of_closed closed), findFrom_inline (Ne.symm free.1) free.2]

theorem findFrom_lines (sound : ∀ l ∈ ls, Sound l) (closed : Closed rest) :
    Closed (ls.flatMap (· ++ ['\n']) ++ rest) ∧
      findFrom header (some '\n') 0 (ls.flatMap (· ++ ['\n']) ++ rest) =
        findFrom header (some '\n') 0 rest := by
  induction ls with
  | nil => exact ⟨closed, rfl⟩
  | cons l ls ih =>
      have first := sound l List.mem_cons_self
      obtain ⟨closed, found⟩ := ih fun m member => sound m (List.mem_cons_of_mem l member)
      have text : (l :: ls).flatMap (· ++ ['\n']) ++ rest =
          l ++ '\n' :: (ls.flatMap (· ++ ['\n']) ++ rest) := by simp
      rw [text]
      exact ⟨first.closed closed, (findFrom_line first.inline (first.closed closed)).trans found⟩

theorem closed_end (rest : List Char) : Closed ('\x7d' :: rest) := by
  have blank : skipBlank ('\x7d' :: rest) = '\x7d' :: rest := skipBlank_cons (by decide) rest
  have word : ('\x7d' :: rest).dropWhile isWord = '\x7d' :: rest :=
    List.dropWhile_cons_of_neg (by decide)
  have stays : ∀ n, past n ('\x7d' :: rest) = '\x7d' :: rest := by
    intro n
    induction n with
    | zero => exact blank
    | succ n ih => rw [past, blank, word, ih]
  intro n _
  rw [stays n]
  simp

theorem Heading.opens (h : Heading) (k : Keyword) : Opens k h.name.name (h.opening k) :=
  .mk k h.blank h.gap.nonempty (fun c member => (h.gap.inline c member).1) h.name.nonempty
    h.name.word fun c member => (h.space.inline c member).1

theorem findFrom_block {b : Block} (sound : ∀ l ∈ b.lines, Sound l) (rest : List Char) :
    findFrom header (some '\n') 0 (b.text ++ rest) =
      (b.keyword, b.heading.name.name, b.body ++ '\x7d' :: '\n' :: rest) ::
        findFrom header (some '\n') 0 rest := by
  have opens := b.heading.opens b.keyword
  let after := b.body ++ '\x7d' :: '\n' :: rest
  have text : b.text ++ rest = (b.heading.opening b.keyword ++ ['\x7b']) ++ after := by
    simp [Block.text, after]
  have read : header (some '\n') ((b.heading.opening b.keyword ++ ['\x7b']) ++ after) =
      some ((b.keyword, b.heading.name.name, after), after) := by
    rw [List.append_assoc]
    exact Block.header_of_opens opens rfl
  have passed : findFrom header (some '\x7b') 0 after = findFrom header (some '\n') 0 rest := by
    have body : after = b.heading.trail.chars ++ '\n' ::
        (b.lines.flatMap (· ++ ['\n']) ++ '\x7d' :: '\n' :: rest) := by
      simp [after, Block.body]
    have ended : findFrom header (some '\n') 0 ('\x7d' :: '\n' :: rest) = _ :=
      @findFrom_line ['\x7d'] rest (by decide) (closed_end _)
    rw [body, findFrom_inline (by decide) b.heading.trail.no_newline,
      (findFrom_lines sound (closed_end _)).2, ended]
  rw [text, findFrom_of_some read (by simp), List.getLast?_concat, passed]

/-- What holds of texts together when it holds of each holds of a body. -/
theorem Block.body_of_append {p : List Char → Prop} (b : Block) (empty : p [])
    (append : ∀ {cs ds}, p cs → p ds → p (cs ++ ds)) (safe : ∀ {cs}, Safe cs → p cs)
    (newline : p ['\n']) (sound : ∀ l ∈ b.lines, Sound l) : p b.body := by
  have lines : p (b.lines.flatMap (· ++ ['\n'])) :=
    flatMap_of_append empty append fun l member => append (safe (sound l member).toSafe) newline
  exact append (safe b.heading.trail.safe) (append newline lines)

theorem inert_body {b : Block} (sound : ∀ l ∈ b.lines, Sound l) : Inert b.body :=
  b.body_of_append inert_nil Inert.append Safe.inert (inert_of_free (by decide)) sound

theorem kept_text {b : Block} (sound : ∀ l ∈ b.lines, Sound l) : Kept b.text := by
  have opening : Kept (b.heading.opening b.keyword) := by
    apply kept_of_free
    intro member
    rcases (b.heading.opens b.keyword).blank_or_word '/' member with blank | word
    · cases blank
    · cases word
  have body := b.body_of_append kept_nil Kept.append Safe.kept (kept_of_free (by decide)) sound
  have start : Kept ['\x7b'] := kept_of_free (by decide)
  have ended : Kept ['\x7d', '\n'] := kept_of_free (by decide)
  exact opening.append (start.append (body.append ended))

/-- The declaration that is read from a block. -/
def Block.declaration (b : Block) : Block.Declaration :=
  ⟨b.keyword, b.heading.name.name, b.body⟩

theorem declarations_append {b : Block} (sound : ∀ l ∈ b.lines, Sound l) (rest : List Char) :
    declarations (b.text ++ rest) = b.declaration :: declarations rest := by
  have start : ∀ cs, findFrom header none 0 cs = findFrom header (some '\n') 0 cs := by
    intro cs
    cases cs <;> rfl
  have read : bodyFrom .plain (b.body ++ '\x7d' :: '\n' :: rest) = some b.body := by
    rw [inert_body sound, bodyFrom]
    simp
  rw [declarations, declarations, start, start, findFrom_block sound, List.filterMap_cons]
  simp only [read]
  rfl

theorem stripComments_blocks {bs : List Block} (sound : ∀ b ∈ bs, ∀ l ∈ b.lines, Sound l) :
    stripComments (bs.flatMap Block.text) = bs.flatMap Block.text := by
  have kept : Kept (bs.flatMap Block.text) :=
    flatMap_of_append kept_nil Kept.append fun b member => kept_text (sound b member)
  simpa [show stripComments [] = [] from rfl] using kept []

/-- The text of blocks declares these blocks, in order. -/
theorem declarations_blocks {bs : List Block} (sound : ∀ b ∈ bs, ∀ l ∈ b.lines, Sound l) :
    declarations (stripComments (bs.flatMap Block.text)) = bs.map Block.declaration := by
  rw [stripComments_blocks sound]
  induction bs with
  | nil => rfl
  | cons b bs ih =>
      rw [List.flatMap_cons, declarations_append (sound b List.mem_cons_self),
        ih fun c member => sound c (List.mem_cons_of_mem b member), List.map_cons]

end Blocks

end Survey.Schema.Written
