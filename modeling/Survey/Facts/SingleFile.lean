import Survey.Facts.Script

/-!
Single-file components: script blocks and a template in one file.
-/
namespace Survey.SingleFile

open Survey.Text
open Survey.Syntax (Dialect)

/-- A tag of the given name at the start of a text: its attributes and the text after it. -/
def openTag? (name : String) (cs : List Char) : Option (List Char × List Char) := do
  let cs ← lit ("<" ++ name) cs
  if cs.head?.any isWord then none
  else
    match cut (· = '>') cs with
    | (attributes, some rest) => some (attributes, rest)
    | (_, none) => none

/-- The text before the first closing mark, and the text after it. -/
def upTo? (mark : List Char) : List Char → Option (List Char × List Char)
  | [] => none
  | c :: cs =>
    match mark.isPrefixOf? (c :: cs) with
    | some rest => some ([], rest)
    | none => (upTo? mark cs).map fun (before, rest) => (c :: before, rest)

/-- The text before the last closing mark. -/
def upToLast? (mark : List Char) : List Char → Option (List Char)
  | [] => none
  | c :: cs =>
    match upToLast? mark cs with
    | some before => some (c :: before)
    | none => if mark.isPrefixOf (c :: cs) then some [] else none

/-- A script block with its attributes and its text. -/
def scriptBlock : Recogniser (List Char × List Char) := fun cs => do
  let (attributes, rest) ← openTag? "script" cs
  let (body, after) ← upTo? "</script>".toList rest
  some ((attributes, body), after)

def languageAttribute : Recogniser String := fun cs => do
  let cs ← lit "lang" cs
  let cs ← lit "=" (skipBlank cs)
  let cs ← one isQuote (skipBlank cs)
  let (language, cs) ← run1 isWord cs
  let cs ← one isQuote cs
  some (language, cs)

def dialectOf? (attributes : List Char) : Option Dialect :=
  match findWord? languageAttribute attributes with
  | some "ts" => some .plain
  | some "tsx" => some .markup
  | _ => none

/-- The script of a component: the texts of all blocks, and what their attributes say. -/
structure Section where
  text : String
  dialect : Dialect
  setup : Bool

/-- The script of a component. The last block that names a language decides the dialect. -/
def script (content : String) : Section :=
  let blocks := findAll scriptBlock content.toList
  { text := String.ofList (blocks.flatMap fun (_, body) => body ++ ['\n'])
    dialect := ((blocks.filterMap fun (attributes, _) => dialectOf? attributes).getLast?).getD .markup
    setup := blocks.any fun (attributes, _) => (words attributes).contains "setup".toList }

/-- The text of a template block, from its tag to the last closing tag. -/
def templateBlock : Recogniser (List Char) := fun cs => do
  let (_, rest) ← openTag? "template" cs
  let body ← upToLast? "</template>".toList rest
  some (body, [])

def template? (content : String) : Option (List Char) :=
  findFirst? templateBlock content.toList

def pascalTag : Recogniser (List Char)
  | '<' :: c :: cs =>
    if c.isUpper then some (c :: cs.takeWhile Char.isAlphanum, cs.dropWhile Char.isAlphanum) else none
  | _ => none

/-- Small letters and digits. -/
def isKebab (c : Char) : Bool :=
  c.isLower || c.isDigit

/-- The rest of a hyphenated name. A hyphen belongs to it when the name goes on behind. -/
def kebabRest : List Char → List Char
  | [] => []
  | c :: cs => if isKebab c || (c == '-' && cs.head?.any isKebab) then c :: kebabRest cs else []

def kebabTag : Recogniser (List Char)
  | '<' :: c :: cs =>
    let rest := kebabRest cs
    if c.isLower && rest.contains '-' then some (c :: rest, cs.drop rest.length) else none
  | _ => none

def capitalise : List Char → List Char
  | [] => []
  | c :: cs => c.toUpper :: cs

def kebabToPascal (name : List Char) : List Char :=
  (pieces (· = '-') name).flatMap capitalise

/-- The tags that a recogniser finds in a template, with their places. -/
def tags (p : Recogniser (List Char)) (template : List Char) : List (Nat × List Char) :=
  findAll (fun cs => (p cs).map fun (name, rest) => ((template.length - cs.length, name), rest))
    template

/-- The custom elements of a template in order, each once. Tags of both forms are found apart and put
in the order of their places. -/
def elements (content : String) : List String :=
  match template? content with
  | none => []
  | some template =>
    let hyphenated := (tags kebabTag template).map fun (place, name) => (place, kebabToPascal name)
    (((tags pascalTag template ++ hyphenated).mergeSort fun a b => a.1 ≤ b.1).map fun (_, name) =>
      String.ofList name).eraseDups

end Survey.SingleFile
