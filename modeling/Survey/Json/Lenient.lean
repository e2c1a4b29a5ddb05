import Survey.Text.Blank

/-!
JSON text as people write it in project files: with comments, and with commas after last items. Both
are taken out before the text is read.
-/
namespace Survey.Json.Lenient

/-- What the characters being read belong to. -/
inductive Place where
  | plain
  | string
  /-- The character after a backslash in a string. -/
  | escaped
  | lineComment
  /-- A comment between marks; the flag says that a star came last. -/
  | blockComment (star : Bool)
  deriving DecidableEq

/-- Take comments out of a text. A comment to the end of the line leaves the line end. -/
def stripFrom : Place → List Char → List Char
  | _, [] => []
  | .plain, '/' :: '/' :: cs => stripFrom .lineComment cs
  | .plain, '/' :: '*' :: cs => stripFrom (.blockComment false) cs
  | .plain, c :: cs => c :: stripFrom (if c = '"' then .string else .plain) cs
  | .string, c :: cs =>
    c :: stripFrom (if c = '\\' then .escaped else if c = '"' then .plain else .string) cs
  | .escaped, c :: cs => c :: stripFrom .string cs
  | .lineComment, c :: cs =>
    if c = '\n' then '\n' :: stripFrom .plain cs else stripFrom .lineComment cs
  | .blockComment star, c :: cs =>
    if star && c = '/' then stripFrom .plain cs else stripFrom (.blockComment (c = '*')) cs

def stripComments (cs : List Char) : List Char :=
  stripFrom .plain cs

def closesNext (cs : List Char) : Bool :=
  match cs.dropWhile Text.isBlank with
  | c :: _ => c == '\x7d' || c == ']'
  | [] => false

/-- Take out every comma that a closing bracket follows. -/
def dropLastCommas : List Char → List Char
  | [] => []
  | c :: cs => if c = ',' ∧ closesNext cs then dropLastCommas cs else c :: dropLastCommas cs

end Survey.Json.Lenient
