import Survey.Text.Blank

/-!
Splitting, trimming and searching of texts, over lists of characters, with the versions on
strings that the rest of the library calls.
-/
namespace Survey.Text

def trim (cs : List Char) : List Char :=
  ((cs.dropWhile isBlank).reverse.dropWhile isBlank).reverse

/-- The pieces between the separators that satisfy `p`; a text without one is its only piece. -/
def pieces (p : Char → Bool) : List Char → List (List Char)
  | [] => [[]]
  | c :: cs =>
    if p c then [] :: pieces p cs
    else
      match pieces p cs with
      | [] => [[c]]
      | w :: ws => (c :: w) :: ws

theorem pieces_ne_nil (p : Char → Bool) (cs : List Char) : pieces p cs ≠ [] := by
  cases cs with
  | nil => simp [pieces]
  | cons c cs =>
    unfold pieces
    split
    · simp
    · split <;> simp

def words (cs : List Char) : List (List Char) :=
  (pieces isBlank cs).filter (· ≠ [])

def collapse (cs : List Char) : List Char :=
  [' '].intercalate (words cs)

/-- The lines of a text. A final line end does not start another line. -/
def lines (cs : List Char) : List (List Char) :=
  let ls := pieces (· = '\n') cs
  if ls.getLast? = some [] then ls.dropLast else ls

def occursIn (sub : List Char) : List Char → Bool
  | [] => sub.isEmpty
  | c :: cs => sub.isPrefixOf (c :: cs) || occursIn sub cs

/-- What follows the first occurrence of `sub`. -/
def after? (sub : List Char) : List Char → Option (List Char)
  | [] => if sub.isEmpty then some [] else none
  | c :: cs =>
    match sub.isPrefixOf? (c :: cs) with
    | some rest => some rest
    | none => after? sub cs

/-- What precedes the first occurrence of `sub`; all of a text without one. -/
def before (sub : List Char) : List Char → List Char
  | [] => []
  | c :: cs => if sub.isPrefixOf (c :: cs) then [] else c :: before sub cs

/-- The text before the first separator and, when there is one, the text after it. -/
def cut (p : Char → Bool) (cs : List Char) : List Char × Option (List Char) :=
  match cs.dropWhile (fun c => !p c) with
  | [] => (cs, none)
  | _ :: rest => (cs.takeWhile (fun c => !p c), some rest)

/-- The text before and after the last separator. -/
def cutLast? (p : Char → Bool) (cs : List Char) : Option (List Char × List Char) :=
  match cs.reverse.dropWhile (fun c => !p c) with
  | [] => none
  | _ :: before => some (before.reverse, (cs.reverse.takeWhile (fun c => !p c)).reverse)

def trimWhere (p : Char → Bool) (cs : List Char) : List Char :=
  ((cs.dropWhile p).reverse.dropWhile p).reverse

def join (sep : String) (parts : List String) : String :=
  sep.intercalate parts

def splitAt (c : Char) (s : String) : List String :=
  (pieces (· = c) s.toList).map String.ofList

def holds (s sub : String) : Bool :=
  occursIn sub.toList s.toList

def dropLeading? (lead s : String) : Option String :=
  (lead.toList.isPrefixOf? s.toList).map String.ofList

def leads (lead s : String) : Bool :=
  lead.toList.isPrefixOf s.toList

def endsIn (s tail : String) : Bool :=
  tail.toList.isSuffixOf s.toList

def stripEnds (marks : List Char) (s : String) : String :=
  String.ofList (trimWhere marks.contains s.toList)

def trimmed (s : String) : String :=
  String.ofList (trim s.toList)

def collapsed (s : String) : String :=
  String.ofList (collapse s.toList)

def lineCount (s : String) : Nat :=
  (lines s.toList).length

end Survey.Text
