import Survey.Text.Basic

/-!
Naming conventions of hooks, components and request handlers.
-/
namespace Survey.Naming

def startsCapital (s : String) : Bool :=
  s.toList.head?.any Char.isUpper

/-- The word `use`, alone or before a capital letter. -/
def isHook (name : String) : Bool :=
  match Text.dropLeading? "use" name with
  | some rest => rest == "" || startsCapital rest
  | none => false

/-- A capital letter first and a small letter somewhere. -/
def isPascal (name : String) : Bool :=
  startsCapital name && name.toList.any Char.isLower

def httpMethods : List String :=
  ["GET", "POST", "PUT", "PATCH", "DELETE", "HEAD", "OPTIONS"]

end Survey.Naming
