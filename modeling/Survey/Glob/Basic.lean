/-!
Patterns of paths. A star stands for any text, slashes included; two stars stand for whole
directories; a class stands for one byte; braces hold alternatives.
-/
namespace Survey

/-- A range of characters in a class, both ends included. -/
structure CharRange where
  first : Char
  last : Char
  deriving DecidableEq

inductive GlobPart where
  | literal (c : Char)
  /-- One byte. -/
  | any
  /-- Any bytes. -/
  | star
  /-- Directories in front. -/
  | leadingDirs
  /-- A directory and all below it. -/
  | trailingDirs
  /-- Directories between two slashes. -/
  | innerDirs
  | oneOf (negated : Bool) (ranges : List CharRange)
  | either (branches : List (List GlobPart))

inductive GlobFault where
  | unclosedClass
  | invalidRange (first last : Char)
  | unopenedGroup
  | unclosedGroup
  | danglingEscape
  deriving DecidableEq

def GlobFault.message : GlobFault → String
  | .unclosedClass => "unclosed character class; missing ']'"
  | .invalidRange first last =>
    "invalid range; '" ++ String.singleton first ++ "' > '" ++ String.singleton last ++ "'"
  | .unopenedGroup =>
    "unopened alternate group; missing '\x7b' (maybe escape '\x7d' with '[\x7d]'?)"
  | .unclosedGroup =>
    "unclosed alternate group; missing '\x7d' (maybe escape '\x7b' with '[\x7b]'?)"
  | .danglingEscape => "dangling '\\'"

structure Glob where
  parts : List GlobPart

end Survey
