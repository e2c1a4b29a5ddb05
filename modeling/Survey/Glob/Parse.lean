import Survey.Glob.Basic

/-!
Reading of patterns: first into marks, in which classes and escapes are resolved, then into parts.
The fault that stands first in the text is the one reported.
-/
namespace Survey.Glob

/-- A character of a pattern, a class, or the place of a fault. -/
inductive Mark where
  | char (c : Char) (isEscaped : Bool)
  | oneOf (negated : Bool) (ranges : List CharRange)
  | fault (f : GlobFault)

def Mark.raw : Mark → Char
  | .char c isEscaped => if isEscaped then '\\' else c
  | .oneOf .. => '['
  | .fault .danglingEscape => '\\'
  | .fault _ => '['

/-- A class under way. -/
structure OpenClass where
  negated : Bool := false
  /-- The ranges read, the last first. -/
  ranges : List CharRange := []
  /-- Whether nothing was read yet but the sign of negation. -/
  isFirst : Bool := true
  /-- Whether a hyphen waits for the end of its range. -/
  inRange : Bool := false

namespace OpenClass

/-- A single character, or the end of a range that waits for it. -/
def add (k : OpenClass) (c : Char) : Except GlobFault OpenClass :=
  let k := { k with isFirst := false }
  match k.inRange, k.ranges with
  | true, r :: rs =>
    if c < r.first then .error (.invalidRange r.first c)
    else .ok { k with ranges := { r with last := c } :: rs, inRange := false }
  | _, rs => .ok { k with ranges := ⟨c, c⟩ :: rs, inRange := false }

/-- A hyphen: a character of its own where it comes first, else the start or end of a range. -/
def hyphen (k : OpenClass) : Except GlobFault OpenClass :=
  if k.isFirst || k.inRange then k.add '-' else .ok { k with inRange := true }

/-- The class at its end; a hyphen that waits is a character of its own. -/
def close (k : OpenClass) : Mark :=
  .oneOf k.negated ((if k.inRange then ⟨'-', '-'⟩ :: k.ranges else k.ranges).reverse)

end OpenClass

def marks : Option OpenClass → List Char → List Mark
  | none, [] => []
  | some _, [] => [.fault .unclosedClass]
  | none, c :: cs =>
    match c, cs with
    | '\\', [] => [.fault .danglingEscape]
    | '\\', d :: ds => .char d true :: marks none ds
    | '[', '!' :: ds => marks (some { negated := true }) ds
    | '[', '^' :: ds => marks (some { negated := true }) ds
    | '[', ds => marks (some {}) ds
    | c, ds => .char c false :: marks none ds
  | some k, c :: cs =>
    if c = ']' && !k.isFirst then k.close :: marks none cs
    else
      match if c = '-' then k.hyphen else k.add c with
      | .ok k => marks (some k) cs
      | .error f => [.fault f]

/-- A group under way: its finished branches and the parts in front of it, the last first. -/
structure OpenGroup where
  branches : List (List GlobPart)
  outer : List GlobPart

/-- Whether two stars stand for directories where they are: after a slash, or at the start of a
branch that follows an escaped mark. -/
def startsDirs (prev : Option Char) (groups : List OpenGroup) : Bool :=
  prev = some '/' || (!groups.isEmpty && (prev = some ',' || prev = some '\x7b'))

/-- Directories in place of the slash before them. -/
def dirsAfter (part : GlobPart) : List GlobPart → List GlobPart
  | .leadingDirs :: before => .leadingDirs :: before
  | .trailingDirs :: before => .trailingDirs :: before
  | _ :: before => part :: before
  | [] => [part]

/-- The parts of marks, after the character `prev`, in some groups, behind parts read so far. -/
def assemble (prev : Option Char) (groups : List OpenGroup) (read : List GlobPart) :
    List Mark → Except GlobFault (List GlobPart)
  | [] => if groups.isEmpty then .ok read.reverse else .error .unclosedGroup
  | .fault f :: _ => .error f
  | .oneOf negated ranges :: rest => assemble (some ']') groups (.oneOf negated ranges :: read) rest
  | .char c true :: rest => assemble (some c) groups (.literal c :: read) rest
  | .char '?' false :: rest => assemble (some '?') groups (.any :: read) rest
  | .char '\x7b' false :: rest => assemble (some '\x7b') (⟨[], read⟩ :: groups) [] rest
  | .char '\x7d' false :: rest =>
    match groups with
    | [] => .error .unopenedGroup
    | g :: outer =>
      assemble (some '\x7d') outer (.either (g.branches ++ [read.reverse]) :: g.outer) rest
  | .char ',' false :: rest =>
    match groups with
    | [] => assemble (some ',') [] (.literal ',' :: read) rest
    | g :: outer =>
      assemble (some ',') ({ g with branches := g.branches ++ [read.reverse] } :: outer) [] rest
  | .char '*' false :: .char '*' false :: rest =>
    if read.isEmpty then
      match rest with
      | [] => assemble (some '*') groups [.leadingDirs] []
      | .char '/' false :: rest => assemble (some '/') groups [.leadingDirs] rest
      | rest => assemble (some '*') groups [.star, .star] rest
    else if startsDirs prev groups then
      match rest with
      | [] => assemble (some '*') groups (dirsAfter .trailingDirs read) []
      | .char '/' false :: rest => assemble (some '/') groups (dirsAfter .innerDirs read) rest
      | m :: rest =>
        if !groups.isEmpty && (m.raw = ',' || m.raw = '\x7d') then
          assemble (some '*') groups (dirsAfter .trailingDirs read) (m :: rest)
        else assemble (some '*') groups (.star :: .star :: read) (m :: rest)
    else assemble (some '*') groups (.star :: .star :: read) rest
  | .char '*' false :: rest => assemble (some '*') groups (.star :: read) rest
  | .char c false :: rest => assemble (some c) groups (.literal c :: read) rest

def parse (text : String) : Except GlobFault Glob :=
  (assemble none [] [] (marks none text.toList)).map Glob.mk

end Survey.Glob
