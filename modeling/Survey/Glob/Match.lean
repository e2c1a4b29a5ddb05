import Survey.Glob.Basic
import Survey.Text.Utf8

/-!
Matching of paths, on bytes. Each part leads from a rest of the path to the rests that can follow
it; a pattern matches when the empty rest can be reached.
-/
namespace Survey.GlobPart

open String (utf8EncodeChar)

/-- All rests of a list, itself first. -/
def tails : List UInt8 → List (List UInt8)
  | [] => [[]]
  | b :: bs => (b :: bs) :: tails bs

/-- The rests behind a slash. -/
def behindSlash (rest : List UInt8) : List (List UInt8) :=
  (tails rest).filterMap fun
    | b :: bs => if b = 0x2F then some bs else none
    | [] => none

/-- The bytes that a range allows: those of its ends, and from the last byte of the first end to the
first byte of the last. -/
def allows (b : UInt8) (r : CharRange) : Bool :=
  let first := utf8EncodeChar r.first
  let last := utf8EncodeChar r.last
  if r.first = r.last then first.contains b
  else
    first.contains b || last.contains b ||
      (first.getLast?.any (· ≤ b) && last.head?.any (b ≤ ·))

def accepts (negated : Bool) (ranges : List CharRange) (b : UInt8) : Bool :=
  ranges.any (allows b) != negated

mutual
/-- Whether a part stands for nothing at all. -/
def isVoid : GlobPart → Bool
  | .either branches => allVoid branches
  | _ => false

def isVoidBranch : List GlobPart → Bool
  | [] => true
  | p :: ps => isVoid p && isVoidBranch ps

def allVoid : List (List GlobPart) → Bool
  | [] => true
  | ps :: rest => isVoidBranch ps && allVoid rest
end

/-- Rests of one path, each once. -/
def once (rests : List (List UInt8)) : List (List UInt8) :=
  rests.eraseDupsBy fun a b => a.length == b.length

mutual
/-- The rests that a part leaves. Branches that stand for nothing are left out. -/
def ends (rest : List UInt8) : GlobPart → List (List UInt8)
  | .literal c =>
    match (utf8EncodeChar c).isPrefixOf? rest with
    | some r => [r]
    | none => []
  | .any =>
    match rest with
    | _ :: r => [r]
    | [] => []
  | .star => tails rest
  | .leadingDirs => rest :: behindSlash rest
  | .trailingDirs =>
    match rest with
    | b :: r => if b = 0x2F then tails r else []
    | [] => []
  | .innerDirs =>
    match rest with
    | b :: r => if b = 0x2F then r :: behindSlash r else []
    | [] => []
  | .oneOf negated ranges =>
    match rest with
    | b :: r => if accepts negated ranges b then [r] else []
    | [] => []
  | .either branches => if allVoid branches then [rest] else endsAny rest branches

/-- The rests that parts in sequence leave. -/
def endsAll (rests : List (List UInt8)) : List GlobPart → List (List UInt8)
  | [] => rests
  | p :: ps => endsAll (once (rests.flatMap fun r => ends r p)) ps

/-- The rests that one of some branches leaves. -/
def endsAny (rest : List UInt8) : List (List GlobPart) → List (List UInt8)
  | [] => []
  | ps :: branches =>
    (if isVoidBranch ps then [] else endsAll [rest] ps) ++ endsAny rest branches
end

end Survey.GlobPart

namespace Survey.Glob

/-- Whether a pattern matches a path. Two stars alone match every path. -/
def isMatch (g : Glob) (path : String) : Bool :=
  match g.parts with
  | [.leadingDirs] => true
  | parts => (GlobPart.endsAll [Text.Utf8.encode path] parts).contains []

end Survey.Glob
