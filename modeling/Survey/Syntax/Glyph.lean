import Survey.Text.Utf8

/-!
The units that source text is made of: characters, and bytes that belong to no character. A byte of
the second sort may stand inside strings and comments, and leaves what holds it without text.
-/
namespace Survey.Syntax

open Survey.Text

/-- A character of the source, or a byte that belongs to none. -/
inductive Glyph where
  | char (c : Char)
  | stray (byte : UInt8)
  deriving DecidableEq

namespace Glyph

def is (p : Char → Bool) : Glyph → Bool
  | .char c => p c
  | .stray _ => false

def char? : Glyph → Option Char
  | .char c => some c
  | .stray _ => none

def ofText (s : String) : List Glyph :=
  s.toList.map .char

def ofBytes (bytes : List UInt8) : List Glyph :=
  (Utf8.chunks bytes).flatMap fun chunk =>
    match chunk with
    | .char c => [.char c]
    | .illFormed bs => bs.map .stray

/-- The text of glyphs, when all of them are characters. -/
def text? (gs : List Glyph) : Option String :=
  (gs.mapM char?).map String.ofList

/-- The text of glyphs; empty where a byte belongs to no character. -/
def text (gs : List Glyph) : String :=
  (text? gs).getD ""

/-- What follows a leading text. -/
def after? : List Char → List Glyph → Option (List Glyph)
  | [], gs => some gs
  | c :: cs, .char d :: gs => if c = d then after? cs gs else none
  | _ :: _, _ => none

/-- The number of leading glyphs that satisfy `p`. -/
def run (p : Glyph → Bool) (gs : List Glyph) : Nat :=
  (gs.takeWhile p).length

end Glyph

end Survey.Syntax
