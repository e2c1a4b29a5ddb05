/-!
UTF-8: bytes to characters, where the bytes may not be well formed. A text is cut into chunks,
each one character or the longest start of an ill-formed sequence.
-/
namespace Survey.Text.Utf8

/-- One character, or bytes that are part of none. -/
inductive Chunk where
  | char (c : Char)
  | illFormed (bytes : List UInt8)

/-- The number of bytes that follow a first byte and the bounds on the second byte. -/
def lead? (b : UInt8) : Option (Nat × UInt8 × UInt8) :=
  if 0xC2 ≤ b && b ≤ 0xDF then some (1, 0x80, 0xBF)
  else if b == 0xE0 then some (2, 0xA0, 0xBF)
  else if b == 0xED then some (2, 0x80, 0x9F)
  else if 0xE1 ≤ b && b ≤ 0xEF then some (2, 0x80, 0xBF)
  else if b == 0xF0 then some (3, 0x90, 0xBF)
  else if 0xF1 ≤ b && b ≤ 0xF3 then some (3, 0x80, 0xBF)
  else if b == 0xF4 then some (3, 0x80, 0x8F)
  else none

def continues (b : UInt8) : Bool :=
  0x80 ≤ b && b ≤ 0xBF

/-- The payload of a continuing byte put behind the bits read so far. -/
def extend (bits : Nat) (b : UInt8) : Nat :=
  bits * 64 + b.toNat % 64

/-- Cut bytes into characters and ill-formed parts. -/
def chunks : List UInt8 → List Chunk
  | [] => []
  | b :: rest =>
    if b < 0x80 then .char (Char.ofNat b.toNat) :: chunks rest
    else
      match lead? b with
      | none => .illFormed [b] :: chunks rest
      | some (n, low, high) =>
        match rest with
        | [] => [.illFormed [b]]
        | b₁ :: rest₁ =>
          if b₁ < low || high < b₁ then .illFormed [b] :: chunks (b₁ :: rest₁)
          else if n == 1 then
            .char (Char.ofNat (extend (b.toNat % 32) b₁)) :: chunks rest₁
          else
            match rest₁ with
            | [] => [.illFormed [b, b₁]]
            | b₂ :: rest₂ =>
              if !continues b₂ then .illFormed [b, b₁] :: chunks (b₂ :: rest₂)
              else if n == 2 then
                .char (Char.ofNat (extend (extend (b.toNat % 16) b₁) b₂)) :: chunks rest₂
              else
                match rest₂ with
                | [] => [.illFormed [b, b₁, b₂]]
                | b₃ :: rest₃ =>
                  if !continues b₃ then .illFormed [b, b₁, b₂] :: chunks (b₃ :: rest₃)
                  else
                    .char (Char.ofNat (extend (extend (extend (b.toNat % 8) b₁) b₂) b₃))
                      :: chunks rest₃

def Chunk.char? : Chunk → Option Char
  | .char c => some c
  | .illFormed _ => none

def decode? (bytes : List UInt8) : Option String :=
  ((chunks bytes).mapM Chunk.char?).map String.ofList

/-- The text of any bytes, with the replacement character for each ill-formed part. -/
def decodeLossy (bytes : List UInt8) : String :=
  String.ofList ((chunks bytes).map fun chunk => chunk.char?.getD (Char.ofNat 0xFFFD))

def encode (s : String) : List UInt8 :=
  s.toUTF8.data.toList

end Survey.Text.Utf8
