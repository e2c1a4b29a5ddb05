import Survey.Digest.Sha256

/-!
Message authentication by SHA-256 with a key.
-/
namespace Survey.Digest

/-- A key of one block; a longer one is digested first. -/
def blockKey (key : List UInt8) : List UInt8 :=
  let short := if key.length > 64 then sha256 key else key
  short ++ List.replicate (64 - short.length) 0

def hmac (key message : List UInt8) : List UInt8 :=
  let k := blockKey key
  sha256 (k.map (· ^^^ 0x5c) ++ sha256 (k.map (· ^^^ 0x36) ++ message))

end Survey.Digest
