import SearchDomain.Digest.Sha256
/-!
# Hmac — keyed digests
-/
namespace SearchDomain.Digest

open Text.Utf8 (Bytes)

/-- A key as one whole block: a long key is digested, a short one filled up with zeros. -/
def hmacKey (key : Bytes) : Bytes :=
  let key := if 64 < key.length then sha256 key else key
  key ++ List.replicate (64 - key.length) 0

def hmac (key message : Bytes) : Bytes :=
  let block := hmacKey key
  sha256 (block.map (· ^^^ 0x5c) ++ sha256 (block.map (· ^^^ 0x36) ++ message))

end SearchDomain.Digest
