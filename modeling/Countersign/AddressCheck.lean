/-
# Address checks

To have an address checked, the client sends a currency configuration, the signature of the root
over it, and the derivation path of the address. The signature has no length of its own in front:
it is a DER sequence in short form, and its second byte says how far it goes.
-/

import Countersign.Wire.Codec
import Countersign.Wire.Field

namespace Countersign

/-- What is sent to have an address checked. -/
structure AddressCheck where
  /-- The encoded currency configuration. -/
  config : Bytes
  /-- The signature over the configuration. -/
  signature : Bytes
  /-- The derivation path of the address. -/
  path : Bytes
  deriving DecidableEq, Repr

namespace AddressCheck

instance : Encode AddressCheck where
  encodedLength check := do
    let config ← prefixedLength check.config
    let path ← prefixedLength check.path
    .ok (config + check.signature.length + path)
  write check buffer := do
    let buffer ← buffer.putPrefixed check.config
    let buffer ← buffer.put check.signature
    buffer.putPrefixed check.path

/-- The DER sequence in short form at the front of a byte string, and the bytes after it. -/
def readSequence : Bytes → Except WireError (Bytes × Bytes)
  | tag :: length :: rest =>
    if tag ≠ 0x30 then .error .invalidEncoding
    else Field.run (length.toNat + 2) (tag :: length :: rest)
  | _ => .error .invalidEncoding

/-- The check at the front of a byte string, and the bytes after it. -/
def read (bytes : Bytes) : Except WireError (AddressCheck × Bytes) := do
  let (config, rest) ← Field.prefixed bytes
  let (signature, rest) ← readSequence rest
  let (path, rest) ← Field.prefixed rest
  .ok (⟨config, signature, path⟩, rest)

instance : Decode AddressCheck where
  read := read

end AddressCheck

end Countersign
