/-
# Configurations for coin applications

A coin is described by its ticker and decimals, for coins on a chain by the chain id, and where
fees are paid in another asset by that asset. Absent parts leave no trace: what follows is
recognised by whether any bytes are left. Hence a fees asset needs a chain id before it, and the
reading takes the whole byte string.
-/

import Countersign.Wire.Codec
import Countersign.Wire.Field

namespace Countersign

/-- The asset in which network fees are paid. -/
structure FeesAsset where
  /-- The ticker of the asset. -/
  ticker : String
  /-- Its decimals, where they are given. -/
  decimals : Option UInt8
  deriving DecidableEq, Repr

/-- What a coin application needs to know about a coin. -/
structure CoinConfig where
  /-- The ticker of the coin. -/
  ticker : String
  /-- How many decimals amounts have. -/
  decimals : UInt8
  /-- The chain, for coins on chains that have an id. -/
  chainId : Option UInt64
  /-- The asset in which fees are paid. -/
  fees : Option FeesAsset
  deriving DecidableEq, Repr

namespace CoinConfig

/-- The size of a configuration. Fees without a chain id have no form. -/
def encodedLength (config : CoinConfig) : Except WireError Nat := do
  let ticker ← prefixedLength (Bytes.ofText config.ticker)
  match config.chainId, config.fees with
  | none, none => .ok (ticker + 1)
  | none, some _ => .error .invalidEncoding
  | some _, none => .ok (ticker + 1 + 8)
  | some _, some fees =>
    let feesTicker ← prefixedLength (Bytes.ofText fees.ticker)
    .ok (ticker + 1 + 8 + feesTicker + fees.decimals.toList.length)

/-- Writes the chain id, if there is one. -/
def putChainId : Option UInt64 → Buffer → Except WireError Buffer
  | none, buffer => .ok buffer
  | some chainId, buffer => buffer.put (BigEndian.fixed 8 chainId.toNat)

/-- Writes the fees asset, if there is one. -/
def putFees : Option FeesAsset → Buffer → Except WireError Buffer
  | none, buffer => .ok buffer
  | some fees, buffer => do
    let buffer ← buffer.putPrefixed (Bytes.ofText fees.ticker)
    buffer.put fees.decimals.toList

instance : Encode CoinConfig where
  encodedLength := encodedLength
  write config buffer := do
    let size ← config.encodedLength
    if buffer.room.length < size then .error .invalidLength
    else
      let buffer ← buffer.putPrefixed (Bytes.ofText config.ticker)
      let buffer ← buffer.put [config.decimals]
      let buffer ← putChainId config.chainId buffer
      putFees config.fees buffer

/-- Reads a chain id, if any bytes are left. -/
def readChainId (bytes : Bytes) : Except WireError (Option UInt64 × Bytes) :=
  if bytes.isEmpty then .ok (none, [])
  else do
    let (digits, rest) ← Field.run 8 bytes
    .ok (some (UInt64.ofNat (BigEndian.value digits)), rest)

/-- Reads a fees asset, if any bytes are left. One byte after its ticker is its decimals. -/
def readFees (bytes : Bytes) : Except WireError (Option FeesAsset × Bytes) :=
  if bytes.isEmpty then .ok (none, [])
  else do
    let (ticker, rest) ← Field.prefixedText bytes
    .ok (some ⟨ticker, rest.head?⟩, rest.tail)

/-- The configuration that takes up a whole byte string. -/
def read (bytes : Bytes) : Except WireError (CoinConfig × Bytes) := do
  let (ticker, rest) ← Field.prefixedText bytes
  let (decimals, rest) ← Field.byte rest
  let (chainId, rest) ← readChainId rest
  let (fees, rest) ← readFees rest
  if rest.isEmpty then .ok (⟨ticker, decimals, chainId, fees⟩, [])
  else .error .invalidEncoding

instance : Decode CoinConfig where
  read := read

/-- A coin without fees asset, on a chain or not. -/
def plain (ticker : String) (decimals : UInt8) (chainId : Option UInt64) : CoinConfig :=
  ⟨ticker, decimals, chainId, none⟩

/-- The configuration in a byte string. -/
def parse (bytes : Bytes) : Except WireError CoinConfig :=
  (read bytes).map (·.1)

end CoinConfig

end Countersign
