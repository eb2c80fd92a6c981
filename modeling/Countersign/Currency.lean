/-
# Currency configurations

A currency configuration names the main ticker of a currency, the coin application that handles
it, and the configuration which that application understands. It is three elements behind
one-byte lengths; a strict reading allows nothing after them.
-/

import Countersign.Wire.Codec
import Countersign.Wire.Field

namespace Countersign

/-- What the device needs to know about a currency. -/
structure CurrencyConfig where
  /-- The main ticker. -/
  ticker : String
  /-- The name of the coin application. -/
  application : String
  /-- The configuration for the coin application, which may be empty. -/
  subConfig : Bytes
  deriving DecidableEq, Repr

namespace CurrencyConfig

instance : Encode CurrencyConfig where
  encodedLength config := do
    let ticker ← prefixedLength (Bytes.ofText config.ticker)
    let application ← prefixedLength (Bytes.ofText config.application)
    let subConfig ← prefixedLength config.subConfig
    .ok (ticker + application + subConfig)
  write config buffer := do
    let buffer ← buffer.putPrefixed (Bytes.ofText config.ticker)
    let buffer ← buffer.putPrefixed (Bytes.ofText config.application)
    buffer.putPrefixed config.subConfig

/-- The configuration at the front of a byte string, and the bytes after it. -/
def read (bytes : Bytes) : Except WireError (CurrencyConfig × Bytes) := do
  let (ticker, rest) ← Field.prefixedText bytes
  let (application, rest) ← Field.prefixedText rest
  let (subConfig, rest) ← Field.prefixed rest
  .ok (⟨ticker, application, subConfig⟩, rest)

instance : Decode CurrencyConfig where
  read := read

/-- The configuration that takes up a whole byte string. -/
def parse (bytes : Bytes) : Except WireError CurrencyConfig := do
  let (config, rest) ← read bytes
  if rest.isEmpty then .ok config else .error .invalidEncoding

end CurrencyConfig

end Countersign
