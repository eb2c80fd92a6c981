/-
# Exchange flows and rates

A transaction runs in one of six flows and at a fixed or floating rate. The flow decides which
form of partner credential the device expects and on which curve the partner key must lie.
-/

import Countersign.Curve

namespace Countersign

/-- How the exchange rate is agreed. -/
inductive Rate where
  | fixed
  | floating
  deriving DecidableEq, Repr

namespace Rate

/-- Every rate, in order. -/
def all : List Rate := [fixed, floating]

/-- The code of a rate. -/
def code : Rate → UInt8
  | fixed => 0x00
  | floating => 0x01

/-- The name under which a rate is given and shown. -/
def name : Rate → String
  | fixed => "fixed"
  | floating => "floating"

/-- The name of a rate as a value. -/
def label : Rate → String
  | fixed => "Fixed"
  | floating => "Floating"

/-- The rate with this code; a code without a rate means the fixed rate. -/
def ofCode (code : UInt8) : Rate :=
  (all.find? (·.code == code)).getD fixed

/-- The rate with this name, spelled exactly. -/
def ofName? (text : String) : Option Rate :=
  all.find? (·.name == text)

end Rate

/-- What kind of exchange a transaction is. The later generation of each kind carries the curve
of the partner key in the credential. -/
inductive Flow where
  | swap
  | sell
  | fund
  | swapNg
  | sellNg
  | fundNg
  deriving DecidableEq, Repr

namespace Flow

/-- Every flow, in order. -/
def all : List Flow := [swap, sell, fund, swapNg, sellNg, fundNg]

/-- The code of a flow. -/
def code : Flow → UInt8
  | swap => 0x00
  | sell => 0x01
  | fund => 0x02
  | swapNg => 0x03
  | sellNg => 0x04
  | fundNg => 0x05

/-- The name under which a flow is given and shown. -/
def name : Flow → String
  | swap => "swap"
  | sell => "sell"
  | fund => "fund"
  | swapNg => "swap_ng"
  | sellNg => "sell_ng"
  | fundNg => "fund_ng"

/-- The name of a flow as a value. -/
def label : Flow → String
  | swap => "Swap"
  | sell => "Sell"
  | fund => "Fund"
  | swapNg => "SwapNg"
  | sellNg => "SellNg"
  | fundNg => "FundNg"

/-- The flow with this code; a code without a flow means a swap. -/
def ofCode (code : UInt8) : Flow :=
  (all.find? (·.code == code)).getD swap

/-- The flow with this name, spelled exactly. -/
def ofName? (text : String) : Option Flow :=
  all.find? (·.name == text)

/-- Whether partner credentials name their curve in this flow. -/
def isNg : Flow → Bool
  | swapNg | sellNg | fundNg => true
  | _ => false

/-- The curve on which the device expects partner keys in this flow. -/
def partnerCurve : Flow → Curve
  | swap => .secp256k1
  | _ => .secp256r1

end Flow

end Countersign
