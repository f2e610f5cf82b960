import HomelabBuilder.Foundation.Json
import HomelabBuilder.Net.Address

/-! # Port settings

`ports.go`: what the user has set for the ports of a router, firewall or
switch in `details.port_config`.
-/

namespace HomelabBuilder.Wiring

open Net

structure PortSettings where
  role : String := ""
  address : String := ""
  dhcp : Bool := false
  untaggedVLAN : Int := 0
  taggedVLANs : List Int := []
  comment : String := ""
  deriving DecidableEq

def edgeTypePower : String := "power"

/-- The uplink on top is the WAN, the numbered ports are LAN. -/
def defaultRole (handle : String) : String :=
  if handle = "target-0" then "wan" else "lan"

/-- A whole JSON number; strings and fractions are not integers. -/
def integer : Json → Option Int
  | .num value => if value.den = 1 ∧ value.num.natAbs ≤ 2 ^ 31 then some value.num else none
  | _ => none

def readPortSettings (entry : List (String × Json)) : PortSettings where
  role := ((entry.lookup "role").bind Json.asString).getD ""
  address := ((entry.lookup "address").bind Json.asString).getD ""
  dhcp := ((entry.lookup "dhcp").bind Json.asBool).getD false
  untaggedVLAN := ((entry.lookup "untagged_vlan").bind integer).getD 0
  taggedVLANs := (((entry.lookup "tagged_vlans").bind Json.asArray).getD []).filterMap integer
  comment := ((entry.lookup "comment").bind Json.asString).getD ""

/-- `ReadPortConfig`, skipping what cannot be read. -/
def readPortConfig (details : List (String × Json)) : List (String × PortSettings) :=
  (((details.lookup "port_config").bind Json.asObject).getD []).filterMap fun entry =>
    entry.2.asObject.map fun settings => (entry.1, readPortSettings settings)

/-- "a.b.c.d/p" with a prefix of 8 to 30, written without leading zeros. -/
def parseIPv4Prefix (text : String) : Option (Nat × Nat) := do
  let (address, bits) ← cut '/' text.toList
  let addr ← parseAddr address
  let ones ← decimal bits
  match addr with
  | .v4 value =>
      if ones < 8 ∨ 30 < ones ∨ (1 < bits.length ∧ bits.head? = some '0') then none
      else some (value, ones)
  | .v6 _ => none

/-- An interface address such as 192.168.10.1/24, neither the network nor the
broadcast address of its subnet. -/
def isIPv4CIDR (text : String) : Bool :=
  match parseIPv4Prefix text with
  | some (value, ones) =>
      let hostMask := 2 ^ (32 - ones) - 1
      let host := value % 2 ^ (32 - ones)
      host ≠ 0 && host ≠ hostMask
  | none => false

end HomelabBuilder.Wiring
