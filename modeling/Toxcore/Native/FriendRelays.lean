import Toxcore.Native.NodeFormat

/-!
# The relays of a friend

The ring of TCP relays of a friend connection in `friend_connection.c`.
-/

namespace Toxcore

def friendMaxStoredTcpRelays : Nat := 24

/-- The fields of `Friend_Conn` that the relays use. -/
structure FriendRelays where
  dhtTempPk : PublicKey
  dhtIpPort : IPPort
  tcpRelays : Vector NodeFormat friendMaxStoredTcpRelays
  tcpRelayCounter : UInt16
  hostingTcpRelay : Bool

namespace FriendRelays

variable (con : FriendRelays)

/-- The relay as `friend_add_tcp_relay` stores it: a local address with the temporary key is the friend. -/
def relay (ipPort : IPPort) (publicKey : PublicKey) : NodeFormat :=
  if ipIsLocal ipPort ∧ con.dhtTempPk = publicKey ∧ ¬con.dhtIpPort.isUnspec then
    { publicKey, ipPort := { ipPort with family := con.dhtIpPort.family, ip := con.dhtIpPort.ip } }
  else { publicKey, ipPort }

/-- The entries without those of a key. -/
def withoutKey (tcpRelays : Vector NodeFormat friendMaxStoredTcpRelays) (publicKey : PublicKey) :
    Vector NodeFormat friendMaxStoredTcpRelays :=
  tcpRelays.map fun entry =>
    if ¬entry.ipPort.isUnspec ∧ entry.publicKey = publicKey then emptyNodeFormat else entry

def friendAddTcpRelay (udpOnly : Bool) (addTcpRelayPeer : NodeFormat → Int) (ipPort : IPPort) (publicKey : PublicKey) :
    Int × FriendRelays :=
  if udpOnly then (-1, con)
  else
    let hosts := ipIsLocal ipPort ∧ con.dhtTempPk = publicKey ∧ con.dhtIpPort.isUnspec
    let index := con.tcpRelayCounter.toNat % friendMaxStoredTcpRelays
    (addTcpRelayPeer (con.relay ipPort publicKey),
      { con with
        hostingTcpRelay := if hosts then false else con.hostingTcpRelay
        tcpRelays := (withoutKey con.tcpRelays publicKey).set index (con.relay ipPort publicKey)
          (Nat.mod_lt _ (by decide))
        tcpRelayCounter := con.tcpRelayCounter + 1 })

/-- The entry that round `i` of `connect_to_saved_tcp_relays` looks at; the subtraction has 32 bits. -/
def savedRelay (i : Nat) : NodeFormat :=
  let index := (con.tcpRelayCounter.toUInt32 - (UInt32.ofNat i + 1)).toNat % friendMaxStoredTcpRelays
  have hindex : index < friendMaxStoredTcpRelays := Nat.mod_lt _ (by decide)
  con.tcpRelays[index]

/-- The relays that `connect_to_saved_tcp_relays` offers; that of round `i` is accepted if `accepts i`. -/
def connectRounds (accepts : Nat → Bool) : List Nat → (number : Nat) → List NodeFormat
  | [], _ => []
  | i :: rounds, number =>
    if number = 0 then []
    else
      let entry := con.savedRelay i
      if entry.ipPort.isUnspec then connectRounds accepts rounds number
      else entry :: connectRounds accepts rounds (if accepts i then number - 1 else number)

def connectToSavedTcpRelays (accepts : Nat → Bool) (number : Nat) : List NodeFormat :=
  con.connectRounds accepts (List.range friendMaxStoredTcpRelays) number

end FriendRelays

end Toxcore
