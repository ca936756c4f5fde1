import Toxcore.Native.OnionClient

/-!
# What is read of an announce response

The two handlers of `onion_client.c` with every part of `plain` that they read or pass on.  The array
`plain` of `handle_announce_response` is longer than what is decrypted into it.
-/

namespace Toxcore

structure PlainPart where
  offset : Nat
  length : Nat
deriving DecidableEq

/-- What a handler of a response has done. -/
structure PlainUse where
  reads : List PlainPart
  /-- The parts that are passed on as all that remains. -/
  rests : List PlainPart
  handled : Bool
  client : OnionClient

namespace OnionClient

variable (client : OnionClient) (box : CryptoBox) (cipher : ByteCipher OnionNonce) (env : OnionClientEnv)

/-- The two handlers up to the decryption. -/
def decryptAnnounceResponse (packet : Bytes) : Option (Sendback × Bytes) × OnionClient :=
  if packet.length < onionAnnounceResponseMinSize ∨ packet.length > onionAnnounceResponseMaxSize then
    (none, client)
  else
    match client.checkSendback env.now (packet.drop 1) with
    | (none, client) => (none, client)
    | (some sendback, client) =>
      if sendback.num.toNat > client.friendsList.length then (none, client)
      else
        match client.secretKeyOf sendback.num.toNat with
        | none => (none, client)
        | some secretKey =>
          match cipher.decryptDataSymmetric
              (box.encryptPrecompute sendback.publicKey secretKey box.uninitialized)
              (bytesToVector _ (packet.drop (1 + onionAnnounceSendbackDataLength)))
              (packet.drop (1 + onionAnnounceSendbackDataLength + cryptoNonceSize)) with
          | none => (none, client)
          | some plain =>
            if plain.length ≠ 1 + onionPingIdSize + packet.length - onionAnnounceResponseMinSize then
              (none, client)
            else (some (sendback, plain), client)

/-- `handle_announce_response` behind the nodes. -/
def readExtra (num : Nat) (plain : Bytes) (rests : List PlainPart) (lenNodes : UInt16) : PlainUse :=
  let count : PlainPart := ⟨1 + onionPingIdSize, 1⟩
  if lenNodes.toNat + 1 < plain.length - (1 + onionPingIdSize) then
    let offset := 2 + onionPingIdSize + lenNodes.toNat
    if plain.length < offset then ⟨[count], rests, false, client⟩
    else
      let rests := rests ++ [⟨offset, plain.length - offset⟩]
      match client.gcHandleAnnounceResponseCallback num (plain.drop offset) with
      | (false, client) => ⟨[count], rests, false, client⟩
      | (true, client) => ⟨[count], rests, true, { client with lastPacketRecv := env.now }⟩
  else ⟨[count], rests, true, { client with lastPacketRecv := env.now }⟩

/-- `handle_announce_response` behind `client_add_to_list`; `stack` follows the decrypted bytes. -/
def readAnnounceResponse (stack : Bytes) (source : IPPort) (num : Nat) (plain : Bytes) : PlainUse :=
  let array := plain ++ stack
  let count : PlainPart := ⟨1 + onionPingIdSize, 1⟩
  let nodesCount := array.getD (1 + onionPingIdSize) 0
  if nodesCount > 0 then
    if nodesCount.toNat > maxSentNodes then ⟨[count], [], false, client⟩
    else
      let size := UInt16.ofNat ((plain.length - 2 - onionPingIdSize : Int) % 65536).toNat
      let rests : List PlainPart := [⟨2 + onionPingIdSize, size.toNat⟩]
      match unpackNodes nodesCount.toUInt16 (array.drop (2 + onionPingIdSize)) size false with
      | none => ⟨[count], rests, false, client⟩
      | some (nodes, lenNodes) =>
        match client.clientPingNodes env.now num nodes source with
        | (false, client) => ⟨[count], rests, false, client⟩
        | (true, client) => client.readExtra env num plain rests lenNodes
  else client.readExtra env num plain [] 0

/-- `handle_announce_response_old` behind `client_add_to_list`. -/
def readAnnounceResponseOld (source : IPPort) (num : Nat) (plain : Bytes) : PlainUse :=
  let lenNodes := UInt16.ofNat (plain.length - (1 + onionPingIdSize))
  if lenNodes ≠ 0 then
    let rests : List PlainPart := [⟨1 + onionPingIdSize, lenNodes.toNat⟩]
    match unpackNodes (UInt16.ofNat maxSentNodes) (plain.drop (1 + onionPingIdSize)) lenNodes false with
    | none => ⟨[], rests, false, client⟩
    | some (nodes, _) =>
      if nodes.length = 0 then ⟨[], rests, false, client⟩
      else
        match client.clientPingNodes env.now num nodes source with
        | (false, client) => ⟨[], rests, false, client⟩
        | (true, client) => ⟨[], rests, true, { client with lastPacketRecv := env.now }⟩
  else ⟨[], [], true, { client with lastPacketRecv := env.now }⟩

/-- A handler, the old one or the other. -/
def useAnnounceResponse (old : Bool) (stack : Bytes) (source : IPPort) (packet : Bytes) : PlainUse :=
  match client.decryptAnnounceResponse box cipher env packet with
  | (none, client) => ⟨[], [], false, client⟩
  | (some (sendback, plain), client) =>
    let num := sendback.num.toNat
    let answer : List PlainPart := [⟨0, 1⟩, ⟨1, onionPingIdSize⟩]
    match client.clientAddToList env num sendback.publicKey sendback.ipPort
        (plain.getD 0 0) ((plain.drop 1).take onionPingIdSize) with
    | (false, client) => ⟨answer, [], false, client⟩
    | (true, client) =>
      let use := if old then client.readAnnounceResponseOld env source num plain
        else client.readAnnounceResponse env stack source num plain
      { use with reads := answer ++ use.reads }

end OnionClient

end Toxcore
