import Toxcore.Native.NgcSync
import Toxcore.Native.GetNodes

/-!
# The peers of a group

How peers come and go in `group_chats.c`: `peer_add`, the exchange of peer information that
confirms a peer, `peer_delete`, and the broadcasts by which a moderator changes a role.  Peers of
a group that timed out, saved peers and callbacks are not modelled.
-/

namespace Toxcore

def gsBusy : UInt8 := 2

def gpPeerInfoRequest : UInt8 := 0xf4

def gpPeerInfoResponse : UInt8 := 0xf5

def packedGcPeerSize : Nat := 2 + maxGcNickSize + 1

def jenkinsOneAtATimeHash (key : Bytes) : UInt32 :=
  let hash := key.foldl (fun (hash : UInt32) b =>
    let hash := hash + b.toUInt32
    let hash := hash + (hash <<< 10)
    hash ^^^ (hash >>> 6)) 0
  let hash := hash + (hash <<< 3)
  let hash := hash ^^^ (hash >>> 11)
  hash + (hash <<< 15)

def gcGetPkJenkinsHash (publicKey : PublicKey) : UInt32 := jenkinsOneAtATimeHash publicKey.toList

def packGcPeer (peer : GCPeer) : Bytes :=
  netPackU16 peer.nickLength ++ peer.nick.toList ++ [peer.status]

def unpackGcPeer (data : Bytes) : Option GCPeer :=
  if packedGcPeerSize > data.length then none
  else
    some { zeroGCPeer with
      nickLength := min (UInt16.ofNat maxGcNickSize) (netUnpackU16 data)
      nick := bytesToVector _ (data.drop 2)
      status := data.getD (2 + maxGcNickSize) 0 }

namespace GCChat

variable (chat : GCChat)

/-! ## The peer list -/

/-- `set_gc_peerlist_checksum`.  The field `public_key_hash` of a peer is the hash of its
    encryption key. -/
def setGcPeerlistChecksum : GCChat :=
  { chat with
    peersChecksum := ((chat.group.filter (·.link.gconn.confirmed)).map fun peer =>
      (gcGetPkJenkinsHash peer.link.gconn.publicKey.enc).toUInt16).sum }

def getPeerNumberOfPeerId (peerId : UInt32) : Option Nat :=
  chat.group.findIdx? fun peer => peer.peerId == peerId

/-- `get_new_peer_id`: the least id that is free, one of the first `numpeers + 1`. -/
def getNewPeerId : Option UInt32 :=
  ((List.range (min (chat.group.length + 1) (2 ^ 32 - 2))).map UInt32.ofNat).find? fun peerId =>
    (chat.getPeerNumberOfPeerId peerId).isNone

def newGconn (env : ChatEnv) (ipPort : Option IPPort) (publicKey : PublicKey) : GCConnection :=
  let peerNumber := chat.group.length
  let key : ExtPublicKey :=
    -- we get the signature key in the handshake
    if peerNumber > 0 then { enc := publicKey, sig := Vector.replicate _ 0 } else chat.selfPublicKey
  { zeroGCConnection.gccSetSendMessageId 1 with
    ipPort := (ipPort.filter ipportIsset).getD emptyIpPort
    sessionPublicKey := env.keypair.1
    sessionSecretKey := env.keypair.2
    publicKey := key
    lastReceivedPacketTime := env.now
    lastKeyRotation := env.now
    lastSentPingTime :=
      env.now - gcPingTimeout / 2 + UInt64.ofNat (peerNumber % (gcPingTimeout.toNat / 2))
    selfIsCloser := idClosest chat.chatPublicKey.sig chat.selfPublicKey.enc key.enc == .first }

/-- The results of `peer_add`: `-2`, `-1` and the number of the peer. -/
inductive PeerAdd where
  | exists
  | failed
  | added (peerNumber : Nat)
deriving DecidableEq

def peerAdd (env : ChatEnv) (ipPort : Option IPPort) (publicKey : PublicKey) : PeerAdd × GCChat :=
  if (chat.getPeerNumberOfEncPk publicKey false).isSome then (.exists, chat)
  else
    match chat.getNewPeerId with
    | none => (.failed, chat)
    | some peerId =>
      let peer : GCPeer :=
        { zeroGCPeer with
          role := .user
          peerId
          link := { gconn := chat.newGconn env ipPort publicKey, sent := [], handed := [] } }
      (.added chat.group.length, { chat with group := chat.group ++ [peer] })

/-- `peer_delete`: the last peer takes the place of the deleted one. -/
def peerDelete (peerNumber : Nat) : Bool × GCChat :=
  match chat.group[peerNumber]?, chat.group[chat.group.length - 1]? with
  | some _, some last =>
    (true, { chat with
      group := (chat.group.set peerNumber last).take (chat.group.length - 1)
      }.setGcPeerlistChecksum)
  | _, _ => (false, chat)

/-- `peer_update`; `peer` has the role of a peer of zero bytes. -/
def peerUpdate (peer : GCPeer) (peerNumber : Nat) : Option GCChat :=
  if peer.nickLength = 0 then none
  else if peer.status > gsBusy then none
  else
    some { chat with
      group := chat.group.modify peerNumber fun current =>
        { current with
          status := peer.status
          nickLength := peer.nickLength
          nick := bytesToVector _ (peer.nick.toList.take peer.nickLength.toNat ++
            current.nick.toList.drop peer.nickLength.toNat) } }

/-! ## Peer information -/

def validatePassword (password : Bytes) (length : UInt16) : Bool :=
  if length.toNat > maxGcPasswordSize then false
  else if length ≠ chat.sharedState.passwordLength then false
  else chat.sharedState.password.toList.take length.toNat == password.take length.toNat

/-- The number of peers has reached the limit, and the peer is neither confirmed nor the
    founder. -/
def refusesPeer (peer : GCPeer) : Bool :=
  !peer.link.gconn.confirmed && decide (chat.getGcConfirmedNumpeers ≥ chat.sharedState.maxpeers) &&
    !chat.peerIsFounder peer

def copySelf : GCPeer :=
  match chat.group[0]? with
  | none => zeroGCPeer
  | some self =>
    { zeroGCPeer with
      status := self.status
      nick := bytesToVector _ (self.nick.toList.take self.nickLength.toNat)
      nickLength := self.nickLength
      role := self.role }

def sendSelfToPeer (env : ChatEnv) (peerNumber : Nat) : Bool × GCChat :=
  chat.sendOn peerNumber fun link =>
    link.sendLosslessGroupPacket env.toNgcEnv (chat.packedPassword ++ packGcPeer chat.copySelf)
      gpPeerInfoResponse

def handleGcPeerInfoRequest (env : ChatEnv) (peerNumber : Nat) : Bool × GCChat :=
  match chat.group[peerNumber]? with
  | none => (false, chat)
  | some peer => if chat.refusesPeer peer then (false, chat) else chat.sendSelfToPeer env peerNumber

def confirmPeer (peerNumber : Nat) : GCChat :=
  chat.modifyLink peerNumber fun link => link.withConn { link.gconn with confirmed := true }

def handleGcPeerInfoResponse (peerNumber : Nat) (data : Bytes) : Bool × GCChat :=
  if data.length < packedGcPeerSize then (false, chat)
  else
    match chat.group[peerNumber]? with
    | none => (false, chat)
    | some peer =>
      if chat.refusesPeer peer then (false, chat)
      -- the packet is longer than a password
      else if chat.chatIsPasswordProtected && !chat.validatePassword (data.drop 2) (netUnpackU16 data)
      then (false, chat)
      else
        let rest := if chat.chatIsPasswordProtected then data.drop (2 + maxGcPasswordSize) else data
        if rest.length = 0 then (false, chat)
        else
          match unpackGcPeer rest with
          | none => (false, chat)
          | some peerInfo =>
            match chat.peerUpdate peerInfo peerNumber with
            | none => (false, chat)
            | some chat =>
              (true, ((chat.confirmPeer peerNumber).updateGcPeerRoles).setGcPeerlistChecksum)

/-! ## Changes of roles -/

/-- `net_unpack_bool` of the first byte. -/
def netUnpackBool (data : Bytes) : Bool := data.getD 0 0 != 0

/-- `validate_unpack_gc_set_mod`; the result is negative (`none`) or the number of the target. -/
def validateUnpackGcSetMod (data : Bytes) (addMod : Bool) : Option Nat × GCChat :=
  if addMod && decide (data.length < 1 + sigPublicKeySize) then (none, chat)
  else
    let modData : SigPublicKey := bytesToVector _ (data.drop 1)
    match chat.getPeerNumberOfSigPk modData with
    | none => (none, chat)
    | some targetPeerNumber =>
      match chat.group[targetPeerNumber]? with
      | none => (none, chat)
      | some target =>
        if target.role ≠ (if addMod then .user else .moderator) then (none, chat)
        else
          match (if addMod then chat.moderation.modListAddEntry modData
            else chat.moderation.modListRemoveEntry modData) with
          | (false, moderation) => (none, { chat with moderation })
          | (true, moderation) =>
            (some targetPeerNumber, { chat with moderation }.updateGcPeerRoles)

def handleGcSetMod (peerNumber : Nat) (data : Bytes) : Bool × GCChat :=
  if data.length < 1 + sigPublicKeySize then (false, chat)
  else
    match chat.group[peerNumber]? with
    | none => (false, chat)
    | some setterPeer =>
      if setterPeer.role ≠ .founder then (true, chat)
      else (true, (chat.validateUnpackGcSetMod data (netUnpackBool data)).2)

/-- The results of `validate_unpack_observer_entry`: `1`, `0` and `-1`. -/
inductive ObserverEntry where
  | unchanged
  | changed
  | invalid
deriving DecidableEq

def validateUnpackObserverEntry (crypto : SignCrypto) (stackCreds : ModSanctionCreds) (data : Bytes)
    (publicKey : PublicKey) (addObs : Bool) : ObserverEntry × GCChat :=
  let moderation := chat.moderation
  if addObs then
    match sanctionsListUnpack stackCreds 1 data with
    | some ([sanction], creds, _) =>
      if creds.version = moderation.sanctionsCreds.version ∧
          creds.checksum ≤ moderation.sanctionsCreds.checksum then (.unchanged, chat)
      else if moderation.sanctionsListEntryExists sanction then (.invalid, chat)
      else
        match moderation.sanctionsListAddEntry crypto sanction (some creds) with
        | (false, moderation) => (.invalid, { chat with moderation })
        | (true, moderation) => (.changed, { chat with moderation })
    | _ => (.invalid, chat)
  else if data.length < modSanctionsCredsSize then (.invalid, chat)
  else
    let creds := sanctionsCredsUnpack data
    if creds.version = moderation.sanctionsCreds.version ∧
        creds.checksum ≤ moderation.sanctionsCreds.checksum then (.unchanged, chat)
    else if !moderation.sanctionsListIsObserver publicKey then (.unchanged, chat)
    else
      match moderation.sanctionsListRemoveObserver crypto publicKey (some creds) with
      | (false, moderation) => (.unchanged, { chat with moderation })
      | (true, moderation) => (.changed, { chat with moderation })

def handleGcSetObserver (crypto : SignCrypto) (stackCreds : ModSanctionCreds) (peerNumber : Nat)
    (data : Bytes) : Bool × GCChat :=
  if data.length ≤ 1 + cryptoPublicKeySize + sigPublicKeySize then (false, chat)
  else
    match chat.group[peerNumber]? with
    | none => (false, chat)
    | some setterPeer =>
      if setterPeer.role.value > GroupRole.moderator.value then (true, chat)
      else
        let addObs := netUnpackBool data
        let publicKey : PublicKey := bytesToVector _ (data.drop 1)
        let target := chat.getPeerNumberOfEncPk publicKey false
        if target = some peerNumber then (false, chat)
        else if (target.bind (chat.group[·]?)).any
            (fun peer => peer.role != (if addObs then .user else .observer)) then (true, chat)
        else
          match chat.validateUnpackObserverEntry crypto stackCreds
              (data.drop (1 + cryptoPublicKeySize + sigPublicKeySize)) publicKey addObs with
          | (.invalid, chat) => (false, chat)
          | (.unchanged, chat) => (true, chat)
          | (.changed, chat) => (true, chat.updateGcPeerRoles)

end GCChat

end Toxcore
