import Toxcore.Native.NgcPeers

/-!
# Rotation of session keys

Two peers of a group replace the keys of their connection from time to time.  The peer that is
closer to the group sends a request with a new public key, and the other one answers with its
own.  `keypair` stands for `create_gc_session_keypair`.
-/

namespace Toxcore

def gcKeyRotationTimeout : UInt64 := 5 * 60

def gcDoPingsInterval : UInt64 := 2

namespace PeerLink

variable (link : PeerLink) (env : NgcEnv) (keypair : PublicKey × SecretKey)

def keyRotationData (isResponse : Bool) (publicKey : PublicKey) : Bytes :=
  (if isResponse then 1 else 0) :: publicKey.toList

def sendPeerKeyRotationRequest : Bool × PeerLink :=
  if !link.gconn.selfIsCloser then
    -- if this peer has not sent us a request in time we drop the connection
    if env.isTimeout link.gconn.lastKeyRotation (gcKeyRotationTimeout + gcPingTimeout) then
      (true, link.withConn link.gconn.gccMarkForDeletion)
    else (true, link)
  else
    let link := link.withConn { link.gconn with sessionPublicKey := keypair.1, sessionSecretKey := keypair.2 }
    match link.sendLosslessGroupPacket env (keyRotationData false keypair.1) gpKeyRotation with
    | (false, link) => (false, link)
    | (true, link) => (true, link.withConn { link.gconn with pendingKeyRotationRequest := true })

def handleGcKeyExchange (box : CryptoBox) (data : Bytes) : Bool × PeerLink :=
  if data.length < 1 + cryptoPublicKeySize then (false, link)
  else
    let senderPublicSessionKey : PublicKey := bytesToVector _ (data.drop 1)
    if GCChat.netUnpackBool data then
      -- a response that we did not ask for is ignored
      if !link.gconn.pendingKeyRotationRequest then (true, link)
      else
        (true, link.withConn { link.gconn.gccMakeSessionSharedKey box senderPublicSessionKey with
          pendingKeyRotationRequest := false })
    else if !env.isTimeout link.gconn.lastKeyRotation (gcKeyRotationTimeout / 2) then (true, link)
    else
      match link.sendLosslessGroupPacket env (keyRotationData true keypair.1) gpKeyRotation with
      | (false, link) => (false, link)
      | (true, link) =>
        -- the new key is used from here on, the response was sent with the old one
        let gconn :=
          { link.gconn with sessionPublicKey := keypair.1, sessionSecretKey := keypair.2 }
        (true, link.withConn { gconn.gccMakeSessionSharedKey box senderPublicSessionKey with
          lastKeyRotation := env.now })

/-- The ping of `do_gc_ping_and_key_rotation` for one peer. -/
def sendPing (pingData : Bytes) : PeerLink :=
  if !env.isTimeout link.gconn.lastSentPingTime gcPingTimeout then link
  else
    match link.sendLossyGroupPacket env pingData gpPing with
    | (false, link) => link
    | (true, link) => link.withConn { link.gconn with lastSentPingTime := env.now }

/-- The key rotation of `do_gc_ping_and_key_rotation` for one peer. -/
def rotateKey : PeerLink :=
  if !env.isTimeout link.gconn.lastKeyRotation gcKeyRotationTimeout then link
  else
    match link.sendPeerKeyRotationRequest env keypair with
    | (false, link) => link
    | (true, link) => link.withConn { link.gconn with lastKeyRotation := env.now }

/-- The body of the loop of `do_gc_ping_and_key_rotation`. -/
def pingAndRotate (pingData : Bytes) : PeerLink :=
  if !link.gconn.confirmed then link else (link.sendPing env pingData).rotateKey env keypair

end PeerLink

/-- `do_gc_ping_and_key_rotation`; `keypairs` and `packedIpPorts` are by the number of the peer. -/
def GCChat.doGcPingAndKeyRotation (chat : GCChat) (env : ChatEnv)
    (keypairs : Nat → PublicKey × SecretKey) (packedIpPorts : Nat → Bytes) : GCChat :=
  if !env.isTimeout chat.lastPingInterval gcDoPingsInterval then chat
  else
    { chat with
      group := chat.group.mapIdx fun i peer =>
        if i = 0 then peer
        else
          { peer with
            link := peer.link.pingAndRotate env.toNgcEnv (keypairs i) (chat.syncInfo.pack ++ packedIpPorts i) }
      lastPingInterval := env.now }

end Toxcore
