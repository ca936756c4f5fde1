import Toxcore.Native.GroupAnnounce
import Toxcore.Native.NgcFounder

/-!
# Handshakes between the peers of a group

The handshake by which two peers agree on a session key: the requests and responses of
`group_chats.c`, the packets that follow them, and `do_handshakes`, which sends them until the
connection is established.  What they take from the network and the TCP relays is in
`HandshakeEnv`.
-/

namespace Toxcore

/-! ## Constants -/

def ghRequest : UInt8 := 0

def ghResponse : UInt8 := 1

def hsInviteRequest : UInt8 := 0

def hsPeerInfoExchange : UInt8 := 1

def gcSendHandshakeInterval : UInt64 := 3

def gcNewPeerConnectionLimit : UInt8 := 10

/-- What the handshake takes from the outside. -/
structure HandshakeEnv extends ChatEnv where
  /-- Whether our own socket has an address family. -/
  netFamily : Bool
  /-- Whether `sendpacket` sends the whole packet. -/
  udpSent : Bool
  /-- Whether `send_packet_tcp_connection` succeeds. -/
  tcpSent : Bool
  /-- Whether `tcp_send_oob_packet_using_relay` succeeds. -/
  oobSent : Bool
  addTcpRelayConnection : NodeFormat → Bool

/-! ## Sending -/

namespace PeerLink

variable (link : PeerLink) (env : HandshakeEnv)

/-- `gcc_copy_tcp_relay`, packed. -/
def packedTcpRelay : Bytes :=
  match link.gconn.tcpRelays[env.random % link.gconn.tcpRelays.length]? with
  | none => []
  | some node =>
    if !ipportIsset node.ipPort then []
    else
      match packNodes (UInt16.ofNat sizeofNodeFormat) [node] with
      | (none, _) => []
      | (some _, nodes) => nodes

def makeGcHandshakePacket (box : CryptoBox) (chat : GCChat) (handshakeType requestType joinType : UInt8) :
    GCPacket :=
  .handshake chat.selfPublicKey.enc link.gconn.publicKey.enc
    (box.encryptData link.gconn.publicKey.enc chat.selfSecretKey env.nonce
      { handshakeType
        sessionPublicKey := link.gconn.sessionPublicKey
        publicSigKey := chat.selfPublicKey.sig
        requestType
        joinType
        nodes := link.packedTcpRelay env })

def gccDirectConnIsPossible : Bool := !link.gconn.ipPort.isUnspec && env.netFamily

def sendGcHandshakePacket (box : CryptoBox) (chat : GCChat) (handshakeType requestType joinType : UInt8) :
    Bool × PeerLink :=
  let packet := link.makeGcHandshakePacket env box chat handshakeType requestType joinType
  let hasRelays := decide (0 < link.gconn.tcpRelays.length)
  let tryTcpFallback := link.gconn.handshakeAttempts % 2 == 1 && hasRelays
  let direct := !tryTcpFallback && link.gccDirectConnIsPossible env && env.udpSent
  let tcp := hasRelays && (!direct || tryTcpFallback)
  let link :=
    { link with
      gconn := { link.gconn with handshakeAttempts := link.gconn.handshakeAttempts + 1 }
      sent := link.sent ++ (if direct then [packet] else []) ++ (if tcp && env.tcpSent then [packet] else []) }
  if !direct && !hasRelays then (false, link)
  else if tcp && !env.tcpSent then (false, link)
  else if link.gconn.isPendingHandshakeResponse then
    -- the handshake response is always the second packet
    (true, link.withConn (link.gconn.gccSetSendMessageId 3))
  else
    -- the handshake request is always the first packet
    (true, link.withConn (link.gconn.gccSetSendMessageId 2))

def sendGcOobHandshakeRequest (box : CryptoBox) (chat : GCChat) : Bool × PeerLink :=
  if (link.packedTcpRelay env).length = 0 then (false, link)
  else if !env.oobSent then (false, link)
  else
    (true, { link with
      sent := link.sent ++ [link.makeGcHandshakePacket env box chat ghRequest
        link.gconn.pendingHandshakeType chat.joinType] })

def sendPendingHandshake (box : CryptoBox) (chat : GCChat) : Bool × PeerLink :=
  let gconn := link.gconn
  if gconn.isPendingHandshakeResponse then
    if !env.isTimeout gconn.lastHandshakeResponse gcSendHandshakeInterval then (true, link)
    else
      (link.withConn { gconn with lastHandshakeResponse := env.now }).sendGcHandshakePacket env box
        chat ghResponse gconn.pendingHandshakeType 0
  else if !env.isTimeout gconn.lastHandshakeRequest gcSendHandshakeInterval then (true, link)
  else
    let link := link.withConn { gconn with lastHandshakeRequest := env.now }
    if gconn.isOobHandshake then link.sendGcOobHandshakeRequest env box chat
    else
      link.sendGcHandshakePacket env box chat ghRequest gconn.pendingHandshakeType chat.joinType

def sendGcHsResponseAck : Bool × PeerLink :=
  link.sendLosslessGroupPacket env.toNgcEnv [] gpHsResponseAck

def sendGcInviteRequest (chat : GCChat) : Bool × PeerLink :=
  link.sendLosslessGroupPacket env.toNgcEnv chat.packedPassword gpInviteRequest

def sendGcPeerExchange (chat : GCChat) : Bool × PeerLink :=
  match link.sendLosslessGroupPacket env.toNgcEnv (chat.packedPassword ++ packGcPeer chat.copySelf)
      gpPeerInfoResponse with
  | (false, link) => (false, link)
  | (true, link) => link.sendLosslessGroupPacket env.toNgcEnv [] gpPeerInfoRequest

def handleGcHsResponseAck (chat : GCChat) : Bool × PeerLink :=
  -- has to be true before we can send a lossless packet
  match (link.withConn { link.gconn with handshaked := true }).sendGcInviteRequest env chat with
  | (false, link) => (false, link.withConn { link.gconn with handshaked := false })
  | (true, link) => (true, link)

end PeerLink

/-! ## Receiving -/

namespace GCChat

variable (box : CryptoBox) (chat : GCChat) (env : HandshakeEnv)

/-- The part of `handle_gc_handshake_response` that changes the connection. -/
def answerHandshakeResponse (link : PeerLink) (plain : GCHandshakePlain) : Bool × PeerLink :=
  let gconn := link.gconn.gccMakeSessionSharedKey box plain.sessionPublicKey
  let link := link.withConn
    { gconn with
      publicKey := { gconn.publicKey with sig := plain.publicSigKey }
      -- the handshake response is always the second packet
      receivedMessageId := 2
      handshaked := true }
  let link := (link.sendGcHsResponseAck env).2
  if plain.requestType = hsInviteRequest then link.sendGcInviteRequest env chat
  else if plain.requestType = hsPeerInfoExchange then link.sendGcPeerExchange env chat
  else (false, link)

def handleGcHandshakeResponse (senderPk : PublicKey) (plain : GCHandshakePlain) :
    Option Nat × GCChat :=
  match chat.getPeerNumberOfEncPk senderPk false with
  | none => (none, chat)
  | some peerNumber =>
    match chat.group[peerNumber]? with
    | none => (none, chat)
    | some peer =>
      let (ok, link) := chat.answerHandshakeResponse box env peer.link plain
      (if ok then some peerNumber else none, chat.modifyLink peerNumber fun _ => link)

def gccSetIpPort (gconn : GCConnection) (ipp : Option IPPort) : GCConnection :=
  match ipp with
  | none => gconn
  | some ipPort => if ipportIsset ipPort then { gconn with ipPort } else gconn

/-- The TCP relay in a handshake packet. -/
def handshakeRelay (plain : GCHandshakePlain) : Option NodeFormat :=
  match unpackNodes gcaMaxAnnouncedTcpRelays plain.nodes (UInt16.ofNat plain.nodes.length) true with
  | none => none
  | some (nodes, _) => nodes.head?

def addHandshakeRelay (gconn : GCConnection) (relay : Option NodeFormat) : GCConnection :=
  match relay with
  | none => gconn
  | some node =>
    if env.addTcpRelayConnection node then (gconn.gccSaveTcpRelay env.random node).2 else gconn

def acceptHandshakeRequest (gconn : GCConnection) (isNewPeer : Bool) (ipp : Option IPPort)
    (plain : GCHandshakePlain) : Bool × GCConnection :=
  let gconn := gccSetIpPort gconn ipp
  let relay := handshakeRelay plain
  if relay.isNone && ipp.isNone then
    (false, if isNewPeer then gconn.gccMarkForDeletion else gconn)
  else if relay.any (fun node => !env.addTcpRelayConnection node) && isNewPeer && ipp.isNone then
    (false, gconn.gccMarkForDeletion)
  else
    let gconn := addHandshakeRelay env gconn relay
    let gconn := gconn.gccMakeSessionSharedKey box plain.sessionPublicKey
    let gconn :=
      { gconn with publicKey := { gconn.publicKey with sig := plain.publicSigKey } }
    if plain.joinType = hjPublic && chat.sharedState.privacyState != giPublic then
      (false, gconn.gccMarkForDeletion)
    else
      (true,
        { gconn with
          -- the handshake request is always the first packet
          receivedMessageId := 1
          isPendingHandshakeResponse := true
          pendingHandshakeType := plain.requestType })

/-- `handle_gc_handshake_request` from `gcc_set_ip_port` on. -/
def acceptHandshakeRequestOf (ipp : Option IPPort) (plain : GCHandshakePlain) (peerNumber : Nat)
    (isNewPeer : Bool) : Option Nat × GCChat :=
  match chat.group[peerNumber]? with
  | none => (none, chat)
  | some peer =>
    let (ok, gconn) := chat.acceptHandshakeRequest box env peer.link.gconn isNewPeer ipp plain
    (if ok then some peerNumber else none, chat.modifyLink peerNumber fun link => link.withConn gconn)

def handleCountedRequest (ipp : Option IPPort) (senderPk : PublicKey) (plain : GCHandshakePlain) :
    Option Nat × GCChat :=
  match chat.getPeerNumberOfEncPk senderPk false with
  | none =>
    match chat.peerAdd env.toChatEnv ipp senderPk with
    | (.added peerNumber, chat) => chat.acceptHandshakeRequestOf box env ipp plain peerNumber true
    | (_, chat) => (none, chat)
  | some peerNumber =>
    match chat.group[peerNumber]? with
    | none => (none, chat)
    | some peer =>
      if peer.link.gconn.handshaked then
        (none, chat.modifyLink peerNumber fun link =>
          link.withConn { link.gconn with handshaked := false })
      -- the closer peer becomes the requestor and ignores the request
      else if peer.link.gconn.selfIsCloser then (some 0, chat)
      else chat.acceptHandshakeRequestOf box env ipp plain peerNumber false

def handleGcHandshakeRequest (ipp : Option IPPort) (senderPk : PublicKey) (plain : GCHandshakePlain) :
    Option Nat × GCChat :=
  if !chat.groupCanHandlePackets then (none, chat)
  else if chat.connectionOMetre ≥ gcNewPeerConnectionLimit then
    (none, { chat with blockHandshakes := true })
  else
    { chat with connectionOMetre := chat.connectionOMetre + 1 }.handleCountedRequest box env ipp senderPk plain

def handleGcHandshakePacket (senderPk : PublicKey) (ipp : Option IPPort)
    (encrypted : Sealed GCHandshakePlain) (directConn : Bool) : Option Nat × GCChat :=
  match box.decryptData senderPk chat.selfSecretKey encrypted.nonce encrypted with
  | none => (none, chat)
  | some plain =>
    let (result, chat) :=
      if plain.handshakeType = ghRequest then
        chat.handleGcHandshakeRequest box env ipp senderPk plain
      else if plain.handshakeType = ghResponse then
        chat.handleGcHandshakeResponse box env senderPk plain
      else (none, chat)
    match result with
    | none => (none, chat)
    | some peerNumber =>
      if chat.group.length ≤ peerNumber then (none, chat)
      else
        (some peerNumber,
          if directConn then
            chat.modifyLink peerNumber fun link =>
              link.withConn { link.gconn with lastReceivedDirectTime := env.now }
          else chat)

/-- `do_handshakes`; saved peers are not loaded. -/
def doHandshakes (nonces : Nat → Nonce) : GCChat :=
  { chat with
    group := chat.group.mapIdx fun i peer =>
      if i = 0 || peer.link.gconn.handshaked || peer.link.gconn.pendingDelete then peer
      else
        { peer with
          link := (peer.link.sendPendingHandshake { env with nonce := nonces i } box chat).2 } }

end GCChat

end Toxcore
