import Toxcore.Native.NgcHandshake
import Toxcore.Spec.NgcFrame
import Toxcore.Spec.NgcRotationLoss

/-!
# Handshakes of an established connection

What a late handshake packet does to a connection in use.  A response is accepted at any time and
sets the counter of received messages back; a request that restarts the connection leaves the
messages in the two arrays where they are.
-/

namespace Toxcore

open List

/-! ## What a handshake packet should leave alone -/

structure GCConnection.SameChannel (gconn gconn' : GCConnection) : Prop where
  key : gconn'.sessionSharedKey = gconn.sessionSharedKey
  received : gconn'.receivedMessageId = gconn.receivedMessageId
  next : gconn'.sendMessageId = gconn.sendMessageId
  sendArray : gconn'.sendArray = gconn.sendArray
  recvArray : gconn'.recvArray = gconn.recvArray

/-- The connection is handshaked, and a message after those of the handshake was handled. -/
def GCConnection.Established (gconn : GCConnection) : Prop :=
  gconn.handshaked = true ∧ 2 < gconn.receivedMessageId

def MessageArray.Remains (before after : MessageArray) : Prop :=
  ∃ i, ¬(before i).isEmpty ∧ after i = before i

namespace GCChat

variable (box : CryptoBox) (chat : GCChat) (env : HandshakeEnv)

/-- The request is accepted for a peer that we know, and starts its connection again. -/
def restarts (senderPk : PublicKey) (ipp : Option IPPort) (plain : GCHandshakePlain) (peerNumber : Nat)
    (peer : GCPeer) : Prop :=
  chat.getPeerNumberOfEncPk senderPk false = some peerNumber ∧
  peer.link.gconn.handshaked = false ∧ peer.link.gconn.selfIsCloser = false ∧
  (chat.handleGcHandshakeRequest box env ipp senderPk plain).1 = some peerNumber

/-- A response leaves an established connection alone, and a restart leaves no message behind. -/
def HandshakeSafe (senderPk : PublicKey) (ipp : Option IPPort) (encrypted : Sealed GCHandshakePlain)
    (directConn : Bool) : Prop :=
  ∀ plain peerNumber peer peer',
    box.decryptData senderPk chat.selfSecretKey encrypted.nonce encrypted = some plain →
    chat.group[peerNumber]? = some peer →
    (chat.handleGcHandshakePacket box env senderPk ipp encrypted directConn).2.group[peerNumber]? = some peer' →
    (plain.handshakeType = ghResponse → peer.link.gconn.publicKey.enc = senderPk →
      peer.link.gconn.Established → peer.link.gconn.SameChannel peer'.link.gconn) ∧
    (plain.handshakeType = ghRequest → chat.restarts box env senderPk ipp plain peerNumber peer →
      ¬peer.link.gconn.recvArray.Remains peer'.link.gconn.recvArray ∧
      ¬peer.link.gconn.sendArray.Remains peer'.link.gconn.sendArray)

/-- A response finds no established connection, and a request that restarts one finds no messages. -/
def HandshakeCareful (senderPk : PublicKey) (ipp : Option IPPort) (encrypted : Sealed GCHandshakePlain) :
    Prop :=
  ∀ plain peerNumber peer,
    box.decryptData senderPk chat.selfSecretKey encrypted.nonce encrypted = some plain →
    chat.group[peerNumber]? = some peer →
    (plain.handshakeType = ghResponse → peer.link.gconn.publicKey.enc = senderPk →
      peer.link.gconn.Established → chat.getPeerNumberOfEncPk senderPk false ≠ some peerNumber) ∧
    (plain.handshakeType = ghRequest → chat.restarts box env senderPk ipp plain peerNumber peer →
      ∀ i, (peer.link.gconn.recvArray i).isEmpty ∧ (peer.link.gconn.sendArray i).isEmpty)

/-! ## One handshake packet -/

variable {box chat env}

variable {i : Nat} {peer peer' : GCPeer}

theorem getElem?_modifyLink {peerNumber : Nat} {f : PeerLink → PeerLink} (hpeer : chat.group[i]? = some peer)
    (hpeer' : (chat.modifyLink peerNumber f).group[i]? = some peer') :
    peer'.link = if peerNumber = i then f peer.link else peer.link := by
  rw [modifyLink, getElem?_modify, hpeer] at hpeer'
  cases hpeer'
  by_cases hi : peerNumber = i
  · simp only [hi, if_true]
  · simp only [hi, if_false]

variable {senderPk : PublicKey} {ipp : Option IPPort} {plain : GCHandshakePlain}

theorem gconn_handleGcHandshakePacket {encrypted : Sealed GCHandshakePlain} {directConn : Bool}
    (hplain : box.decryptData senderPk chat.selfSecretKey encrypted.nonce encrypted = some plain)
    {inner : Option Nat × GCChat}
    (hinner : inner = if plain.handshakeType = ghRequest then chat.handleGcHandshakeRequest box env ipp senderPk plain else if plain.handshakeType = ghResponse then chat.handleGcHandshakeResponse box env senderPk plain else (none, chat))
    (hpeer : inner.2.group[i]? = some peer)
    (hpeer' : (chat.handleGcHandshakePacket box env senderPk ipp encrypted directConn).2.group[i]? = some peer') :
    peer.link.gconn.SameChannel peer'.link.gconn := by
  rw [handleGcHandshakePacket, hplain] at hpeer'
  dsimp only at hpeer'
  rw [← hinner] at hpeer'
  split at hpeer'
  · rw [hpeer] at hpeer'
    cases hpeer'
    exact ⟨rfl, rfl, rfl, rfl, rfl⟩
  split at hpeer'
  · rw [hpeer] at hpeer'
    cases hpeer'
    exact ⟨rfl, rfl, rfl, rfl, rfl⟩
  split at hpeer'
  · have hlink := getElem?_modifyLink hpeer hpeer'
    rw [hlink]
    split
    · exact ⟨rfl, rfl, rfl, rfl, rfl⟩
    · exact ⟨rfl, rfl, rfl, rfl, rfl⟩
  · rw [hpeer] at hpeer'
    cases hpeer'
    exact ⟨rfl, rfl, rfl, rfl, rfl⟩

theorem received_sendLosslessGroupPacket (link : PeerLink) (env : NgcEnv) (data : Bytes)
    (packetType : UInt8) :
    (link.sendLosslessGroupPacket env data packetType).2.gconn.receivedMessageId =
      link.gconn.receivedMessageId := by
  have hcore := congrArg GCConnection.receivedMessageId
    (PeerLink.core_sendLosslessGroupPacket link env data packetType)
  exact hcore

theorem received_sendGcPeerExchange (link : PeerLink) :
    (link.sendGcPeerExchange env chat).2.gconn.receivedMessageId = link.gconn.receivedMessageId := by
  have hself := received_sendLosslessGroupPacket link env.toNgcEnv
    (chat.packedPassword ++ packGcPeer chat.copySelf) gpPeerInfoResponse
  rw [PeerLink.sendGcPeerExchange]
  split
  · rename_i link' heq
    rw [heq] at hself
    exact hself
  · rename_i link' heq
    rw [heq] at hself
    rw [received_sendLosslessGroupPacket]
    exact hself

theorem received_answerHandshakeResponse (link : PeerLink) (plain : GCHandshakePlain) :
    (chat.answerHandshakeResponse box env link plain).2.gconn.receivedMessageId = 2 := by
  rw [answerHandshakeResponse]
  generalize hacked : PeerLink.sendGcHsResponseAck _ env = acked
  have hreceived : acked.2.gconn.receivedMessageId = 2 := by
    rw [← hacked, PeerLink.sendGcHsResponseAck, received_sendLosslessGroupPacket]
    rfl
  split
  · rw [PeerLink.sendGcInviteRequest, received_sendLosslessGroupPacket]
    exact hreceived
  split
  · rw [received_sendGcPeerExchange]
    exact hreceived
  · exact hreceived

theorem received_handleGcHandshakeResponse (hfound : chat.getPeerNumberOfEncPk senderPk false = some i)
    (hpeer : chat.group[i]? = some peer)
    (hpeer' : (chat.handleGcHandshakeResponse box env senderPk plain).2.group[i]? = some peer') :
    peer'.link.gconn.receivedMessageId = 2 := by
  rw [handleGcHandshakeResponse, hfound] at hpeer'
  dsimp only at hpeer'
  rw [hpeer] at hpeer'
  have hlink := getElem?_modifyLink hpeer hpeer'
  rw [if_pos rfl] at hlink
  rw [hlink]
  exact received_answerHandshakeResponse peer.link plain

theorem getElem?_handleGcHandshakeResponse (hfound : chat.getPeerNumberOfEncPk senderPk false ≠ some i)
    (hpeer : chat.group[i]? = some peer) :
    (chat.handleGcHandshakeResponse box env senderPk plain).2.group[i]? = some peer := by
  rw [handleGcHandshakeResponse]
  split
  · exact hpeer
  rename_i peerNumber heq
  split
  · exact hpeer
  · have hi : peerNumber ≠ i := by
      intro hi
      rw [heq, hi] at hfound
      exact hfound rfl
    show (chat.modifyLink peerNumber _).group[i]? = some peer
    rw [modifyLink, getElem?_modify, hpeer]
    simp [hi]

theorem arrays_acceptHandshakeRequest (gconn : GCConnection) (isNewPeer : Bool) (ipp : Option IPPort)
    (plain : GCHandshakePlain) :
    (chat.acceptHandshakeRequest box env gconn isNewPeer ipp plain).2.recvArray = gconn.recvArray ∧
    (chat.acceptHandshakeRequest box env gconn isNewPeer ipp plain).2.sendArray = gconn.sendArray := by
  have hip : (gccSetIpPort gconn ipp).recvArray = gconn.recvArray ∧
      (gccSetIpPort gconn ipp).sendArray = gconn.sendArray := by
    unfold gccSetIpPort
    split
    · exact ⟨rfl, rfl⟩
    split
    · exact ⟨rfl, rfl⟩
    · exact ⟨rfl, rfl⟩
  have hrelay : ∀ (g : GCConnection) (random : Nat) (node : NodeFormat),
      (g.gccSaveTcpRelay random node).2.recvArray = g.recvArray ∧
      (g.gccSaveTcpRelay random node).2.sendArray = g.sendArray := by
    intro g random node
    rw [GCConnection.gccSaveTcpRelay]
    split
    · exact ⟨rfl, rfl⟩
    split
    · exact ⟨rfl, rfl⟩
    split
    · exact ⟨rfl, rfl⟩
    · exact ⟨rfl, rfl⟩
  have hadd : ∀ (g : GCConnection) (relay : Option NodeFormat),
      (addHandshakeRelay env g relay).recvArray = g.recvArray ∧
      (addHandshakeRelay env g relay).sendArray = g.sendArray := by
    intro g relay
    unfold addHandshakeRelay
    split
    · exact ⟨rfl, rfl⟩
    split
    · exact hrelay g env.random _
    · exact ⟨rfl, rfl⟩
  rw [acceptHandshakeRequest]
  generalize gccSetIpPort gconn ipp = g at hip ⊢
  split
  · split
    · exact hip
    · exact hip
  split
  · exact hip
  have hsaved := hadd g (handshakeRelay plain)
  rw [hip.1, hip.2] at hsaved
  split
  · exact hsaved
  · exact hsaved

theorem arrays_handleCountedRequest (hfound : chat.getPeerNumberOfEncPk senderPk false = some i)
    (hpeer : chat.group[i]? = some peer) (hhandshaked : peer.link.gconn.handshaked = false)
    (hcloser : peer.link.gconn.selfIsCloser = false)
    (hpeer' : (chat.handleCountedRequest box env ipp senderPk plain).2.group[i]? = some peer') :
    peer'.link.gconn.recvArray = peer.link.gconn.recvArray ∧
    peer'.link.gconn.sendArray = peer.link.gconn.sendArray := by
  rw [handleCountedRequest, hfound] at hpeer'
  dsimp only at hpeer'
  rw [hpeer] at hpeer'
  dsimp only at hpeer'
  rw [if_neg (by rw [hhandshaked]; exact Bool.false_ne_true),
    if_neg (by rw [hcloser]; exact Bool.false_ne_true), acceptHandshakeRequestOf, hpeer] at hpeer'
  have hlink := getElem?_modifyLink hpeer hpeer'
  rw [if_pos rfl] at hlink
  rw [hlink]
  exact arrays_acceptHandshakeRequest peer.link.gconn false ipp plain

theorem arrays_handleGcHandshakeRequest (hpeer : chat.group[i]? = some peer)
    (hrestarts : chat.restarts box env senderPk ipp plain i peer)
    (hpeer' : (chat.handleGcHandshakeRequest box env ipp senderPk plain).2.group[i]? = some peer') :
    peer'.link.gconn.recvArray = peer.link.gconn.recvArray ∧
    peer'.link.gconn.sendArray = peer.link.gconn.sendArray := by
  obtain ⟨hfound, hhandshaked, hcloser, haccepted⟩ := hrestarts
  rw [handleGcHandshakeRequest] at hpeer' haccepted
  split at hpeer'
  · rename_i hstate
    rw [if_pos hstate] at haccepted
    cases haccepted
  split at hpeer'
  · rename_i hstate hlimit
    rw [if_neg hstate, if_pos hlimit] at haccepted
    cases haccepted
  -- the request was counted, which changes no peer
  have hfound' : getPeerNumberOfEncPk { chat with connectionOMetre := chat.connectionOMetre + 1 }
      senderPk false = some i := hfound
  have hcounted : ({ chat with connectionOMetre := chat.connectionOMetre + 1 } : GCChat).group[i]? =
      some peer := hpeer
  exact arrays_handleCountedRequest hfound' hcounted hhandshaked hcloser hpeer'

theorem not_remains_self {array : MessageArray} : ¬array.Remains array ↔ ∀ i, (array i).isEmpty = true := by
  constructor
  · intro h i
    by_contra hi
    exact h ⟨i, hi, rfl⟩
  · intro h hremains
    obtain ⟨i, hi, -⟩ := hremains
    exact hi (h i)

theorem length_modifyLink (chat : GCChat) (peerNumber : Nat) (f : PeerLink → PeerLink) :
    (chat.modifyLink peerNumber f).group.length = chat.group.length := by
  simp [modifyLink]

theorem length_handleGcHandshakeResponse (senderPk : PublicKey) (plain : GCHandshakePlain) :
    (chat.handleGcHandshakeResponse box env senderPk plain).2.group.length = chat.group.length := by
  rw [handleGcHandshakeResponse]
  split
  · rfl
  split
  · rfl
  · exact length_modifyLink chat _ _

theorem length_peerAdd (chat : GCChat) (env : ChatEnv) (ipp : Option IPPort) (publicKey : PublicKey) :
    chat.group.length ≤ (chat.peerAdd env ipp publicKey).2.group.length := by
  rw [peerAdd]
  split
  · exact le_rfl
  split
  · exact le_rfl
  · simp

theorem length_acceptHandshakeRequestOf (ipp : Option IPPort) (plain : GCHandshakePlain)
    (peerNumber : Nat) (isNewPeer : Bool) :
    (chat.acceptHandshakeRequestOf box env ipp plain peerNumber isNewPeer).2.group.length =
      chat.group.length := by
  rw [acceptHandshakeRequestOf]
  split
  · rfl
  · exact length_modifyLink chat _ _

theorem length_handleCountedRequest (chat : GCChat) (ipp : Option IPPort) (senderPk : PublicKey)
    (plain : GCHandshakePlain) :
    chat.group.length ≤ (chat.handleCountedRequest box env ipp senderPk plain).2.group.length := by
  have hadd := length_peerAdd chat env.toChatEnv ipp senderPk
  rw [handleCountedRequest]
  split
  · split
    · rename_i peerNumber added heq
      rw [heq] at hadd
      rw [length_acceptHandshakeRequestOf]
      exact hadd
    · rename_i result added _ heq
      rw [heq] at hadd
      exact hadd
  · split
    · exact le_rfl
    split
    · exact Nat.le_of_eq (length_modifyLink chat _ _).symm
    split
    · exact le_rfl
    · exact Nat.le_of_eq (length_acceptHandshakeRequestOf ipp plain _ false).symm

theorem length_handleGcHandshakeRequest (ipp : Option IPPort) (senderPk : PublicKey)
    (plain : GCHandshakePlain) :
    chat.group.length ≤ (chat.handleGcHandshakeRequest box env ipp senderPk plain).2.group.length := by
  rw [handleGcHandshakeRequest]
  split
  · exact le_rfl
  split
  · exact le_rfl
  · exact length_handleCountedRequest { chat with connectionOMetre := chat.connectionOMetre + 1 } ipp
      senderPk plain

def handshakeResult (box : CryptoBox) (chat : GCChat) (env : HandshakeEnv) (senderPk : PublicKey)
    (ipp : Option IPPort) (plain : GCHandshakePlain) : Option Nat × GCChat :=
  if plain.handshakeType = ghRequest then chat.handleGcHandshakeRequest box env ipp senderPk plain
  else if plain.handshakeType = ghResponse then
    chat.handleGcHandshakeResponse box env senderPk plain
  else (none, chat)

theorem exists_peer_handshakeResult (box : CryptoBox) {chat : GCChat} (env : HandshakeEnv) (senderPk : PublicKey)
    (ipp : Option IPPort) (plain : GCHandshakePlain) (hpeer : chat.group[i]? = some peer) :
    ∃ peer', (handshakeResult box chat env senderPk ipp plain).2.group[i]? = some peer' := by
  have hlength : chat.group.length ≤ (handshakeResult box chat env senderPk ipp plain).2.group.length := by
    rw [handshakeResult]
    split
    · exact length_handleGcHandshakeRequest ipp senderPk plain
    split
    · exact Nat.le_of_eq (length_handleGcHandshakeResponse senderPk plain).symm
    · exact le_rfl
  obtain ⟨hi, -⟩ := List.getElem?_eq_some_iff.mp hpeer
  exact ⟨_, getElem?_eq_getElem (Nat.lt_of_lt_of_le hi hlength)⟩

theorem exists_peer_handleGcHandshakePacket (env : HandshakeEnv) (ipp : Option IPPort)
    {encrypted : Sealed GCHandshakePlain} (directConn : Bool)
    (hplain : box.decryptData senderPk chat.selfSecretKey encrypted.nonce encrypted = some plain)
    (hpeer : chat.group[i]? = some peer) :
    ∃ peer', (chat.handleGcHandshakePacket box env senderPk ipp encrypted directConn).2.group[i]? =
      some peer' := by
  obtain ⟨inner, hinner⟩ := exists_peer_handshakeResult box env senderPk ipp plain hpeer
  rw [handleGcHandshakePacket, hplain]
  dsimp only
  rw [← handshakeResult]
  generalize handshakeResult box chat env senderPk ipp plain = result at hinner ⊢
  split
  · exact ⟨inner, hinner⟩
  split
  · exact ⟨inner, hinner⟩
  split
  · obtain ⟨hi, -⟩ := List.getElem?_eq_some_iff.mp hinner
    exact ⟨_, getElem?_eq_getElem (by rw [length_modifyLink]; exact hi)⟩
  · exact ⟨inner, hinner⟩

theorem handshakeSafe_iff (senderPk : PublicKey) (ipp : Option IPPort)
    (encrypted : Sealed GCHandshakePlain) (directConn : Bool) :
    chat.HandshakeSafe box env senderPk ipp encrypted directConn ↔
      chat.HandshakeCareful box env senderPk ipp encrypted := by
  -- what the handler of the kind does carries over to the whole packet
  have hkinds : ∀ plain i peer peer',
      box.decryptData senderPk chat.selfSecretKey encrypted.nonce encrypted = some plain →
      chat.group[i]? = some peer →
      (chat.handleGcHandshakePacket box env senderPk ipp encrypted directConn).2.group[i]? = some peer' →
      ((plain.handshakeType = ghResponse → peer.link.gconn.Established →
          (peer.link.gconn.SameChannel peer'.link.gconn ↔ chat.getPeerNumberOfEncPk senderPk false ≠ some i)) ∧
        (plain.handshakeType = ghRequest → chat.restarts box env senderPk ipp plain i peer →
          peer'.link.gconn.recvArray = peer.link.gconn.recvArray ∧
          peer'.link.gconn.sendArray = peer.link.gconn.sendArray)) := by
    intro plain i peer peer' hplain hpeer hpeer'
    obtain ⟨inner, hinner⟩ := exists_peer_handshakeResult box env senderPk ipp plain hpeer
    have hsame := gconn_handleGcHandshakePacket hplain rfl hinner hpeer'
    constructor
    · intro htype hestablished
      have hrequest : plain.handshakeType ≠ ghRequest := by
        rw [htype]
        decide
      rw [handshakeResult, if_neg hrequest, if_pos htype] at hinner
      constructor
      · intro hkeep hfound
        have htwo := received_handleGcHandshakeResponse hfound hpeer hinner
        have hreceived : (2 : UInt64) = peer.link.gconn.receivedMessageId := by
          rw [← hkeep.received, hsame.received, htwo]
        have hlarge := hestablished.2
        rw [← hreceived] at hlarge
        exact absurd hlarge (by decide)
      · intro hfound
        rw [getElem?_handleGcHandshakeResponse hfound hpeer] at hinner
        cases hinner
        exact hsame
    · intro htype hrestarts
      rw [handshakeResult, if_pos htype] at hinner
      obtain ⟨hrecv, hsend⟩ := arrays_handleGcHandshakeRequest hpeer hrestarts hinner
      exact ⟨hsame.recvArray.trans hrecv, hsame.sendArray.trans hsend⟩
  constructor
  · intro hsafe plain i peer hplain hpeer
    obtain ⟨peer', hpeer'⟩ := exists_peer_handleGcHandshakePacket env ipp directConn hplain hpeer
    obtain ⟨hresponse, hrequest⟩ := hsafe plain i peer peer' hplain hpeer hpeer'
    obtain ⟨hsame, harrays⟩ := hkinds plain i peer peer' hplain hpeer hpeer'
    constructor
    · intro htype hkey hestablished
      exact (hsame htype hestablished).mp (hresponse htype hkey hestablished)
    · intro htype hrestarts idx
      obtain ⟨hrecv, hsend⟩ := hrequest htype hrestarts
      obtain ⟨hrecv', hsend'⟩ := harrays htype hrestarts
      rw [hrecv', not_remains_self] at hrecv
      rw [hsend', not_remains_self] at hsend
      exact ⟨hrecv idx, hsend idx⟩
  · intro hcareful plain i peer peer' hplain hpeer hpeer'
    obtain ⟨hresponse, hrequest⟩ := hcareful plain i peer hplain hpeer
    obtain ⟨hsame, harrays⟩ := hkinds plain i peer peer' hplain hpeer hpeer'
    constructor
    · intro htype hkey hestablished
      exact (hsame htype hestablished).mpr (hresponse htype hkey hestablished)
    · intro htype hrestarts
      have hempty := hrequest htype hrestarts
      obtain ⟨hrecv', hsend'⟩ := harrays htype hrestarts
      rw [hrecv', hsend', not_remains_self, not_remains_self]
      exact ⟨fun idx => (hempty idx).1, fun idx => (hempty idx).2⟩

end GCChat

/-! ## Runs of two peers -/

inductive MemberAction where
  | doHandshakes (env : HandshakeEnv) (nonces : Nat → Nonce)
  /-- `handle_gc_handshake_packet` -/
  | handshake (env : HandshakeEnv) (senderPk : PublicKey) (ipp : Option IPPort)
      (encrypted : Sealed GCHandshakePlain) (directConn : Bool)
  /-- A lossless packet; other than the acknowledgement of a response it has the result `handled`. -/
  | lossless (env : HandshakeEnv) (senderPk : PublicKey) (handled : Bool)
      (encrypted : Sealed LosslessPlain) (directConn : Bool)
  | lossy (env : HandshakeEnv) (senderPk : PublicKey) (handled : Bool)
      (encrypted : Sealed LossyPlain) (directConn : Bool)
  /-- `send_lossless_group_packet` -/
  | send (env : HandshakeEnv) (peerNumber : Nat) (message : GroupMessage)
  /-- `gcc_resend_packets` -/
  | resend (env : HandshakeEnv) (peerNumber : Nat)
  | checkRecvArray (env : HandshakeEnv) (peerNumber : Nat) (handled : Bool)

namespace GCChat

def handshakeHelper (chat : GCChat) (env : HandshakeEnv) (handled : Bool) : LosslessHelper :=
  fun link packetType _ =>
    if packetType = gpHsResponseAck then link.handleGcHsResponseAck env chat else (handled, link)

def onPeer (chat : GCChat) (senderPk : PublicKey) (f : PeerLink → PeerLink) : GCChat :=
  match chat.getPeerNumberOfEncPk senderPk false with
  | none => chat
  | some peerNumber => chat.modifyLink peerNumber f

def act (box : CryptoBox) (chat : GCChat) : MemberAction → GCChat
  | .doHandshakes env nonces => chat.doHandshakes box env nonces
  | .handshake env senderPk ipp encrypted directConn =>
    (chat.handleGcHandshakePacket box env senderPk ipp encrypted directConn).2
  | .lossless env senderPk handled encrypted directConn =>
    chat.onPeer senderPk fun link =>
      (link.handleGcLosslessPacket env.toNgcEnv (chat.handshakeHelper env handled) encrypted directConn).2
  | .lossy env senderPk handled encrypted directConn =>
    chat.onPeer senderPk fun link =>
      (link.handleGcLossyPacket env.toNgcEnv (fun link _ _ => (handled, link)) encrypted directConn).2
  | .send env peerNumber message =>
    chat.modifyLink peerNumber fun link =>
      (link.sendLosslessGroupPacket env.toNgcEnv message.2 message.1).2
  | .resend env peerNumber =>
    chat.modifyLink peerNumber fun link => link.gccResendPackets env.toNgcEnv
  | .checkRecvArray env peerNumber handled =>
    chat.modifyLink peerNumber fun link =>
      link.gccCheckRecvArray env.toNgcEnv (chat.handshakeHelper env handled)

def hasSent (chat : GCChat) (packet : GCPacket) : Prop := ∃ peer ∈ chat.group, packet ∈ peer.link.sent

end GCChat

abbrev MemberPair := PairSide → GCChat

namespace MemberPair

variable (box : CryptoBox)

def act (pair : MemberPair) (side : PairSide) (action : MemberAction) : MemberPair :=
  Function.update pair side ((pair side).act box action)

def Sent (pair : MemberPair) (side : PairSide) : MemberAction → Prop
  | .handshake _ senderPk _ encrypted _ =>
    senderPk = (pair side.other).selfPublicKey.enc ∧
    (pair side.other).hasSent (.handshake senderPk (pair side).selfPublicKey.enc encrypted)
  | .lossless _ senderPk _ encrypted _ =>
    senderPk = (pair side.other).selfPublicKey.enc ∧ (pair side.other).hasSent (.lossless encrypted)
  | .lossy _ senderPk _ encrypted _ =>
    senderPk = (pair side.other).selfPublicKey.enc ∧ (pair side.other).hasSent (.lossy encrypted)
  | _ => True

def Good (pair : MemberPair) (side : PairSide) : MemberAction → Prop
  | .handshake env senderPk ipp encrypted directConn =>
    (pair side).HandshakeSafe box env senderPk ipp encrypted directConn
  | _ => True

def Careful (pair : MemberPair) (side : PairSide) : MemberAction → Prop
  | .handshake env senderPk ipp encrypted _ =>
    (pair side).HandshakeCareful box env senderPk ipp encrypted
  | _ => True

def Throughout (P : MemberPair → PairSide → MemberAction → Prop) :
    MemberPair → List (PairSide × MemberAction) → Prop
  | _, [] => True
  | pair, (side, action) :: run => P pair side action ∧ Throughout P (pair.act box side action) run

/-- Handshakes leave established connections alone exactly when no response finds one, and no request restarts one
    with messages. -/
theorem throughout_good_iff_careful (pair : MemberPair) (run : List (PairSide × MemberAction)) :
    pair.Throughout box (Good box) run ↔ pair.Throughout box (Careful box) run := by
  have hstep : ∀ (pair : MemberPair) (side : PairSide) (action : MemberAction),
      pair.Good box side action ↔ pair.Careful box side action := by
    intro pair side action
    cases action with
    | handshake env senderPk ipp encrypted directConn =>
      exact GCChat.handshakeSafe_iff senderPk ipp encrypted directConn
    | _ => exact Iff.rfl
  induction run generalizing pair with
  | nil => exact Iff.rfl
  | cons head run ih =>
    obtain ⟨side, action⟩ := head
    exact and_congr (hstep pair side action) (ih (pair.act box side action))

/-! ## A second copy of a response -/

def wireEnv (n : UInt8) : HandshakeEnv where
  now := 1000
  nonce := 0
  sendOk := true
  random := 0
  keypair := (key n, key n)
  netFamily := true
  udpSent := true
  tcpSent := false
  oobSent := false
  addTcpRelayConnection _ := false

def loopback : IPPort :=
  { emptyIpPort with family := toxAfInet, ip := bytesToVector 16 [127, 0, 0, 1], port := 33445 }

/-- The member with the key `n`, which has added the other member as a peer. -/
def introduced (n other : UInt8) : GCChat :=
  let chat := { emptyGcChat with
    connectionState := .connected
    selfPublicKey := { enc := key n, sig := key n }
    selfSecretKey := key n
    joinType := hjPrivate }
  let chat := (chat.peerAdd (wireEnv n).toChatEnv none (key n)).2
  (chat.peerAdd (wireEnv (n + 10)).toChatEnv (some loopback) (key other)).2

def strangers : MemberPair
  | .a => introduced 1 2
  | .b => introduced 2 1


def requestPacket : Sealed GCHandshakePlain :=
  xorBox.encryptData (key 2) (key 1) 0
    { handshakeType := ghRequest, sessionPublicKey := key 11, publicSigKey := key 1
      requestType := hsInviteRequest, joinType := hjPrivate, nodes := [] }

/-- The response of `b`. -/
def responsePacket : Sealed GCHandshakePlain :=
  xorBox.encryptData (key 1) (key 2) 0
    { handshakeType := ghResponse, sessionPublicKey := key 12, publicSigKey := key 2
      requestType := hsInviteRequest, joinType := 0, nodes := [] }

def messagePacket (packetType : UInt8) (messageId : UInt64) (data : Bytes) : Sealed LosslessPlain :=
  encryptDataSymmetric (Vector.zipWith (· ^^^ ·) (key 12) (key 11)) 0 { packetType, messageId, data }

/-- The handshake, and the first message of `b`. -/
def shakeHands : List (PairSide × MemberAction) :=
  [(.a, .doHandshakes (wireEnv 3) fun _ => 0),
   (.b, .handshake (wireEnv 3) (key 1) (some loopback) requestPacket true),
   (.b, .doHandshakes (wireEnv 3) fun _ => 0),
   (.a, .handshake (wireEnv 3) (key 2) (some loopback) responsePacket true),
   (.b, .lossless (wireEnv 3) (key 1) true (messagePacket gpHsResponseAck 2 []) true),
   (.a, .lossless (wireEnv 3) (key 2) true (messagePacket gpInviteRequest 3 []) true)]

def lateResponse : MemberAction :=
  .handshake (wireEnv 3) (key 2) (some loopback) responsePacket true

/-- The connection of `a` to `b` after a run. -/
def connection (pair : MemberPair) : Option GCConnection := ((pair .a).group[1]?).map (·.link.gconn)

def after (pair : MemberPair) : List (PairSide × MemberAction) → MemberPair
  | [] => pair
  | (side, action) :: run => after (pair.act box side action) run

theorem throughout_append {P : MemberPair → PairSide → MemberAction → Prop} (pair : MemberPair)
    (run run' : List (PairSide × MemberAction)) :
    pair.Throughout box P (run ++ run') ↔
      pair.Throughout box P run ∧ (pair.after box run).Throughout box P run' := by
  induction run generalizing pair with
  | nil => exact (iff_of_eq (true_and _)).symm
  | cons head run ih =>
    obtain ⟨side, action⟩ := head
    have hrest := ih (pair.act box side action)
    exact (and_congr_right fun _ => hrest).trans and_assoc.symm

instance (chat : GCChat) (packet : GCPacket) : Decidable (chat.hasSent packet) :=
  inferInstanceAs (Decidable (∃ peer ∈ chat.group, packet ∈ peer.link.sent))

theorem sent_shakeHands :
    strangers.Throughout xorBox Sent (shakeHands ++ [(.a, lateResponse)]) := by
  refine ⟨trivial, ?_, trivial, ?_, ?_, ?_, ?_, trivial⟩
  all_goals
    show _ = _ ∧ GCChat.hasSent _ _
    decide +kernel

/-- A second copy of a response sets the counter of received messages back. -/
theorem not_throughout_good :
    strangers.Throughout xorBox Sent (shakeHands ++ [(.a, lateResponse)]) ∧
      ¬strangers.Throughout xorBox (Good xorBox) (shakeHands ++ [(.a, lateResponse)]) := by
  refine ⟨sent_shakeHands, ?_⟩
  intro h
  obtain ⟨-, hlate, -⟩ := (throughout_append xorBox strangers shakeHands _).mp h
  -- the connection before the copy, which is established, and after it
  have hbefore : (connection (strangers.after xorBox shakeHands)).map (fun gconn =>
      (gconn.publicKey.enc, gconn.handshaked, gconn.receivedMessageId)) = some (key 2, true, 3) := by
    decide +kernel
  have hafter : (connection ((strangers.after xorBox shakeHands).act xorBox .a lateResponse)).map
      (fun gconn => gconn.receivedMessageId) = some 2 := by
    decide +kernel
  rw [connection, Option.map_map, Option.map_eq_some_iff] at hbefore hafter
  obtain ⟨peer, hpeer, hfields⟩ := hbefore
  obtain ⟨peer', hpeer', hreceived⟩ := hafter
  injection hfields with hkey hfields
  injection hfields with hhandshaked hthree
  have hestablished : peer.link.gconn.Established := by
    refine ⟨hhandshaked, ?_⟩
    rw [show peer.link.gconn.receivedMessageId = 3 from hthree]
    decide
  have hplain : xorBox.decryptData (key 2) ((strangers.after xorBox shakeHands) .a).selfSecretKey
      responsePacket.nonce responsePacket = some responsePacket.plain := by
    decide +kernel
  obtain ⟨hsame, -⟩ := hlate responsePacket.plain 1 peer peer' hplain hpeer hpeer'
  have heq := (hsame rfl hkey hestablished).received
  rw [show peer'.link.gconn.receivedMessageId = 2 from hreceived,
    show peer.link.gconn.receivedMessageId = 3 from hthree] at heq
  exact absurd heq (by decide)

end MemberPair

end Toxcore
