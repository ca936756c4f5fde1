import Toxcore.Native.NgcPeers

/-!
# What sending leaves alone

A function that sends a packet to a peer of a group changes the messages that wait for an
acknowledgement, and nothing else of the connection.
-/

namespace Toxcore

def GCConnection.core (gconn : GCConnection) : GCConnection :=
  { gconn with sendMessageId := 0, sendArrayStart := 0, sendArray := emptyMessageArray }

namespace GCConnection

variable {gconn gconn' : GCConnection}

theorem core_addToSendArray (gconn : GCConnection) (env : NgcEnv) (data : Bytes) (packetType : UInt8) :
    (gconn.addToSendArray env data packetType).2.core = gconn.core := by
  rw [addToSendArray]
  split
  · rfl
  split <;> rfl

theorem publicKey_of_core (h : gconn'.core = gconn.core) : gconn'.publicKey = gconn.publicKey := by
  have hkey := congrArg GCConnection.publicKey h
  exact hkey

theorem confirmed_of_core (h : gconn'.core = gconn.core) : gconn'.confirmed = gconn.confirmed := by
  have hconfirmed := congrArg GCConnection.confirmed h
  exact hconfirmed

end GCConnection

namespace PeerLink

variable {link : PeerLink}

theorem gconn_gccEncryptAndSendLosslessPacket (link : PeerLink) (env : NgcEnv) (data : Bytes)
    (messageId : UInt64) (packetType : UInt8) :
    (link.gccEncryptAndSendLosslessPacket env data messageId packetType).2.gconn = link.gconn := by
  rw [gccEncryptAndSendLosslessPacket]
  split
  · rfl
  split <;> rfl

theorem core_gccSendLosslessPacket (link : PeerLink) (env : NgcEnv) (data : Bytes) (packetType : UInt8) :
    (link.gccSendLosslessPacket env data packetType).2.gconn.core = link.gconn.core := by
  have hadd := GCConnection.core_addToSendArray link.gconn env data packetType
  rw [gccSendLosslessPacket]
  split
  · rename_i gconn heq
    rw [heq] at hadd
    exact hadd
  · rename_i gconn heq
    rw [heq] at hadd
    have hsend := gconn_gccEncryptAndSendLosslessPacket (link.withConn gconn) env data
      link.gconn.sendMessageId packetType
    split
    · rename_i link' hlink'
      rw [hlink'] at hsend
      rw [hsend]
      exact hadd
    · rename_i link' hlink'
      rw [hlink'] at hsend
      rw [hsend]
      exact hadd

theorem core_addChunks (env : NgcEnv) (chunks : List Bytes) (gconn : GCConnection) :
    (addChunks env chunks gconn).2.core = gconn.core := by
  induction chunks generalizing gconn with
  | nil => rfl
  | cons chunk chunks ih =>
    have hadd := GCConnection.core_addToSendArray gconn env chunk gpFragment
    rw [addChunks]
    split
    · rename_i gconn' heq
      rw [heq] at hadd
      exact hadd
    · rename_i gconn' heq
      rw [heq] at hadd
      rw [ih]
      exact hadd

theorem gconn_sendChunks (env : NgcEnv) (slots : List Nat) (link : PeerLink) :
    (sendChunks env slots link).2.gconn = link.gconn := by
  induction slots generalizing link with
  | nil => rfl
  | cons idx slots ih =>
    rw [sendChunks]
    split
    · rfl
    · rw [ih, sendEntry, gconn_gccEncryptAndSendLosslessPacket]

theorem core_gccSendLosslessPacketFragments (env : NgcEnv) (data : Bytes) (packetType : UInt8) :
    (link.gccSendLosslessPacketFragments env data packetType).2.gconn.core = link.gconn.core := by
  have hfirst := GCConnection.core_addToSendArray link.gconn env (firstChunk data packetType) gpFragment
  rw [gccSendLosslessPacketFragments]
  split
  · rfl
  dsimp only
  split
  · rename_i gconn heq
    rw [heq] at hfirst
    exact hfirst
  · rename_i gconn heq
    rw [heq] at hfirst
    have hrest := core_addChunks env (laterChunks data) gconn
    split
    · rename_i gconn' heq'
      rw [heq'] at hrest
      show (gconn'.clearSendQueueIdRange _ _).core = _
      exact hrest.trans hfirst
    · rename_i gconn' heq'
      rw [heq'] at hrest
      rw [gconn_sendChunks]
      exact hrest.trans hfirst

theorem core_sendLosslessGroupPacket (link : PeerLink) (env : NgcEnv) (data : Bytes) (packetType : UInt8) :
    (link.sendLosslessGroupPacket env data packetType).2.gconn.core = link.gconn.core := by
  have hsend := core_gccSendLosslessPacket link env data packetType
  rw [sendLosslessGroupPacket]
  split
  · rfl
  split
  · exact core_gccSendLosslessPacketFragments env data packetType
  · split
    · rename_i link' heq
      rw [heq] at hsend
      exact hsend
    · rename_i link' _ heq
      rw [heq] at hsend
      exact hsend

end PeerLink

namespace GCChat

variable {chat : GCChat}

def roster (chat : GCChat) : List (ExtPublicKey × Bool) :=
  chat.group.map fun peer => (peer.link.gconn.publicKey, peer.link.gconn.confirmed)

def confirmedKeys (chat : GCChat) : List ExtPublicKey := (chat.roster.filter (·.2)).map (·.1)

theorem roster_modifyLink {peerNumber : Nat} {f : PeerLink → PeerLink}
    (h : ∀ peer, chat.group[peerNumber]? = some peer →
      (f peer.link).gconn.publicKey = peer.link.gconn.publicKey ∧
      (f peer.link).gconn.confirmed = peer.link.gconn.confirmed) :
    (chat.modifyLink peerNumber f).roster = chat.roster := by
  apply List.ext_getElem?
  intro i
  simp only [roster, modifyLink, List.getElem?_map, List.getElem?_modify]
  cases hpeer : chat.group[i]? with
  | none => simp
  | some peer =>
    by_cases hi : peerNumber = i
    · obtain ⟨hkey, hconfirmed⟩ := h peer (hi ▸ hpeer)
      simp [hi, hkey, hconfirmed]
    · simp [hi]

theorem roster_sendOn (chat : GCChat) (peerNumber : Nat) {f : PeerLink → Bool × PeerLink}
    (h : ∀ link, (f link).2.gconn.core = link.gconn.core) :
    (chat.sendOn peerNumber f).2.roster = chat.roster := by
  rw [sendOn]
  split
  · rfl
  · apply roster_modifyLink
    intro peer _
    exact ⟨GCConnection.publicKey_of_core (h peer.link), GCConnection.confirmed_of_core (h peer.link)⟩

end GCChat

end Toxcore
