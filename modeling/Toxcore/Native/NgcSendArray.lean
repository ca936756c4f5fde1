import Toxcore.Native.NgcConnection

/-!
# The send array when memory runs out

`add_to_send_array` and `gcc_send_lossless_packet_fragments` of `group_connection.c`, with the results of
`malloc`.  Where all allocations succeed, they are `addToSendArray` and `gccSendLosslessPacketFragments`.
-/

namespace Toxcore

namespace GCConnection

variable (gconn : GCConnection)

/-- `add_to_send_array`; an empty message needs no `malloc`. -/
def addToSendArrayAlloc (env : NgcEnv) (alloc : Bool) (data : Bytes) (packetType : UInt8) :
    Bool × GCConnection :=
  let idx := gccGetArrayIndex gconn.sendMessageId
  if idx = (gconn.sendArrayStart - 1).toNat then (false, gconn)
  else if !(gconn.sendArray idx).isEmpty then (false, gconn)
  else if decide (data.length > 0) && !alloc then (false, gconn)
  else
    (true,
      { gconn with
        sendArray := Function.update gconn.sendArray idx
          (createArrayEntry env data packetType gconn.sendMessageId)
        sendMessageId := gconn.sendMessageId + 1 })

theorem addToSendArrayAlloc_true (env : NgcEnv) (data : Bytes) (packetType : UInt8) :
    gconn.addToSendArrayAlloc env true data packetType = gconn.addToSendArray env data packetType := by
  simp [addToSendArrayAlloc, addToSendArray]

end GCConnection

namespace PeerLink

variable (link : PeerLink) (env : NgcEnv)

/-- Adds chunks to the send array until one does not fit; `allocs j` is whether the `j`-th `malloc` succeeds. -/
def addChunksAlloc (allocs : Nat → Bool) : (j : Nat) → List Bytes → GCConnection → Bool × GCConnection
  | _, [], gconn => (true, gconn)
  | j, chunk :: chunks, gconn =>
    match gconn.addToSendArrayAlloc env (allocs j) chunk gpFragment with
    | (false, gconn) => (false, gconn)
    | (true, gconn) => addChunksAlloc allocs (j + 1) chunks gconn

def gccSendLosslessPacketFragmentsAlloc (allocs : Nat → Bool) (data : Bytes) (packetType : UInt8) :
    Bool × PeerLink :=
  if data.length ≤ maxGcPacketChunkSize then (false, link)
  else
    -- `start_id` has only 16 bits
    let startId := link.gconn.sendMessageId.toUInt16.toUInt64
    match link.gconn.addToSendArrayAlloc env (allocs 0) (firstChunk data packetType) gpFragment with
    | (false, gconn) => (false, link.withConn gconn)
    | (true, gconn) =>
      match addChunksAlloc env allocs 1 (laterChunks data) gconn with
      | (false, gconn) =>
        (false, link.withConn (gconn.clearSendQueueIdRange startId gconn.sendMessageId))
      | (true, gconn) =>
        sendChunks env
          (slotRange (gccGetArrayIndex startId) (gccGetArrayIndex gconn.sendMessageId))
          (link.withConn gconn)

theorem addChunksAlloc_true (j : Nat) (chunks : List Bytes) (gconn : GCConnection) :
    addChunksAlloc env (fun _ => true) j chunks gconn = addChunks env chunks gconn := by
  induction chunks generalizing j gconn with
  | nil => rfl
  | cons chunk chunks ih =>
    rw [addChunksAlloc, addChunks, GCConnection.addToSendArrayAlloc_true]
    generalize gconn.addToSendArray env chunk gpFragment = added
    obtain ⟨ok, gconn⟩ := added
    cases ok with
    | false => rfl
    | true => exact ih _ _

theorem gccSendLosslessPacketFragmentsAlloc_true (data : Bytes) (packetType : UInt8) :
    link.gccSendLosslessPacketFragmentsAlloc env (fun _ => true) data packetType =
      link.gccSendLosslessPacketFragments env data packetType := by
  rw [gccSendLosslessPacketFragmentsAlloc]
  simp only [addChunksAlloc_true] <;> rfl

/-- `gcc_send_lossless_packet`; `alloc` is whether the `malloc` of the array entry succeeds. -/
def gccSendLosslessPacketAlloc (alloc : Bool) (data : Bytes) (packetType : UInt8) : SendLossless × PeerLink :=
  let messageId := link.gconn.sendMessageId
  match link.gconn.addToSendArrayAlloc env alloc data packetType with
  | (false, gconn) => (.notAdded, link.withConn gconn)
  | (true, gconn) =>
    match (link.withConn gconn).gccEncryptAndSendLosslessPacket env data messageId packetType with
    | (false, link) => (.notSent, link)
    | (true, link) => (.sent, link)

theorem gccSendLosslessPacketAlloc_true (data : Bytes) (packetType : UInt8) :
    link.gccSendLosslessPacketAlloc env true data packetType =
      link.gccSendLosslessPacket env data packetType := by
  rw [gccSendLosslessPacketAlloc]
  simp only [GCConnection.addToSendArrayAlloc_true] <;> rfl

end PeerLink

end Toxcore
