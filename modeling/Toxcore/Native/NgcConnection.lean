import Toxcore.Native.NgcModeration

/-!
# Connections to the peers of a group

`GC_Connection` and `group_connection.c`: the send array, the receive array, fragments,
acknowledgements and re-sends of the lossless packets between two peers of a group.

A message with id `id` lives in slot `id % GCC_BUFFER_SIZE` of an array.  The arrays are
functions from slots to entries, and an entry is empty when its `time_added` is zero.

A function that sends packets works on a `PeerLink`, which holds the connection and the
packets sent so far.  What a function takes from the outside is its `NgcEnv`.  The handler
`handle_gc_lossless_helper`, which may change the connection, is a parameter.
-/

namespace Toxcore

/-! ## Constants -/

def gccBufferSize : Nat := 8192

def maxGcPacketChunkSize : Nat := 1372

def maxGcPacketSize : Nat := 500 * 100

def gcPingTimeout : UInt64 := 12

def gcConfirmedPeerTimeout : UInt64 := gcPingTimeout * 4 + 10

def gpMessageAck : UInt8 := 0x02

def gpFragment : UInt8 := 0xef

def gpKeyRotation : UInt8 := 0xf0

def gpBroadcast : UInt8 := 0xf3

def gpInviteRequest : UInt8 := 0xf6

def gpInviteResponse : UInt8 := 0xf7

def gpInviteResponseReject : UInt8 := 0x03

def gpHsResponseAck : UInt8 := 0xff

def grAckRecv : UInt8 := 0

def grAckReq : UInt8 := 1

/-! ## Packets -/

/-- An extended public key: the encryption key and the signature key of a peer. -/
structure ExtPublicKey where
  enc : PublicKey
  sig : SigPublicKey
deriving DecidableEq

/-- The plaintext of a lossless packet, without padding. -/
structure LosslessPlain where
  packetType : UInt8
  messageId : UInt64
  data : Bytes
deriving DecidableEq

/-- The plaintext of a lossy packet, without padding. -/
structure LossyPlain where
  packetType : UInt8
  data : Bytes
deriving DecidableEq

/-- The plaintext of a handshake packet; `nodes` is the packed TCP relay. -/
structure GCHandshakePlain where
  handshakeType : UInt8
  sessionPublicKey : PublicKey
  publicSigKey : SigPublicKey
  requestType : UInt8
  joinType : UInt8
  nodes : Bytes
deriving DecidableEq

/-- A packet between two peers of a group. -/
inductive GCPacket where
  /-- `NET_PACKET_GC_LOSSLESS` -/
  | lossless (encrypted : Sealed LosslessPlain)
  /-- `NET_PACKET_GC_LOSSY` -/
  | lossy (encrypted : Sealed LossyPlain)
  /-- `NET_PACKET_GC_HANDSHAKE` with the keys of its header. -/
  | handshake (senderPk targetPk : PublicKey) (encrypted : Sealed GCHandshakePlain)
deriving DecidableEq

/-! ## The connection -/

/-- `GC_Message_Array_Entry`; `data` holds the `data_length` bytes in use. -/
structure GCMessageArrayEntry where
  data : Bytes
  packetType : UInt8
  messageId : UInt64
  timeAdded : UInt64
  lastSendTry : UInt64
deriving DecidableEq

/-- A cleared entry. -/
def emptyArrayEntry : GCMessageArrayEntry :=
  { data := [], packetType := 0, messageId := 0, timeAdded := 0, lastSendTry := 0 }

def GCMessageArrayEntry.isEmpty (entry : GCMessageArrayEntry) : Bool := entry.timeAdded == 0

/-- `send_array` or `recv_array`, by slot. -/
abbrev MessageArray := Nat → GCMessageArrayEntry

/-- A new array. -/
def emptyMessageArray : MessageArray := fun _ => emptyArrayEntry

def MessageArray.clear (array : MessageArray) (idx : Nat) : MessageArray :=
  Function.update array idx emptyArrayEntry

structure GCConnection where
  /-- The id of the next message we send to the peer. -/
  sendMessageId : UInt64
  /-- The slot of the oldest message in `sendArray`. -/
  sendArrayStart : UInt16
  sendArray : MessageArray
  /-- The id of the last message of the peer. -/
  receivedMessageId : UInt64
  recvArray : MessageArray
  /-- The id of the last fragment of an unfinished message, else zero. -/
  lastChunkId : UInt64
  publicKey : ExtPublicKey
  ipPort : IPPort
  sessionPublicKey : PublicKey
  sessionSecretKey : SecretKey
  sessionSharedKey : SharedKey
  tcpRelays : List NodeFormat
  lastReceivedDirectTime : UInt64
  lastReceivedPacketTime : UInt64
  lastRequestedPacketTime : UInt64
  lastSentPingTime : UInt64
  lastSyncResponse : UInt64
  selfIsCloser : Bool
  confirmed : Bool
  handshaked : Bool
  handshakeAttempts : UInt16
  lastHandshakeRequest : UInt64
  lastHandshakeResponse : UInt64
  pendingHandshakeType : UInt8
  isPendingHandshakeResponse : Bool
  isOobHandshake : Bool
  lastKeyRotation : UInt64
  pendingKeyRotationRequest : Bool
  pendingDelete : Bool

/-- A connection of zero bytes with new arrays. -/
def zeroGCConnection : GCConnection where
  sendMessageId := 0
  sendArrayStart := 0
  sendArray := emptyMessageArray
  receivedMessageId := 0
  recvArray := emptyMessageArray
  lastChunkId := 0
  publicKey := { enc := Vector.replicate _ 0, sig := Vector.replicate _ 0 }
  ipPort := emptyIpPort
  sessionPublicKey := Vector.replicate _ 0
  sessionSecretKey := Vector.replicate _ 0
  sessionSharedKey := Vector.replicate _ 0
  tcpRelays := []
  lastReceivedDirectTime := 0
  lastReceivedPacketTime := 0
  lastRequestedPacketTime := 0
  lastSentPingTime := 0
  lastSyncResponse := 0
  selfIsCloser := false
  confirmed := false
  handshaked := false
  handshakeAttempts := 0
  lastHandshakeRequest := 0
  lastHandshakeResponse := 0
  pendingHandshakeType := 0
  isPendingHandshakeResponse := false
  isOobHandshake := false
  lastKeyRotation := 0
  pendingKeyRotationRequest := false
  pendingDelete := false

/-- What a connection takes from outside: the clock, a nonce and the result of `gcc_send_packet`. -/
structure NgcEnv where
  /-- `mono_time_get` -/
  now : UInt64
  nonce : Nonce
  sendOk : Bool

/-- A connection, its sent packets, and what `handle_gc_lossless_helper` was given. -/
structure PeerLink where
  gconn : GCConnection
  sent : List GCPacket
  handed : List (UInt8 × Bytes)

/-- `handle_gc_lossless_helper` for one connection. -/
abbrev LosslessHelper := PeerLink → (packetType : UInt8) → (data : Bytes) → Bool × PeerLink

/-- `mono_time_is_timeout` -/
def NgcEnv.isTimeout (env : NgcEnv) (timestamp timeout : UInt64) : Bool :=
  decide (timestamp + timeout ≤ env.now)

def gccGetArrayIndex (messageId : UInt64) : Nat := messageId.toNat % gccBufferSize

/-- The values of `i` in `for (i = start; i != end; i = (i + 1) % GCC_BUFFER_SIZE)`. -/
def slotRange (start stop : Nat) : List Nat :=
  (List.range ((stop + gccBufferSize - start) % gccBufferSize)).map fun k => (start + k) % gccBufferSize

namespace GCConnection

variable (gconn : GCConnection)

def gccSetSendMessageId (id : UInt64) : GCConnection :=
  { gconn with sendMessageId := id, sendArrayStart := UInt16.ofNat (id.toNat % gccBufferSize) }

def gccSetRecvMessageId (id : UInt64) : GCConnection := { gconn with receivedMessageId := id }

/-- `gcc_mark_for_deletion`; the exit information is not modelled. -/
def gccMarkForDeletion : GCConnection := { gconn with pendingDelete := true }

def gccMakeSessionSharedKey (box : CryptoBox) (senderPk : PublicKey) : GCConnection :=
  { gconn with
    sessionSharedKey :=
      box.encryptPrecompute senderPk gconn.sessionSecretKey gconn.sessionSharedKey }

/-! ## The send array -/

def clearSendQueueIdRange (startId endId : UInt64) : GCConnection :=
  { gconn with
    sendArray :=
      (slotRange (gccGetArrayIndex startId) (gccGetArrayIndex endId)).foldl MessageArray.clear gconn.sendArray
    sendMessageId := startId }

/-- The entry that `create_array_entry` makes; allocations do not fail. -/
def createArrayEntry (env : NgcEnv) (data : Bytes) (packetType : UInt8) (messageId : UInt64) :
    GCMessageArrayEntry :=
  { data, packetType, messageId, timeAdded := env.now, lastSendTry := env.now }

def addToSendArray (env : NgcEnv) (data : Bytes) (packetType : UInt8) : Bool × GCConnection :=
  let idx := gccGetArrayIndex gconn.sendMessageId
  -- with `sendArrayStart = 0` the right side is 65535 and the array is never full
  if idx = (gconn.sendArrayStart - 1).toNat then (false, gconn)
  else if !(gconn.sendArray idx).isEmpty then (false, gconn)
  else
    (true,
      { gconn with
        sendArray := Function.update gconn.sendArray idx
          (createArrayEntry env data packetType gconn.sendMessageId)
        sendMessageId := gconn.sendMessageId + 1 })

/-- The loop of `gcc_handle_ack` that moves `send_array_start` over empty entries. -/
def advanceSendArrayStart (array : MessageArray) (stop : Nat) :
    (fuel : Nat) → (sendArrayStart : UInt16) → UInt16
  | 0, sendArrayStart => sendArrayStart
  | fuel + 1, sendArrayStart =>
    if (array sendArrayStart.toNat).isEmpty ∧ sendArrayStart.toNat ≠ stop then
      advanceSendArrayStart array stop fuel (UInt16.ofNat ((sendArrayStart.toNat + 1) % gccBufferSize))
    else sendArrayStart

/-- `gcc_handle_ack`.  The loop ends after at most `GCC_BUFFER_SIZE` rounds. -/
def gccHandleAck (messageId : UInt64) : Bool × GCConnection :=
  let idx := gccGetArrayIndex messageId
  if (gconn.sendArray idx).isEmpty then (true, gconn)
  else if (gconn.sendArray idx).messageId ≠ messageId then (false, gconn)
  else
    let array := gconn.sendArray.clear idx
    let sendArrayStart :=
      if idx = gconn.sendArrayStart.toNat then
        advanceSendArrayStart array (gccGetArrayIndex gconn.sendMessageId) gccBufferSize gconn.sendArrayStart
      else gconn.sendArrayStart
    (true, { gconn with sendArray := array, sendArrayStart })

/-! ## The receive array -/

def storeInRecvArray (env : NgcEnv) (data : Bytes) (packetType : UInt8) (messageId : UInt64) :
    Bool × GCConnection :=
  let idx := gccGetArrayIndex messageId
  if !(gconn.recvArray idx).isEmpty then (false, gconn)
  else
    (true,
      { gconn with
        recvArray :=
          Function.update gconn.recvArray idx (createArrayEntry env data packetType messageId) })

/-- The backward search of `reassemble_packet`: the slot where it stops and the length it passed; `none` is an
    error. It is back at `endIdx` after at most `GCC_BUFFER_SIZE` rounds. -/
def reassembleSearch (array : MessageArray) (endIdx : Nat) :
    (fuel : Nat) → (startIdx packetLength : Nat) → Option (Nat × Nat)
  | 0, _, _ => none
  | fuel + 1, startIdx, packetLength =>
    let entry := array startIdx
    if entry.isEmpty ∨ entry.packetType ≠ gpFragment then some (startIdx, packetLength)
    else
      let packetLength := packetLength + entry.data.length
      if packetLength > maxGcPacketSize then none
      else
        let startIdx := if startIdx > 0 then startIdx - 1 else gccBufferSize - 1
        if startIdx = endIdx then none
        else reassembleSearch array endIdx fuel startIdx packetLength

def reassemblePacket (messageId : UInt64) : Option (Bytes × GCConnection) :=
  let endIdx := gccGetArrayIndex (messageId - 1)
  match reassembleSearch gconn.recvArray endIdx gccBufferSize endIdx 0 with
  | none => none
  | some (startIdx, packetLength) =>
    if packetLength = 0 then none
    else
      let slots := slotRange ((startIdx + 1) % gccBufferSize) ((endIdx + 1) % gccBufferSize)
      some (slots.flatMap fun i => (gconn.recvArray i).data,
        { gconn with recvArray := slots.foldl MessageArray.clear gconn.recvArray })

/-- The results of `gcc_handle_received_message`, from `-1` to `3`. -/
inductive ReceivedMessage where
  | failure
  | duplicate
  | stored
  | inSequence
  | fragment
deriving DecidableEq

def gccHandleReceivedMessage (env : NgcEnv) (data : Bytes) (packetType : UInt8)
    (messageId : UInt64) (directConn : Bool) : ReceivedMessage × GCConnection :=
  let gconn := if directConn then { gconn with lastReceivedDirectTime := env.now } else gconn
  if messageId < gconn.receivedMessageId + 1 then (.duplicate, gconn)
  else if packetType = gpFragment then (.fragment, gconn)
  else if messageId > gconn.receivedMessageId + 1 then
    match gconn.storeInRecvArray env data packetType messageId with
    | (false, gconn) => (.failure, gconn)
    | (true, gconn) => (.stored, gconn)
  else (.inSequence, gconn.gccSetRecvMessageId (gconn.receivedMessageId + 1))

end GCConnection

namespace PeerLink

variable (link : PeerLink) (env : NgcEnv)

/-- Replaces the connection. -/
def withConn (gconn : GCConnection) : PeerLink := { link with gconn }

/-! ## Sending -/

def gccEncryptAndSendLosslessPacket (data : Bytes) (messageId : UInt64) (packetType : UInt8) :
    Bool × PeerLink :=
  if data.length > maxGcPacketChunkSize then (false, link)
  else if !env.sendOk then (false, link)
  else
    (true, { link with sent := link.sent ++ [.lossless (encryptDataSymmetric
      link.gconn.sessionSharedKey env.nonce { packetType, messageId, data })] })

def sendEntry (idx : Nat) : Bool × PeerLink :=
  let entry := link.gconn.sendArray idx
  link.gccEncryptAndSendLosslessPacket env entry.data entry.messageId entry.packetType

/-- The results of `gcc_send_lossless_packet`: `0`, `-1` and `-2`. -/
inductive SendLossless where
  | sent
  | notAdded
  | notSent
deriving DecidableEq

def gccSendLosslessPacket (data : Bytes) (packetType : UInt8) : SendLossless × PeerLink :=
  let messageId := link.gconn.sendMessageId
  match link.gconn.addToSendArray env data packetType with
  | (false, gconn) => (.notAdded, link.withConn gconn)
  | (true, gconn) =>
    match (link.withConn gconn).gccEncryptAndSendLosslessPacket env data messageId packetType with
    | (false, link) => (.notSent, link)
    | (true, link) => (.sent, link)

/-- The first chunk of `gcc_send_lossless_packet_fragments`: the packet type and the first bytes. -/
def firstChunk (data : Bytes) (packetType : UInt8) : Bytes :=
  packetType :: data.take (maxGcPacketChunkSize - 1)

/-- The chunks of `gcc_send_lossless_packet_fragments`; the length of the data is enough fuel. -/
def restChunks : (fuel : Nat) → Bytes → List Bytes
  | 0, _ => []
  | fuel + 1, data =>
    if data.length = 0 then []
    else data.take maxGcPacketChunkSize :: restChunks fuel (data.drop maxGcPacketChunkSize)

/-- The chunks after the first one; an empty chunk signals the end of the sequence. -/
def laterChunks (data : Bytes) : List Bytes :=
  restChunks data.length (data.drop (maxGcPacketChunkSize - 1)) ++ [[]]

/-- Adds chunks to the send array until one does not fit. -/
def addChunks : List Bytes → GCConnection → Bool × GCConnection
  | [], gconn => (true, gconn)
  | chunk :: chunks, gconn =>
    match gconn.addToSendArray env chunk gpFragment with
    | (false, gconn) => (false, gconn)
    | (true, gconn) => addChunks chunks gconn

/-- The loop that sends the chunks in the slots of the send array. -/
def sendChunks : List Nat → PeerLink → Bool × PeerLink
  | [], link => (true, link)
  | idx :: slots, link =>
    if (link.gconn.sendArray idx).isEmpty then (false, link)
    else sendChunks slots (link.sendEntry env idx).2

def gccSendLosslessPacketFragments (data : Bytes) (packetType : UInt8) : Bool × PeerLink :=
  if data.length ≤ maxGcPacketChunkSize then (false, link)
  else
    -- `start_id` has only 16 bits
    let startId := link.gconn.sendMessageId.toUInt16.toUInt64
    match link.gconn.addToSendArray env (firstChunk data packetType) gpFragment with
    | (false, gconn) => (false, link.withConn gconn)
    | (true, gconn) =>
      match addChunks env (laterChunks data) gconn with
      | (false, gconn) =>
        (false, link.withConn (gconn.clearSendQueueIdRange startId gconn.sendMessageId))
      | (true, gconn) =>
        sendChunks env
          (slotRange (gccGetArrayIndex startId) (gccGetArrayIndex gconn.sendMessageId))
          (link.withConn gconn)

def sendLosslessGroupPacket (data : Bytes) (packetType : UInt8) : Bool × PeerLink :=
  if !link.gconn.handshaked || link.gconn.pendingDelete then (false, link)
  else if data.length > maxGcPacketChunkSize then
    link.gccSendLosslessPacketFragments env data packetType
  else
    match link.gccSendLosslessPacket env data packetType with
    | (.sent, link) => (true, link)
    | (_, link) => (false, link)

def sendLossyGroupPacket (data : Bytes) (packetType : UInt8) : Bool × PeerLink :=
  if !link.gconn.handshaked || link.gconn.pendingDelete then (false, link)
  else if data.length = 0 then (false, link)
  else if data.length > maxGcPacketChunkSize then (false, link)
  else if !env.sendOk then (false, link)
  else
    (true, { link with sent := link.sent ++ [.lossy (encryptDataSymmetric
      link.gconn.sessionSharedKey env.nonce { packetType, data })] })

/-! ## Acknowledgements -/

/-- The data of an acknowledgement packet. -/
def ackData (type : UInt8) (messageId : UInt64) : Bytes := type :: netPackU64 messageId

def gcSendMessageAckRecv (messageId : UInt64) : Bool × PeerLink :=
  if link.gconn.pendingDelete then (true, link)
  else link.sendLossyGroupPacket env (ackData grAckRecv messageId) gpMessageAck

def gcSendMessageAckReq (messageId : UInt64) : Bool × PeerLink :=
  if link.gconn.pendingDelete then (true, link)
  else if link.gconn.lastRequestedPacketTime = env.now then (true, link)
  else
    (link.withConn { link.gconn with lastRequestedPacketTime := env.now }).sendLossyGroupPacket env
      (ackData grAckReq messageId) gpMessageAck

def handleGcMessageAck (data : Bytes) : Bool × PeerLink :=
  if data.length < 9 then (false, link)
  else
    let messageId := netUnpackU64 (data.drop 1)
    let type := data.getD 0 0
    if type = grAckRecv then
      match link.gconn.gccHandleAck messageId with
      | (ok, gconn) => (ok, link.withConn gconn)
    else if type ≠ grAckReq then (true, link)
    else
      let idx := gccGetArrayIndex messageId
      if (link.gconn.sendArray idx).messageId ≠ messageId then (true, link)
      else
        match link.sendEntry env idx with
        | (false, link) => (false, link)
        | (true, link) =>
          (true, link.withConn { link.gconn with
            sendArray := Function.update link.gconn.sendArray idx
              { link.gconn.sendArray idx with lastSendTry := env.now } })

def isPowerOf2 (x : UInt64) : Bool := x != 0 && (x &&& (~~~x + 1)) == x

/-- One round of the loop of `gcc_resend_packets`. -/
def resendEntry (idx : Nat) : PeerLink :=
  let entry := link.gconn.sendArray idx
  if entry.isEmpty then link
  else if env.now = entry.lastSendTry then link
  else
    let delta := entry.lastSendTry - entry.timeAdded
    let link := link.withConn { link.gconn with
      sendArray := Function.update link.gconn.sendArray idx { entry with lastSendTry := env.now } }
    if delta > 1 && isPowerOf2 delta then (link.sendEntry env idx).2 else link

def gccResendPackets : PeerLink :=
  let start := link.gconn.sendArrayStart.toNat
  let entry := link.gconn.sendArray start
  if entry.isEmpty then link
  else if env.isTimeout entry.timeAdded gcConfirmedPeerTimeout then
    link.withConn link.gconn.gccMarkForDeletion
  else
    (slotRange start (gccGetArrayIndex link.gconn.sendMessageId)).foldl
      (fun link idx => link.resendEntry env idx) link

/-! ## Receiving -/

variable (helper : LosslessHelper)

/-- A call of `handle_gc_lossless_helper`. -/
def callHelper (packetType : UInt8) (data : Bytes) : Bool × PeerLink :=
  helper { link with handed := link.handed ++ [(packetType, data)] } packetType data

/-- The results of `gcc_handle_packet_fragment`: `1`, `0` and `-1`. -/
inductive FragmentResult where
  | unfinished
  | finished
  | failure
deriving DecidableEq

def gccHandlePacketFragment (chunk : Bytes) (packetType : UInt8) (messageId : UInt64) :
    FragmentResult × PeerLink :=
  if chunk.length > 0 then
    match link.gconn.storeInRecvArray env chunk packetType messageId with
    | (false, gconn) => (.failure, link.withConn gconn)
    | (true, gconn) =>
      (.unfinished, link.withConn { gconn.gccSetRecvMessageId (gconn.receivedMessageId + 1) with
        lastChunkId := messageId })
  else
    match link.gconn.reassemblePacket messageId with
    | none => (.failure, link)
    | some (payload, gconn) =>
      match (link.withConn gconn).callHelper helper (payload.getD 0 0) (payload.drop 1) with
      | (false, link) => (.failure, link)
      | (true, link) =>
        (.finished, link.withConn
          { link.gconn.gccSetRecvMessageId (link.gconn.receivedMessageId + 1) with lastChunkId := 0 })

def handleGcPacketFragment (data : Bytes) (packetType : UInt8) (messageId : UInt64) :
    Bool × PeerLink :=
  let gconn := link.gconn
  if gconn.lastChunkId ≠ 0 ∧ messageId ≠ gconn.lastChunkId + 1 then
    link.gcSendMessageAckReq env (gconn.lastChunkId + 1)
  else if gconn.lastChunkId = 0 ∧ messageId ≠ gconn.receivedMessageId + 1 then
    link.gcSendMessageAckReq env (gconn.receivedMessageId + 1)
  else
    match link.gccHandlePacketFragment env helper data packetType messageId with
    | (.failure, link) => (false, link)
    | (result, link) =>
      let link := if result = .finished then (link.gcSendMessageAckRecv env messageId).2 else link
      (true, link.withConn { link.gconn with lastReceivedPacketTime := env.now })

/-- Whether the packet belongs to the invite exchange. -/
def isInvitePacket (packetType : UInt8) : Bool :=
  packetType == gpInviteRequest || packetType == gpInviteResponse || packetType == gpInviteResponseReject

def handleGcLosslessPacket (encrypted : Sealed LosslessPlain) (directConn : Bool) :
    Bool × PeerLink :=
  if link.gconn.pendingDelete then (true, link)
  else
    match decryptDataSymmetric link.gconn.sessionSharedKey encrypted.nonce encrypted with
    | none => (false, link)
    | some ⟨packetType, messageId, data⟩ =>
      if !link.gconn.handshaked && packetType != gpHsResponseAck && packetType != gpInviteRequest then
        (false, link)
      else if messageId = 3 ∧ isInvitePacket packetType ∧ link.gconn.receivedMessageId ≤ 1 then
        -- we missed the initial handshake request
        (false, link)
      else
        match link.gconn.gccHandleReceivedMessage env data packetType messageId directConn with
        | (result, gconn) =>
          let link := link.withConn gconn
          if packetType = gpInviteRequest ∧ !gconn.handshaked then (true, link)
          else
            match result with
            | .failure => (false, link)
            | .duplicate => link.gcSendMessageAckRecv env messageId
            | .stored => link.gcSendMessageAckReq env (gconn.receivedMessageId + 1)
            | .fragment => link.handleGcPacketFragment env helper data packetType messageId
            | .inSequence =>
              match link.callHelper helper packetType data with
              | (false, link) => (false, link)
              | (true, link) => (true, (link.gcSendMessageAckRecv env messageId).2)

/-- `process_recv_array_entry`. The acknowledgement names the id of the entry after it was cleared. -/
def processRecvArrayEntry (idx : Nat) : PeerLink :=
  let entry := link.gconn.recvArray idx
  match link.callHelper helper entry.packetType entry.data with
  | (ok, link) =>
    let link := link.withConn { link.gconn with recvArray := link.gconn.recvArray.clear idx }
    let messageId := (link.gconn.recvArray idx).messageId
    if !ok then (link.gcSendMessageAckReq env messageId).2
    else
      let link := (link.gcSendMessageAckRecv env messageId).2
      link.withConn (link.gconn.gccSetRecvMessageId (link.gconn.receivedMessageId + 1))

def gccCheckRecvArray : PeerLink :=
  if link.gconn.lastChunkId ≠ 0 then link
  else
    let idx := gccGetArrayIndex (link.gconn.receivedMessageId + 1)
    if (link.gconn.recvArray idx).isEmpty then link else link.processRecvArrayEntry env helper idx

def handleGcLossyPacket (handler : LosslessHelper) (encrypted : Sealed LossyPlain)
    (directConn : Bool) : Bool × PeerLink :=
  if !link.gconn.handshaked || link.gconn.pendingDelete then (false, link)
  else
    match decryptDataSymmetric link.gconn.sessionSharedKey encrypted.nonce encrypted with
    | none => (false, link)
    | some ⟨packetType, data⟩ =>
      if data.length = 0 then (false, link)
      else
        match (if packetType = gpMessageAck then link.handleGcMessageAck env data
            else handler link packetType data) with
        | (false, link) => (false, link)
        | (true, link) =>
          (true, link.withConn { link.gconn with
            lastReceivedDirectTime :=
              if directConn then env.now else link.gconn.lastReceivedDirectTime
            lastReceivedPacketTime := env.now })

end PeerLink

end Toxcore
