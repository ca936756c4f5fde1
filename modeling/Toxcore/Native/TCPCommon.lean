import Toxcore.Native.NgcModeration

/-!
# The secure stream of a TCP connection

`TCP_common.c`: packets are encrypted under a counting nonce, prefixed with their length and
written to a socket that may take only a part of them, or nothing; the reader takes them out of the
bytes that have arrived.  Encryption is on bytes here, because the stream is cut at any byte.

Sizes stay below `2 + MAX_PACKET_SIZE`, so the `uint16_t` counters of the writer are numbers.
-/

namespace Toxcore

/-! ## Encryption of bytes -/

/-- `crypto_box_afternm` and `crypto_box_open_afternm` for nonces of the type `N`, without padding. -/
structure ByteCipher (N : Type) where
  afternm : SharedKey → N → Bytes → Bytes
  openAfternm : SharedKey → N → Bytes → Option Bytes
  length_afternm : ∀ key nonce plain, (afternm key nonce plain).length = plain.length + cryptoMacSize
  length_openAfternm : ∀ key nonce encrypted plain, openAfternm key nonce encrypted = some plain →
    encrypted.length = plain.length + cryptoMacSize
  openAfternm_afternm : ∀ key nonce plain, openAfternm key nonce (afternm key nonce plain) = some plain

namespace ByteCipher

variable {N : Type} (cipher : ByteCipher N)

def encryptDataSymmetric (key : SharedKey) (nonce : N) (plain : Bytes) : Option Bytes :=
  if plain.length = 0 then none else some (cipher.afternm key nonce plain)

def decryptDataSymmetric (key : SharedKey) (nonce : N) (encrypted : Bytes) : Option Bytes :=
  if encrypted.length ≤ cryptoMacSize then none else cipher.openAfternm key nonce encrypted

variable {cipher}

theorem encryptDataSymmetric_eq_some {key : SharedKey} {nonce : N} {plain encrypted : Bytes}
    (h : cipher.encryptDataSymmetric key nonce plain = some encrypted) :
    plain ≠ [] ∧ encrypted = cipher.afternm key nonce plain := by
  unfold encryptDataSymmetric at h
  split at h
  · cases h
  · exact ⟨List.ne_nil_of_length_pos (by omega), (Option.some.inj h).symm⟩

theorem decryptDataSymmetric_afternm {key : SharedKey} {nonce : N} {plain : Bytes}
    (h : plain ≠ []) : cipher.decryptDataSymmetric key nonce (cipher.afternm key nonce plain) =
      some plain := by
  have hlen := List.length_pos_iff.mpr h
  rw [decryptDataSymmetric, if_neg (by rw [cipher.length_afternm]; omega), cipher.openAfternm_afternm]

end ByteCipher

/-! ## Sockets -/

/-- The socket of the writer: the bytes on their way, and what its next calls of `send` return. No call takes more
    than it is given. -/
structure Sock where
  wire : Bytes
  results : List Int
deriving DecidableEq

def Sock.netSend (sock : Sock) (buf : Bytes) : Int × Sock :=
  let res := min (sock.results.headD (-1)) buf.length
  (res, { wire := sock.wire ++ buf.take res.toNat, results := sock.results.tail })

def netSocketDataRecvBuffer (buffer : Bytes) : Nat := min buffer.length 65535

/-! ## Writing -/

def maxPacketSize : Nat := 2048

/-- `TCP_Priority_List` without its link; `size` is the length of the data. -/
structure TCPPriorityList where
  data : Bytes
  sent : Nat
deriving DecidableEq

/-- `TCP_Connection`.  `lastPacket` is the first `last_packet_length` bytes of `last_packet`. -/
structure TCPConnection where
  sock : Sock
  sharedKey : SharedKey
  sentNonce : Nonce
  lastPacket : Bytes
  lastPacketSent : Nat
  priorityQueue : List TCPPriorityList
deriving DecidableEq

namespace TCPConnection

def sendPendingDataNonpriority (con : TCPConnection) : Bool × TCPConnection :=
  if con.lastPacket.length = 0 then (true, con)
  else
    let left := con.lastPacket.length - con.lastPacketSent
    let (len, sock) := con.sock.netSend (con.lastPacket.drop con.lastPacketSent)
    if len ≤ 0 then (false, { con with sock })
    else if len = left then (true, { con with sock, lastPacket := [], lastPacketSent := 0 })
    else (false, { con with sock, lastPacketSent := con.lastPacketSent + len.toNat })

/-- The loop of `send_pending_data`: the socket and the list `priority_queue_start` after it. -/
def sendPriorityLoop (sock : Sock) : List TCPPriorityList → Sock × List TCPPriorityList
  | [] => (sock, [])
  | p :: rest =>
    let left := p.data.length - p.sent
    let (len, sock) := sock.netSend (p.data.drop p.sent)
    if len ≠ left then
      (sock, (if len > 0 then { p with sent := p.sent + len.toNat } else p) :: rest)
    else
      sendPriorityLoop sock rest

def sendPendingData (con : TCPConnection) : Bool × TCPConnection :=
  let (done, con) := con.sendPendingDataNonpriority
  if !done then (false, con)
  else
    let (sock, priorityQueue) := sendPriorityLoop con.sock con.priorityQueue
    (priorityQueue.isEmpty, { con with sock, priorityQueue })

def addPriority (con : TCPConnection) (allocated : Bool) (packet : Bytes) (sent : Nat) :
    Option TCPConnection :=
  if allocated then
    some { con with priorityQueue := con.priorityQueue ++ [{ data := packet, sent }] }
  else
    none

/-- `write_packet_TCP_secure_connection`; `cryptoMalloc` and `allocated` are the allocations. -/
def writePacketTCPSecureConnection (cipher : ByteCipher Nonce) (con : TCPConnection)
    (cryptoMalloc allocated : Bool) (data : Bytes) (priority : Bool) : Int × TCPConnection :=
  if data.length + cryptoMacSize > maxPacketSize then (-1, con)
  else
    let (sendpriority, con) := con.sendPendingData
    if !sendpriority && !priority then (0, con)
    else
      match if cryptoMalloc then cipher.encryptDataSymmetric con.sharedKey con.sentNonce data
        else none with
      | none => (-1, con)
      | some encrypted =>
        let packet := netPackU16 (UInt16.ofNat (data.length + cryptoMacSize)) ++ encrypted
        if priority then
          let (len, sock) := if sendpriority then con.sock.netSend packet else (0, con.sock)
          let len := if len ≤ 0 then 0 else len
          let con := { con with sock, sentNonce := incrementNonce con.sentNonce }
          if len = packet.length then (1, con)
          else
            match con.addPriority allocated packet len.toNat with
            | some con => (1, con)
            | none => (0, con)
        else
          let (len, sock) := con.sock.netSend packet
          if len ≤ 0 then (0, { con with sock })
          else
            let con := { con with sock, sentNonce := incrementNonce con.sentNonce }
            if len = packet.length then (1, con)
            else (1, { con with lastPacket := packet, lastPacketSent := len.toNat })

end TCPConnection

/-! ## Reading -/

/-- The bytes in the receive buffer of the socket, and the variables of the callers. -/
structure TCPReader where
  buffer : Bytes
  nextPacketLength : Nat
  sharedKey : SharedKey
  recvNonce : Nonce
deriving DecidableEq

def readTCPPacket (buffer : Bytes) (length : Nat) : Option (Bytes × Bytes) :=
  if netSocketDataRecvBuffer buffer < length then none
  else some (buffer.take length, buffer.drop length)

def readTCPLength (buffer : Bytes) : UInt16 × Bytes :=
  if 2 ≤ netSocketDataRecvBuffer buffer then
    let length := netUnpackU16 buffer
    (if length.toNat > maxPacketSize then 65535 else length, buffer.drop 2)
  else
    (0, buffer)

namespace TCPReader

/-- The second half of `read_packet_TCP_secure_connection`: the packet of the announced length. -/
def readPacketBody (cipher : ByteCipher Nonce) (reader : TCPReader) (cryptoMalloc : Bool)
    (maxLen : Nat) : Int × Bytes × TCPReader :=
  if maxLen + cryptoMacSize < reader.nextPacketLength then (-1, [], reader)
  else
    match readTCPPacket reader.buffer reader.nextPacketLength with
    | none => (0, [], reader)
    | some (dataEncrypted, buffer) =>
      let reader := { reader with buffer, nextPacketLength := 0 }
      let plain := if cryptoMalloc then
          cipher.decryptDataSymmetric reader.sharedKey reader.recvNonce dataEncrypted
        else none
      let len : Int := match plain with
        | some data => data.length
        | none => -1
      if len + cryptoMacSize ≠ dataEncrypted.length then (-1, [], reader)
      else (len, plain.getD [], { reader with recvNonce := incrementNonce reader.recvNonce })

/-- `read_packet_TCP_secure_connection`: the result, the bytes written to `data` and the reader. -/
def readPacketTCPSecureConnection (cipher : ByteCipher Nonce) (reader : TCPReader)
    (cryptoMalloc : Bool) (maxLen : Nat) : Int × Bytes × TCPReader :=
  if reader.nextPacketLength = 0 then
    let (len, buffer) := readTCPLength reader.buffer
    let reader := { reader with buffer }
    if len = 65535 then (-1, [], reader)
    else if len = 0 then (0, [], reader)
    else readPacketBody cipher { reader with nextPacketLength := len.toNat } cryptoMalloc maxLen
  else
    readPacketBody cipher reader cryptoMalloc maxLen

end TCPReader

end Toxcore
