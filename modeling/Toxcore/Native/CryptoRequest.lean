import Toxcore.Native.Onion

/-!
# DHT requests

`create_request` and `handle_request` of `DHT.c`: a packet for another node that is routed through the
DHT.  It carries the keys of both nodes, and its data is encrypted for the receiver.  Memory for
encryption is found.
-/

namespace Toxcore

def netPacketCrypto : UInt8 := 0x20

def maxCryptoRequestSize : Nat := 1024

def cryptoSize : Nat := 1 + cryptoPublicKeySize * 2 + cryptoNonceSize

/-- What `create_request` does. -/
inductive CreatedRequest where
  | failure
  /-- `memcpy` writes behind the end of `temp`. -/
  | overrun
  | packet (packet : Bytes)
deriving DecidableEq

variable (box : CryptoBox) (cipher : ByteCipher OnionNonce)

def createRequest (nonce : OnionNonce) (send : KeyPair) (recvPublicKey : PublicKey) (data : Bytes)
    (requestId : UInt8) : CreatedRequest :=
  let dataLength := UInt32.ofNat data.length
  -- the sum is computed in 32 bits
  if UInt32.ofNat maxCryptoRequestSize <
      dataLength + UInt32.ofNat cryptoSize + 1 + UInt32.ofNat cryptoMacSize then .failure
  else if maxCryptoRequestSize < 1 + dataLength.toNat then .overrun
  else
    let temp := requestId :: data
    let k := box.encryptPrecompute recvPublicKey send.secretKey box.uninitialized
    match cipher.encryptDataSymmetric k nonce temp with
    | none => .failure
    | some encrypted =>
      .packet (netPacketCrypto ::
        (recvPublicKey.toList ++ (send.publicKey.toList ++ (nonce.toList ++ encrypted))))

/-- A request that was received. -/
structure HandledRequest where
  publicKey : PublicKey
  requestId : UInt8
  data : Bytes
deriving DecidableEq

def handleRequest (self : KeyPair) (packet : Bytes) : Option HandledRequest :=
  if packet.length ≤ cryptoSize + cryptoMacSize ∨ packet.length > maxCryptoRequestSize then none
  else if (bytesToVector _ (packet.drop 1) : PublicKey) ≠ self.publicKey then none
  else
    let publicKey : PublicKey := bytesToVector _ (packet.drop (1 + cryptoPublicKeySize))
    let nonce : OnionNonce := bytesToVector _ (packet.drop (1 + cryptoPublicKeySize * 2))
    let k := box.encryptPrecompute publicKey self.secretKey box.uninitialized
    match cipher.decryptDataSymmetric k nonce (packet.drop cryptoSize) with
    | none => none
    | some [] => none
    | some (requestId :: data) => some { publicKey, requestId, data }

end Toxcore
