import Mathlib.Data.UInt
import Toxcore.Native.CryptoRequest
import Toxcore.Spec.OnionRoute

/-!
# Correctness of DHT requests

A request arrives at the node it is addressed to with the key of the sender, its id and its data, and
at no other node.  The size test of `create_request` adds to a 32-bit length, so that it does not
refuse the greatest lengths.
-/

namespace Toxcore

open List

def maxRequestData : Nat := maxCryptoRequestSize - cryptoSize - 1 - cryptoMacSize

variable {box : CryptoBox} {cipher : ByteCipher OnionNonce}

/-- The packet that `create_request` builds. -/
def requestPacket (box : CryptoBox) (cipher : ByteCipher OnionNonce) (nonce : OnionNonce) (send : KeyPair)
    (recvPublicKey : PublicKey) (data : Bytes) (requestId : UInt8) : Bytes :=
  netPacketCrypto :: (recvPublicKey.toList ++ (send.publicKey.toList ++ (nonce.toList ++
    cipher.afternm (box.encryptPrecompute recvPublicKey send.secretKey box.uninitialized) nonce
      (requestId :: data))))

theorem sizeTest_iff {n : Nat} (hn : n < 2 ^ 32) : UInt32.ofNat maxCryptoRequestSize <
      UInt32.ofNat n + UInt32.ofNat cryptoSize + 1 + UInt32.ofNat cryptoMacSize ↔
    maxRequestData < n ∧ n < 2 ^ 32 - 106 := by
  have hmax : (UInt32.ofNat maxCryptoRequestSize).toNat = 1024 := rfl
  have hsize : (UInt32.ofNat cryptoSize).toNat = 89 := rfl
  have hmac : (UInt32.ofNat cryptoMacSize).toNat = 16 := rfl
  have hone : (1 : UInt32).toNat = 1 := rfl
  have hdata : maxRequestData = 918 := rfl
  have htoNat : (UInt32.ofNat n).toNat = n := by
    rw [UInt32.toNat_ofNat', Nat.mod_eq_of_lt hn]
  rw [UInt32.lt_iff_toNat_lt, UInt32.toNat_add, UInt32.toNat_add, UInt32.toNat_add, htoNat, hmax, hsize,
    hmac, hone, hdata]
  omega

theorem createRequest_eq (box : CryptoBox) (cipher : ByteCipher OnionNonce) (nonce : OnionNonce) (send : KeyPair) (recvPublicKey : PublicKey) (data : Bytes)
    (requestId : UInt8) (hlength : data.length < 2 ^ 32) :
    createRequest box cipher nonce send recvPublicKey data requestId =
      if data.length ≤ maxRequestData then
        .packet (requestPacket box cipher nonce send recvPublicKey data requestId)
      else if data.length < 2 ^ 32 - 106 then .failure
      else .overrun := by
  have htoNat : (UInt32.ofNat data.length).toNat = data.length := by
    rw [UInt32.toNat_ofNat', Nat.mod_eq_of_lt hlength]
  have hmax : maxCryptoRequestSize = 1024 := rfl
  have hdata : maxRequestData = 918 := rfl
  rw [createRequest]
  -- the two tests of the length agree except near the greatest length, where the first one overflows
  by_cases hle : data.length ≤ maxRequestData
  · have htest := mt (sizeTest_iff hlength).mp fun h => Nat.not_le_of_lt h.1 hle
    have hne : (requestId :: data).length ≠ 0 := Nat.succ_ne_zero _
    rw [if_neg htest, if_neg (by rw [htoNat]; omega), if_pos hle]
    rfl
  · rw [if_neg hle]
    by_cases hlt : data.length < 2 ^ 32 - 106
    · rw [if_pos ((sizeTest_iff hlength).mpr ⟨Nat.lt_of_not_le hle, hlt⟩), if_pos hlt]
    · have htest := mt (sizeTest_iff hlength).mp fun h => hlt h.2
      rw [if_neg htest, if_pos (by rw [htoNat]; omega), if_neg hlt]

theorem handleRequest_long (self : KeyPair) {packet : Bytes} (h : maxCryptoRequestSize < packet.length) :
    handleRequest box cipher self packet = none := by
  rw [handleRequest, if_pos (.inr h)]

section

variable (box : CryptoBox) (cipher : ByteCipher OnionNonce) (nonce : OnionNonce) (send : KeyPair)
  (recvPublicKey : PublicKey) (data : Bytes) (requestId : UInt8)

theorem length_requestPacket : (requestPacket box cipher nonce send recvPublicKey data requestId).length =
    cryptoSize + 1 + cryptoMacSize + data.length := by
  have hsize : cryptoSize = 1 + (cryptoPublicKeySize + (cryptoPublicKeySize + cryptoNonceSize)) := rfl
  rw [requestPacket, length_cons, length_append, length_append, length_append, cipher.length_afternm,
    Vector.length_toList, Vector.length_toList, Vector.length_toList, length_cons, hsize]
  omega

theorem drop_requestPacket :
    (bytesToVector _ ((requestPacket box cipher nonce send recvPublicKey data requestId).drop 1) : PublicKey) =
        recvPublicKey ∧
      (bytesToVector _ ((requestPacket box cipher nonce send recvPublicKey data requestId).drop
        (1 + cryptoPublicKeySize)) : PublicKey) = send.publicKey ∧
      (bytesToVector _ ((requestPacket box cipher nonce send recvPublicKey data requestId).drop
        (1 + cryptoPublicKeySize * 2)) : OnionNonce) = nonce ∧
      (requestPacket box cipher nonce send recvPublicKey data requestId).drop cryptoSize =
        cipher.afternm (box.encryptPrecompute recvPublicKey send.secretKey box.uninitialized) nonce
          (requestId :: data) := by
  have hkey : ∀ (pk : PublicKey) (rest : Bytes), (pk.toList ++ rest).drop cryptoPublicKeySize = rest :=
    fun pk rest => drop_left' Vector.length_toList
  have hfirst : ∀ n : Nat, (requestPacket box cipher nonce send recvPublicKey data
      requestId).drop (1 + n) = (recvPublicKey.toList ++ (send.publicKey.toList ++ (nonce.toList ++
        cipher.afternm (box.encryptPrecompute recvPublicKey send.secretKey box.uninitialized) nonce
          (requestId :: data)))).drop n := by
    intro n
    rw [Nat.add_comm]
    rfl
  have htwo : cryptoPublicKeySize * 2 = cryptoPublicKeySize + cryptoPublicKeySize := rfl
  have hsize : cryptoSize = 1 + (cryptoPublicKeySize + cryptoPublicKeySize + cryptoNonceSize) := rfl
  refine ⟨?_, ?_, ?_, ?_⟩
  · exact bytesToVector_toList_append recvPublicKey _
  · rw [hfirst, hkey]
    exact bytesToVector_toList_append send.publicKey _
  · rw [hfirst, htwo, ← drop_drop, hkey, hkey]
    exact bytesToVector_toList_append nonce _
  · rw [hsize, hfirst, ← drop_drop, ← drop_drop, hkey, hkey, drop_left' Vector.length_toList]

end

theorem handleRequest_requestPacket (exchange : KeyExchange box) {send recv : KeyPair}
    (hsend : exchange.paired send) (hrecv : exchange.paired recv) (nonce : OnionNonce) {data : Bytes}
    (requestId : UInt8) (hlength : data.length ≤ maxRequestData) :
    handleRequest box cipher recv (requestPacket box cipher nonce send recv.publicKey data requestId) =
      some { publicKey := send.publicKey, requestId, data } := by
  obtain ⟨hto, hfrom, hnonce, hencrypted⟩ := drop_requestPacket box cipher nonce send recv.publicKey
    data requestId
  have hlen := length_requestPacket box cipher nonce send recv.publicKey data requestId
  have hmax : maxCryptoRequestSize = maxRequestData + (cryptoSize + 1 + cryptoMacSize) := rfl
  -- both ends compute the same shared key
  obtain ⟨sharedKey, hours, htheirs⟩ := exchange.agree recv send hrecv hsend
  rw [handleRequest, if_neg (by omega), if_neg (not_not.mpr hto)]
  dsimp only
  rw [hfrom, hnonce, hencrypted, CryptoBox.encryptPrecompute, CryptoBox.encryptPrecompute, hours, htheirs,
    Option.getD_some, ByteCipher.decryptDataSymmetric_afternm (cons_ne_nil requestId data)]

theorem handleRequest_other {recv : PublicKey} {other : KeyPair} (hother : other.publicKey ≠ recv)
    (nonce : OnionNonce) (send : KeyPair) (data : Bytes) (requestId : UInt8) :
    handleRequest box cipher other (requestPacket box cipher nonce send recv data requestId) = none := by
  obtain ⟨hto, -, -, -⟩ := drop_requestPacket box cipher nonce send recv data requestId
  rw [handleRequest, hto]
  split
  · rfl
  · rw [if_pos (Ne.symm hother)]

/-- A request that fits is packed, and handled by the addressed receiver only; a longer one is refused, and so is a
    longer packet. -/
structure RequestLaw (box : CryptoBox) (cipher : ByteCipher OnionNonce) (send recv : KeyPair) (nonce : OnionNonce)
    (data : Bytes) (requestId : UInt8) : Prop where
  packed : data.length ≤ maxRequestData → ∃ packet,
    createRequest box cipher nonce send recv.publicKey data requestId = .packet packet ∧
      handleRequest box cipher recv packet = some { publicKey := send.publicKey, requestId, data } ∧
      ∀ other : KeyPair, other.publicKey ≠ recv.publicKey → handleRequest box cipher other packet = none
  refused : maxRequestData < data.length →
    createRequest box cipher nonce send recv.publicKey data requestId = .failure
  long : ∀ (self : KeyPair) (packet : Bytes), maxCryptoRequestSize < packet.length →
    handleRequest box cipher self packet = none

/-- The law holds for all lengths except those for which the sum of the size test overflows. -/
theorem requestLaw_iff (cipher : ByteCipher OnionNonce) (exchange : KeyExchange box) {send recv : KeyPair}
    (hsend : exchange.paired send) (hrecv : exchange.paired recv) (nonce : OnionNonce) (data : Bytes)
    (requestId : UInt8) (hlength : data.length < 2 ^ 32) :
    RequestLaw box cipher send recv nonce data requestId ↔ data.length < 2 ^ 32 - 106 := by
  have hcreate := createRequest_eq box cipher nonce send recv.publicKey data requestId hlength
  constructor
  · intro hlaw
    -- one of the last lengths is written behind the buffer and not refused
    by_contra hlt
    have hlong : maxRequestData < data.length := Nat.lt_of_lt_of_le (by decide) (Nat.le_of_not_lt hlt)
    have hrefused := hlaw.refused hlong
    rw [hcreate, if_neg (Nat.not_le_of_lt hlong), if_neg hlt] at hrefused
    cases hrefused
  · intro hlt
    refine ⟨fun hle => ?_, fun hlong => ?_, fun self packet => handleRequest_long self⟩
    · rw [if_pos hle] at hcreate
      exact ⟨_, hcreate, handleRequest_requestPacket exchange hsend hrecv nonce requestId hle,
        fun other hother => handleRequest_other hother nonce send data requestId⟩
    · rwa [if_neg (Nat.not_le_of_lt hlong), if_pos hlt] at hcreate

theorem paired_key (b : UInt8) : xorExchange.paired ⟨key b, key b⟩ := rfl

/-- A request with three bytes of data. -/
theorem requestLaw_iff_three : RequestLaw xorBox halfKeyCipher ⟨key 3, key 3⟩ ⟨key 5, key 5⟩
    (Vector.replicate _ 1) [1, 2, 3] 32 ↔ [1, 2, 3].length < 2 ^ 32 - 106 :=
  requestLaw_iff halfKeyCipher xorExchange (paired_key 3) (paired_key 5) (Vector.replicate _ 1) [1, 2, 3] 32 (by decide)

/-- The first length for which the sum overflows is taken for a short one. -/
theorem not_requestLaw_wrapping : ¬∀ (box : CryptoBox) (cipher : ByteCipher OnionNonce)
    (exchange : KeyExchange box) (send recv : KeyPair), exchange.paired send → exchange.paired recv →
    ∀ (nonce : OnionNonce) (data : Bytes) (requestId : UInt8), data.length < 2 ^ 32 →
      RequestLaw box cipher send recv nonce data requestId := by
  intro hall
  have hlength : (List.replicate (2 ^ 32 - 106) (0 : UInt8)).length = 2 ^ 32 - 106 := length_replicate
  have hlaw := hall xorBox halfKeyCipher xorExchange ⟨key 3, key 3⟩ ⟨key 5, key 5⟩ (paired_key 3)
    (paired_key 5) (Vector.replicate _ 1)
    (List.replicate (2 ^ 32 - 106) 0) 32 (by rw [hlength]; decide)
  have hrefused := hlaw.refused (by rw [hlength]; decide)
  -- the list is never evaluated, only its length
  rw [createRequest_eq _ _ _ _ _ _ _ (by rw [hlength]; decide), hlength] at hrefused
  cases hrefused

end Toxcore
