import Toxcore.Native.Onion
import Toxcore.Spec.NodeFormatCorrect
import Toxcore.Spec.SharedKeyCacheCorrect
import Toxcore.Spec.TCPSerials

/-!
# The way through the onion

A request of `create_onion_packet` or `create_onion_packet_tcp` goes through three nodes and arrives with a
return part; a response goes back through the same nodes, as long as they have not changed their symmetric keys.
Every lemma about a handler takes a packet apart as the sender put it together.
-/

namespace Toxcore

open List

/-! ## Addresses -/

theorem length_ipPack (a : IPPort) : (ipPack a).length = sizeIp := by
  unfold ipPack
  split <;> simp [IPPort.v4, IPPort.v6, sizeIp, sizeIp6, sizeIp4]

@[simp] theorem length_ipportPack (a : IPPort) : (ipportPack a).length = sizeIpport := by
  simp [ipportPack, length_ipPack, packPort, sizeIpport]

/-- What `ipport_unpack` leaves in `target`. -/
def IPPort.unpackedInto (target a : IPPort) : IPPort :=
  { target with
    family := a.family
    ip := if a.isIpv4 || a.isToxTcpIpv4 then
        bytesToVector 16 (a.v4 ++ target.ip.toList.drop sizeIp4)
      else a.ip
    port := a.port }

theorem ipUnpack_ipPack_append (target a : IPPort) (rest : Bytes) (disableFamilyCheck : Bool) :
    ipUnpack target (ipPack a ++ rest) disableFamilyCheck =
      if disableFamilyCheck || a.isIpv4 || a.isIpv6 then
        some { target.unpackedInto a with port := target.port }
      else none := by
  have hlen := length_ipPack a
  have hlong : ¬(ipPack a ++ rest).length < 1 + sizeIp6 := by
    rw [length_append, hlen, sizeIp]
    omega
  rw [ipUnpack, if_neg hlong]
  dsimp only
  have hfamily : (ipPack a ++ rest).headD 0 = a.family := rfl
  rw [hfamily]
  have h4 : ({ target with family := a.family } : IPPort).isIpv4 = a.isIpv4 := rfl
  have htcp : ({ target with family := a.family } : IPPort).isToxTcpIpv4 = a.isToxTcpIpv4 := rfl
  rw [h4, htcp]
  by_cases hshort : a.isIpv4 || a.isToxTcpIpv4
  · have hip : ((ipPack a ++ rest).drop 1).take sizeIp4 = a.v4 := by
      unfold ipPack
      rw [if_pos hshort, cons_append, drop_succ_cons, drop_zero, append_assoc]
      exact take_left' (by simp [IPPort.v4, sizeIp4])
    rw [if_pos hshort, hip, IPPort.unpackedInto, if_pos hshort]
    rfl
  · have hip : bytesToVector 16 ((ipPack a ++ rest).drop 1) = a.ip := by
      unfold ipPack
      rw [if_neg hshort, cons_append, drop_succ_cons, drop_zero]
      exact bytesToVector_toList_append a.ip rest
    rw [if_neg hshort, hip, IPPort.unpackedInto, if_neg hshort]
    rfl

theorem ipportUnpack_ipportPack_append (target a : IPPort) (rest : Bytes) (disableFamilyCheck : Bool) :
    ipportUnpack target (ipportPack a ++ rest) disableFamilyCheck =
      if disableFamilyCheck || a.isIpv4 || a.isIpv6 then some (target.unpackedInto a) else none := by
  have hlen := length_ipportPack a
  have hlong : ¬(ipportPack a ++ rest).length < sizeIp + 2 := by
    rw [length_append, hlen, sizeIpport]
    omega
  have hport : unpackPort ((ipportPack a ++ rest).drop sizeIp) = a.port := by
    rw [ipportPack, append_assoc, drop_left' (length_ipPack a), unpackPort_packPort_append]
  rw [ipportUnpack, if_neg hlong, hport, ipportPack, append_assoc, ipUnpack_ipPack_append]
  by_cases hvalid : disableFamilyCheck || a.isIpv4 || a.isIpv6
  · rw [if_pos hvalid, if_pos hvalid]
    rfl
  · rw [if_neg hvalid, if_neg hvalid]

theorem ipportUnpack_of_isUdp (target : IPPort) {a : IPPort} (h : a.isUdp) (rest : Bytes)
    (disableFamilyCheck : Bool) :
    ipportUnpack target (ipportPack a ++ rest) disableFamilyCheck = some (target.unpackedInto a) := by
  have hvalid : (disableFamilyCheck || a.isIpv4 || a.isIpv6) = true := by
    rw [Bool.or_assoc, show (a.isIpv4 || a.isIpv6) = true from h, Bool.or_true]
  rw [ipportUnpack_ipportPack_append, if_pos hvalid]

theorem drop_ipportPack_append (a : IPPort) (rest : Bytes) : (ipportPack a ++ rest).drop sizeIpport = rest :=
  drop_left' (length_ipportPack a)

theorem IPPort.canonical_unpackedInto (target : IPPort) {a : IPPort} (h : a.isUdp) :
    (target.unpackedInto a).canonical = a.canonical := by
  have haddress : (target.unpackedInto a).address = a.address := by
    have h4 : (target.unpackedInto a).isIpv4 = a.isIpv4 := rfl
    unfold IPPort.address
    rw [h4]
    by_cases hv4 : a.isIpv4
    · rw [if_pos hv4, if_pos hv4]
      have hlen : a.v4.length = 4 := by simp [IPPort.v4]
      have hip : (target.unpackedInto a).ip =
          bytesToVector 16 (a.v4 ++ target.ip.toList.drop sizeIp4) := by
        simp [IPPort.unpackedInto, hv4]
      rw [IPPort.v4, hip, toList_bytesToVector (by simp [hlen, sizeIp4]), take_take]
      exact take_left' hlen
    · have hv6 : a.family = toxAfInet6 := by
        cases IPPort.isUdp_iff.mp h with
        | inl h => exact absurd (by simp [IPPort.isIpv4, h]) hv4
        | inr h => exact h
      have hip : (target.unpackedInto a).ip = a.ip := by
        simp [IPPort.unpackedInto, hv4, IPPort.isToxTcpIpv4, hv6, show (toxAfInet6 == toxTcpInet) = false from rfl]
      rw [if_neg hv4, if_neg hv4, IPPort.v6, IPPort.v6, hip]
  rw [IPPort.canonical, IPPort.canonical, haddress]
  rfl

namespace OnionOutcome

def SentTo (outcome : OnionOutcome) (dest : IPPort) (packet : Bytes) : Prop :=
  ∃ sendTo : IPPort, outcome = .sent sendTo packet ∧ sendTo.canonical = dest.canonical

theorem sentTo_onionSendpacket (target : IPPort) {a : IPPort} (h : a.isUdp) (packet : Bytes) :
    (onionSendpacket (target.unpackedInto a) packet).SentTo a packet := by
  have hudp : ((target.unpackedInto a).isIpv4 || (target.unpackedInto a).isIpv6) = true := h
  refine ⟨target.unpackedInto a, ?_, IPPort.canonical_unpackedInto target h⟩
  rw [onionSendpacket, if_pos hudp]

end OnionOutcome

/-! ## Parts of a packet -/

section parts

variable {cipher : ByteCipher OnionNonce} {nonce : OnionNonce} {publicKey : PublicKey}
  {enc ret : Bytes} {id : UInt8}

/-- A packet on its way out: a packet id, the nonce, a key and what is encrypted for it, and the
    return part. -/
def onionPacket (id : UInt8) (nonce : OnionNonce) (publicKey : PublicKey) (enc ret : Bytes) : Bytes :=
  id :: (nonce.toList ++ (publicKey.toList ++ (enc ++ ret)))

theorem length_onionPacket : (onionPacket id nonce publicKey enc ret).length =
    1 + cryptoNonceSize + cryptoPublicKeySize + enc.length + ret.length := by
  simp [onionPacket]
  omega

theorem nonce_onionPacket :
    bytesToVector cryptoNonceSize ((onionPacket id nonce publicKey enc ret).drop 1) = nonce :=
  bytesToVector_toList_append nonce _

theorem publicKey_onionPacket :
    bytesToVector cryptoPublicKeySize
      ((onionPacket id nonce publicKey enc ret).drop (1 + cryptoNonceSize)) = publicKey := by
  rw [Nat.add_comm, onionPacket, drop_succ_cons, drop_left' Vector.length_toList]
  exact bytesToVector_toList_append publicKey _

theorem drop_onionPacket :
    (onionPacket id nonce publicKey enc ret).drop (1 + cryptoNonceSize + cryptoPublicKeySize) =
      enc ++ ret := by
  rw [← drop_drop, Nat.add_comm 1, onionPacket, drop_succ_cons,
    drop_left' Vector.length_toList, drop_left' Vector.length_toList]

theorem encrypted_onionPacket {n : Nat} (hret : ret.length = n) :
    ((onionPacket id nonce publicKey enc ret).drop (1 + cryptoNonceSize + cryptoPublicKeySize)).take
      ((onionPacket id nonce publicKey enc ret).length -
        (1 + cryptoNonceSize + cryptoPublicKeySize + n)) = enc := by
  rw [drop_onionPacket, length_onionPacket]
  exact take_left' (by omega)

theorem return_onionPacket {n : Nat} (hret : ret.length = n) :
    (onionPacket id nonce publicKey enc ret).drop
      ((onionPacket id nonce publicKey enc ret).length - n) = ret := by
  have hparts : onionPacket id nonce publicKey enc ret =
      (id :: (nonce.toList ++ (publicKey.toList ++ enc))) ++ ret := by
    simp [onionPacket]
  rw [hparts]
  apply drop_left'
  simp
  omega

/-- The address that a packet came from and the return part that it brought, encrypted. -/
def sealReturn (cipher : ByteCipher OnionNonce) (key : SharedKey) (nonce : OnionNonce)
    (source : IPPort) (ret : Bytes) : Bytes :=
  nonce.toList ++ cipher.afternm key nonce (ipportPack source ++ ret)

theorem length_sealReturn (key : SharedKey) (source : IPPort) :
    (sealReturn cipher key nonce source ret).length =
      cryptoNonceSize + sizeIpport + cryptoMacSize + ret.length := by
  simp [sealReturn, cipher.length_afternm]
  omega

theorem ipportPack_append_ne_nil (a : IPPort) (rest : Bytes) : ipportPack a ++ rest ≠ [] := by
  simp [ipportPack, ipPack]

theorem Onion.returnPart_eq (cipher : ByteCipher OnionNonce) (env : OnionEnv) (onion : Onion) (source : IPPort) (ret : Bytes) :
    onion.returnPart cipher env (ipportPack source ++ ret) =
      some (sealReturn cipher onion.secretSymmetricKey env.randomNonce source ret) := by
  have hpos : ¬(ipportPack source ++ ret).length = 0 := by
    simp [sizeIpport]
  rfl

end parts

section back

variable {cipher : ByteCipher OnionNonce} {key : SharedKey} {nonce : OnionNonce} {source : IPPort}
  {ret response : Bytes} {id : UInt8}

def returnPacket (id : UInt8) (ret response : Bytes) : Bytes := id :: (ret ++ response)

theorem length_returnPacket (id : UInt8) (ret response : Bytes) :
    (returnPacket id ret response).length = 1 + ret.length + response.length := by
  simp [returnPacket]
  omega

theorem nonce_returnPacket : bytesToVector cryptoNonceSize
    ((returnPacket id (sealReturn cipher key nonce source ret) response).drop 1) = nonce := by
  rw [returnPacket, sealReturn, drop_succ_cons, drop_zero, append_assoc]
  exact bytesToVector_toList_append nonce _

variable {n : Nat}

theorem encrypted_returnPacket (hret : ret.length = n) :
    ((returnPacket id (sealReturn cipher key nonce source ret) response).drop
      (1 + cryptoNonceSize)).take (sizeIpport + n + cryptoMacSize) =
      cipher.afternm key nonce (ipportPack source ++ ret) := by
  rw [returnPacket, sealReturn, Nat.add_comm 1, drop_succ_cons, append_assoc, drop_left' Vector.length_toList]
  exact take_left' (by simp [cipher.length_afternm, hret])

theorem drop_returnPacket (hret : ret.length = n) : (returnPacket id ret response).drop (1 + n) = response := by
  rw [returnPacket, Nat.add_comm, drop_succ_cons, drop_left' hret]

theorem getD_returnPacket (hret : ret.length = n) :
    (returnPacket id ret response).getD (1 + n) 0 = response.getD 0 0 := by
  have hdrop : (returnPacket id ret response).drop (1 + n) = response := drop_returnPacket hret
  have hget : (returnPacket id ret response)[1 + n]? = response[0]? := by
    rw [← Nat.add_zero (1 + n), ← getElem?_drop, hdrop]
  rw [getD_eq_getElem?_getD, getD_eq_getElem?_getD, hget]

end back

/-! ## The handlers -/

structure Onion.Correct (box : CryptoBox) (secretKey : SecretKey) (onion : Onion) : Prop where
  sharedKeys1 : onion.sharedKeys1.Correct box secretKey
  sharedKeys2 : onion.sharedKeys2.Correct box secretKey
  sharedKeys3 : onion.sharedKeys3.Correct box secretKey

namespace Onion

variable {box : CryptoBox} {cipher : ByteCipher OnionNonce} {onion : Onion} {secretKey : SecretKey}

theorem Correct.changeSymmetricKey (h : onion.Correct box secretKey) (env : OnionEnv) :
    (onion.changeSymmetricKey env).Correct box secretKey := by
  rw [Onion.changeSymmetricKey]
  split
  · exact ⟨h.1, h.2, h.3⟩
  · exact h

def keyAt (onion : Onion) (env : OnionEnv) : SharedKey :=
  (onion.changeSymmetricKey env).secretSymmetricKey

variable (env : OnionEnv) {source a dest : IPPort} {nonce : OnionNonce} {publicKey : PublicKey}
  {sharedKey : SharedKey} {inner ret payload response : Bytes}

theorem sentTo_onionSend1 (ha : a.isUdp) (hshort : onionSendBase * 2 < inner.length)
    (hlong : inner.length ≤ onionMaxPacketSize - (1 + cryptoNonceSize + onionReturn1)) :
    (onion.onionSend1 cipher env (ipportPack a ++ inner) source nonce).SentTo a
      (netPacketOnionSend1 :: (nonce.toList ++
        (inner ++ sealReturn cipher onion.secretSymmetricKey env.randomNonce source []))) := by
  have hlen : (ipportPack a ++ inner).length = sizeIpport + inner.length := by simp
  have hret := onion.returnPart_eq cipher env source []
  rw [append_nil] at hret
  rw [onionSend1, if_neg (by omega), if_neg (by omega), ipportUnpack_of_isUdp _ ha, hret]
  dsimp only
  rw [if_neg (by rw [length_sealReturn]; simp; omega), drop_ipportPack_append]
  exact OnionOutcome.sentTo_onionSendpacket _ ha _

section

variable (h : onion.Correct box secretKey)
include h

theorem handleSendInitial_eq
    (hkey : box.beforenm publicKey secretKey = some sharedKey) (hshort : onionSendBase * 2 < inner.length)
    (hlong : inner.length ≤ onionMaxPacketSize - (1 + cryptoNonceSize + onionSendBase)) :
    ∃ onion' : Onion, onion'.secretSymmetricKey = onion.keyAt env ∧
      onion.handleSendInitial cipher env box source
        (onionPacket netPacketOnionSendInitial nonce publicKey
          (cipher.afternm sharedKey nonce (ipportPack a ++ inner)) []) =
      (onion'.onionSend1 cipher env (ipportPack a ++ inner) source nonce, onion') := by
  have hlength : (onionPacket netPacketOnionSendInitial nonce publicKey
      (cipher.afternm sharedKey nonce (ipportPack a ++ inner)) []).length =
      1 + cryptoNonceSize + onionSendBase + inner.length := by
    rw [length_onionPacket, cipher.length_afternm]
    simp [onionSendBase, sizeIpport, sizeIp, sizeIp6]
    omega
  have hlookup := ((h.changeSymmetricKey env).sharedKeys1.lookup env.now publicKey).1
  rw [hkey] at hlookup
  rw [handleSendInitial, if_neg (by omega), if_neg (by rw [hlength, onionSend1Size]; omega)]
  dsimp only
  rw [nonce_onionPacket, publicKey_onionPacket, hlookup, drop_onionPacket, append_nil]
  dsimp only
  rw [ByteCipher.decryptDataSymmetric_afternm (ipportPack_append_ne_nil a inner)]
  refine ⟨_, ?_, rfl⟩
  simp only [keyAt]

theorem sentTo_handleSend1
    (hkey : box.beforenm publicKey secretKey = some sharedKey) (ha : a.isUdp)
    (hret : ret.length = onionReturn1) (hshort : onionSendBase < inner.length)
    (hlong : inner.length ≤ onionMaxPacketSize - (1 + cryptoNonceSize + onionSendBase + onionReturn1)) :
    (onion.handleSend1 cipher env box source
      (onionPacket netPacketOnionSend1 nonce publicKey
        (cipher.afternm sharedKey nonce (ipportPack a ++ inner)) ret)).1.SentTo a
      (netPacketOnionSend2 :: (nonce.toList ++
        (inner ++ sealReturn cipher (onion.keyAt env) env.randomNonce source ret))) := by
  have hlength : (onionPacket netPacketOnionSend1 nonce publicKey
      (cipher.afternm sharedKey nonce (ipportPack a ++ inner)) ret).length =
      1 + cryptoNonceSize + onionSendBase + inner.length + onionReturn1 := by
    rw [length_onionPacket, cipher.length_afternm]
    simp [onionSendBase, sizeIpport, sizeIp, sizeIp6]
    omega
  have hlookup := ((h.changeSymmetricKey env).sharedKeys2.lookup env.now publicKey).1
  rw [hkey] at hlookup
  rw [handleSend1, if_neg (by omega), if_neg (by rw [hlength, onionSend2Size]; omega)]
  dsimp only
  rw [nonce_onionPacket, publicKey_onionPacket, hlookup, encrypted_onionPacket hret, return_onionPacket hret]
  dsimp only
  rw [ByteCipher.decryptDataSymmetric_afternm (ipportPack_append_ne_nil a inner)]
  dsimp only
  rw [ipportUnpack_of_isUdp _ ha, returnPart_eq]
  dsimp only
  rw [if_neg (by rw [length_sealReturn, hret]; simp [onionReturn2]), drop_ipportPack_append]
  exact OnionOutcome.sentTo_onionSendpacket _ ha _

theorem sentTo_handleSend2
    (hkey : box.beforenm publicKey secretKey = some sharedKey) (hdest : dest.isUdp)
    (hret : ret.length = onionReturn2) (hid : isOnionRequestId (payload.getD 0 0)) (hpos : 0 < payload.length)
    (hlong : payload.length ≤ onionMaxPacketSize - (1 + cryptoNonceSize + onionSendBase + onionReturn2)) :
    (onion.handleSend2 cipher env box source
      (onionPacket netPacketOnionSend2 nonce publicKey
        (cipher.afternm sharedKey nonce (ipportPack dest ++ payload)) ret)).1.SentTo dest
      (payload ++ sealReturn cipher (onion.keyAt env) env.randomNonce source ret) := by
  have hlength : (onionPacket netPacketOnionSend2 nonce publicKey
      (cipher.afternm sharedKey nonce (ipportPack dest ++ payload)) ret).length =
      1 + cryptoNonceSize + onionSendBase + payload.length + onionReturn2 := by
    rw [length_onionPacket, cipher.length_afternm]
    simp [onionSendBase, sizeIpport, sizeIp, sizeIp6]
    omega
  have hlookup := ((h.changeSymmetricKey env).sharedKeys3.lookup env.now publicKey).1
  rw [hkey] at hlookup
  have hhead : (ipportPack dest ++ payload).getD sizeIpport 0 = payload.getD 0 0 := by
    rw [getD_eq_getElem?_getD, getD_eq_getElem?_getD,
      getElem?_append_right (by rw [length_ipportPack]), length_ipportPack, Nat.sub_self]
  rw [handleSend2, if_neg (by omega), if_neg (by rw [hlength, onionSend3Size]; omega)]
  dsimp only
  rw [nonce_onionPacket, publicKey_onionPacket, hlookup, encrypted_onionPacket hret, return_onionPacket hret]
  dsimp only
  rw [ByteCipher.decryptDataSymmetric_afternm (ipportPack_append_ne_nil dest payload)]
  dsimp only
  rw [hhead, hid, if_neg (by decide), ipportUnpack_of_isUdp _ hdest, returnPart_eq]
  dsimp only
  rw [if_neg (by rw [length_sealReturn, hret]; simp [onionReturn3]), drop_ipportPack_append]
  exact OnionOutcome.sentTo_onionSendpacket _ hdest _

end

theorem changeSymmetricKey_keyAt : (onion.changeSymmetricKey env).secretSymmetricKey = onion.keyAt env := rfl

theorem sentTo_handleRecv {id sendId : UInt8} {shorter : Nat} (ha : a.isUdp)
    (hret : ret.length = shorter) (hid : isOnionResponseId (response.getD 0 0))
    (hpos : 0 < response.length)
    (hlong : 1 + (cryptoNonceSize + sizeIpport + cryptoMacSize + shorter) + response.length ≤
      onionMaxPacketSize) :
    (onion.handleRecv cipher env shorter sendId (returnPacket id
      (sealReturn cipher (onion.keyAt env) nonce a ret) response)).1.SentTo a
      (returnPacket sendId ret response) := by
  have hseal : (sealReturn cipher (onion.keyAt env) nonce a ret).length =
      cryptoNonceSize + sizeIpport + cryptoMacSize + shorter := by
    rw [length_sealReturn, hret]
  have hlength := length_returnPacket id (sealReturn cipher (onion.keyAt env) nonce a ret) response
  rw [handleRecv]
  dsimp only
  rw [if_neg (by omega), if_neg (by omega), getD_returnPacket hseal, hid, if_neg (by decide),
    nonce_returnPacket, encrypted_returnPacket hret, drop_returnPacket hseal,
    changeSymmetricKey_keyAt, ByteCipher.decryptDataSymmetric_afternm (ipportPack_append_ne_nil a ret)]
  dsimp only
  rw [ipportUnpack_of_isUdp _ ha, drop_ipportPack_append]
  exact OnionOutcome.sentTo_onionSendpacket _ ha _

theorem handleRecv1_eq {id : UInt8} (hid : isOnionResponseId (response.getD 0 0))
    (hpos : 0 < response.length) (hlong : 1 + onionReturn1 + response.length ≤ onionMaxPacketSize) :
    (onion.handleRecv1 cipher env (returnPacket id
      (sealReturn cipher (onion.keyAt env) nonce a []) response)).1 =
      if onion.recv1Function && !a.isIpv4 && !a.isIpv6 then
        .recv1 (env.uninitialized.unpackedInto a) response
      else onionSendpacket (env.uninitialized.unpackedInto a) response := by
  have hseal : (sealReturn cipher (onion.keyAt env) nonce a []).length = onionReturn1 := by
    rw [length_sealReturn]
    rfl
  have hlength := length_returnPacket id (sealReturn cipher (onion.keyAt env) nonce a []) response
  have hunpack := ipportUnpack_ipportPack_append env.uninitialized a [] true
  have hcallback : (onion.changeSymmetricKey env).recv1Function = onion.recv1Function := by
    rw [changeSymmetricKey]
    split <;> rfl
  have henc : ((returnPacket id (sealReturn cipher (onion.keyAt env) nonce a []) response).drop
      (1 + cryptoNonceSize)).take (sizeIpport + cryptoMacSize) =
      cipher.afternm (onion.keyAt env) nonce (ipportPack a ++ []) :=
    encrypted_returnPacket (show ([] : Bytes).length = 0 from rfl)
  rw [handleRecv1, if_neg (by omega), if_neg (by omega), getD_returnPacket hseal, hid, if_neg (by decide)]
  dsimp only
  rw [nonce_returnPacket, henc, drop_returnPacket hseal, changeSymmetricKey_keyAt,
    ByteCipher.decryptDataSymmetric_afternm (ipportPack_append_ne_nil a [])]
  dsimp only
  rw [hunpack, hcallback]
  simp only [Bool.true_or, if_true]
  have h4 : (env.uninitialized.unpackedInto a).isIpv4 = a.isIpv4 := rfl
  have h6 : (env.uninitialized.unpackedInto a).isIpv6 = a.isIpv6 := rfl
  rw [h4, h6]
  split <;> rfl

end Onion

/-! ## The states of a node -/

namespace Onion

variable {box : CryptoBox} {cipher : ByteCipher OnionNonce} {onion onion' : Onion} {secretKey : SecretKey}

inductive Step (box : CryptoBox) (cipher : ByteCipher OnionNonce) (onion : Onion) : Onion → Prop where
  | sendInitial (env : OnionEnv) (source : IPPort) (packet : Bytes) :
    Step box cipher onion (onion.handleSendInitial cipher env box source packet).2
  | send1 (env : OnionEnv) (source : IPPort) (packet : Bytes) :
    Step box cipher onion (onion.handleSend1 cipher env box source packet).2
  | send2 (env : OnionEnv) (source : IPPort) (packet : Bytes) :
    Step box cipher onion (onion.handleSend2 cipher env box source packet).2
  | recv3 (env : OnionEnv) (packet : Bytes) : Step box cipher onion (onion.handleRecv3 cipher env packet).2
  | recv2 (env : OnionEnv) (packet : Bytes) : Step box cipher onion (onion.handleRecv2 cipher env packet).2
  | recv1 (env : OnionEnv) (packet : Bytes) : Step box cipher onion (onion.handleRecv1 cipher env packet).2
  | setCallbackHandleRecv1 (recv1Function : Bool) : Step box cipher onion { onion with recv1Function }

def system (box : CryptoBox) (cipher : ByteCipher OnionNonce) (secretKey : SecretKey) :
    TransitionSystem Onion where
  init onion := ∃ now key, newOnion now key secretKey = some onion
  step := Step box cipher

section

variable (h : onion.Correct box secretKey)
include h

theorem Correct.setKeys1 {sharedKeys1 : SharedKeyCache} (hkeys : sharedKeys1.Correct box secretKey) :
    ({ onion with sharedKeys1 } : Onion).Correct box secretKey :=
  ⟨hkeys, h.2, h.3⟩

theorem Correct.setKeys2 {sharedKeys2 : SharedKeyCache} (hkeys : sharedKeys2.Correct box secretKey) :
    ({ onion with sharedKeys2 } : Onion).Correct box secretKey :=
  ⟨h.1, hkeys, h.3⟩

theorem Correct.setKeys3 {sharedKeys3 : SharedKeyCache} (hkeys : sharedKeys3.Correct box secretKey) :
    ({ onion with sharedKeys3 } : Onion).Correct box secretKey :=
  ⟨h.1, h.2, hkeys⟩

theorem Correct.handleSendInitial (env : OnionEnv) (source : IPPort) (packet : Bytes) :
    (onion.handleSendInitial cipher env box source packet).2.Correct box secretKey := by
  have h' := h.changeSymmetricKey env
  have hlookup := fun publicKey => (h'.sharedKeys1.lookup env.now publicKey).2
  rw [Onion.handleSendInitial]
  split
  · exact h
  split
  · exact h
  dsimp only
  split
  · exact h'.setKeys1 (hlookup _)
  split
  · exact h'.setKeys1 (hlookup _)
  · exact h'.setKeys1 (hlookup _)

theorem Correct.handleSend1 (env : OnionEnv) (source : IPPort)
    (packet : Bytes) : (onion.handleSend1 cipher env box source packet).2.Correct box secretKey := by
  have h' := h.changeSymmetricKey env
  have hlookup := fun publicKey => (h'.sharedKeys2.lookup env.now publicKey).2
  rw [Onion.handleSend1]
  split
  · exact h
  split
  · exact h
  dsimp only
  split
  · exact h'.setKeys2 (hlookup _)
  split
  · exact h'.setKeys2 (hlookup _)
  split
  · split
    · exact h'.setKeys2 (hlookup _)
    · exact h'.setKeys2 (hlookup _)
  · exact h'.setKeys2 (hlookup _)

theorem Correct.handleSend2 (env : OnionEnv) (source : IPPort)
    (packet : Bytes) : (onion.handleSend2 cipher env box source packet).2.Correct box secretKey := by
  have h' := h.changeSymmetricKey env
  have hlookup := fun publicKey => (h'.sharedKeys3.lookup env.now publicKey).2
  rw [Onion.handleSend2]
  split
  · exact h
  split
  · exact h
  dsimp only
  split
  · exact h'.setKeys3 (hlookup _)
  split
  · exact h'.setKeys3 (hlookup _)
  split
  · exact h'.setKeys3 (hlookup _)
  split
  · split
    · exact h'.setKeys3 (hlookup _)
    · exact h'.setKeys3 (hlookup _)
  · exact h'.setKeys3 (hlookup _)

theorem Correct.handleRecv (env : OnionEnv) (shorter : Nat) (sendId : UInt8) (packet : Bytes) :
    (onion.handleRecv cipher env shorter sendId packet).2.Correct box secretKey := by
  have h' := h.changeSymmetricKey env
  rw [Onion.handleRecv]
  dsimp only
  split
  · exact h
  split
  · exact h
  split
  · exact h
  split
  · dsimp only
    exact h'
  split
  · dsimp only
    exact h'
  · dsimp only
    exact h'

theorem Correct.handleRecv1 (env : OnionEnv) (packet : Bytes) :
    (onion.handleRecv1 cipher env packet).2.Correct box secretKey := by
  have h' := h.changeSymmetricKey env
  rw [Onion.handleRecv1]
  split
  · exact h
  split
  · exact h
  split
  · exact h
  dsimp only
  split
  · dsimp only
    exact h'
  split
  · dsimp only
    exact h'
  split
  · dsimp only
    exact h'
  · dsimp only
    exact h'

theorem Correct.step (hstep : Step box cipher onion onion') :
    onion'.Correct box secretKey := by
  cases hstep with
  | sendInitial env source packet => exact h.handleSendInitial env source packet
  | send1 env source packet => exact h.handleSend1 env source packet
  | send2 env source packet => exact h.handleSend2 env source packet
  | recv3 env packet => exact h.handleRecv env _ _ packet
  | recv2 env packet => exact h.handleRecv env _ _ packet
  | recv1 env packet => exact h.handleRecv1 env packet
  | setCallbackHandleRecv1 recv1Function => exact ⟨h.1, h.2, h.3⟩

end

theorem correct_newOnion {now : UInt64} {key : SharedKey}
    (h : newOnion now key secretKey = some onion) : onion.Correct box secretKey := by
  obtain ⟨cache, hcache, rfl⟩ := Option.map_eq_some_iff.mp h
  have hcorrect := SharedKeyCache.correct_new box hcache
  exact ⟨hcorrect, hcorrect, hcorrect⟩

theorem correct_of_reachable (h : (system box cipher secretKey).Reachable onion) :
    onion.Correct box secretKey := by
  refine h.invariant (fun onion hinit => ?_) (fun onion onion' hcorrect hstep => hcorrect.step hstep)
  obtain ⟨now, key, hnew⟩ := hinit
  exact correct_newOnion hnew

end Onion

/-! ## Paths of honest nodes -/

/-- The owners of two key pairs compute the same shared key. -/
structure KeyExchange (box : CryptoBox) where
  paired : KeyPair → Prop
  agree : ∀ a b, paired a → paired b → ∃ sharedKey,
    box.beforenm a.publicKey b.secretKey = some sharedKey ∧
      box.beforenm b.publicKey a.secretKey = some sharedKey

variable {box : CryptoBox} {cipher : ByteCipher OnionNonce}

structure HonestNode (box : CryptoBox) (cipher : ByteCipher OnionNonce) (exchange : KeyExchange box)
    where
  address : IPPort
  keys : KeyPair
  onion : Onion
  env : OnionEnv
  isUdp : address.isUdp
  paired : exchange.paired keys
  reachable : (Onion.system box cipher keys.secretKey).Reachable onion

namespace HonestNode

variable {exchange : KeyExchange box} (node : HonestNode box cipher exchange)

def format : NodeFormat := { publicKey := node.keys.publicKey, ipPort := node.address }

/-- The node may have handled anything since, but its symmetric key is that of the request. -/
def KeepsKey (later : Onion) (laterEnv : OnionEnv) : Prop :=
  later.keyAt laterEnv = node.onion.keyAt node.env

end HonestNode

structure LegalRequest (payload : Bytes) : Prop where
  pos : 1 ≤ payload.length
  le : payload.length ≤ onionMaxDataSize
  id : isOnionRequestId (payload.getD 0 0)

structure LegalResponse (response : Bytes) : Prop where
  pos : 1 ≤ response.length
  le : response.length ≤ onionResponseMaxDataSize
  id : isOnionResponseId (response.getD 0 0)

section path

variable {exchange : KeyExchange box} (n₂ n₃ : HonestNode box cipher exchange) (first : IPPort)

/-- The second and the third node bring what the first node sends to the destination, with a return
    part. -/
def Forwards (packet : Bytes) (dest : IPPort) (payload ret : Bytes) : Prop :=
  ∃ packet₃, (n₂.onion.handleSend1 cipher n₂.env box first packet).1.SentTo n₃.address packet₃ ∧
    (n₃.onion.handleSend2 cipher n₃.env box n₂.address packet₃).1.SentTo dest (payload ++ ret) ∧
    ret.length = onionReturn3

/-- The third and the second node bring a response back to the first node, as `packet`. -/
def Returns (ret response packet : Bytes) : Prop :=
  ∃ response₃, sendOnionResponse response ret = some response₃ ∧
    ∀ later₃ env₃, n₃.KeepsKey later₃ env₃ →
      ∃ response₂, (later₃.handleRecv3 cipher env₃ response₃).1.SentTo n₂.address response₂ ∧
        ∀ later₂ env₂, n₂.KeepsKey later₂ env₂ →
          (later₂.handleRecv2 cipher env₂ response₂).1.SentTo first packet

end path

/-- The layer for a node with this shared key, as `onionLayer` makes it. -/
def layerFor (cipher : ByteCipher OnionNonce) (nonce : OnionNonce) (ipPort : IPPort)
    (publicKey : PublicKey) (sharedKey : SharedKey) (step : Bytes) : Bytes :=
  ipportPack ipPort ++ (publicKey.toList ++ cipher.afternm sharedKey nonce step)

variable {nonce : OnionNonce}

theorem length_layerFor {ipPort : IPPort} {publicKey : PublicKey} {sharedKey : SharedKey} {step : Bytes} :
    (layerFor cipher nonce ipPort publicKey sharedKey step).length = onionSendBase + step.length := by
  simp [layerFor, cipher.length_afternm, onionSendBase, sizeIpport, sizeIp, sizeIp6]
  omega

theorem onionLayer_eq (ipPort : IPPort) (publicKey : PublicKey) (sharedKey : SharedKey) {step : Bytes}
    (h : step.length ≠ 0) :
    onionLayer cipher nonce ipPort publicKey sharedKey step =
      some (layerFor cipher nonce ipPort publicKey sharedKey step) := by
  rw [onionLayer, ByteCipher.encryptDataSymmetric, if_neg h]
  rfl

theorem onionInnerLayers_eq (path : OnionPath) (dest : IPPort) (data : Bytes) :
    onionInnerLayers cipher nonce path dest data =
      some (layerFor cipher nonce path.ipPort2 path.publicKey2 path.sharedKey2
        (layerFor cipher nonce path.ipPort3 path.publicKey3 path.sharedKey3 (ipportPack dest ++ data))) := by
  have hinner : (ipportPack dest ++ data).length ≠ 0 := by
    simp [sizeIpport]
  rw [onionInnerLayers, onionLayer_eq _ _ _ hinner, Option.bind_some, onionLayer_eq]
  rw [length_layerFor]
  simp [onionSendBase]

section path

variable {exchange : KeyExchange box} {n₂ n₃ : HonestNode box cipher exchange} {first dest : IPPort}
  {nonce : OnionNonce} {publicKey2 publicKey3 : PublicKey} {sharedKey2 sharedKey3 : SharedKey}
  {payload response ret₁ : Bytes}

def secondReturn (n₂ : HonestNode box cipher exchange) (first : IPPort) (ret₁ : Bytes) : Bytes :=
  sealReturn cipher (n₂.onion.keyAt n₂.env) n₂.env.randomNonce first ret₁

def thirdReturn (n₂ n₃ : HonestNode box cipher exchange) (first : IPPort) (ret₁ : Bytes) : Bytes :=
  sealReturn cipher (n₃.onion.keyAt n₃.env) n₃.env.randomNonce n₂.address (secondReturn n₂ first ret₁)

theorem length_secondReturn (hret : ret₁.length = onionReturn1) :
    (secondReturn n₂ first ret₁).length = onionReturn2 := by
  rw [secondReturn, length_sealReturn, hret]
  rfl

theorem length_thirdReturn (hret : ret₁.length = onionReturn1) :
    (thirdReturn n₂ n₃ first ret₁).length = onionReturn3 := by
  rw [thirdReturn, length_sealReturn, length_secondReturn hret]
  rfl

theorem forwards (hkey2 : box.beforenm publicKey2 n₂.keys.secretKey = some sharedKey2)
    (hkey3 : box.beforenm publicKey3 n₃.keys.secretKey = some sharedKey3) (hdest : dest.isUdp)
    (hpayload : LegalRequest payload) (hret : ret₁.length = onionReturn1) :
    Forwards n₂ n₃ first
      (onionPacket netPacketOnionSend1 nonce publicKey2
        (cipher.afternm sharedKey2 nonce (layerFor cipher nonce n₃.address publicKey3 sharedKey3
          (ipportPack dest ++ payload))) ret₁)
      dest payload (thirdReturn n₂ n₃ first ret₁) := by
  have hle := hpayload.le
  have hmax : onionMaxDataSize = 1174 := rfl
  have hinner : (publicKey3.toList ++
      cipher.afternm sharedKey3 nonce (ipportPack dest ++ payload)).length =
      onionSendBase + payload.length := by
    simp [cipher.length_afternm, onionSendBase, sizeIpport, sizeIp, sizeIp6]
    omega
  have hlong : onionMaxPacketSize - (1 + cryptoNonceSize + onionSendBase + onionReturn1) = 1249 := rfl
  have hbase : onionSendBase = 67 := rfl
  have hlast : onionMaxPacketSize - (1 + cryptoNonceSize + onionSendBase + onionReturn2) = 1190 := rfl
  refine ⟨onionPacket netPacketOnionSend2 nonce publicKey3
    (cipher.afternm sharedKey3 nonce (ipportPack dest ++ payload)) (secondReturn n₂ first ret₁),
    ?_, ?_, length_thirdReturn hret⟩
  · have hpacket : ∀ ret, onionPacket netPacketOnionSend2 nonce publicKey3
        (cipher.afternm sharedKey3 nonce (ipportPack dest ++ payload)) ret =
        netPacketOnionSend2 :: (nonce.toList ++ ((publicKey3.toList ++
          cipher.afternm sharedKey3 nonce (ipportPack dest ++ payload)) ++ ret)) := by
      intro ret
      rw [onionPacket, append_assoc]
    rw [hpacket]
    exact Onion.sentTo_handleSend1 n₂.env (Onion.correct_of_reachable n₂.reachable) hkey2 n₃.isUdp hret
      (by rw [hinner]; have := hpayload.pos; omega) (by rw [hinner]; omega)
  · exact Onion.sentTo_handleSend2 n₃.env (Onion.correct_of_reachable n₃.reachable) hkey3 hdest
      (length_secondReturn hret) hpayload.id hpayload.pos (by omega)

theorem returns (hfirst : first.isUdp) (hresponse : LegalResponse response)
    (hret : ret₁.length = onionReturn1) :
    Returns n₂ n₃ first (thirdReturn n₂ n₃ first ret₁) response
      (returnPacket netPacketOnionRecv1 ret₁ response) := by
  have hpos := hresponse.pos
  have hle := hresponse.le
  have hmax : onionResponseMaxDataSize = 1222 := rfl
  have hthird : (thirdReturn n₂ n₃ first ret₁).length = onionReturn3 := length_thirdReturn hret
  refine ⟨returnPacket netPacketOnionRecv3 (thirdReturn n₂ n₃ first ret₁) response, ?_, ?_⟩
  · rw [sendOnionResponse, if_neg (by omega), take_of_length_le (by omega)]
    rfl
  intro later3 env3 hkeep3
  refine ⟨returnPacket netPacketOnionRecv2 (secondReturn n₂ first ret₁) response, ?_, ?_⟩
  · rw [thirdReturn, ← hkeep3]
    refine Onion.sentTo_handleRecv env3 n₂.isUdp (length_secondReturn hret) hresponse.id hpos ?_
    have hsize : 1 + (cryptoNonceSize + sizeIpport + cryptoMacSize + onionReturn2) = 178 := rfl
    have hlimit : onionMaxPacketSize = 1400 := rfl
    omega
  intro later2 env2 hkeep2
  rw [secondReturn, ← hkeep2]
  refine Onion.sentTo_handleRecv env2 hfirst hret hresponse.id hpos ?_
  have hsize : 1 + (cryptoNonceSize + sizeIpport + cryptoMacSize + onionReturn1) = 119 := rfl
  have hlimit : onionMaxPacketSize = 1400 := rfl
  omega

end path

/-! ## The round trip -/

/-- Onion routing for these primitives, where a relay is asked for a client only in the states
    `allowed`. -/
structure OnionRoundTrip (cipher : ByteCipher OnionNonce) (exchange : KeyExchange box)
    (allowed : CountedServer → Prop) : Prop where
  /-- A request that is sent over UDP. -/
  udp : ∀ (n₁ n₂ n₃ : HonestNode box cipher exchange) (self random₂ random₃ : KeyPair)
    (newPath : OnionPath) (nonce : OnionNonce) (source dest : IPPort) (payload : Bytes),
    exchange.paired self → exchange.paired random₂ → exchange.paired random₃ →
    source.isUdp → dest.isUdp → LegalRequest payload →
    ∃ packet₁ packet₂ ret,
      createOnionPacket cipher nonce onionMaxPacketSize
        (createOnionPath box self random₂ random₃ newPath n₁.format n₂.format n₃.format) dest
        payload = some packet₁ ∧
      (n₁.onion.handleSendInitial cipher n₁.env box source packet₁).1.SentTo n₂.address packet₂ ∧
      Forwards n₂ n₃ n₁.address packet₂ dest payload ret ∧
      ∀ response, LegalResponse response → ∃ response₁,
        Returns n₂ n₃ n₁.address ret response response₁ ∧
        ∀ later env, n₁.KeepsKey later env → (later.handleRecv1 cipher env response₁).1.SentTo source response
  /-- A request of a client of a relay. -/
  tcp : ∀ (n₁ n₂ n₃ : HonestNode box cipher exchange) (self random₂ random₃ : KeyPair)
    (newPath : OnionPath) (nonce : OnionNonce) (dest : IPPort) (payload : Bytes)
    (server : TCPServer) (env : TCPServerEnv) (conId : UInt32) (con : TCPSecureConnection),
    exchange.paired self → exchange.paired random₂ → exchange.paired random₃ →
    dest.isUdp → LegalRequest payload →
    env.onion → server.acceptedConnectionArray[conId.toNat]? = some con →
    ∃ packet₁ packet₂ ret,
      createOnionPacketTcp cipher nonce onionMaxPacketSize
        (createOnionPath box self random₂ random₃ newPath n₁.format n₂.format n₃.format) dest
        payload = some packet₁ ∧
      server.handleTCPPacket env conId.toNat (tcpPacketOnionRequest :: packet₁) = (true, server) ∧
      (server.handleOnionRequest cipher n₁.env n₁.onion conId
        (tcpPacketOnionRequest :: packet₁)).SentTo n₂.address packet₂ ∧
      Forwards n₂ n₃ n₁.address packet₂ dest payload ret ∧
      ∀ response, LegalResponse response → ∃ response₁,
        Returns n₂ n₃ n₁.address ret response response₁ ∧
        ∀ (later : Onion) (env : OnionEnv), later.keyAt env = n₁.onion.secretSymmetricKey →
          later.recv1Function →
          (later.handleRecv1 cipher env response₁).1 = .recv1
            (env.uninitialized.unpackedInto (conIdToIpPort conId con.identifier)) response
  /-- The relay writes the response to the client that sent the request, or to nobody. -/
  client : ∀ (s s' : CountedServer) (conId : UInt32) (con : TCPSecureConnection),
    CountedServer.system.Reachable s →
    s.server.acceptedConnectionArray[conId.toNat]? = some con → con.status ≠ .noStatus →
    Relation.ReflTransGen CountedServer.system.step s s' → allowed s' →
    ∀ (env : TCPServerEnv) (target : IPPort) (response : Bytes), LegalResponse response →
      (s'.Connected conId.toNat (s.serial conId.toNat) → env.write s'.server.writes →
        ∃ con', s'.server.acceptedConnectionArray[conId.toNat]? = some con' ∧
          (s'.server.recv1Function env
            (target.unpackedInto (conIdToIpPort conId con.identifier)) response).written =
          s'.server.written ++
            [{ index := conId.toNat, publicKey := con'.publicKey, source := con'.publicKey,
               data := tcpPacketOnionResponse :: response }]) ∧
      (¬s'.Connected conId.toNat (s.serial conId.toNat) →
        s'.server.recv1Function env
          (target.unpackedInto (conIdToIpPort conId con.identifier)) response = s'.server)

theorem recv1Function_conIdToIpPort (env : TCPServerEnv) (server : TCPServer) (target : IPPort)
    (conId : UInt32) (identifier : UInt64) (data : Bytes) :
    server.recv1Function env (target.unpackedInto (conIdToIpPort conId identifier)) data =
      server.handleOnionRecv1 env conId.toNat identifier data := by
  have hfamily : (target.unpackedInto (conIdToIpPort conId identifier)).isTcpClient = true := rfl
  have hbytes : (target.unpackedInto (conIdToIpPort conId identifier)).v6 =
      toLittleEndian 4 conId.toNat ++ List.replicate 4 0 ++ toLittleEndian 8 identifier.toNat := by
    show (bytesToVector 16 _).toList = _
    rw [toList_bytesToVector (by simp), take_of_length_le (by simp)]
  have hid : ofLittleEndian (toLittleEndian 4 conId.toNat) = conId.toNat := by
    have hlt : conId.toNat < 256 ^ 4 := conId.toNat_lt
    rw [ofLittleEndian_toLittleEndian, Nat.mod_eq_of_lt hlt]
  have hidentifier : UInt64.ofNat (ofLittleEndian (toLittleEndian 8 identifier.toNat)) =
      identifier := by
    have hlt : identifier.toNat < 256 ^ 8 := identifier.toNat_lt
    rw [ofLittleEndian_toLittleEndian, Nat.mod_eq_of_lt hlt, UInt64.ofNat_toNat]
  rw [TCPServer.recv1Function, hfamily, hbytes, append_assoc, take_left' (by simp), hid,
    ← append_assoc, drop_left' (by simp), hidentifier]
  rfl

section trips

variable (exchange : KeyExchange box)

variable {random2 random3 : KeyPair}

theorem onionInnerLayers_path (n1 n2 n3 : HonestNode box cipher exchange) (self : KeyPair) (newPath : OnionPath)
    (nonce : OnionNonce) (dest : IPPort) (payload : Bytes) (hrandom2 : exchange.paired random2)
    (hrandom3 : exchange.paired random3) :
    ∃ sharedKey₂ sharedKey₃,
      box.beforenm random2.publicKey n2.keys.secretKey = some sharedKey₂ ∧
      box.beforenm random3.publicKey n3.keys.secretKey = some sharedKey₃ ∧
      onionInnerLayers cipher nonce
        (createOnionPath box self random2 random3 newPath n1.format n2.format n3.format) dest
        payload =
      some (layerFor cipher nonce n2.address random2.publicKey sharedKey₂
        (layerFor cipher nonce n3.address random3.publicKey sharedKey₃ (ipportPack dest ++ payload))) := by
  obtain ⟨sharedKey₂, hsend2, hopen2⟩ := exchange.agree n2.keys random2 n2.paired hrandom2
  obtain ⟨sharedKey₃, hsend3, hopen3⟩ := exchange.agree n3.keys random3 n3.paired hrandom3
  refine ⟨sharedKey₂, sharedKey₃, hopen2, hopen3, ?_⟩
  have hpath2 : (createOnionPath box self random2 random3 newPath n1.format n2.format
      n3.format).sharedKey2 = sharedKey₂ := by
    show box.encryptPrecompute n2.keys.publicKey _ _ = _
    rw [CryptoBox.encryptPrecompute, hsend2, Option.getD_some]
  have hpath3 : (createOnionPath box self random2 random3 newPath n1.format n2.format
      n3.format).sharedKey3 = sharedKey₃ := by
    show box.encryptPrecompute n3.keys.publicKey _ _ = _
    rw [CryptoBox.encryptPrecompute, hsend3, Option.getD_some]
  rw [onionInnerLayers_eq, hpath2, hpath3]
  rfl

omit exchange in
theorem length_secondLayer (cipher : ByteCipher OnionNonce) (nonce : OnionNonce) (publicKey2 publicKey3 : PublicKey)
    (sharedKey2 sharedKey3 : SharedKey) (a3 dest : IPPort) (payload : Bytes) :
    (publicKey2.toList ++ cipher.afternm sharedKey2 nonce
      (layerFor cipher nonce a3 publicKey3 sharedKey3 (ipportPack dest ++ payload))).length =
      134 + payload.length := by
  have hkey : cryptoPublicKeySize = 32 := rfl
  have hbase : onionSendBase = 67 := rfl
  have hipport : sizeIpport = 19 := rfl
  have hmac : cryptoMacSize = 16 := rfl
  rw [length_append, Vector.length_toList, cipher.length_afternm, length_layerFor,
    length_append, length_ipportPack]
  omega

variable {dest : IPPort} {payload : Bytes}

theorem sentTo_firstNode (env : OnionEnv) (onion : Onion) {a a3 source : IPPort} {nonce : OnionNonce}
    {publicKey2 publicKey3 : PublicKey} {sharedKey2 sharedKey3 : SharedKey} (ha : a.isUdp)
    (hpayload : LegalRequest payload) :
    (onion.onionSend1 cipher env (layerFor cipher nonce a publicKey2 sharedKey2
        (layerFor cipher nonce a3 publicKey3 sharedKey3 (ipportPack dest ++ payload))) source
        nonce).SentTo a
      (onionPacket netPacketOnionSend1 nonce publicKey2
        (cipher.afternm sharedKey2 nonce
          (layerFor cipher nonce a3 publicKey3 sharedKey3 (ipportPack dest ++ payload)))
        (sealReturn cipher onion.secretSymmetricKey env.randomNonce source [])) := by
  have hpos := hpayload.pos
  have hle := hpayload.le
  have hmax : onionMaxDataSize = 1174 := rfl
  have hbase : onionSendBase = 67 := rfl
  have hlimit : onionMaxPacketSize - (1 + cryptoNonceSize + onionReturn1) = 1316 := rfl
  have hinner := length_secondLayer cipher nonce publicKey2 publicKey3 sharedKey2 sharedKey3 a3 dest payload
  have hpacket : ∀ ret, onionPacket netPacketOnionSend1 nonce publicKey2
      (cipher.afternm sharedKey2 nonce
        (layerFor cipher nonce a3 publicKey3 sharedKey3 (ipportPack dest ++ payload))) ret =
      netPacketOnionSend1 :: (nonce.toList ++ ((publicKey2.toList ++
        cipher.afternm sharedKey2 nonce
          (layerFor cipher nonce a3 publicKey3 sharedKey3 (ipportPack dest ++ payload))) ++ ret)) := by
    intro ret
    rw [onionPacket, append_assoc]
  rw [hpacket]
  exact Onion.sentTo_onionSend1 env ha (by omega) (by omega)

theorem length_firstReturn (key : SharedKey) (nonce : OnionNonce) (source : IPPort) :
    (sealReturn cipher key nonce source []).length = onionReturn1 := by
  rw [length_sealReturn]
  rfl

theorem udp_roundTrip (n1 n2 n3 : HonestNode box cipher exchange) {self : KeyPair} (newPath : OnionPath)
    (nonce : OnionNonce) {source : IPPort} (hself : exchange.paired self) (hrandom2 : exchange.paired random2)
    (hrandom3 : exchange.paired random3) (hsource : source.isUdp) (hdest : dest.isUdp) (hpayload : LegalRequest payload)
    :
    ∃ packet1 packet2 ret,
      createOnionPacket cipher nonce onionMaxPacketSize
        (createOnionPath box self random2 random3 newPath n1.format n2.format n3.format) dest
        payload = some packet1 ∧
      (n1.onion.handleSendInitial cipher n1.env box source packet1).1.SentTo n2.address packet2 ∧
      Forwards n2 n3 n1.address packet2 dest payload ret ∧
      ∀ response, LegalResponse response → ∃ response1,
        Returns n2 n3 n1.address ret response response1 ∧
        ∀ later env, n1.KeepsKey later env →
          (later.handleRecv1 cipher env response1).1.SentTo source response := by
  have hpos := hpayload.pos
  have hle := hpayload.le
  have hmax : onionMaxDataSize = 1174 := rfl
  obtain ⟨sharedKey₁, hsend1, hopen1⟩ := exchange.agree n1.keys self n1.paired hself
  obtain ⟨sharedKey2, sharedKey3, hkey2, hkey3, hlayers⟩ :=
    onionInnerLayers_path exchange n1 n2 n3 self newPath nonce dest payload hrandom2 hrandom3
  have hpath1 : (createOnionPath box self random2 random3 newPath n1.format n2.format
      n3.format).sharedKey1 = sharedKey₁ := by
    show box.encryptPrecompute n1.keys.publicKey _ _ = _
    rw [CryptoBox.encryptPrecompute, hsend1, Option.getD_some]
  let step2 := layerFor cipher nonce n3.address random3.publicKey sharedKey3 (ipportPack dest ++ payload)
  let inner := random2.publicKey.toList ++ cipher.afternm sharedKey2 nonce step2
  let ret1 := sealReturn cipher (n1.onion.keyAt n1.env) n1.env.randomNonce source []
  have hret1 : ret1.length = onionReturn1 := length_firstReturn _ _ _
  have hinner : inner.length = 134 + payload.length := length_secondLayer cipher nonce _ _ _ _ _ _ _
  have hbase : onionSendBase = 67 := rfl
  have hlimit : onionMaxPacketSize - (1 + cryptoNonceSize + onionSendBase) = 1308 := rfl
  refine ⟨onionPacket netPacketOnionSendInitial nonce self.publicKey
      (cipher.afternm sharedKey₁ nonce (ipportPack n2.address ++ inner)) [],
    onionPacket netPacketOnionSend1 nonce random2.publicKey (cipher.afternm sharedKey2 nonce step2) ret1,
    thirdReturn n2 n3 n1.address ret1, ?_, ?_, forwards hkey2 hkey3 hdest hpayload hret1, ?_⟩
  · have hfits : ¬(1 + payload.length + onionSend1Size > onionMaxPacketSize ∨ payload.length = 0) := by
      have hsize : onionSend1Size = 225 := rfl
      have hpacketSize : onionMaxPacketSize = 1400 := rfl
      omega
    have hstep3 : (ipportPack n2.address ++ inner).length ≠ 0 := by
      simp [sizeIpport]
    rw [createOnionPacket, if_neg hfits, hlayers]
    rw [hpath1, onionPacket, append_nil]
    show Option.map _ (cipher.encryptDataSymmetric sharedKey₁ nonce (ipportPack n2.address ++ inner)) = _
    rfl
  · obtain ⟨onion', hkey, hhandle⟩ : ∃ onion' : Onion,
        onion'.secretSymmetricKey = n1.onion.keyAt n1.env ∧
        n1.onion.handleSendInitial cipher n1.env box source
          (onionPacket netPacketOnionSendInitial nonce self.publicKey
            (cipher.afternm sharedKey₁ nonce (ipportPack n2.address ++ inner)) []) =
        (onion'.onionSend1 cipher n1.env (ipportPack n2.address ++ inner) source nonce, onion') :=
      Onion.handleSendInitial_eq n1.env (Onion.correct_of_reachable n1.reachable) hopen1 (by omega) (by omega)
    rw [hhandle]
    show OnionOutcome.SentTo _ _ (onionPacket _ _ _ _
      (sealReturn cipher (n1.onion.keyAt n1.env) n1.env.randomNonce source []))
    rw [← hkey]
    exact sentTo_firstNode n1.env onion' n2.isUdp hpayload
  · intro response hresponse
    refine ⟨_, returns n1.isUdp hresponse hret1, fun later env hkeep => ?_⟩
    have hpos' := hresponse.pos
    have hle' := hresponse.le
    have hsize : onionResponseMaxDataSize = 1222 := rfl
    have hret : 1 + onionReturn1 = 60 := rfl
    show (later.handleRecv1 cipher env (returnPacket _ (sealReturn cipher (n1.onion.keyAt n1.env) _
      source []) response)).1.SentTo source response
    rw [← hkeep, Onion.handleRecv1_eq env hresponse.id hpos' (by omega)]
    have hcallback : (later.recv1Function && !source.isIpv4 && !source.isIpv6) = false := by
      have hudp : (source.isIpv4 || source.isIpv6) = true := hsource
      rw [Bool.and_assoc, ← Bool.not_or, hudp, Bool.not_true, Bool.and_false]
    rw [hcallback]
    exact OnionOutcome.sentTo_onionSendpacket _ hsource _

theorem tcp_roundTrip (n1 n2 n3 : HonestNode box cipher exchange) {self : KeyPair} (newPath : OnionPath)
    (nonce : OnionNonce) (server : TCPServer) (env : TCPServerEnv) (conId : UInt32) (con : TCPSecureConnection)
    (hrandom2 : exchange.paired random2) (hrandom3 : exchange.paired random3) (hdest : dest.isUdp)
    (hpayload : LegalRequest payload) (honion : env.onion)
    (hcon : server.acceptedConnectionArray[conId.toNat]? = some con) :
    ∃ packet1 packet2 ret,
      createOnionPacketTcp cipher nonce onionMaxPacketSize
        (createOnionPath box self random2 random3 newPath n1.format n2.format n3.format) dest
        payload = some packet1 ∧
      server.handleTCPPacket env conId.toNat (tcpPacketOnionRequest :: packet1) = (true, server) ∧
      (server.handleOnionRequest cipher n1.env n1.onion conId
        (tcpPacketOnionRequest :: packet1)).SentTo n2.address packet2 ∧
      Forwards n2 n3 n1.address packet2 dest payload ret ∧
      ∀ response, LegalResponse response → ∃ response1,
        Returns n2 n3 n1.address ret response response1 ∧
        ∀ (later : Onion) (env : OnionEnv), later.keyAt env = n1.onion.secretSymmetricKey →
          later.recv1Function →
          (later.handleRecv1 cipher env response1).1 = .recv1
            (env.uninitialized.unpackedInto (conIdToIpPort conId con.identifier)) response := by
  have hpos := hpayload.pos
  have hle := hpayload.le
  have hmax : onionMaxDataSize = 1174 := rfl
  obtain ⟨sharedKey2, sharedKey3, hkey2, hkey3, hlayers⟩ :=
    onionInnerLayers_path exchange n1 n2 n3 self newPath nonce dest payload hrandom2 hrandom3
  let source := conIdToIpPort conId con.identifier
  let step2 := layerFor cipher nonce n3.address random3.publicKey sharedKey3 (ipportPack dest ++ payload)
  let step3 := layerFor cipher nonce n2.address random2.publicKey sharedKey2 step2
  let ret1 := sealReturn cipher n1.onion.secretSymmetricKey n1.env.randomNonce source []
  have hret1 : ret1.length = onionReturn1 := length_firstReturn _ _ _
  have hbase : onionSendBase = 67 := rfl
  have hstep3 : step3.length = 153 + payload.length := by
    simp [step3, step2, length_layerFor, sizeIpport, sizeIp, sizeIp6]
    omega
  have hpacket : (nonce.toList ++ step3).length = cryptoNonceSize + (153 + payload.length) := by
    rw [length_append, hstep3, Vector.length_toList]
  refine ⟨nonce.toList ++ step3,
    onionPacket netPacketOnionSend1 nonce random2.publicKey (cipher.afternm sharedKey2 nonce step2) ret1,
    thirdReturn n2 n3 n1.address ret1, ?_, ?_, ?_, forwards hkey2 hkey3 hdest hpayload hret1, ?_⟩
  · have hfits : ¬(cryptoNonceSize + sizeIpport + onionSendBase * 2 + payload.length >
        onionMaxPacketSize ∨ payload.length = 0) := by
      have hsize : cryptoNonceSize + sizeIpport + onionSendBase * 2 = 177 := rfl
      have hpacketSize : onionMaxPacketSize = 1400 := rfl
      omega
    rw [createOnionPacketTcp, if_neg hfits, hlayers]
    rfl
  · have hlong : cryptoNonceSize + onionSendBase * 2 < (nonce.toList ++ step3).length := by
      omega
    have hid : ∀ id ∈ [tcpPacketRoutingRequest, tcpPacketConnectionNotification,
        tcpPacketDisconnectNotification, tcpPacketPing, tcpPacketPong, tcpPacketOobSend],
        ¬tcpPacketOnionRequest = id := by
      intro id hmem heq
      rw [← heq] at hmem
      exact absurd hmem (by decide)
    rw [TCPServer.handleTCPPacket, hcon]
    dsimp only
    rw [if_neg (hid _ (by simp)), if_neg (hid _ (by simp)), if_neg (hid _ (by simp)),
      if_neg (hid _ (by simp)), if_neg (hid _ (by simp)), if_neg (hid _ (by simp)), if_pos rfl,
      if_pos honion, decide_eq_true hlong]
  · unfold TCPServer.handleOnionRequest
    rw [hcon]
    dsimp only
    rw [if_neg (by decide), if_neg (by omega), drop_left' Vector.length_toList,
      bytesToVector_toList_append nonce]
    exact sentTo_firstNode n1.env _ n2.isUdp hpayload
  · intro response hresponse
    refine ⟨_, returns n1.isUdp hresponse hret1, fun later env hkeep hcallback => ?_⟩
    have hpos' := hresponse.pos
    have hle' := hresponse.le
    have hsize : onionResponseMaxDataSize = 1222 := rfl
    have hret : 1 + onionReturn1 = 60 := rfl
    have hpacketSize : onionMaxPacketSize = 1400 := rfl
    show (later.handleRecv1 cipher env (returnPacket _ (sealReturn cipher
      n1.onion.secretSymmetricKey _ source []) response)).1 = _
    rw [← hkeep, Onion.handleRecv1_eq env hresponse.id hpos' (by omega), hcallback]
    rfl

end trips

theorem recv1Function_client {s s' : CountedServer} {conId : UInt32} {con : TCPSecureConnection}
    (hreachable : CountedServer.system.Reachable s)
    (hcon : s.server.acceptedConnectionArray[conId.toNat]? = some con) (hstatus : con.status ≠ .noStatus)
    (hsteps : Relation.ReflTransGen CountedServer.system.step s s') (htotal : s'.total < 2 ^ 64)
    (env : TCPServerEnv) (target : IPPort) {response : Bytes} (hresponse : LegalResponse response) :
    (s'.Connected conId.toNat (s.serial conId.toNat) → env.write s'.server.writes →
      ∃ con', s'.server.acceptedConnectionArray[conId.toNat]? = some con' ∧
        (s'.server.recv1Function env
          (target.unpackedInto (conIdToIpPort conId con.identifier)) response).written =
        s'.server.written ++
          [{ index := conId.toNat, publicKey := con'.publicKey, source := con'.publicKey,
             data := tcpPacketOnionResponse :: response }]) ∧
    (¬s'.Connected conId.toNat (s.serial conId.toNat) →
      s'.server.recv1Function env
        (target.unpackedInto (conIdToIpPort conId con.identifier)) response = s'.server) := by
  have hcounted := CountedServer.counted_of_reachable hreachable
  have hcounted' :=
    CountedServer.counted_of_reachable (CountedServer.reachable_of_steps hreachable hsteps)
  have hsome : s.server.identifierAt conId.toNat = some con.identifier :=
    TCPServer.identifierAt_eq_some.mpr ⟨con, hcon, hstatus, rfl⟩
  obtain ⟨hidentifier, hpos, hle⟩ := hcounted.serial _ _ hsome
  have hmono := CountedServer.total_le_of_steps hsteps
  have hiff : ∀ con', s'.server.acceptedConnectionArray[conId.toNat]? = some con' →
      (con'.identifier = UInt64.ofNat (s.serial conId.toNat) ↔
        s'.Connected conId.toNat (s.serial conId.toNat)) :=
    fun con' h => hcounted'.identifier_eq_iff htotal hpos (by omega) h
  rw [recv1Function_conIdToIpPort, hidentifier, TCPServer.handleOnionRecv1, TCPServer.replyTo]
  cases hcon' : s'.server.acceptedConnectionArray[conId.toNat]? with
  | none =>
    refine ⟨fun hconnected => ?_, fun _ => rfl⟩
    have hnone : s'.server.identifierAt conId.toNat = none := by
      rw [TCPServer.identifierAt, hcon', Option.bind_none]
    rw [CountedServer.Connected, hnone] at hconnected
    cases hconnected.1
  | some con' =>
    have hiff' := hiff con' hcon'
    constructor
    · intro hconnected hwrite
      refine ⟨con', rfl, ?_⟩
      have hle' := hresponse.le
      have hsize : onionResponseMaxDataSize = 1222 := rfl
      have hfits : ¬(tcpPacketOnionResponse :: response).length + cryptoMacSize > maxPacketSize := by
        have hmac : cryptoMacSize = 16 := rfl
        have hpacketSize : maxPacketSize = 2048 := rfl
        rw [length_cons]
        omega
      dsimp only
      rw [if_neg (not_not.mpr (hiff'.mpr hconnected)), TCPServer.writePacketTCPSecureConnection, hcon']
      dsimp only
      rw [if_neg hfits, if_pos hwrite]
    · intro hgone
      dsimp only
      rw [if_pos fun hsame => hgone (hiff'.mp hsame)]

/-- A request arrives, and a response comes back to its source, or to the very client of the relay, while it has
    accepted fewer than `2 ^ 64` connections. -/
theorem onion_roundTrip (cipher : ByteCipher OnionNonce) (exchange : KeyExchange box) :
    OnionRoundTrip cipher exchange fun s => s.total < 2 ^ 64 where
  udp n1 n2 n3 _ _ _ newPath nonce _ _ _ hself hrandom2 hrandom3 hsource hdest hpayload :=
    udp_roundTrip exchange n1 n2 n3 newPath nonce hself hrandom2 hrandom3 hsource hdest hpayload
  tcp n1 n2 n3 _ _ _ newPath nonce _ _ server env conId con _ hrandom2 hrandom3 hdest hpayload honion
      hcon :=
    tcp_roundTrip exchange n1 n2 n3 newPath nonce server env conId con hrandom2 hrandom3 hdest
      hpayload honion hcon
  client _ _ _ _ hreachable hcon hstatus hsteps htotal env target _ hresponse :=
    recv1Function_client hreachable hcon hstatus hsteps htotal env target hresponse

theorem length_halfKey (key : SharedKey) : (key.toList.take cryptoMacSize).length = cryptoMacSize := by
  rw [length_take, Vector.length_toList]
  rfl

def halfKeyCipher : ByteCipher OnionNonce where
  afternm key _ plain := key.toList.take cryptoMacSize ++ plain
  openAfternm key _ encrypted :=
    if encrypted.take cryptoMacSize = key.toList.take cryptoMacSize then
      some (encrypted.drop cryptoMacSize)
    else none
  length_afternm key _ plain := by
    rw [List.length_append, length_halfKey, Nat.add_comm]
  length_openAfternm key _ encrypted plain h := by
    split at h
    · rename_i htag
      have hlen := congrArg List.length htag
      rw [length_halfKey, List.length_take] at hlen
      rw [← Option.some.inj h, List.length_drop]
      omega
    · cases h
  openAfternm_afternm key _ plain := by
    rw [List.take_left' (length_halfKey key), List.drop_left' (length_halfKey key), if_pos rfl]

def xorExchange : KeyExchange xorBox where
  paired keys := keys.publicKey = keys.secretKey
  agree a b ha hb := by
    refine ⟨_, rfl, ?_⟩
    rw [xorBox, hb, ha, Option.some.injEq]
    ext i hi
    simp [UInt8.xor_comm]

def freshNode (b : UInt8) : HonestNode xorBox halfKeyCipher xorExchange where
  address := { emptyIpPort with family := toxAfInet, ip := Vector.replicate 16 b, port := 33445 }
  keys := { publicKey := key b, secretKey := key b }
  onion := (newOnion 1 (key 9) (key b)).get rfl
  env :=
    { now := 2, newSymmetricKey := key 8, randomNonce := Vector.replicate _ b,
      uninitialized := emptyIpPort }
  isUdp := rfl
  paired := rfl
  reachable := .init ⟨1, key 9, rfl⟩

/-- A one-byte request arrives with its return part. -/
theorem onion_roundTrip_freshNodes : ∃ packet₁ packet₂ ret,
    createOnionPacket halfKeyCipher (Vector.replicate _ 5) onionMaxPacketSize
      (createOnionPath xorBox ⟨key 4, key 4⟩ ⟨key 5, key 5⟩ ⟨key 6, key 6⟩
        { sharedKey1 := key 0, sharedKey2 := key 0, sharedKey3 := key 0, publicKey1 := key 0,
          publicKey2 := key 0, publicKey3 := key 0, ipPort1 := emptyIpPort, nodePublicKey1 := key 0,
          ipPort2 := emptyIpPort, nodePublicKey2 := key 0, ipPort3 := emptyIpPort,
          nodePublicKey3 := key 0 }
        (freshNode 1).format (freshNode 2).format (freshNode 3).format)
      (freshNode 7).address [netPacketAnnounceRequest] = some packet₁ ∧
    ((freshNode 1).onion.handleSendInitial halfKeyCipher (freshNode 1).env xorBox
      (freshNode 4).address packet₁).1.SentTo (freshNode 2).address packet₂ ∧
    Forwards (freshNode 2) (freshNode 3) (freshNode 1).address packet₂ (freshNode 7).address
      [netPacketAnnounceRequest] ret := by
  obtain ⟨packet₁, packet₂, ret, hcreate, hsend, hforwards, -⟩ :=
    (onion_roundTrip halfKeyCipher xorExchange).udp (freshNode 1) (freshNode 2) (freshNode 3)
      ⟨key 4, key 4⟩ ⟨key 5, key 5⟩ ⟨key 6, key 6⟩ _ (Vector.replicate _ 5) (freshNode 4).address
      (freshNode 7).address [netPacketAnnounceRequest] rfl rfl rfl rfl rfl
      ⟨by decide, by decide, by decide⟩
  exact ⟨packet₁, packet₂, ret, hcreate, hsend, hforwards⟩

/-- After `2 ^ 64` connections the response goes to another client. -/
theorem not_onion_roundTrip :
    ¬∀ (box : CryptoBox) (cipher : ByteCipher OnionNonce) (exchange : KeyExchange box),
      OnionRoundTrip cipher exchange fun _ => True := by
  intro h
  obtain ⟨s, s', hreachable, hsteps, hcon, hconnected, hcon', hgone⟩ :=
    CountedServer.exists_same_identifier
  have hserial : s.serial 0 = 1 := hconnected.2
  have hnobody := ((h xorBox halfKeyCipher xorExchange).client s s' 0 _ hreachable hcon
    (by decide) hsteps trivial TCPServer.workingEnv emptyIpPort [netPacketAnnounceResponse]
    ⟨by decide, by decide, by decide⟩).2
  rw [show (0 : UInt32).toNat = 0 from rfl, hserial] at hnobody
  have hwritten := congrArg (fun server => server.written.length) (hnobody hgone)
  rw [recv1Function_conIdToIpPort, TCPServer.handleOnionRecv1, TCPServer.replyTo,
    show (0 : UInt32).toNat = 0 from rfl, hcon'] at hwritten
  simp [CountedServer.onlyConnection, TCPServer.writePacketTCPSecureConnection, hcon',
    TCPServer.workingEnv, cryptoMacSize, maxPacketSize] at hwritten

end Toxcore
