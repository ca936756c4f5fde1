import Toxcore.Native.OnionData
import Toxcore.Spec.OnionAnnounces

/-!
# Delivery of onion data

The limits of five functions describe one set of lengths, but for that of the friend, who counts the
header of a data response.
-/

namespace Toxcore

open List

/-- A data request that was sent, the node that it goes to, and the friend whose announce is stored there. -/
structure DataTransfer (box : CryptoBox) (cipher : ByteCipher OnionNonce) (exchange : KeyExchange box) where
  sender : OnionClient
  now : UInt64
  nonce : OnionNonce
  draws : Nat → DataRequestDraw
  friendNum : Nat
  friend : OnionFriend
  data : Bytes
  requests : List SentDataRequest
  sent : SentDataRequest
  node : OnionAnnounce
  nodeNow : UInt64
  entry : OnionAnnounceEntry
  receiver : OnionClient
  tempSecretKey : SecretKey
  registered : UInt8 → Bool
  friend_eq : sender.friendsList[friendNum]? = some friend
  sends : sender.sendOnionData box cipher now nonce draws friendNum data = some requests
  sent_mem : sent ∈ requests
  realPublicKey : friend.realPublicKey = receiver.selfPublicKey
  dataPublicKey : sent.node.dataPublicKey = receiver.tempPublicKey
  stored : (OnionAnnounce.inEntries nodeNow node.entries receiver.selfPublicKey).bind (node.entries[·]?) = some entry
  handler : registered (data.getD 0 0) = true
  paired_sender : exchange.paired { publicKey := sender.selfPublicKey, secretKey := sender.selfSecretKey }
  paired_self : exchange.paired { publicKey := receiver.selfPublicKey, secretKey := receiver.selfSecretKey }
  paired_temp : exchange.paired { publicKey := receiver.tempPublicKey, secretKey := tempSecretKey }
  paired_random : ∀ i, exchange.paired (draws i).random

namespace DataTransfer

variable {box : CryptoBox} {cipher : ByteCipher OnionNonce} {exchange : KeyExchange box}
  (t : DataTransfer box cipher exchange)

/-- A path carries the request and the response, whatever return part it adds, and the handler gets the data. -/
def Delivered : Prop :=
  LegalRequest t.sent.request ∧ ∀ ret : Bytes, ret.length = onionReturn3 → ∃ response packet,
    t.node.handleDataRequest t.nodeNow (t.sent.request ++ ret) = some (t.entry.retIpPort, packet) ∧
    sendOnionResponse response t.entry.ret = some packet ∧ LegalResponse response ∧
    t.receiver.handleDataResponse box cipher t.tempSecretKey t.registered response =
      some { byte := t.data.getD 0 0, sourcePublicKey := t.sender.selfPublicKey, data := t.data }

/-- What is encrypted for the node's `data_public_key`. -/
def inner : Bytes :=
  t.sender.selfPublicKey.toList ++ cipher.afternm
    (box.encryptPrecompute t.friend.realPublicKey t.sender.selfSecretKey box.uninitialized) t.nonce t.data

/-- What a request has behind the key of the friend. -/
def body (i : Nat) : Bytes :=
  t.nonce.toList ++ ((t.draws i).random.publicKey.toList ++ cipher.afternm
    (box.encryptPrecompute t.sent.node.dataPublicKey (t.draws i).random.secretKey box.uninitialized) t.nonce t.inner)

theorem length_inner : t.inner.length = 48 + t.data.length := by
  have hmac : cryptoMacSize = 16 := rfl
  rw [inner, length_append, Vector.length_toList, cipher.length_afternm]
  show 32 + _ = _
  omega

theorem length_body (i : Nat) : (t.body i).length = 120 + t.data.length := by
  have hmac : cryptoMacSize = 16 := rfl
  rw [body, length_append, length_append, Vector.length_toList, Vector.length_toList, cipher.length_afternm,
    length_inner, hmac]
  show 24 + (32 + _) = _
  omega

theorem request_eq : 0 < t.data.length ∧ t.data.length ≤ 1021 ∧
    ∃ i, t.sent.request = netPacketOnionDataRequest :: (t.friend.realPublicKey.toList ++ t.body i) := by
  have hsends := t.sends
  have hmax : maxDataRequestSize = 1069 := rfl
  have hmin : onionDataInResponseMinSize = 48 := rfl
  rw [OnionClient.sendOnionData, t.friend_eq] at hsends
  dsimp only at hsends
  split_ifs at hsends
  refine ⟨by omega, by omega, ?_⟩
  split at hsends
  case h_2 => cases hsends
  rename_i good encrypted _ hencrypted
  obtain ⟨-, rfl⟩ := ByteCipher.encryptDataSymmetric_eq_some hencrypted
  split_ifs at hsends
  have hmem := t.sent_mem
  rw [← Option.some.inj hsends] at hmem
  obtain ⟨entry, -, hentry⟩ := mem_filterMap.mp hmem
  obtain ⟨path, -, hpath⟩ := Option.bind_eq_some_iff.mp hentry
  obtain ⟨request, hrequest, hsent⟩ := Option.map_eq_some_iff.mp hpath
  refine ⟨entry.2, ?_⟩
  rw [createDataRequest] at hrequest
  split_ifs at hrequest
  split at hrequest
  · cases hrequest
  · rename_i encrypted hencrypted
    obtain ⟨-, rfl⟩ := ByteCipher.encryptDataSymmetric_eq_some hencrypted
    split_ifs at hrequest
    rw [body, ← hsent, ← Option.some.inj hrequest]
    rfl

theorem handleDataRequest_eq {i : Nat} {ret : Bytes} (hret : ret.length = onionReturn3) (hlength : t.data.length ≤ 1021)
    (hpos : 0 < t.data.length) :
    t.node.handleDataRequest t.nodeNow
        (netPacketOnionDataRequest :: (t.friend.realPublicKey.toList ++ t.body i) ++ ret) =
      (sendOnionResponse (netPacketOnionDataResponse :: t.body i) t.entry.ret).map (t.entry.retIpPort, ·) := by
  have hbody := t.length_body i
  have hreturn : onionReturn3 = 177 := rfl
  have hmin : onionDataRequestMinSize = 105 := rfl
  have hmax : onionMaxPacketSize = 1400 := rfl
  have hkey : cryptoPublicKeySize = 32 := rfl
  have hpk : t.friend.realPublicKey.toList.length = 32 := Vector.length_toList
  have hpacket : (netPacketOnionDataRequest :: (t.friend.realPublicKey.toList ++ t.body i) ++ ret).length =
      330 + t.data.length := by
    rw [length_append, length_cons, length_append]
    omega
  have hdrop : (netPacketOnionDataRequest :: (t.friend.realPublicKey.toList ++ t.body i) ++ ret).drop
      (1 + cryptoPublicKeySize) = t.body i ++ ret := by
    rw [Nat.add_comm, cons_append, drop_succ_cons, append_assoc, drop_left' Vector.length_toList]
  have hfriend : (bytesToVector _ ((netPacketOnionDataRequest :: (t.friend.realPublicKey.toList ++ t.body i) ++
      ret).drop 1) : PublicKey) = t.receiver.selfPublicKey := by
    rw [← t.realPublicKey, cons_append, append_assoc]
    exact bytesToVector_toList_append _ _
  rw [OnionAnnounce.handleDataRequest, if_neg (by omega), if_neg (by omega), hfriend, t.stored]
  rw [hdrop, take_left' (by omega)]

theorem handleDataResponse_eq (i : Nat) (hpos : 0 < t.data.length) :
    t.receiver.handleDataResponse box cipher t.tempSecretKey t.registered (netPacketOnionDataResponse :: t.body i) =
      if 121 + t.data.length > maxDataRequestSize then none
      else some { byte := t.data.getD 0 0, sourcePublicKey := t.sender.selfPublicKey, data := t.data } := by
  have hpacket : (netPacketOnionDataResponse :: t.body i).length = 121 + t.data.length := by
    rw [length_cons, length_body]
    omega
  have hinner := t.length_inner
  have hresponse : onionDataResponseMinSize = 73 := rfl
  have hin : onionDataInResponseMinSize = 48 := rfl
  -- both pairs compute the same shared keys
  obtain ⟨key₁, htemp, hrandom⟩ := exchange.agree _ _ t.paired_temp (t.paired_random i)
  obtain ⟨key₂, hself, hsender⟩ := exchange.agree _ _ t.paired_self t.paired_sender
  have htail : (netPacketOnionDataResponse :: t.body i).drop (1 + cryptoNonceSize) =
      (t.draws i).random.publicKey.toList ++ cipher.afternm key₁ t.nonce t.inner := by
    rw [Nat.add_comm, drop_succ_cons, body, drop_left' t.nonce.length_toList, t.dataPublicKey,
      CryptoBox.encryptPrecompute, htemp, Option.getD_some]
  have hencrypted : (netPacketOnionDataResponse :: t.body i).drop (1 + cryptoNonceSize + cryptoPublicKeySize) =
      cipher.afternm key₁ t.nonce t.inner := by
    rw [← drop_drop, htail, drop_left' Vector.length_toList]
  have hnonce : (bytesToVector _ ((netPacketOnionDataResponse :: t.body i).drop 1) : OnionNonce) = t.nonce :=
    bytesToVector_toList_append _ _
  have hsource : (bytesToVector _ t.inner : PublicKey) = t.sender.selfPublicKey := bytesToVector_toList_append _ _
  have hdata : t.inner.drop cryptoPublicKeySize = cipher.afternm key₂ t.nonce t.data := by
    rw [inner, drop_left' Vector.length_toList, t.realPublicKey, CryptoBox.encryptPrecompute, hself, Option.getD_some]
  rw [OnionClient.handleDataResponse, if_neg (by omega), hpacket]
  split
  · rfl
  dsimp only
  rw [hnonce, htail, hencrypted, bytesToVector_toList_append, CryptoBox.encryptPrecompute, hrandom, Option.getD_some,
    ByteCipher.decryptDataSymmetric_afternm (ne_nil_of_length_pos (by omega))]
  dsimp only
  rw [if_neg (by omega), hsource, CryptoBox.encryptPrecompute, hsender, hdata, Option.getD_some,
    ByteCipher.decryptDataSymmetric_afternm (ne_nil_of_length_pos hpos)]
  dsimp only
  rw [if_neg (by omega), if_neg (by rw [t.handler]; decide)]

theorem delivered_iff_le : t.Delivered ↔ t.data.length ≤ 948 := by
  obtain ⟨hpos, hlength, i, hrequest⟩ := t.request_eq
  have hmax : maxDataRequestSize = 1069 := rfl
  have hbody := t.length_body i
  have hresponseMax : onionResponseMaxDataSize = 1222 := rfl
  have hdataMax : onionMaxDataSize = 1174 := rfl
  have hsent : sendOnionResponse (netPacketOnionDataResponse :: t.body i) t.entry.ret =
      some (netPacketOnionRecv3 :: (t.entry.ret.take onionReturn3 ++ netPacketOnionDataResponse :: t.body i)) := by
    rw [sendOnionResponse, if_neg (by rw [length_cons]; omega)]
  rw [Delivered, hrequest]
  constructor
  · rintro ⟨-, hret⟩
    obtain ⟨response, packet, hhandle, hpacket, -, hdata⟩ := hret (List.replicate onionReturn3 0) length_replicate
    rw [t.handleDataRequest_eq length_replicate hlength hpos, hsent, Option.map_some, Option.some.injEq,
      Prod.mk.injEq] at hhandle
    rw [sendOnionResponse, ← hhandle.2] at hpacket
    split_ifs at hpacket
    obtain rfl := append_cancel_left (cons.inj (Option.some.inj hpacket)).2
    rw [t.handleDataResponse_eq i hpos] at hdata
    split_ifs at hdata
    omega
  · intro hle
    refine ⟨⟨?_, ?_, rfl⟩, fun ret hret => ⟨_, _, ?_, hsent, ⟨?_, ?_, rfl⟩, ?_⟩⟩
    · simp
    · rw [length_cons, length_append, Vector.length_toList]
      show 32 + _ + 1 ≤ _
      omega
    · rw [t.handleDataRequest_eq hret hlength hpos, hsent, Option.map_some]
    · simp
    · rw [length_cons]
      omega
    · rw [t.handleDataResponse_eq i hpos, if_neg (by omega)]

end DataTransfer

/-- Data arrive exactly if the response, with both headers, is one that the friend takes. -/
theorem dataTransfer_delivered_iff {box : CryptoBox} {cipher : ByteCipher OnionNonce} {exchange : KeyExchange box}
    (t : DataTransfer box cipher exchange) :
    t.Delivered ↔ onionDataResponseMinSize + onionDataInResponseMinSize + t.data.length ≤ maxDataRequestSize := by
  rw [t.delivered_iff_le]
  show _ ↔ 121 + _ ≤ 1069
  omega

/-- A client with a friend that has the keys of `groupPeer`. -/
def dataSender : OnionClient :=
  { AnnounceExchange.groupPeer with
    friendsList :=
      [{ isValid := true
         realPublicKey := key 11
         clientsList := [{ zeroOnionNode with isStored := 2, timestamp := 1000, dataPublicKey := key 12 }]
         tempSecretKey := key 9
         pinged := noPingedNodes
         gcPublicKey := key 40 }] }

def fixedDraw : DataRequestDraw where
  path := some ⟨key 0, key 0, key 0, key 0, key 0, key 0, address4, key 0, address4, key 0, address4, key 0⟩
  random := ⟨key 5, key 5⟩

/-- Data of 949 bytes are sent, and the friend does not take them. -/
theorem not_dataTransfer_delivered_long :
    ∃ t : DataTransfer xorBox halfKeyCipher xorExchange, t.data.length = 949 ∧ ¬t.Delivered := by
  have hsome : (dataSender.sendOnionData xorBox halfKeyCipher 1000 (Vector.replicate _ 3) (fun _ => fixedDraw) 0
      (List.replicate 949 0)).map (·.map (·.node.dataPublicKey)) = some [key 12] := by decide +kernel
  obtain ⟨requests, hsends, hnodes⟩ := Option.map_eq_some_iff.mp hsome
  obtain ⟨sent, hsent, hnode⟩ := mem_map.mp (hnodes ▸ mem_singleton_self (key 12))
  let t : DataTransfer xorBox halfKeyCipher xorExchange :=
    ⟨dataSender, 1000, _, _, 0, _, _, requests, sent, { AnnounceExchange.nodeWith 0 with
      entries := [{ zeroAnnounceEntry with publicKey := key 11, announceTime := 1000 }] }, 1000, _,
      AnnounceExchange.groupPeer, key 12, fun _ => true, rfl, hsends, hsent, rfl, hnode, rfl, rfl, rfl, rfl, rfl,
      fun _ => rfl⟩
  refine ⟨t, length_replicate, fun h => ?_⟩
  have hle : (List.replicate 949 (0 : UInt8)).length ≤ 948 := t.delivered_iff_le.mp h
  rw [length_replicate] at hle
  omega

end Toxcore
