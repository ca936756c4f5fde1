import Toxcore.Spec.CloseNodes
import Toxcore.Spec.DhtSystem

/-!
# The result of `addto_lists`

`addto_lists` counts the lists that hold the node after the call.  It counts a friend list exactly if the
list holds the node, and the close list exactly if `add_to_close` fails.
-/

namespace Toxcore

open List

def holdsPk (list : List ClientData) (publicKey : PublicKey) : Bool :=
  list.any (·.publicKey == publicKey)

section

variable {list : List ClientData} {publicKey : PublicKey}

theorem indexOfClientPk_isSome : (indexOfClientPk list publicKey).isSome = holdsPk list publicKey :=
  findIdx?_isSome

theorem holdsPk_updateAt {index : Nat} {f : ClientData → ClientData} (hindex : index < list.length)
    (hf : (f list[index]).publicKey = publicKey) : holdsPk (updateAt list index f) publicKey = true := by
  refine any_eq_true.mpr ⟨f list[index], ?_, beq_iff_eq.mpr hf⟩
  refine mem_of_getElem? (i := index) ?_
  rw [updateAt, getElem?_modify_eq, getElem?_eq_getElem hindex]
  rfl

theorem publicKey_updateClient (now : UInt64) (ipPort : IPPort) (client : ClientData) :
    (updateClient now ipPort client).publicKey = client.publicKey := by
  unfold updateClient
  split_ifs <;> rfl

theorem publicKey_takeOver (now : UInt64) (ipPort : IPPort) (client : ClientData) :
    (takeOver now publicKey ipPort client).publicKey = publicKey := by
  unfold takeOver
  split_ifs <;> rfl

theorem publicKey_updateClientWithReset (now : UInt64) (ipPort : IPPort) (client : ClientData) :
    (updateClientWithReset now ipPort client).publicKey = client.publicKey := by
  unfold updateClientWithReset
  split_ifs <;> rfl

theorem clientOrIpPortInList_spec (now : UInt64) (list : List ClientData) (publicKey : PublicKey)
    (ipPort : IPPort) :
    (clientOrIpPortInList now list publicKey ipPort).1 =
        ((indexOfClientPk list publicKey).isSome || (indexOfClientIpPort list ipPort).isSome) ∧
      holdsPk (clientOrIpPortInList now list publicKey ipPort).2 publicKey =
        (clientOrIpPortInList now list publicKey ipPort).1 := by
  unfold clientOrIpPortInList
  cases hpk : indexOfClientPk list publicKey with
  | some index =>
    obtain ⟨hindex, heq, -⟩ := findIdx?_eq_some_iff_getElem.mp hpk
    refine ⟨rfl, holdsPk_updateAt hindex ?_⟩
    rw [publicKey_updateClient]
    exact beq_iff_eq.mp heq
  | none =>
    cases hip : indexOfClientIpPort list ipPort with
    | some index =>
      obtain ⟨hindex, -, -⟩ := findIdx?_eq_some_iff_getElem.mp hip
      exact ⟨rfl, holdsPk_updateAt hindex (publicKey_takeOver now ipPort _)⟩
    | none =>
      refine ⟨rfl, ?_⟩
      rw [← indexOfClientPk_isSome, hpk]
      rfl

theorem length_sortClientList (list : List ClientData) (curTime : UInt64) (compPublicKey : PublicKey)
    (calloc : Bool) : (sortClientList list curTime compPublicKey calloc).length = list.length := by
  unfold sortClientList
  split
  · rfl
  · exact length_insertionSort _ _

theorem holdsPk_replaceAll {now curTime : UInt64} {calloc : Bool} {ipPort : IPPort}
    {compPublicKey : PublicKey} (hnot : holdsPk list publicKey = false) :
    holdsPk (replaceAll now curTime calloc list publicKey ipPort compPublicKey).2 publicKey =
      (replaceAll now curTime calloc list publicKey ipPort compPublicKey).1 := by
  unfold replaceAll
  split
  · exact hnot
  · split
    · exact hnot
    · rename_i hstore
      have hpos : 0 < list.length := by
        by_contra hempty
        rw [eq_nil_of_length_eq_zero (Nat.eq_zero_of_not_pos hempty)] at hstore
        exact hstore rfl
      refine holdsPk_updateAt (by rw [length_sortClientList]; exact hpos) ?_
      rw [publicKey_updateClientWithReset]

end

namespace DHT

/-- A friend list is counted exactly if it holds the key. -/
theorem used_addtoFriend (curTime : UInt64) (env : DhtEnv) (publicKey : PublicKey) (ipPort : IPPort)
    (fr : DHTFriend) :
    holdsPk (addtoFriend curTime env publicKey ipPort fr).2.clientList publicKey =
      (addtoFriend curTime env publicKey ipPort fr).1 := by
  obtain ⟨-, hholds⟩ := clientOrIpPortInList_spec env.now fr.clientList publicKey ipPort
  unfold addtoFriend
  generalize clientOrIpPortInList env.now fr.clientList publicKey ipPort = result at hholds
  obtain ⟨found, list⟩ := result
  cases found with
  | true => exact hholds
  | false => exact holdsPk_replaceAll hholds

def CloseKnows (dht : DHT) (publicKey : PublicKey) (ipPort : IPPort) : Prop :=
  (indexOfClientPk dht.closeClientlist publicKey).isSome ∨
    (indexOfClientIpPort dht.closeClientlist ipPort).isSome

variable (dht : DHT) (box : CryptoBox) (env : DhtEnv) (publicKey : PublicKey) (ipPort : IPPort)

theorem closeSlot_lt {i : Nat} (h : dht.closeSlot publicKey = some i) :
    i < dht.closeClientlist.length := by
  obtain ⟨j, hj, rfl⟩ := Option.map_eq_some_iff.mp h
  obtain ⟨hlt, -, -⟩ := findIdx?_eq_some_iff_getElem.mp hj
  rw [length_take, length_drop] at hlt
  omega

theorem holdsPk_addToClose (hnot : holdsPk dht.closeClientlist publicKey = false) :
    holdsPk (dht.addToClose box env publicKey ipPort false).2.closeClientlist publicKey =
      (dht.addToClose box env publicKey ipPort false).1 := by
  unfold addToClose
  cases hslot : dht.closeSlot publicKey with
  | none => exact hnot
  | some i =>
    show holdsPk (sendAnnouncePing _ box env publicKey ipPort).2.closeClientlist publicKey = true
    rw [(sameLists_sendAnnouncePing _ box env publicKey ipPort).closeClientlist]
    exact holdsPk_updateAt (dht.closeSlot_lt publicKey hslot) (publicKey_updateClientWithReset ..)

theorem used_addtoCloseList_of_knows (h : dht.CloseKnows publicKey ipPort) :
    (dht.addtoCloseList box env publicKey ipPort).1 = 1 ∧
      holdsPk (dht.addtoCloseList box env publicKey ipPort).2.closeClientlist publicKey = true := by
  obtain ⟨hfound, hholds⟩ := clientOrIpPortInList_spec env.now dht.closeClientlist publicKey ipPort
  rw [Bool.or_eq_true_iff.mpr h] at hfound
  unfold addtoCloseList
  generalize clientOrIpPortInList env.now dht.closeClientlist publicKey ipPort = result at hfound hholds
  obtain ⟨found, list⟩ := result
  obtain rfl : found = true := hfound
  exact ⟨rfl, hholds⟩

theorem used_addtoCloseList_of_not_knows (h : ¬dht.CloseKnows publicKey ipPort) :
    (dht.addtoCloseList box env publicKey ipPort).1 =
      1 - (holdsPk (dht.addtoCloseList box env publicKey ipPort).2.closeClientlist publicKey).toNat := by
  obtain ⟨hfound, hholds⟩ := clientOrIpPortInList_spec env.now dht.closeClientlist publicKey ipPort
  have hnone : (clientOrIpPortInList env.now dht.closeClientlist publicKey ipPort).1 = false := by
    rw [hfound, Bool.eq_false_iff]
    exact fun hor => h (Bool.or_eq_true_iff.mp hor)
  have hsame := clientOrIpPortInList_of_false hnone
  unfold addtoCloseList
  generalize clientOrIpPortInList env.now dht.closeClientlist publicKey ipPort = result at hnone hholds hsame
  obtain ⟨found, list⟩ := result
  obtain rfl : found = false := hnone
  obtain rfl : list = dht.closeClientlist := hsame
  have hadded := dht.holdsPk_addToClose box env publicKey ipPort hholds
  dsimp only
  rw [hadded]
  cases (dht.addToClose box env publicKey ipPort false).1 <;> rfl

theorem friends_addtoCloseList :
    (dht.addtoCloseList box env publicKey ipPort).2.friends = dht.friends ∧
      (dht.addtoCloseList box env publicKey ipPort).2.curTime = dht.curTime := by
  obtain ⟨_, hsame, -⟩ := addtoCloseList_spec dht box env publicKey ipPort
  exact ⟨hsame.friends, hsame.curTime⟩

theorem friends_mapFriends (f : DHTFriend → DHTFriend) : (dht.mapFriends f).friends = dht.friends.map f := by
  rw [mapFriends, friends]
  by_cases hle : dht.numFriends.toNat ≤ dht.friendsList.length
  · refine take_left' ?_
    rw [length_map, friends, length_take, Nat.min_eq_left hle]
  · rw [drop_of_length_le (Nat.le_of_not_le hle), append_nil, take_of_length_le]
    rw [length_map, friends, length_take]
    exact Nat.min_le_left _ _

def holders (dht : DHT) (publicKey : PublicKey) : Nat :=
  (holdsPk dht.closeClientlist publicKey).toNat + dht.friends.countP fun fr => holdsPk fr.clientList publicKey

/-- `addto_lists` returns the number of lists that hold the key after the call. -/
structure AddtoTruthful (ipPort : IPPort) (publicKey : PublicKey) : Prop where
  pos : 0 < (dht.addtoLists box env ipPort publicKey).1 ↔
    holdsPk (dht.addtoLists box env ipPort publicKey).2.closeClientlist publicKey ∨
      ∃ fr ∈ (dht.addtoLists box env ipPort publicKey).2.friends, holdsPk fr.clientList publicKey
  count : (dht.addtoLists box env ipPort publicKey).1 =
    (dht.addtoLists box env ipPort publicKey).2.holders publicKey

theorem holders_pos (dht : DHT) (publicKey : PublicKey) :
    0 < dht.holders publicKey ↔
      holdsPk dht.closeClientlist publicKey ∨ ∃ fr ∈ dht.friends, holdsPk fr.clientList publicKey := by
  have htoNat (b : Bool) : 0 < b.toNat ↔ b = true := by cases b <;> decide
  rw [holders, Nat.add_pos_iff_pos_or_pos, htoNat, countP_pos_iff]

theorem addtoLists_eq (ipPort : IPPort) :
    (dht.addtoLists box env ipPort publicKey).1 =
        (dht.addtoCloseList box env publicKey (ipPortNormalize ipPort)).1 +
          (dht.addtoLists box env ipPort publicKey).2.friends.countP
            (fun fr => holdsPk fr.clientList publicKey) ∧
      (dht.addtoLists box env ipPort publicKey).2.closeClientlist =
        (dht.addtoCloseList box env publicKey (ipPortNormalize ipPort)).2.closeClientlist := by
  refine ⟨?_, rfl⟩
  rw [addtoLists]
  dsimp only
  rw [friends_mapFriends, countP_map]
  refine congrArg _ (countP_congr fun fr _ => ?_)
  rw [Function.comp_apply, used_addtoFriend]

theorem AddtoTruthful.closeKnows {dht : DHT} {box : CryptoBox} {env : DhtEnv} {ipPort : IPPort}
    {publicKey : PublicKey} (h : dht.AddtoTruthful box env ipPort publicKey) :
    dht.CloseKnows publicKey (ipPortNormalize ipPort) := by
  obtain ⟨hused, hclose⟩ := dht.addtoLists_eq box env publicKey ipPort
  by_contra hnot
  have hcount := h.count
  rw [hused, dht.used_addtoCloseList_of_not_knows box env publicKey (ipPortNormalize ipPort) hnot,
    ← hclose, DHT.holders] at hcount
  generalize holdsPk _ publicKey = held at hcount
  cases held with
  | false =>
    omega
  | true =>
    omega

end DHT

/-- The result of `addto_lists` is right if and only if the close list had the key or the address. -/
theorem addtoLists_truthful_iff (dht : DHT) (box : CryptoBox) (env : DhtEnv) (ipPort : IPPort)
    (publicKey : PublicKey) :
    dht.AddtoTruthful box env ipPort publicKey ↔
      dht.CloseKnows publicKey (ipPortNormalize ipPort) := by
  constructor
  · exact DHT.AddtoTruthful.closeKnows
  · intro hknows
    obtain ⟨hused, hclose⟩ := dht.addtoLists_eq box env publicKey ipPort
    obtain ⟨hone, hheld⟩ :=
      dht.used_addtoCloseList_of_knows box env publicKey (ipPortNormalize ipPort) hknows
    have hcount : (dht.addtoLists box env ipPort publicKey).1 =
        (dht.addtoLists box env ipPort publicKey).2.holders publicKey := by
      rw [hused, DHT.holders, hclose, hheld, hone]
      rfl
    refine ⟨?_, hcount⟩
    rw [hcount]
    exact DHT.holders_pos _ publicKey

/-- A `DHT` with one friend that knows no nodes. -/
def lonelyDht : DHT :=
  dhtWith (List.replicate lclientList emptyClientData) [emptyDhtFriend (key 2)]

/-- A node is stored in the empty close list and in the empty list of a friend, and counted once. -/
theorem not_addtoTruthful_lonely : ¬lonelyDht.AddtoTruthful xorBox (.good 1000) address4 (key 5) := by
  intro h
  have hknows := h.closeKnows
  have hpk : (indexOfClientPk lonelyDht.closeClientlist (key 5)).isSome = false := by decide +kernel
  have hip : (indexOfClientIpPort lonelyDht.closeClientlist (ipPortNormalize address4)).isSome =
      false := by
    decide +kernel
  rw [DHT.CloseKnows, hpk, hip] at hknows
  exact hknows.elim Bool.false_ne_true Bool.false_ne_true

end Toxcore
