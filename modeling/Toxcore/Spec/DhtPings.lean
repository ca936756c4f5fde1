import Toxcore.Spec.DhtSystem
import Toxcore.Spec.PingArrayCorrect

/-!
# The ping array of the DHT

The DHT uses its ping array only through `ping_array_add` and `ping_array_check`.  What both
of them keep is therefore kept by every step.
-/

namespace Toxcore

namespace DHT

def Pings (P : PingArray → Nat → Prop) (dht : DHT) : Prop := P dht.dhtPingArray dht.pingsAdded

def AddKeeps (P : PingArray → Nat → Prop) (env : DhtEnv) : Prop :=
  ∀ array n random malloc data, P array n → P (array.pingArrayAdd env.now random malloc data).2 (n + 1)

def CheckKeeps (P : PingArray → Nat → Prop) (env : DhtEnv) (length : Nat) (pingId : UInt64) : Prop :=
  ∀ array n, P array n → P (array.pingArrayCheck env.now length pingId).2 n

variable {P : PingArray → Nat → Prop} {dht dht' : DHT} {box : CryptoBox} {env : DhtEnv}

theorem Pings.congr (h : dht.Pings P) (harray : dht'.dhtPingArray = dht.dhtPingArray)
    (hadded : dht'.pingsAdded = dht.pingsAdded) : dht'.Pings P := by
  unfold Pings
  rw [harray, hadded]
  exact h

theorem Pings.foldl {α : Type} {f : DHT → α → DHT} (hf : ∀ dht a, dht.Pings P → (f dht a).Pings P)
    (h : dht.Pings P) (as : List α) : (as.foldl f dht).Pings P := by
  induction as generalizing dht with
  | nil => exact h
  | cons a as ih => exact ih (hf dht a h)

/-! ## Sending packets -/

theorem pings_createAndSend (h : dht.Pings P) (sharedKey : SharedKey) (type : UInt8)
    (plain : Bytes) (ipPort : IPPort) :
    DHT.Pings P (match dht.dhtCreatePacket env sharedKey type plain with
      | (none, dht) => (false, dht)
      | (some packet, dht) => dht.sendpacket env ipPort packet).2 := by
  unfold dhtCreatePacket sendpacket
  split_ifs
  · exact h
  · simp only
    split_ifs <;> exact h

theorem pings_sendnodesIpv6 (h : dht.Pings P) (ipPort : IPPort) (publicKey clientId : PublicKey)
    (sendbackData : Bytes) (sharedKey : SharedKey) :
    (dht.sendnodesIpv6 env ipPort publicKey clientId sendbackData sharedKey).2.Pings P := by
  unfold sendnodesIpv6
  simp only
  split_ifs
  · exact h
  · exact h
  all_goals
    split
    · exact h
    · exact pings_createAndSend h _ _ _ _

section Add

variable (hadd : AddKeeps P env)
include hadd

theorem pings_dhtGetnodes (h : dht.Pings P) (ipPort : IPPort) (publicKey clientId : PublicKey) :
    (dht.dhtGetnodes box env ipPort publicKey clientId).2.Pings P := by
  unfold dhtGetnodes
  split_ifs
  · exact h
  · split
    · exact h
    · rename_i data _
      have hping : (dht.addPing env data).2.Pings P := hadd _ _ _ _ _ h
      simp only
      split_ifs
      · exact hping
      · split
        · exact hping
        · exact pings_createAndSend hping _ _ _ _

theorem pings_sendAnnouncePing (h : dht.Pings P) (publicKey : PublicKey) (ipPort : IPPort) :
    (dht.sendAnnouncePing box env publicKey ipPort).2.Pings P := by
  unfold sendAnnouncePing
  have hping : (addPing { dht with rng := dht.rng.randomKey.2 } env publicKey.toList).2.Pings P :=
    hadd _ _ _ _ _ h
  simp only
  split
  · exact hping
  · exact pings_createAndSend hping _ _ _ _

theorem pings_getnodesAll (h : dht.Pings P) (clientId : PublicKey) (nodes : List NodeFormat) :
    (dht.getnodesAll box env clientId nodes).Pings P :=
  .foldl (fun _ _ h => pings_dhtGetnodes hadd h _ _ _) h nodes

theorem pings_dhtBootstrap (h : dht.Pings P) (node : NodeFormat) : (dht.dhtBootstrap box env node).Pings P := by
  unfold dhtBootstrap
  split
  · exact h
  · exact pings_dhtGetnodes hadd h _ _ _

/-! ## The main loop -/

theorem pings_pingAssoc {loop : PingLoop} (h : loop.dht.Pings P) (publicKey clientPk : PublicKey)
    (j : Nat) (assoc : IPPTsPng) :
    (pingAssoc box env publicKey clientPk j loop assoc).1.dht.Pings P := by
  unfold pingAssoc
  simp only
  split_ifs
  all_goals first
    | exact h
    | exact pings_dhtGetnodes hadd h _ _ _

theorem pings_pingLoop (publicKey : PublicKey) (list : List ClientData) {loop : PingLoop}
    (h : loop.dht.Pings P) : (pingLoop box env publicKey list loop).1.dht.Pings P := by
  induction list generalizing loop with
  | nil => exact h
  | cons client list ih =>
    unfold pingLoop
    simp only
    exact ih (pings_pingAssoc hadd (pings_pingAssoc hadd h _ _ _ _) _ _ _ _)

section

variable (h : dht.Pings P)
include h

theorem pings_doPingAndSendnodeRequests (lastgetnode : UInt64)
    (publicKey : PublicKey) (list : List ClientData) (bootstrapTimes : UInt32) (sortable : Bool) :
    (dht.doPingAndSendnodeRequests box env lastgetnode publicKey list bootstrapTimes sortable).dht.Pings P := by
  unfold doPingAndSendnodeRequests
  split_ifs
  · exact h
  · simp only
    have hloop : (pingLoop box env publicKey list
        { dht, notKill := 0, nodes := [], sort := 0, sortOk := false }).1.dht.Pings P :=
      pings_pingLoop hadd publicKey list h
    generalize pingLoop box env publicKey list
      { dht, notKill := 0, nodes := [], sort := 0, sortOk := false } = r at hloop ⊢
    split
    · simp only
      split
      · exact hloop
      · apply pings_dhtGetnodes hadd
        exact hloop
    · exact hloop

theorem pings_doClose : (dht.doClose box env).Pings P := by
  unfold doClose
  simp only
  have hnodes : (dht.getnodesAll box env dht.selfPublicKey
      (dht.toBootstrap.nodes.take dht.toBootstrap.num)).Pings P := pings_getnodesAll hadd h _ _
  generalize dht.getnodesAll box env dht.selfPublicKey
    (dht.toBootstrap.nodes.take dht.toBootstrap.num) = d at hnodes ⊢
  have hresult : (doPingAndSendnodeRequests
      { d with toBootstrap := { d.toBootstrap with num := 0 } } box env d.closeLastgetnodes
      d.selfPublicKey d.closeClientlist d.closeBootstrapTimes false).dht.Pings P := by
    apply pings_doPingAndSendnodeRequests hadd
    exact hnodes
  split_ifs
  · exact hresult
  · exact hresult

theorem pings_doDhtFriend (i : Nat) : (dht.doDhtFriend box env i).Pings P := by
  unfold doDhtFriend
  split
  · exact h
  · exact pings_doPingAndSendnodeRequests hadd (pings_getnodesAll hadd h _ _) _ _ _ _ _

theorem pings_dhtConnectAfterLoad : (dht.dhtConnectAfterLoad box env).Pings P := by
  unfold dhtConnectAfterLoad
  split
  · exact h
  · refine .foldl (fun d _ hd => ?_) h _
    split
    · exact hd
    · exact (pings_dhtBootstrap hadd hd _).congr rfl rfl

theorem pings_doDht : (dht.doDht box env).Pings P := by
  unfold doDht
  split
  · exact h
  · simp only
    refine .foldl (fun d i hd => pings_doDhtFriend hadd hd i) (pings_doClose hadd ?_) _
    split
    · exact pings_dhtConnectAfterLoad hadd h
    · exact h

/-! ## Adding nodes -/

theorem pings_addtoLists (ipPort : IPPort) (publicKey : PublicKey) :
    (dht.addtoLists box env ipPort publicKey).2.Pings P := by
  unfold addtoLists addtoCloseList
  simp only
  split
  · exact h
  · rename_i closeClientlist _
    have hclose : (addToClose { dht with closeClientlist } box env publicKey
        (ipPortNormalize ipPort) false).2.Pings P := by
      unfold addToClose
      split
      · exact h
      · apply pings_sendAnnouncePing hadd
        exact h
    exact hclose

end

end Add

/-! ## Steps -/

theorem pings_handleDataSearchResponse (h : dht.Pings P) (packet : DHTPacket)
    (hcheck : ∀ pingId, CheckKeeps P env cryptoPublicKeySize pingId) :
    (dht.handleDataSearchResponse box env packet).Pings P := by
  unfold handleDataSearchResponse
  simp only
  split
  · exact h
  · split
    · exact h
    · split
      · exact h
      · rename_i plain _
        have hchecked := hcheck (pingIdOfBytes (plain.drop (packet.encrypted.plain.length - 8))) _ _ h
        split
        · rename_i heq
          rwa [heq] at hchecked
        · rename_i heq
          rw [heq] at hchecked
          split <;> exact hchecked

theorem pings_sentGetnodeToNode (h : dht.Pings P) (publicKey : PublicKey) (nodeIpPort : IPPort)
    {pingId : UInt64} (hcheck : CheckKeeps P env (2 * sizeofNodeFormat) pingId) :
    (dht.sentGetnodeToNode env publicKey nodeIpPort pingId).2.Pings P := by
  have hchecked := hcheck _ _ h
  unfold sentGetnodeToNode
  split
  · rename_i heq
    rwa [heq] at hchecked
  · rename_i heq
    rw [heq] at hchecked
    simp only
    split
    · exact hchecked
    · split <;> exact hchecked

end DHT

/-- The ping id that a `send_nodes` packet sends back. -/
def DHTPacket.sendnodesPingId (packet : DHTPacket) : UInt64 :=
  DHT.pingIdOfBytes (packet.encrypted.plain.drop (1 + (packet.length - DHT.sendnodesCidSize)))

namespace DHT

variable {P : PingArray → Nat → Prop} {dht : DHT} {box : CryptoBox} {env : DhtEnv}

section

variable (h : dht.Pings P)
include h

theorem pings_checkSendnodes (source : IPPort) (packet : DHTPacket) (sizePlainNodes : Nat)
    (hcheck : CheckKeeps P env (2 * sizeofNodeFormat) packet.sendnodesPingId) :
    (dht.checkSendnodes box env source packet sizePlainNodes).2.Pings P := by
  unfold checkSendnodes
  simp only
  split_ifs
  · exact h
  · exact h
  · exact h
  · split
    · exact h
    · split
      · exact h
      · rename_i plain hplain
        -- the decrypted bytes are those that were encrypted
        have hplain : packet.encrypted.plain = plain := by
          rw [decryptDataSymmetric_eq_some hplain]
          rfl
        split_ifs
        · exact h
        · have hsent := pings_sentGetnodeToNode h packet.publicKey source hcheck
          rw [DHTPacket.sendnodesPingId, hplain] at hsent
          split
          · rename_i heq
            rwa [heq] at hsent
          · rename_i heq
            rw [heq] at hsent
            split
            · exact hsent
            · split_ifs <;> exact hsent

theorem pings_dhtAddfriend (publicKey : PublicKey) (callback : DHTFriendCallback)
    (lockToken : BitVec 32) :
    (dht.dhtAddfriend env publicKey callback lockToken).2.2.Pings P := by
  unfold dhtAddfriend
  simp only
  split
  · split
    · exact h
    · split <;> exact h
  · split <;> exact h

theorem pings_returnedipPorts (ipPort : IPPort) (publicKey nodePublicKey : PublicKey) :
    (dht.returnedipPorts env ipPort publicKey nodePublicKey).Pings P := by
  unfold returnedipPorts
  simp only
  split
  · exact h
  · split <;> exact h

theorem pings_pingNodeFromGetnodesOk (publicKey : PublicKey) (ipPort : IPPort) :
    (dht.pingNodeFromGetnodesOk box env publicKey ipPort).Pings P := by
  exact h

theorem pings_returnedNode (nodePublicKey : PublicKey) (node : NodeFormat) :
    (returnedNode box env nodePublicKey dht node).Pings P := by
  unfold returnedNode
  split
  · exact pings_returnedipPorts (pings_pingNodeFromGetnodesOk h _ _) _ _ _
  · exact h

end

theorem pings_step (input : DhtInput) (hadd : AddKeeps P env)
    (hdata : ∀ pingId, CheckKeeps P env cryptoPublicKeySize pingId)
    (hsend : ∀ source packet, input = .sendnodesPacket source packet →
      CheckKeeps P env (2 * sizeofNodeFormat) packet.sendnodesPingId)
    (h : dht.Pings P) : (dht.step box env input).Pings P := by
  cases input with
  | addfriend publicKey callback lockToken => exact pings_dhtAddfriend h _ _ _
  | delfriend publicKey lockToken =>
    unfold step dhtDelfriend
    simp only
    split
    · exact h
    · split
      · exact h
      · split_ifs <;> exact h
  | addto ipPort publicKey => exact pings_addtoLists hadd h ipPort publicKey
  | getnodesPacket source packet =>
    unfold step handleGetnodes
    simp only
    split_ifs
    · exact h
    · exact h
    · split
      · exact h
      · split
        · exact h
        · exact pings_sendnodesIpv6 h _ _ _ _ _
  | sendnodesPacket source packet =>
    have hchecked : (dht.checkSendnodes box env source packet maxSentNodes).2.Pings P :=
      pings_checkSendnodes h source packet maxSentNodes (hsend source packet rfl)
    simp only [step]
    unfold handleSendnodesIpv6 handleSendnodesCore
    rcases heq : dht.checkSendnodes box env source packet maxSentNodes with ⟨_ | nodes, d⟩ <;>
      rw [heq] at hchecked
    · exact hchecked
    · exact .foldl (fun d node hd => pings_returnedNode hd _ node) (pings_addtoLists hadd hchecked _ _) _
  | dataSearchResponse packet =>
    rw [step]
    exact pings_handleDataSearchResponse h packet hdata
  | getnodes ipPort publicKey clientId => exact pings_dhtGetnodes hadd h _ _ _
  | bootstrap node => exact pings_dhtBootstrap hadd h node
  | iterate =>
    exact pings_doDht hadd h
  | load calloc data =>
    obtain ⟨nodes, heq, -⟩ := loads_dhtLoad dht calloc data
    rw [step, heq]
    exact h

theorem dhtPingArray_newDht {rng : Rng} {selfPublicKey : PublicKey} {selfSecretKey : SecretKey}
    (h : newDht env rng selfPublicKey selfSecretKey = some dht) :
    PingArray.pingArrayNew dhtPingArraySize pingTimeout = some dht.dhtPingArray := by
  -- adding a fake friend does not touch the array
  have hadd : ∀ {d d' : DHT}, addFakeFriend env d = some d' → d'.dhtPingArray = d.dhtPingArray := by
    intro d d' heq
    have hkeep : (dhtAddfriend { d with rng := d.rng.randomKey.2 } env d.rng.randomKey.1
        emptyCallback 0).2.2.Pings fun array _ => array = d.dhtPingArray := by
      apply pings_dhtAddfriend
      exact rfl
    unfold addFakeFriend at heq
    simp only at heq
    split at heq
    · cases heq
    · rename_i hres
      cases heq
      rw [hres] at hkeep
      exact hkeep
  unfold newDht at h
  simp only [Option.bind_eq_bind, Option.bind_eq_some_iff] at h
  obtain ⟨dhtPingArray, hnew, dht1, h1, dht2, h2, h⟩ := h
  split at h
  · cases h
  · cases h
    rw [hadd h2, hadd h1]
    exact hnew

theorem sized_of_reachable (h : (dhtSystem box).Reachable dht) : dht.dhtPingArray.Sized := by
  have hinv : dht.Pings fun array _ => array.Sized := by
    refine TransitionSystem.Reachable.invariant ?_ ?_ h
    · rintro dht ⟨env, rng, pk, sk, hnew⟩
      exact PingArray.sized_pingArrayNew (dhtPingArray_newDht hnew)
    · rintro dht _ hdht ⟨env, input, -, rfl⟩
      apply pings_step input
      · exact fun _ _ _ _ _ hsized => hsized.pingArrayAdd
      · exact fun _ _ _ hsized => hsized.pingArrayCheck _ _ _
      · exact fun _ _ _ _ _ hsized => hsized.pingArrayCheck _ _ _
      · exact hdht
  exact hinv

end DHT

end Toxcore
