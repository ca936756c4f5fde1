import Toxcore.Native.AnnounceResponses
import Toxcore.Spec.OnionAnnounces

/-!
# What is read of an announce response

`handle_announce_response` reads the number of nodes even where nothing was decrypted behind the ping id. Both
handlers change a node list before they look at the rest of the content, for which they may reject the response.
-/

namespace Toxcore

open List

/-- Only decrypted bytes are read, and what is passed on as the rest ends where they end. -/
structure PlainUse.Fits (use : PlainUse) (size : Nat) : Prop where
  reads : ∀ part ∈ use.reads, part.offset + part.length ≤ size
  rests : ∀ part ∈ use.rests, part.offset + part.length = size

namespace OnionClient

/-- Our announce list and the node lists of the friends. -/
def nodeLists (client : OnionClient) : List (List OnionNode) :=
  client.clientsAnnounceList :: client.friendsList.map (·.clientsList)

/-- A response is read where it was decrypted, and changes no list if it is rejected. -/
structure ReadsRight (client : OnionClient) (plainSize : Nat) (use : PlainUse) : Prop where
  fits : use.Fits plainSize
  rejected : use.handled = false → use.client.nodeLists = client.nodeLists

/-- The length of the nodes behind their number; `none` when there are too many or they cannot be read. -/
def countedNodes (count : UInt8) (data : Bytes) : Option UInt16 :=
  if count = 0 then some 0
  else if count.toNat > maxSentNodes then none
  else (unpackNodes count.toUInt16 data (UInt16.ofNat data.length) false).map (·.2)

/-- The nodes can be read, and what follows them is nothing or announces of a group. -/
def ReadableCounted (client : OnionClient) (num : Nat) (plain : Bytes) : Prop :=
  ∃ lenNodes, countedNodes (plain.getD 33 0) (plain.drop 34) = some lenNodes ∧
    (34 + lenNodes.toNat < plain.length →
      (client.gcHandleAnnounceResponseCallback num (plain.drop (34 + lenNodes.toNat))).1 = true)

/-- The part of a content behind the ping id can be read. -/
def Readable (client : OnionClient) (num : Nat) (plain : Bytes) : (old : Bool) → Prop
  | true => plain.length = 33 ∨ ∃ nodes lenNodes, nodes ≠ [] ∧
      unpackNodes 4 (plain.drop 33) (UInt16.ofNat (plain.length - 33)) false = some (nodes, lenNodes)
  | false => client.ReadableCounted num plain

variable (box : CryptoBox) (cipher : ByteCipher OnionNonce) (env : OnionClientEnv)

/-- What `client_add_to_list` takes has a node count, and either leaves the lists as they are or can be read to
    its end. -/
def ReadsCarefully (client : OnionClient) (old : Bool) (packet : Bytes) : Prop :=
  ∀ sendback plain client₁ client₂,
    client.decryptAnnounceResponse box cipher env packet = (some (sendback, plain), client₁) →
    client₁.clientAddToList env sendback.num.toNat sendback.publicKey sendback.ipPort (plain.getD 0 0)
      ((plain.drop 1).take onionPingIdSize) = (true, client₂) →
    (old = true ∨ plain.length ≠ 33) ∧
      (client₂.nodeLists = client.nodeLists ∨ client₂.Readable sendback.num.toNat plain old)

variable {client client' : OnionClient} {num : Nat} {plain : Bytes}

/-! ## The rest of the content -/

theorem add_eq_of_mem_rest {offset : Nat} (h : offset ≤ plain.length) :
    ∀ part ∈ [(⟨offset, plain.length - offset⟩ : PlainPart)], part.offset + part.length = plain.length := by
  intro part hmem
  obtain rfl := mem_singleton.mp hmem
  exact Nat.add_sub_cancel' h

theorem add_le_of_mem_count (hlen : 33 < plain.length) :
    ∀ part ∈ [(⟨33, 1⟩ : PlainPart)], part.offset + part.length ≤ plain.length := by
  intro part hmem
  obtain rfl := mem_singleton.mp hmem
  exact hlen

theorem nodeLists_clientPingNodes (client : OnionClient) (num : Nat) (now : UInt64) (nodes : List NodeFormat)
    (source : IPPort) :
    (client.clientPingNodes now num nodes source).2.nodeLists = client.nodeLists := by
  unfold clientPingNodes
  dsimp only
  split_ifs
  · rfl
  · rfl
  · split
    · rfl
    · rename_i friend hfriend
      exact congrArg (client.clientsAnnounceList :: ·) (map_set_of_eq hfriend rfl)

theorem nodeLists_gcHandleAnnounceResponseCallback (client : OnionClient) (num : Nat) (data : Bytes) :
    (client.gcHandleAnnounceResponseCallback num data).2.nodeLists = client.nodeLists := by
  unfold gcHandleAnnounceResponseCallback
  split
  · rfl
  · split
    · rfl
    · split
      · rfl
      · split <;> rfl

theorem gcHandleAnnounceResponseCallback_congr {answers nodes peers} (h : Hears client client' answers nodes peers)
    (data : Bytes) : (client'.gcHandleAnnounceResponseCallback num data).1 =
      (client.gcHandleAnnounceResponseCallback num data).1 := by
  have hkey := h.gcPublicKey (num - 1)
  unfold gcHandleAnnounceResponseCallback
  split
  · rfl
  · rw [h.groups]
    cases hfriend : client.friendsList[num - 1]? with
    | none =>
      rw [hfriend, Option.map_none, Option.map_eq_none_iff] at hkey
      rw [hkey]
    | some friend =>
      rw [hfriend, Option.map_some, Option.map_eq_some_iff] at hkey
      obtain ⟨friend', hfriend', hkey⟩ := hkey
      rw [hfriend']
      dsimp only
      rw [hkey]
      split
      · rfl
      · split <;> rfl

/-- The rest of a content is read in its bounds; it is accepted if `ok` holds, and no list changes. -/
structure Uses (client : OnionClient) (plain : Bytes) (use : PlainUse) (ok : Prop) : Prop where
  fits : use.Fits plain.length
  nodeLists : use.client.nodeLists = client.nodeLists
  handled : use.handled = true ↔ ok

theorem uses_readExtra (client : OnionClient) (num : Nat) (hlen : 33 < plain.length) {rests : List PlainPart}
    (hrests : ∀ part ∈ rests, part.offset + part.length = plain.length) (lenNodes : UInt16) :
    client.Uses plain (client.readExtra env num plain rests lenNodes)
      (34 + lenNodes.toNat < plain.length →
        (client.gcHandleAnnounceResponseCallback num (plain.drop (34 + lenNodes.toNat))).1 = true) := by
  have hping : onionPingIdSize = 32 := rfl
  have hcount := add_le_of_mem_count hlen
  unfold readExtra
  simp only [hping]
  by_cases hmore : 34 + lenNodes.toNat < plain.length
  · have hlists := nodeLists_gcHandleAnnounceResponseCallback client num
      (plain.drop (34 + lenNodes.toNat))
    have hall : ∀ part ∈ rests ++ [(⟨34 + lenNodes.toNat, plain.length - (34 + lenNodes.toNat)⟩ : PlainPart)],
        part.offset + part.length = plain.length := by
      intro part hmem
      rcases mem_append.mp hmem with hmem | hmem
      · exact hrests part hmem
      · exact add_eq_of_mem_rest (Nat.le_of_lt hmore) part hmem
    rw [if_pos (by omega), if_neg (by omega)]
    generalize client.gcHandleAnnounceResponseCallback num (plain.drop (34 + lenNodes.toNat)) = called at *
    obtain ⟨accepted, client'⟩ := called
    cases accepted with
    | false => exact ⟨⟨hcount, hall⟩, hlists, iff_of_false Bool.false_ne_true fun h => Bool.false_ne_true (h hmore)⟩
    | true => exact ⟨⟨hcount, hall⟩, hlists, iff_of_true rfl fun _ => rfl⟩
  · rw [if_neg (by omega)]
    exact ⟨⟨hcount, hrests⟩, rfl, iff_of_true rfl fun h => absurd h hmore⟩

theorem uses_readAnnounceResponse (hlen : 33 < plain.length) (hmax : plain.length < 2 ^ 15)
    (hnum : num ≤ client.friendsList.length) (stack : Bytes) (source : IPPort) :
    client.Uses plain (client.readAnnounceResponse env stack source num plain) (client.ReadableCounted num plain) := by
  have hping : onionPingIdSize = 32 := rfl
  have hcount := add_le_of_mem_count hlen
  have hsize : ((plain.length - 2 - (32 : Nat) : Int) % 65536).toNat = plain.length - 34 := by omega
  have hnat : (UInt16.ofNat (plain.length - 34)).toNat = plain.length - 34 :=
    UInt16.toNat_ofNat_of_lt' (by show _ < 2 ^ 16; omega)
  have hrests := add_eq_of_mem_rest hlen
  -- the stack behind the content is not looked at
  have hflag : (plain ++ stack).getD (1 + 32) 0 = plain.getD 33 0 := by
    rw [getD_eq_getElem?_getD, getD_eq_getElem?_getD, getElem?_append_left hlen]
  have hunpack (count : UInt16) : unpackNodes count ((plain ++ stack).drop 34) (UInt16.ofNat (plain.length - 34)) false =
      unpackNodes count (plain.drop 34) (UInt16.ofNat (plain.length - 34)) false := by
    rw [unpackNodes, unpackNodes, hnat, drop_append_of_le_length hlen, take_left' (length_drop ..),
      take_of_length_le (Nat.le_of_eq (length_drop ..))]
  unfold readAnnounceResponse ReadableCounted countedNodes
  simp only [hping, hsize, hnat, hunpack, hflag, length_drop]
  generalize plain.getD 33 0 = count
  by_cases hzero : count = 0
  · obtain ⟨hfits, hsame, hhandled⟩ := uses_readExtra env client num hlen
      (forall_mem_nil _) 0
    rw [if_neg (by rw [hzero]; decide), if_pos hzero]
    exact ⟨hfits, hsame, hhandled.trans (by simp)⟩
  rw [if_pos (UInt8.pos_iff_ne_zero.mpr hzero), if_neg hzero]
  by_cases hmany : count.toNat > maxSentNodes
  · rw [if_pos hmany, if_pos hmany]
    exact ⟨⟨hcount, forall_mem_nil _⟩, rfl, by simp⟩
  rw [if_neg hmany, if_neg hmany]
  cases unpackNodes count.toUInt16 (plain.drop 34) (UInt16.ofNat (plain.length - 34)) false with
  | none => exact ⟨⟨hcount, hrests⟩, rfl, by simp⟩
  | some unpacked =>
    obtain ⟨nodes, lenNodes⟩ := unpacked
    obtain ⟨client', hpinged, hhears⟩ := clientPingNodes_eq env.now nodes source hnum
    have hlists := nodeLists_clientPingNodes client num env.now nodes source
    dsimp only
    rw [hpinged] at hlists ⊢
    obtain ⟨hfits, hsame, hhandled⟩ := uses_readExtra env client' num hlen hrests lenNodes
    rw [gcHandleAnnounceResponseCallback_congr hhears] at hhandled
    exact ⟨hfits, hsame.trans hlists, hhandled.trans (by simp)⟩

theorem uses_readAnnounceResponseOld (hlen : 33 ≤ plain.length) (hmax : plain.length < 2 ^ 15)
    (hnum : num ≤ client.friendsList.length) (source : IPPort) :
    client.Uses plain (client.readAnnounceResponseOld env source num plain) (client.Readable num plain true) := by
  have hping : onionPingIdSize = 32 := rfl
  have hnat : (UInt16.ofNat (plain.length - 33)).toNat = plain.length - 33 :=
    UInt16.toNat_ofNat_of_lt' (by show _ < 2 ^ 16; omega)
  have hnone : ∀ part ∈ ([] : List PlainPart), part.offset + part.length ≤ plain.length := fun _ h => nomatch h
  have hrests := add_eq_of_mem_rest hlen
  have hzero : UInt16.ofNat (plain.length - 33) = 0 ↔ plain.length = 33 := by
    rw [← UInt16.toNat_inj]
    show _ = 0 ↔ _
    omega
  unfold readAnnounceResponseOld Readable
  simp only [hping, hnat]
  by_cases hend : plain.length = 33
  · rw [if_neg (not_not_intro (hzero.mpr hend))]
    exact ⟨⟨hnone, fun _ h => nomatch h⟩, rfl, iff_of_true rfl (.inl hend)⟩
  · rw [if_pos (mt hzero.mp hend)]
    have hfour : UInt16.ofNat maxSentNodes = 4 := rfl
    rw [hfour]
    cases hnodes : unpackNodes 4 (plain.drop 33) (UInt16.ofNat (plain.length - 33)) false with
    | none => exact ⟨⟨hnone, hrests⟩, rfl, by simp [hend]⟩
    | some unpacked =>
      obtain ⟨nodes, lenNodes⟩ := unpacked
      obtain ⟨client', hpinged, -⟩ := clientPingNodes_eq env.now nodes source hnum
      have hlists := nodeLists_clientPingNodes client num env.now nodes source
      dsimp only
      rw [hpinged] at hlists ⊢
      by_cases hempty : nodes = []
      · rw [if_pos (by rw [hempty]; rfl)]
        exact ⟨⟨hnone, hrests⟩, rfl, by simp [hend, hempty]⟩
      · rw [if_neg (by simpa using hempty)]
        exact ⟨⟨hnone, hrests⟩, hlists, by simp [hempty]⟩

theorem count_mem_reads (stack : Bytes) (source : IPPort) :
    ⟨33, 1⟩ ∈ (client.readAnnounceResponse env stack source num plain).reads := by
  unfold readAnnounceResponse readExtra
  dsimp only
  repeat' split
  all_goals exact mem_singleton_self _

/-! ## A response -/

variable {box cipher env} {client₁ : OnionClient} {packet : Bytes}

theorem decryptAnnounceResponse_spec {opened : Option (Sendback × Bytes)}
    (h : client.decryptAnnounceResponse box cipher env packet = (opened, client')) :
    client'.nodeLists = client.nodeLists ∧ ∀ sendback plain, opened = some (sendback, plain) →
      plain.length = packet.length - 49 ∧ 33 ≤ plain.length ∧ plain.length < 2 ^ 15 ∧
        sendback.num.toNat ≤ client'.friendsList.length := by
  have hping : onionPingIdSize = 32 := rfl
  have hmin : onionAnnounceResponseMinSize = 82 := rfl
  have hmax : onionAnnounceResponseMaxSize = 626 := rfl
  have hlists : (client.checkSendback env.now (packet.drop 1)).2.nodeLists = client.nodeLists := by
    unfold checkSendback
    split
    · rfl
    · split <;> rfl
  unfold decryptAnnounceResponse at h
  split at h
  · cases h
    exact ⟨rfl, fun _ _ h => nomatch h⟩
  generalize client.checkSendback env.now (packet.drop 1) = checked at h hlists
  obtain ⟨_ | sendback, client₁⟩ := checked
  · cases h
    exact ⟨hlists, fun _ _ h => nomatch h⟩
  dsimp only at h
  repeat' split at h
  all_goals cases h
  all_goals refine ⟨hlists, fun _ _ h => ?_⟩
  all_goals cases h
  omega

theorem clientAddToList_spec {publicKey : PublicKey} {ipPort : IPPort} {isStored : UInt8} {pingidOrKey : Bytes}
    {added : Bool} (h : client.clientAddToList env num publicKey ipPort isStored pingidOrKey = (added, client')) :
    client'.friendsList.length = client.friendsList.length ∧
      (added = false → client'.nodeLists = client.nodeLists) := by
  unfold clientAddToList at h
  dsimp only at h
  split_ifs at h
  all_goals cases h
  all_goals simp [nodeLists]

theorem readsRight_iff_of_uses {use : PlainUse} {ok : Prop} (h : client'.Uses plain use ok) (hlen : 33 ≤ plain.length) :
    client.ReadsRight plain.length { use with reads := [⟨0, 1⟩, ⟨1, onionPingIdSize⟩] ++ use.reads } ↔
      client'.nodeLists = client.nodeLists ∨ ok := by
  constructor
  · intro hright
    by_cases hok : ok
    · exact .inr hok
    · have hrejected : use.handled = false := by simpa using mt h.handled.mp hok
      exact .inl (h.nodeLists.symm.trans (hright.rejected hrejected))
  · intro hcases
    refine ⟨⟨?_, h.fits.rests⟩, fun hrejected => ?_⟩
    · have hping : onionPingIdSize = 32 := rfl
      intro part hmem
      rcases mem_append.mp hmem with hmem | hmem
      · simp only [mem_cons, not_mem_nil, or_false] at hmem
        rcases hmem with rfl | rfl <;> dsimp only <;> omega
      · exact h.fits.reads part hmem
    · have hnot : ¬ok := fun hok => Bool.false_ne_true (hrejected.symm.trans (h.handled.mpr hok))
      exact h.nodeLists.trans (hcases.resolve_right hnot)

/-- A handler treats a response right exactly if the response is read carefully. -/
theorem readsRight_iff (client : OnionClient) (box : CryptoBox) (cipher : ByteCipher OnionNonce)
    (env : OnionClientEnv) (old : Bool) (stack : Bytes) (source : IPPort) (packet : Bytes) :
    client.ReadsRight (packet.length - 49) (client.useAnnounceResponse box cipher env old stack source packet) ↔
      client.ReadsCarefully box cipher env old packet := by
  unfold ReadsCarefully useAnnounceResponse
  rcases hdecrypt : client.decryptAnnounceResponse box cipher env packet with ⟨opened, client₁⟩
  obtain ⟨hlists, hopened⟩ := decryptAnnounceResponse_spec hdecrypt
  rcases opened with _ | ⟨sendback, plain⟩
  · exact iff_of_true ⟨⟨fun _ h => (nomatch h), fun _ h => (nomatch h)⟩, fun _ => hlists⟩ (fun _ _ _ _ h => (nomatch h))
  obtain ⟨hplain, hmin, hmax, hnum⟩ := hopened _ _ rfl
  rw [← hplain]
  dsimp only
  rcases hadd : client₁.clientAddToList env sendback.num.toNat sendback.publicKey sendback.ipPort (plain.getD 0 0)
    ((plain.drop 1).take onionPingIdSize) with ⟨_ | _, client2⟩
  all_goals obtain ⟨hlength, hrefused⟩ := clientAddToList_spec hadd
  · -- `client_add_to_list` refuses the answer
    have huses : client2.Uses plain ⟨[], [], false, client2⟩ False :=
      ⟨⟨fun _ h => (nomatch h), fun _ h => (nomatch h)⟩, rfl, iff_of_false Bool.false_ne_true id⟩
    refine iff_of_true ((readsRight_iff_of_uses huses hmin).mpr (.inl ((hrefused rfl).trans hlists))) ?_
    intro _ _ _ _ h h'
    cases h
    cases hadd.symm.trans h'
  rw [← hlength] at hnum
  trans (old = true ∨ plain.length ≠ 33) ∧
    (client2.nodeLists = client.nodeLists ∨ client2.Readable sendback.num.toNat plain old)
  · cases old with
    | true =>
      exact (readsRight_iff_of_uses (uses_readAnnounceResponseOld env hmin hmax hnum source) hmin).trans
        ⟨fun h => ⟨.inl rfl, h⟩, And.right⟩
    | false =>
      by_cases hcount : plain.length = 33
      · refine iff_of_false (fun hright => ?_) (fun h => (h.1.resolve_left Bool.false_ne_true) hcount)
        have hread := hright.fits.reads ⟨33, 1⟩ (mem_append_right _ (count_mem_reads ..))
        rw [hcount] at hread
        exact absurd hread (by decide)
      · exact (readsRight_iff_of_uses (uses_readAnnounceResponse env (by omega) hmax hnum stack source) hmin).trans
          ⟨fun h => ⟨.inr hcount, h⟩, And.right⟩
  · refine ⟨fun hcareful _ _ _ _ h h' => ?_, fun h => h _ _ _ _ rfl hadd⟩
    cases h
    cases hadd.symm.trans h'
    exact hcareful

/-- A response with nothing behind the ping id. -/
def smallestResponse : Bytes :=
  netPacketAnnounceResponse :: ([16, 0, 0, 0, 0, 0, 0, 0] ++ ((Vector.replicate cryptoNonceSize 3).toList ++
    halfKeyCipher.afternm (Vector.zipWith (· ^^^ ·) (key 2) (key 9)) (Vector.replicate _ 3) (replicate 33 0)))

/-- The number of nodes is read behind the 33 bytes of the smallest response. -/
theorem not_readsRight_smallest : ∃ client box cipher env stack source packet,
    ¬ReadsRight client (packet.length - 49) (client.useAnnounceResponse box cipher env false stack source packet) := by
  refine ⟨AnnounceExchange.groupPeer, xorBox, halfKeyCipher, AnnounceExchange.peerEnv, replicate 544 0, address4,
    smallestResponse, fun hright => ?_⟩
  have hread := hright.fits.reads ⟨33, 1⟩ (by decide +kernel)
  exact absurd hread (by decide +kernel)

end OnionClient

end Toxcore
