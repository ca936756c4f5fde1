import Toxcore.Native.NgcMessages
import Toxcore.Spec.NgcModList

/-!
# Messages that are sent are delivered

What the functions that send accept, the handlers of a member with the same view of the group hand to the client, but
for private messages of the greatest length.
-/

namespace Toxcore

open List

inductive MessageRequest where
  | message (message : Bytes) (type : UInt8) (pseudoMsgId : UInt32)
  | privateMessage (peerId : UInt32) (type : UInt8) (message : Bytes)
  | customPacket (data : Bytes)
  | customPrivatePacket (peerId : UInt32) (message : Bytes)

namespace MessageRequest

def send (chat : GCChat) (env : MessageEnv) : MessageRequest → Sending
  | message text type pseudoMsgId => chat.gcSendMessage env text type pseudoMsgId
  | privateMessage peerId type text => chat.gcSendPrivateMessage env peerId type text
  | customPacket data => chat.gcSendCustomPacket data
  | customPrivatePacket peerId data => chat.gcSendCustomPrivatePacket env peerId data

/-- The callback that a request leads to, at a member that knows the sender under an id. -/
def event (sender : UInt32) : MessageRequest → GroupMessageEvent
  | message text type pseudoMsgId => .message sender type text pseudoMsgId
  | privateMessage _ type text => .privateMessage sender type text
  | customPacket data => .customPacket sender data
  | customPrivatePacket _ data => .customPrivatePacket sender data

def FullPrivate : MessageRequest → Prop
  | privateMessage _ _ text => text.length = maxGcMessageSize
  | _ => False

end MessageRequest

/-- The receiver knows the sender as a confirmed peer, does not ignore it, and has the same roles. -/
structure HearsSender (own other : GCChat) (peerNumber : Nat) (peer : GCPeer) : Prop where
  found : other.group[peerNumber]? = some peer
  confirmed : peer.link.gconn.confirmed = true
  heard : peer.ignored = false
  role : peer.role = own.gcGetSelfRole
  voice : other.sharedState.voiceState = own.sharedState.voiceState

def MessageDelivered (own other : GCChat) (env : MessageEnv) (others packets : UInt8 → Bytes → MessageHandled)
    (peerNumber : Nat) (peer : GCPeer) (request : MessageRequest) : Prop :=
  ∃ type data, (request.send own env).2 = some (type, data) ∧
    other.handleGcLosslessHelper others packets peerNumber data type = (true, [request.event peer.peerId])

variable {own other : GCChat} {env : MessageEnv} {peerNumber : Nat} {peer : GCPeer}
  {others packets : UInt8 → Bytes → MessageHandled}

theorem Sending.of_ite {c : Prop} [Decidable c] {code : Int} {rest : Sending} (hcode : code ≠ 0)
    (h : (if c then ((code, none) : Sending) else rest).1 = 0) :
    ¬c ∧ (if c then ((code, none) : Sending) else rest) = rest := by
  by_cases hc : c
  · rw [if_pos hc] at h
    exact absurd h hcode
  · exact ⟨hc, if_neg hc⟩

theorem gcSendMessage_accepted {text : Bytes} {type : UInt8} {pseudoMsgId : UInt32}
    (h : (own.gcSendMessage env text type pseudoMsgId).1 = 0) :
    text.length ≤ maxGcMessageSize ∧ text.length ≠ 0 ∧ (type = 0 ∨ type = 1) ∧ own.gcGetSelfRole.mute = false ∧
      own.gcGetSelfRole.hasVoice own.sharedState.voiceState = true ∧
      own.gcSendMessage env text type pseudoMsgId = (0, some (gpBroadcast,
        (if type = 0 then gmPlainMessage else gmActionMessage) :: (netPackU32 pseudoMsgId ++ text))) := by
  unfold GCChat.gcSendMessage at h ⊢
  obtain ⟨hlength, heq⟩ := Sending.of_ite (by decide) h
  rw [heq] at h ⊢
  obtain ⟨hne, heq⟩ := Sending.of_ite (by decide) h
  rw [heq] at h ⊢
  obtain ⟨htype, heq⟩ := Sending.of_ite (by decide) h
  rw [heq] at h ⊢
  obtain ⟨hrole, heq⟩ := Sending.of_ite (by decide) h
  rw [heq] at h ⊢
  obtain ⟨-, heq⟩ := Sending.of_ite (by decide) h
  rw [not_or, Bool.not_eq_true, Bool.not_eq_true', Bool.not_eq_false] at hrole
  exact ⟨Nat.le_of_not_lt hlength, hne, by tauto, hrole.1, hrole.2, heq⟩

theorem gcSendPrivateMessage_accepted {peerId : UInt32} {type : UInt8} {text : Bytes}
    (h : (own.gcSendPrivateMessage env peerId type text).1 = 0) :
    text.length ≤ maxGcMessageSize ∧ text.length ≠ 0 ∧ ¬type > 1 ∧ own.gcGetSelfRole.mute = false ∧
      (own.gcSendPrivateMessage env peerId type text).2 = some (gpBroadcast, gmPrivateMessage :: type :: text) := by
  unfold GCChat.gcSendPrivateMessage at h ⊢
  obtain ⟨hlength, heq⟩ := Sending.of_ite (by decide) h
  rw [heq] at h ⊢
  obtain ⟨hne, heq⟩ := Sending.of_ite (by decide) h
  rw [heq] at h ⊢
  obtain ⟨-, heq⟩ := Sending.of_ite (by decide) h
  rw [heq] at h ⊢
  obtain ⟨htype, heq⟩ := Sending.of_ite (by decide) h
  rw [heq] at h ⊢
  obtain ⟨hrole, heq⟩ := Sending.of_ite (by decide) h
  rw [heq] at h ⊢
  obtain ⟨-, heq⟩ := Sending.of_ite (by decide) h
  rw [heq]
  exact ⟨Nat.le_of_not_lt hlength, hne, htype, Bool.eq_false_of_not_eq_true hrole, rfl⟩

theorem gcSendCustomPrivatePacket_accepted {peerId : UInt32} {text : Bytes}
    (h : (own.gcSendCustomPrivatePacket env peerId text).1 = 0) :
    text.length ≤ maxGcCustomPacketSize ∧ text.length ≠ 0 ∧ own.gcGetSelfRole.mute = false ∧
      (own.gcSendCustomPrivatePacket env peerId text).2 = some (gpCustomPrivatePacket, text) := by
  unfold GCChat.gcSendCustomPrivatePacket at h ⊢
  obtain ⟨hlength, heq⟩ := Sending.of_ite (by decide) h
  rw [heq] at h ⊢
  obtain ⟨hne, heq⟩ := Sending.of_ite (by decide) h
  rw [heq] at h ⊢
  obtain ⟨-, heq⟩ := Sending.of_ite (by decide) h
  rw [heq] at h ⊢
  obtain ⟨hrole, heq⟩ := Sending.of_ite (by decide) h
  rw [heq]
  exact ⟨Nat.le_of_not_lt hlength, hne, Bool.eq_false_of_not_eq_true hrole, rfl⟩

theorem gcSendCustomPacket_accepted {data : Bytes} (h : (own.gcSendCustomPacket data).1 = 0) :
    data.length ≤ maxGcCustomPacketSize ∧ data.length ≠ 0 ∧ own.gcGetSelfRole.mute = false ∧
      (own.gcSendCustomPacket data).2 = some (gpCustomPacket, data) := by
  unfold GCChat.gcSendCustomPacket at h ⊢
  obtain ⟨hlength, heq⟩ := Sending.of_ite (by decide) h
  rw [heq] at h ⊢
  obtain ⟨hne, heq⟩ := Sending.of_ite (by decide) h
  rw [heq] at h ⊢
  obtain ⟨hrole, heq⟩ := Sending.of_ite (by decide) h
  rw [heq]
  exact ⟨Nat.le_of_not_lt hlength, hne, Bool.eq_false_of_not_eq_true hrole, rfl⟩

/-! ## Handlers -/

theorem handleGcCustom_heard (callback : UInt32 → Bytes → GroupMessageEvent) {data : Bytes} (hheard : peer.ignored = false)
    (hrole : peer.role.mute = false) (hlength : data.length ≤ maxGcCustomPacketSize) (hne : data.length ≠ 0) :
    GCChat.handleGcCustom callback peer data = (0, [callback peer.peerId data]) := by
  rw [GCChat.handleGcCustom, if_neg (not_or.mpr ⟨hne, Nat.not_lt.mpr hlength⟩), hheard, hrole]
  rfl

theorem handleGcPrivateMessage_heard {type : UInt8} {text : Bytes} (hheard : peer.ignored = false)
    (hrole : peer.role.mute = false) (htype : ¬type > 1) (hne : text.length ≠ 0) :
    GCChat.handleGcPrivateMessage peer (type :: text) =
      if text.length < maxGcMessageSize then (0, [GroupMessageEvent.privateMessage peer.peerId type text]) else (-1, []) := by
  rw [GCChat.handleGcPrivateMessage, hheard, hrole, length_cons]
  by_cases hroom : text.length < maxGcMessageSize
  · rw [if_pos hroom, if_neg (by omega), headD_cons, if_neg htype]
    rfl
  · rw [if_neg hroom, if_pos (by omega)]

theorem handleGcMessage_heard {type : UInt8} {pseudoMsgId : UInt32} {text : Bytes} (hheard : peer.ignored = false)
    (hrole : peer.role.mute = false) (hvoice : peer.role.hasVoice other.sharedState.voiceState = true)
    (htype : type = 0 ∨ type = 1) (hlength : text.length ≤ maxGcMessageSize) (hne : text.length ≠ 0) :
    other.handleGcMessage peer (netPackU32 pseudoMsgId ++ text) (if type = 0 then gmPlainMessage else gmActionMessage) =
      (0, [.message peer.peerId type text pseudoMsgId]) := by
  have hlen := length_netPackU32 pseudoMsgId
  have hdrop : (netPackU32 pseudoMsgId ++ text).drop gcMessagePseudoIdSize = text := drop_left' hlen
  rw [GCChat.handleGcMessage, hheard, hrole, hvoice, length_append, netUnpackU32_netPackU32_append]
  unfold maxGcMessageRawSize gcMessagePseudoIdSize
  rw [if_neg (by omega)]
  obtain rfl | rfl := htype
  · rfl
  · rfl

theorem handleGcLosslessHelper_broadcast (hfound : other.group[peerNumber]? = some peer)
    (hconfirmed : peer.link.gconn.confirmed = true) (type : UInt8) (data : Bytes) :
    other.handleGcLosslessHelper others packets peerNumber (type :: data) gpBroadcast =
      let (ret, events) :=
        if type = gmActionMessage ∨ type = gmPlainMessage then other.handleGcMessage peer data type
        else if type = gmPrivateMessage then GCChat.handleGcPrivateMessage peer data
        else others type data
      ((0 : Int) ≤ if ret < 0 then -1 else 0, events) := by
  simp only [GCChat.handleGcLosslessHelper, hfound, if_true, GCChat.handleGcBroadcast, hconfirmed, Bool.not_true,
    Bool.false_eq_true, if_false]

theorem delivered_of_sent (request : MessageRequest) {type : UInt8} {data : Bytes}
    (hsent : (request.send own env).2 = some (type, data)) :
    MessageDelivered own other env others packets peerNumber peer request ↔
      other.handleGcLosslessHelper others packets peerNumber data type = (true, [request.event peer.peerId]) := by
  unfold MessageDelivered
  rw [hsent]
  constructor
  · rintro ⟨_, _, heq, hhandled⟩
    cases heq
    exact hhandled
  · exact fun hhandled => ⟨_, _, rfl, hhandled⟩

/-! ## The kinds of requests -/

section

variable (hears : HearsSender own other peerNumber peer)
include hears

theorem delivered_message {text : Bytes} {type : UInt8} {pseudoMsgId : UInt32}
    (haccepted : (own.gcSendMessage env text type pseudoMsgId).1 = 0) :
    MessageDelivered own other env others packets peerNumber peer (.message text type pseudoMsgId) := by
  obtain ⟨hlength, hne, htype, hmute, hown, heq⟩ := gcSendMessage_accepted haccepted
  have hmessage := @handleGcMessage_heard other peer type pseudoMsgId text hears.heard (by rw [hears.role, hmute])
    (by rw [hears.role, hears.voice, hown]) htype hlength hne
  rw [delivered_of_sent (.message text type pseudoMsgId) (congrArg Prod.snd heq),
    handleGcLosslessHelper_broadcast hears.found hears.confirmed]
  obtain rfl | rfl := htype
  · rw [if_pos rfl] at hmessage ⊢
    rw [hmessage]
    rfl
  · rw [if_pos (by decide)]
    rw [hmessage]
    rfl

theorem delivered_privateMessage_iff {peerId : UInt32} {type : UInt8}
    {text : Bytes} (haccepted : (own.gcSendPrivateMessage env peerId type text).1 = 0) :
    MessageDelivered own other env others packets peerNumber peer (.privateMessage peerId type text) ↔
      text.length ≠ maxGcMessageSize := by
  obtain ⟨hlength, hne, htype, hmute, hsent⟩ := gcSendPrivateMessage_accepted haccepted
  rw [delivered_of_sent (.privateMessage peerId type text) hsent,
    handleGcLosslessHelper_broadcast hears.found hears.confirmed, if_neg (by decide), if_pos rfl,
    handleGcPrivateMessage_heard hears.heard (by rw [hears.role, hmute]) htype hne]
  by_cases hroom : text.length < maxGcMessageSize
  · rw [if_pos hroom]
    exact iff_of_true rfl (Nat.ne_of_lt hroom)
  · rw [if_neg hroom]
    refine iff_of_false (fun h => ?_) (not_not.mpr (Nat.le_antisymm hlength (Nat.le_of_not_lt hroom)))
    have hhandled : false = true := congrArg Prod.fst h
    cases hhandled

theorem delivered_customPacket {data : Bytes} (haccepted : (own.gcSendCustomPacket data).1 = 0) :
    MessageDelivered own other env others packets peerNumber peer (.customPacket data) := by
  obtain ⟨hlength, hne, hmute, hsent⟩ := gcSendCustomPacket_accepted haccepted
  have hcustom := handleGcCustom_heard .customPacket hears.heard (by rw [hears.role, hmute]) hlength hne
  rw [delivered_of_sent (.customPacket data) hsent]
  simp only [GCChat.handleGcLosslessHelper, hears.found, GCChat.handleGcCustomPacket, hcustom]
  rfl

theorem delivered_customPrivatePacket {peerId : UInt32} {text : Bytes}
    (haccepted : (own.gcSendCustomPrivatePacket env peerId text).1 = 0) :
    MessageDelivered own other env others packets peerNumber peer (.customPrivatePacket peerId text) := by
  obtain ⟨hlength, hne, hmute, hsent⟩ := gcSendCustomPrivatePacket_accepted haccepted
  have hcustom := handleGcCustom_heard .customPrivatePacket hears.heard (by rw [hears.role, hmute]) hlength hne
  rw [delivered_of_sent (.customPrivatePacket peerId text) hsent]
  simp only [GCChat.handleGcLosslessHelper, hears.found, GCChat.handleGcCustomPrivatePacket, hcustom]
  rfl

end

theorem messageDelivered_iff (hears : HearsSender own other peerNumber peer) (request : MessageRequest)
    (haccepted : (request.send own env).1 = 0) :
    MessageDelivered own other env others packets peerNumber peer request ↔ ¬request.FullPrivate := by
  cases request with
  | message => exact iff_of_true (delivered_message hears haccepted) not_false
  | privateMessage => exact delivered_privateMessage_iff hears haccepted
  | customPacket => exact iff_of_true (delivered_customPacket hears haccepted) not_false
  | customPrivatePacket => exact iff_of_true (delivered_customPrivatePacket hears haccepted) not_false

def confirmedPeer : GCPeer :=
  { zeroGCPeer with
    peerId := 1
    link := { zeroGCPeer.link with gconn := { zeroGCPeer.link.gconn with confirmed := true } } }

def pairChat : GCChat :=
  { GCChat.joiningChat with group := [zeroGCPeer, confirmedPeer] }

theorem pairChat_hears : HearsSender pairChat pairChat 1 confirmedPeer where
  found := rfl
  confirmed := rfl
  heard := rfl
  role := rfl
  voice := rfl

theorem delivered_short :
    MessageDelivered pairChat pairChat ⟨true, true⟩ (fun _ _ => (0, [])) (fun _ _ => (0, [])) 1 confirmedPeer
      (.privateMessage 1 0 [0x68, 0x69]) :=
  (messageDelivered_iff pairChat_hears _ rfl).mpr (show 2 ≠ maxGcMessageSize by decide)

theorem not_delivered_fullPrivate :
    ¬∀ (own other : GCChat) (env : MessageEnv) (others packets : UInt8 → Bytes → MessageHandled) (peerNumber : Nat)
      (peer : GCPeer) (request : MessageRequest), HearsSender own other peerNumber peer →
      (request.send own env).1 = 0 → MessageDelivered own other env others packets peerNumber peer request := by
  intro delivers
  let text := List.replicate maxGcMessageSize (0 : UInt8)
  have haccepted : (pairChat.gcSendPrivateMessage ⟨true, true⟩ 1 0 text).1 = 0 := by
    simp only [text, GCChat.gcSendPrivateMessage, length_replicate]
    rfl
  have hdelivered := delivers pairChat pairChat ⟨true, true⟩ (fun _ _ => (0, [])) (fun _ _ => (0, [])) 1 confirmedPeer
    (.privateMessage 1 0 text) pairChat_hears haccepted
  exact (delivered_privateMessage_iff pairChat_hears haccepted).mp hdelivered length_replicate

end Toxcore
