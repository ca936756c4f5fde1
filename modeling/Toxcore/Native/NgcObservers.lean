import Toxcore.Native.NgcFounder

/-!
# Moderators and observers

How a moderator changes the sanctions list: `mod_gc_set_observer` with `prune_gc_sanctions_list`, and the broadcasts
that tell the group of it.  Allocations do not fail.
-/

namespace Toxcore

def gmSetObserver : UInt8 := 0x08

def gcBroadcastEncHeaderSize : Nat := 1

/-- The entry that `sanctions_list_make_entry` has made for an observer. -/
def Moderation.madeEntry (crypto : SignCrypto) (moderation : Moderation) (publicKey : PublicKey) (now : UInt64) :
    Option ModSanction :=
  moderation.sanctionsListSignEntry crypto
    { setterPublicSigKey := moderation.selfPublicSigKey
      timeSet := now
      type := saObserver
      targetPublicEncKey := publicKey
      signature := Vector.replicate _ 0 }

/-- What changing the observers leaves behind: the result, the group, and the `GM_SET_OBSERVER` data. -/
structure ObserverChange where
  done : Bool
  chat : GCChat
  broadcasts : List Bytes

namespace GCChat

variable (crypto : SignCrypto) (env : ChatEnv) (chat : GCChat)

def sendGcBroadcastMessage (data : Bytes) (bcType : UInt8) : Bool × GCChat :=
  if data.length + gcBroadcastEncHeaderSize > maxGcPacketSize then (false, chat)
  else (true, chat.sendGcLosslessPacketAllPeers env (bcType :: data) gpBroadcast)

/-- The data of a `GM_SET_OBSERVER` broadcast. -/
def setObserverData (targetExtPk : ExtPublicKey) (sanctionData : Bytes) (addObs : Bool) : Bytes :=
  (if addObs then 1 else 0) :: (targetExtPk.enc.toList ++ (targetExtPk.sig.toList ++ sanctionData))

def sendGcSetObserver (targetExtPk : ExtPublicKey) (sanctionData : Bytes) (addObs : Bool) : ObserverChange :=
  let packet := setObserverData targetExtPk sanctionData addObs
  match chat.sendGcBroadcastMessage env packet gmSetObserver with
  | (false, chat) => { done := false, chat, broadcasts := [] }
  | (true, chat) => { done := true, chat, broadcasts := [packet] }

/-- `prune_gc_sanctions_list`: the first entry whose target is offline goes. -/
def pruneGcSanctionsList : ObserverChange :=
  if chat.moderation.sanctions.length = 0 then { done := true, chat, broadcasts := [] }
  else
    match chat.moderation.sanctions.find? fun sanction =>
        (chat.getPeerNumberOfEncPk sanction.targetPublicEncKey true).isNone with
    | none => { done := false, chat, broadcasts := [] }
    | some sanction =>
      match chat.moderation.sanctionsListRemoveObserver crypto sanction.targetPublicEncKey none with
      | (false, moderation) => { done := false, chat := { chat with moderation }, broadcasts := [] }
      | (true, moderation) =>
        -- behind the encryption key stands the key of the setter
        { chat with moderation }.sendGcSetObserver env
          { enc := sanction.targetPublicEncKey, sig := sanction.setterPublicSigKey }
          (sanctionsCredsPack moderation.sanctionsCreds) false

/-- The part of `mod_gc_set_observer` that makes room in the sanctions list. -/
def makeRoomForSanction : ObserverChange :=
  if chat.moderation.sanctions.length ≥ modMaxNumSanctions then chat.pruneGcSanctionsList crypto env
  else { done := true, chat, broadcasts := [] }

/-- The part of `mod_gc_set_observer` that signs the topic again if the peer has set it. -/
def takeOverTopic (secretKey : SigSecretKey) (peerNumber : Nat) : Bool × GCChat :=
  if chat.getPeerNumberOfSigPk chat.topicInfo.publicSigKey = some peerNumber then
    match chat.gcSetTopic crypto env secretKey chat.topicInfo.topic with
    | (result, chat) => (decide (result = 0), chat)
  else (true, chat)

/-- The part of `mod_gc_set_observer` that makes an observer of a peer with a given address. -/
def addObserver (address : ExtPublicKey) (now : UInt64) : ObserverChange :=
  match chat.moderation.madeEntry crypto address.enc now,
      chat.moderation.sanctionsListMakeEntry crypto address.enc now with
  | some sanction, (true, moderation) =>
    let chat := { chat with moderation }
    match sanctionsListPack (modSanctionPackedSize + modSanctionsCredsSize) [sanction]
        (some moderation.sanctionsCreds) with
    | none => { done := false, chat, broadcasts := [] }
    | some sanctionData => chat.updateGcPeerRoles.sendGcSetObserver env address sanctionData true
  | _, (_, moderation) => { done := false, chat := { chat with moderation }, broadcasts := [] }

/-- The part of `mod_gc_set_observer` that makes a user of an observer. -/
def removeObserver (address : ExtPublicKey) : ObserverChange :=
  match chat.moderation.sanctionsListRemoveObserver crypto address.enc none with
  | (false, moderation) => { done := false, chat := { chat with moderation }, broadcasts := [] }
  | (true, moderation) =>
    { chat with moderation }.updateGcPeerRoles.sendGcSetObserver env address
      (sanctionsCredsPack moderation.sanctionsCreds) false

def modGcSetObserver (secretKey : SigSecretKey) (now : UInt64) (peerNumber : Nat) (addObs : Bool) :
    ObserverChange :=
  match chat.getGcConnection peerNumber with
  | none => { done := false, chat, broadcasts := [] }
  | some gconn =>
    if chat.gcGetSelfRole.value ≥ GroupRole.user.value then { done := false, chat, broadcasts := [] }
    else if addObs then
      let room := chat.makeRoomForSanction crypto env
      if !room.done then room
      else
        match room.chat.takeOverTopic crypto env secretKey peerNumber with
        | (false, chat) => { room with done := false, chat }
        | (true, chat) =>
          let added := chat.addObserver crypto env gconn.publicKey now
          { added with broadcasts := room.broadcasts ++ added.broadcasts }
    else chat.removeObserver crypto env gconn.publicKey

end GCChat

end Toxcore
