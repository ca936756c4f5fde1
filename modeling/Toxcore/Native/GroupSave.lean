import Toxcore.Native.GroupChats
import Toxcore.Native.NodeFormat

/-!
# The conferences in the save file

`conferences_save` and `load_conferences` of `group.c`.  The functions that write to a buffer
return the bytes they wrote.  The functions that read get the bytes up to `length`; reading
behind them is a `Fault`.

Sums with `SAVED_PEER_SIZE_CONSTANT` and `SAVED_CONF_SIZE_CONSTANT` are of type `size_t`, those
with a length of a name only are of type `uint32_t`.  The assertions are left out, as in a
release build.
-/

namespace Toxcore

def savedPeerSizeConstant : Nat := 2 * cryptoPublicKeySize + 2 + 8 + 1

def savedConfSizeConstant : Nat := 1 + cryptoPublicKeySize + 4 + 2 + 2 + 4 + 1

def saveOffsetMessageNumber : UInt32 := (1 : UInt32) <<< 16

def saveOffsetLossyMessageNumber : UInt16 := (1 : UInt16) <<< 13

def stateCookieType : UInt16 := 0x01ce

def stateTypeConferences : UInt16 := 20

/-! ## Saving -/

def Name.lengthByte (name : Name) : UInt8 := UInt8.ofNat name.1.length

/-- The part of a saved peer before the nick. -/
def peerHead (realPk tempPk : PublicKey) (peerNumber : UInt16) (lastActive : UInt64)
    (nickLen : UInt8) : Bytes :=
  realPk.toList ++ (tempPk.toList ++ (hostToLendianBytes16 peerNumber ++
    (hostToLendianBytes64 lastActive ++ [nickLen])))

def savePeer (peer : GroupPeer) : Bytes :=
  peerHead peer.realPk peer.tempPk peer.peerNumber peer.lastActive peer.nick.lengthByte ++ peer.nick.1

def savedPeerSize (peer : GroupPeer) : UInt32 :=
  UInt32.ofNat (savedPeerSizeConstant + peer.nick.1.length)

/-- The part of a saved conference before the title. -/
def confHead (type : UInt8) (id : PublicKey) (messageNumber : UInt32) (lossyMessageNumber : UInt16)
    (peerNumber : UInt16) (numsaved : UInt32) (titleLen : UInt8) : Bytes :=
  [type] ++ (id.toList ++ (hostToLendianBytes32 messageNumber ++
    (hostToLendianBytes16 lossyMessageNumber ++ (hostToLendianBytes16 peerNumber ++
      (hostToLendianBytes32 numsaved ++ [titleLen])))))

namespace GroupC

variable (g : GroupC)

/-- The peers that are saved: all but ourselves. -/
def savedPeers : List GroupPeer := (g.group ++ g.frozen).filter fun peer => peer.realPk != g.realPk

def savedConfSize : UInt32 :=
  g.savedPeers.foldl (fun len peer => len + savedPeerSize peer)
    (UInt32.ofNat (savedConfSizeConstant + g.title.1.length))

def saveConf : Bytes :=
  confHead g.type g.id (g.messageNumber + saveOffsetMessageNumber)
    (g.lossyMessageNumber + saveOffsetLossyMessageNumber) g.peerNumber
    (UInt32.ofNat g.savedPeers.length) g.title.lengthByte ++
  (g.title.1 ++ g.savedPeers.flatMap savePeer)

end GroupC

namespace GroupChats

variable (gC : GroupChats)

def savedConferences : List GroupC := gC.chats.filter fun g => g.status == .connected

def conferencesSectionSize : UInt32 :=
  gC.savedConferences.foldl (fun len g => len + g.savedConfSize) 0

def conferencesSize : UInt32 := UInt32.ofNat (2 * 4 + gC.conferencesSectionSize.toNat)

def conferencesSave : Bytes :=
  stateWriteSectionHeader stateCookieType gC.conferencesSectionSize stateTypeConferences.toUInt32 ++
    gC.savedConferences.flatMap (·.saveConf)

end GroupChats

/-! ## Loading -/

/-- A peer of a save file, without the nick. -/
def loadPeerHead (env : GroupEnv) (data : Bytes) : GroupPeer :=
  let realPk := bytesToVector cryptoPublicKeySize data
  { emptyGroupPeer with
    realPk
    tempPk := bytesToVector cryptoPublicKeySize (data.drop 32)
    peerNumber := lendianBytesToHost16 (data.drop 64)
    lastActive := lendianBytesToHost64 (data.drop 66)
    isFriend := env.isFriend realPk }

/-- The loop of `load_group` over the peers, with the data after them; `none` is `0`. -/
def loadPeers (env : GroupEnv) (length : UInt32) :
    (numfrozen : Nat) → (offset : Nat) → (data : Bytes) →
    Except Fault (Option (List GroupPeer × Bytes))
  | 0, _, data => .ok (some ([], data))
  | numfrozen + 1, offset, data =>
    if length.toNat < (UInt32.ofNat offset).toNat + savedPeerSizeConstant then .ok none
    else
      let nickLen := data.getD 74 0
      if hnick : nickLen.toNat > maxNameLength then .ok none
      else
        let nickData := data.drop savedPeerSizeConstant
        let offset := offset + savedPeerSizeConstant
        if length < UInt32.ofNat offset + nickLen.toUInt32 then .ok none
        else if nickData.length < nickLen.toNat then .error .outOfBounds
        else
          match loadPeers env length numfrozen (offset + nickLen.toNat)
              (nickData.drop nickLen.toNat) with
          | .error fault => .error fault
          | .ok none => .ok none
          | .ok (some (peers, rest)) =>
            .ok (some ({ loadPeerHead env data with
              nick := ⟨nickData.take nickLen.toNat, by
                rw [List.length_take]
                omega⟩ } :: peers, rest))

def loadedConference (selfPublicKey : PublicKey) (data : Bytes) (title : Name) (numfrozen : UInt32)
    (frozen : List GroupPeer) : GroupC :=
  { setupConference with
    type := data.getD 0 0
    id := bytesToVector cryptoPublicKeySize (data.drop 1)
    messageNumber := lendianBytesToHost32 (data.drop 33)
    lossyMessageNumber := lendianBytesToHost16 (data.drop 37)
    peerNumber := lendianBytesToHost16 (data.drop 39)
    title
    frozen
    maxfrozen := if numfrozen > maxFrozenDefault then numfrozen else maxFrozenDefault
    status := .connected
    realPk := selfPublicKey }

/-- `load_group` behind the constant part, with the data after it; `none` is `0`, and the caller wipes. -/
def loadGroup (env : GroupEnv) (selfPublicKey : PublicKey) (data : Bytes) :
    Except Fault (Option (GroupC × Bytes)) :=
  let length := UInt32.ofNat data.length
  let numfrozen := lendianBytesToHost32 (data.drop 41)
  let titleLen := data.getD 45 0
  if htitle : titleLen.toNat > maxNameLength then .ok none
  else if length < UInt32.ofNat savedConfSizeConstant + titleLen.toUInt32 then .ok none
  else
    let titleData := data.drop savedConfSizeConstant
    if titleData.length < titleLen.toNat then .error .outOfBounds
    else
      let title : Name := ⟨titleData.take titleLen.toNat, by
        rw [List.length_take]
        omega⟩
      match loadPeers env length numfrozen.toNat (savedConfSizeConstant + titleLen.toNat)
          (titleData.drop titleLen.toNat) with
      | .error fault => .error fault
      | .ok none => .ok none
      | .ok (some (frozen, rest)) =>
        .ok (some (loadedConference selfPublicKey data title numfrozen frozen, rest))

namespace GroupChats

variable (gC : GroupChats)

/-- The loop of `load_conferences_helper`; the length of the data is enough fuel. -/
def loadConferencesLoop (env : GroupEnv) :
    (fuel : Nat) → GroupChats → Bytes → Except Fault (StateLoadStatus × GroupChats)
  | 0, gC, _ => .ok (.continue, gC)
  | fuel + 1, gC, data =>
    if data.length < savedConfSizeConstant then .ok (.continue, gC)
    else
      match gC.createGroupChat with
      | .error fault => .error fault
      | .ok (groupnumber, gC) =>
        match loadGroup env gC.selfPublicKey data with
        | .error fault => .error fault
        | .ok none => .ok (.error, gC.wipeGroupChat groupnumber)
        | .ok (some (g, rest)) =>
          match { gC with chats := gC.chats.set groupnumber g }.addSelf env groupnumber
              g.peerNumber with
          | (none, gC) => .ok (.error, gC)
          | (some _, gC) => loadConferencesLoop env fuel gC rest

def loadConferencesHelper (env : GroupEnv) (data : Bytes) :
    Except Fault (StateLoadStatus × GroupChats) :=
  loadConferencesLoop env data.length gC data

/-- The cleanup of `load_conferences`. -/
def wipeAll : GroupChats := (List.range gC.chats.length).foldl wipeGroupChat gC

def loadConferences (env : GroupEnv) (data : Bytes) : Except Fault (StateLoadStatus × GroupChats) :=
  match gC.loadConferencesHelper env data with
  | .error fault => .error fault
  | .ok (.continue, gC) => .ok (.continue, gC)
  | .ok (status, gC) => .ok (status, gC.wipeAll)

end GroupChats

end Toxcore
