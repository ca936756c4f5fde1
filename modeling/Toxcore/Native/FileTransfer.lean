import Toxcore.Native.CryptoConnection
import Toxcore.Native.NodeFormat

/-!
# File transfers

The requests that a friend sends for files, and one outgoing transfer, from `Messenger.c`.  The fields of a transfer
that only decide when a request is sent again are left out, as are the counter of outgoing transfers and the callbacks
of outgoing transfers: what a client does in one of them it can as well do before or after the function.
-/

namespace Toxcore

def fileIdLength : Nat := 32

def fileOffsetLength : Nat := 8

def maxFilenameLength : Nat := 255

def maxFileDataSize : Nat := maxCryptoDataSize - 2

def minSlotsFree : UInt32 := 64 / 4

def filekindFtv2 : UInt32 := 16

def maxFiletransferSizeMsgv2 : UInt64 := 4096 + (32 + 4 + 2 + 32 + 4) + (32 + 4 + 2 + 1 + 32)

def pauseCyclesOnFtv2SeekReceived : UInt8 := 20

/-- `HACK_TOX_FILE_KIND_MESSAGEV2_SEND`, `_ANSWER`, `_ALTER` or `_SYNC` -/
def isMessagev2 (fileType : UInt32) : Bool := fileType == 2 || fileType == 3 || fileType == 4 || fileType == 5

inductive Filestatus where
  | none
  | notAccepted
  | transferring
  | finished
deriving DecidableEq

/-- `File_Transfers`; the bits `FILE_PAUSE_US` and `FILE_PAUSE_OTHER` of `paused` are two fields. -/
structure FileTransfer where
  size : UInt64
  transferred : UInt64
  status : Filestatus
  pausedUs : Bool
  pausedOther : Bool
  lastPacketNumber : UInt32
  requested : UInt64
  id : Vector UInt8 fileIdLength
  fileType : UInt32
  receivedSeekControl : Bool
  receivedSeekControlCounter : UInt8
deriving DecidableEq

/-! ## Requests of a friend -/

/-- The incoming transfers of a `Friend`. -/
structure ReceivingFiles where
  fileReceiving : UInt8 → FileTransfer
  numReceivingFiles : UInt32

/-- The call of `file_sendrequest`, with the file number of the packet. -/
structure FileSendrequest where
  filenumber : UInt8
  fileType : UInt32
  filesize : UInt64
  filename : Bytes
deriving DecidableEq

/-- What `m_handle_packet` does with a packet `PACKET_ID_FILE_SENDREQUEST`. -/
structure SendrequestHandled where
  files : ReceivingFiles
  callback : Option FileSendrequest := none
  /-- The id in a `FILECONTROL_SEND_ACK` that is sent. -/
  ack : Option (Vector UInt8 fileIdLength) := none

/-- The length of a request without the name. -/
def sendrequestHeadLength : Nat := 1 + 4 + 8 + fileIdLength

/-- `PACKET_ID_FILE_SENDREQUEST` in `m_handle_packet`; the data is that behind the packet id. -/
def handleFileSendrequest (files : ReceivingFiles) (data : Bytes) : SendrequestHandled :=
  if data.length < sendrequestHeadLength then { files }
  else
    let filenumber := data.headD 0
    let filename := data.drop sendrequestHeadLength
    if filename.length > maxFilenameLength then { files }
    else
      let fileType := netUnpackU32 (data.drop 1)
      let filesize := netUnpackU64 (data.drop 5)
      let ft := files.fileReceiving filenumber
      let set (ft : FileTransfer) := Function.update files.fileReceiving filenumber ft
      if ft.status ≠ .none then { files, ack := if ft.fileType = filekindFtv2 then some ft.id else none }
      else if isMessagev2 fileType ∧ filesize > maxFiletransferSizeMsgv2 then
        -- the status is set before the size is looked at
        { files := { files with fileReceiving := set { ft with status := .transferring } } }
      else
        let id := bytesToVector fileIdLength (data.drop 13)
        { files :=
            { fileReceiving := set { ft with
                status := if isMessagev2 fileType then .transferring else .notAccepted
                fileType
                size := filesize
                transferred := 0
                pausedUs := false
                pausedOther := false
                id }
              numReceivingFiles := files.numReceivingFiles + 1 }
          callback := some { filenumber, fileType, filesize, filename }
          ack := if fileType = filekindFtv2 then some id else none }

/-! ## An outgoing transfer -/

/-- What `send_file_data` asks other modules. -/
structure SendFileEnv where
  friendExists : Bool
  friendOnline : Bool
  /-- `crypto_num_free_sendqueue_slots` -/
  freeSendqueueSlots : UInt32
  /-- Whether the buffer of a transfer of the second kind could be allocated. -/
  buffer : Bool
  /-- `send_file_data_packet`; `none` is `-1`. -/
  packetNumber : Option UInt32

namespace FileTransfer

variable (ft : FileTransfer)

/-- The transfer of `new_filesender`, once the request is sent. -/
def newFilesender (fileType : UInt32) (filesize : UInt64) (id : Vector UInt8 fileIdLength) : FileTransfer :=
  { ft with
    fileType, id
    receivedSeekControl := false
    receivedSeekControlCounter := 0
    status := if isMessagev2 fileType then .transferring else .notAccepted
    size := filesize
    transferred := 0
    requested := 0
    pausedUs := false
    pausedOther := false }

def sendFileData (env : SendFileEnv) (position : UInt64) (data : Bytes) : Int × FileTransfer × Option Bytes :=
  let length := UInt16.ofNat data.length
  let wrongPosition := position ≠ ft.transferred ∨ (ft.requested ≤ position ∧ ft.size ≠ 0)
  if !env.friendExists then (-1, ft, none)
  else if !env.friendOnline then (-2, ft, none)
  else if ft.status ≠ .transferring then (-4, ft, none)
  else if length.toNat > maxFileDataSize then (-5, ft, none)
  else if ft.fileType = filekindFtv2 then
    if length.toNat > maxFileDataSize - fileOffsetLength then (-5, ft, none)
    else
      let lengthRaw := length - UInt16.ofNat fileIdLength
      if ft.size - ft.transferred < lengthRaw.toUInt64 then (-5, ft, none)
      else if wrongPosition then (-7, ft, none)
      else if env.freeSendqueueSlots < minSlotsFree then (-6, ft, none)
      else if !env.buffer then (-6, ft, none)
      else if env.packetNumber.isNone then (-6, ft, none)
      else
        (0, { ft with transferred := ft.transferred + lengthRaw.toUInt64 }, some (netPackU64 position ++ data))
  else if ft.size - ft.transferred < length.toUInt64 then (-5, ft, none)
  else if ft.size ≠ UInt64.ofNat (2 ^ 64 - 1) ∧ length.toNat ≠ maxFileDataSize ∧
      ft.transferred + length.toUInt64 ≠ ft.size then (-5, ft, none)
  else if wrongPosition then (-7, ft, none)
  else if env.freeSendqueueSlots < minSlotsFree then (-6, ft, none)
  else
    match env.packetNumber with
    | none => (-6, ft, none)
    | some number =>
      let sent := { ft with transferred := ft.transferred + length.toUInt64 }
      if length.toNat ≠ maxFileDataSize ∨ sent.size = sent.transferred then
        (0, { sent with status := .finished, lastPacketNumber := number }, some data)
      else (0, sent, some data)

/-- What is reset when a transfer ends. -/
def clear : FileTransfer :=
  { ft with status := .none, fileType := 0, receivedSeekControl := false, receivedSeekControlCounter := 0 }

/-- The chunk that `do_all_filetransfers` asks the client for, of at most so many bytes. -/
def requestChunk (maxLength : Nat) : FileTransfer :=
  let left := ft.size - ft.requested
  let length := if left < UInt64.ofNat maxLength then left else UInt64.ofNat maxLength
  { ft with requested := ft.requested + length.toUInt16.toUInt64 }

/-- `do_all_filetransfers` for one transfer; `received` is `friend_received_packet` of the last packet. -/
def doFiletransfer (env : SendFileEnv) (received : Bool) : FileTransfer :=
  let unpaused := ft.status = .transferring ∧ !ft.pausedUs ∧ !ft.pausedOther
  if ft.fileType = filekindFtv2 then
    if ft.status = .finished then ft.clear
    else if unpaused ∧ ft.size ≠ ft.requested ∧ !ft.receivedSeekControl then
      ft.requestChunk (maxFileDataSize - fileOffsetLength - fileIdLength)
    else ft
  else if ft.status = .finished ∧ received then ft.clear
  else if unpaused then
    if ft.size = 0 then (ft.sendFileData env 0 []).2.1
    else if ft.size = ft.requested then ft
    else ft.requestChunk maxFileDataSize
  else ft

/-- The last loop of `do_reqchunk_filecb` for a transfer. -/
def countSeekControl : FileTransfer :=
  if ft.receivedSeekControl then
    let counter := ft.receivedSeekControlCounter - 1
    { ft with
      receivedSeekControlCounter := counter
      receivedSeekControl := !(counter < 1 ∨ counter > pauseCyclesOnFtv2SeekReceived) }
  else ft

/-- `FILECONTROL_SEEK` of `handle_filecontrol` -/
def handleSeek (data : Bytes) : Int × FileTransfer :=
  if data.length ≠ 8 then (-1, ft)
  else if ft.fileType ≠ filekindFtv2 ∧ ft.status ≠ .notAccepted then (-1, ft)
  else
    let position := netUnpackU64 data
    if position ≥ ft.size then (-1, ft)
    else
      (0, { ft with
        receivedSeekControl := true
        receivedSeekControlCounter := pauseCyclesOnFtv2SeekReceived
        requested := position
        transferred := position })

def handleFilecontrol (controlType : UInt8) (data : Bytes) : Int × FileTransfer :=
  if ft.status = .none then (-1, ft)
  else
    match controlType with
    | 0 => -- `FILECONTROL_ACCEPT`
      if ft.status = .notAccepted then (0, { ft with status := .transferring })
      else if ft.pausedOther then (0, { ft with pausedOther := false })
      else (-1, ft)
    | 1 => -- `FILECONTROL_PAUSE`
      if ft.pausedOther ∨ ft.status ≠ .transferring then (-1, ft) else (0, { ft with pausedOther := true })
    | 2 => -- `FILECONTROL_KILL`
      if ft.status = .finished ∧ ft.fileType = filekindFtv2 then (0, ft) else (0, ft.clear)
    | 3 => ft.handleSeek data
    | 4 => -- `FILECONTROL_FINISHED`
      if ft.status = .transferring ∧ ft.fileType = filekindFtv2 then (0, { ft with status := .finished }) else (0, ft)
    | 8 => -- `FILECONTROL_SEND_ACK`
      if ft.fileType = filekindFtv2 ∧ data ≠ ft.id.toList then (-1, ft) else (0, ft)
    | _ => (-1, ft)

end FileTransfer

end Toxcore
