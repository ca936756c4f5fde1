import Toxcore.Native.CryptoCore

/-!
# Call signalling

`msi.c` of ToxAV for one friend: the slot `calls[friend_number]` of the session is an
`Option MSICall`, `none` where `get_call` returns null.  Locks are free and allocations succeed.
A function that sends messages returns them; `sendMessage` is the packet that is then handed to
`tox_friend_send_lossless_packet`, the packet id in front.
-/

namespace Toxcore

/-! ## Messages -/

def packetIdMsi : UInt8 := 69

inductive MSIHeaderID where
  | request
  | error
  | capabilities
deriving DecidableEq

/-- The values of `MSIHeaderID` start at `1`. -/
def MSIHeaderID.toByte : MSIHeaderID → UInt8
  | .request => 1
  | .error => 2
  | .capabilities => 3

inductive MSIRequest where
  | init
  | push
  | pop
deriving DecidableEq

def MSIRequest.toByte : MSIRequest → UInt8
  | .init => 0
  | .push => 1
  | .pop => 2

/-- The cast of a byte that `check_enum_high` has compared with `REQU_POP`. -/
def MSIRequest.ofByte (b : UInt8) : Option MSIRequest :=
  if b = 0 then some .init else if b = 1 then some .push else if b = 2 then some .pop else none

inductive MSIError where
  | none
  | invalidMessage
  | invalidParam
  | invalidState
  | strayMessage
  | system
  | handle
  | undisclosed
deriving DecidableEq

def MSIError.toByte : MSIError → UInt8
  | .none => 0
  | .invalidMessage => 1
  | .invalidParam => 2
  | .invalidState => 3
  | .strayMessage => 4
  | .system => 5
  | .handle => 6
  | .undisclosed => 7

/-- The cast of a byte that `check_enum_high` has compared with `MSI_E_UNDISCLOSED`. -/
def MSIError.ofByte (b : UInt8) : Option MSIError :=
  [.none, .invalidMessage, .invalidParam, .invalidState, .strayMessage, .system, .handle,
    .undisclosed][b.toNat]?

/-- `MSIMessage` with the request that every message has; a header may be missing. -/
structure MSIMessage where
  request : MSIRequest
  error : Option MSIError
  capabilities : Option UInt8
deriving DecidableEq

def msgInit (request : MSIRequest) : MSIMessage where
  request := request
  error := none
  capabilities := none

def msgCapabilities (request : MSIRequest) (capabilities : UInt8) : MSIMessage :=
  { msgInit request with capabilities := some capabilities }

def msgParseHeaderOut (id : MSIHeaderID) (value : UInt8) : Bytes := [id.toByte, 1, value]

/-- `send_message` and `m_msi_packet`: the packet that is sent. -/
def sendMessage (msg : MSIMessage) : Bytes :=
  packetIdMsi :: (msgParseHeaderOut .request msg.request.toByte ++
    (match msg.error with
      | some error => msgParseHeaderOut .error error.toByte
      | none => []) ++
    (match msg.capabilities with
      | some capabilities => msgParseHeaderOut .capabilities capabilities
      | none => []) ++ [0])

def sendError (error : MSIError) : MSIMessage := { msgInit .pop with error := some error }

/-- The headers that `msg_parse_in` has seen so far. -/
structure MSIHeaders where
  request : Option MSIRequest
  error : Option MSIError
  capabilities : Option UInt8

/-- The loop of `msg_parse_in`; `none` is `-1`. `check_size` asks for one byte more than a header. -/
def msgParseLoop (dest : MSIHeaders) : Bytes → Option MSIHeaders
  | [] => none
  | id :: rest =>
    if id = 0 then some dest
    else
      match rest with
      | size :: value :: next :: rest =>
        if size ≠ 1 then none
        else if id = MSIHeaderID.request.toByte then
          match MSIRequest.ofByte value with
          | some request => msgParseLoop { dest with request := some request } (next :: rest)
          | none => none
        else if id = MSIHeaderID.error.toByte then
          match MSIError.ofByte value with
          | some error => msgParseLoop { dest with error := some error } (next :: rest)
          | none => none
        else if id = MSIHeaderID.capabilities.toByte then
          msgParseLoop { dest with capabilities := some value } (next :: rest)
        else none
      | _ => none

def msgParseIn (data : Bytes) : Option MSIMessage :=
  if data.length = 0 ∨ data.getLast? ≠ some 0 then none
  else
    match msgParseLoop ⟨none, none, none⟩ data with
    | some ⟨some request, error, capabilities⟩ => some { request, error, capabilities }
    | _ => none

/-! ## Calls -/

inductive MSICallState where
  | inactive
  | active
  | requesting
  | requested
deriving DecidableEq

inductive MSICallbackID where
  | onInvite
  | onStart
  | onEnd
  | onError
  | onPeertimeout
  | onCapabilities
deriving DecidableEq

/-- `MSICall` without its links and the fields that `msi.c` does not use. -/
structure MSICall where
  state : MSICallState
  peerCapabilities : UInt8
  selfCapabilities : UInt8
  error : MSIError
deriving DecidableEq

def newCall : MSICall where
  state := .inactive
  peerCapabilities := 0
  selfCapabilities := 0
  error := .none

/-- The callbacks of a session: which of them return `0` for which call. -/
abbrev MSICallbacks := MSICallbackID → MSICall → Bool

def invokeCallback (callbacks : MSICallbacks) (call : MSICall) (cb : MSICallbackID) :
    Bool × MSICall :=
  if callbacks cb call then (true, call)
  else (false, { call with error := if call.error = .none then .handle else call.error })

/-! ## The calls of the API -/

/-- `msi_invite`: the slot and the messages that are sent; `none` is `-1`. -/
def msiInvite (slot : Option MSICall) (capabilities : UInt8) :
    Option (Option MSICall × List MSIMessage) :=
  match slot with
  | some _ => none
  | none =>
    some (some { newCall with selfCapabilities := capabilities, state := .requesting },
      [msgCapabilities .init capabilities])

def msiHangup (slot : Option MSICall) : Option (Option MSICall × List MSIMessage) :=
  match slot with
  | none => none
  | some call =>
    if call.state = .inactive then none
    else some (none, [msgInit .pop])

def msiAnswer (slot : Option MSICall) (capabilities : UInt8) :
    Option (Option MSICall × List MSIMessage) :=
  match slot with
  | none => none
  | some call =>
    if call.state ≠ .requested then none
    else
      some (some { call with selfCapabilities := capabilities, state := .active },
        [msgCapabilities .push capabilities])

def msiChangeCapabilities (slot : Option MSICall) (capabilities : UInt8) :
    Option (Option MSICall × List MSIMessage) :=
  match slot with
  | none => none
  | some call =>
    if call.state ≠ .active then none
    else
      some (some { call with selfCapabilities := capabilities }, [msgCapabilities .push capabilities])

/-! ## Received messages -/

/-- The label `FAILURE`: the error is sent and the call is killed. -/
def msiFailure (call : MSICall) : Option MSICall × List MSIMessage := (none, [sendError call.error])

def handleInit (callbacks : MSICallbacks) (call : MSICall) (msg : MSIMessage) :
    Option MSICall × List MSIMessage :=
  match msg.capabilities with
  | none => msiFailure { call with error := .invalidMessage }
  | some capabilities =>
    match call.state with
    | .inactive =>
      let call := { call with peerCapabilities := capabilities, state := .requested }
      let (ok, call) := invokeCallback callbacks call .onInvite
      if !ok then msiFailure call else (some call, [])
    | .requesting =>
      -- both friends call each other at the same time
      let call := { call with peerCapabilities := capabilities, state := .active }
      let (ok, call) := invokeCallback callbacks call .onStart
      if !ok then msiFailure call
      else (some call, [msgCapabilities .push call.selfCapabilities])
    | .active => (some call, [msgCapabilities .push call.selfCapabilities])
    | .requested => msiFailure { call with error := .invalidState }

def handlePush (callbacks : MSICallbacks) (call : MSICall) (msg : MSIMessage) :
    Option MSICall × List MSIMessage :=
  match msg.capabilities with
  | none => msiFailure { call with error := .invalidMessage }
  | some capabilities =>
    match call.state with
    | .active =>
      if call.peerCapabilities ≠ capabilities then
        let call := { call with peerCapabilities := capabilities }
        let (ok, call) := invokeCallback callbacks call .onCapabilities
        if !ok then msiFailure call else (some call, [])
      else
        (some call, [])
    | .requesting =>
      let call := { call with peerCapabilities := capabilities, state := .active }
      let (ok, call) := invokeCallback callbacks call .onStart
      if !ok then msiFailure call else (some call, [])
    | .inactive => (some call, [])
    | .requested => (some call, [])

/-- `handle_pop`. It aborts on an inactive call, but such a call is only made for an init. -/
def handlePop : Option MSICall × List MSIMessage := (none, [])

def handleMsiPacket (callbacks : MSICallbacks) (slot : Option MSICall) (data : Bytes) :
    Option MSICall × List MSIMessage :=
  if data.length < 2 then (slot, [])
  else
    match msgParseIn (data.drop 1) with
    | none => (slot, [sendError .invalidMessage])
    | some msg =>
      if slot = none ∧ msg.request ≠ .init then (none, [])
      else
        let call := slot.getD newCall
        match msg.request with
        | .init => handleInit callbacks call msg
        | .push => handlePush callbacks call msg
        | .pop => handlePop

/-! ## Lemmas -/

theorem MSIRequest.ofByte_toByte (request : MSIRequest) :
    MSIRequest.ofByte request.toByte = some request := by
  cases request <;> rfl

theorem MSIError.ofByte_toByte (error : MSIError) :
    MSIError.ofByte error.toByte = some error := by
  cases error <;> rfl

theorem msgParseIn_sendMessage (msg : MSIMessage) :
    msgParseIn ((sendMessage msg).drop 1) = some msg := by
  obtain ⟨request, error, capabilities⟩ := msg
  cases error <;> cases capabilities <;>
    simp [sendMessage, msgParseHeaderOut, msgParseIn, msgParseLoop, MSIHeaderID.toByte,
      MSIRequest.ofByte_toByte, MSIError.ofByte_toByte]

theorem length_sendMessage (msg : MSIMessage) : 2 ≤ (sendMessage msg).length := by
  simp [sendMessage, msgParseHeaderOut]

end Toxcore
