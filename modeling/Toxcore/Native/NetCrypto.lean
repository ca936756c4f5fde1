import Mathlib.Data.List.DropRight
import Toxcore.Native.BSList
import Toxcore.Native.CryptoConnection

/-!
# Connections of a `Net_Crypto`

Cookies, handshakes and the connection table of `net_crypto.c`: every function that
creates, changes or kills a `Crypto_Connection`, and the entry points for packets that
arrive over UDP, over a TCP relay and as TCP out-of-band data.

`Env` is what the environment decides in one step.  A function that returns `0` or `-1`
returns `true` or `false` here.  `Trace` records what a step made or accepted; the
functions never read it.  The status and DHT key callbacks are taken to make no calls of
their own before the function that called them returns; `new_connection_callback` either
accepts the connection or does nothing.
-/

namespace Toxcore

def cookieTimeout : UInt64 := 15

def cryptoMinQueueLength : UInt32 := 64

def defaultPingConnection : UInt64 := 1000

def maxNumSendpacketTries : UInt32 := 8

def cryptoMinPacketSize : Nat := 1 + 2 + cryptoMacSize

structure NewConnection where
  source : IPPort
  publicKey : PublicKey
  dhtPublicKey : PublicKey
  recvNonce : Nonce
  peerSessionPublicKey : PublicKey
  cookie : Cookie
deriving DecidableEq

/-- What the environment decides in one step. -/
structure Env where
  /-- `mono_time_get`, in seconds -/
  now : UInt64
  /-- `current_time_monotonic`, in milliseconds -/
  nowMs : UInt64
  sentNonce : Nonce
  cookieNonce : Nonce
  packetNonce : Nonce
  /-- `random_u64` -/
  number : UInt64
  /-- `crypto_new_keypair` -/
  sessionPublicKey : PublicKey
  sessionSecretKey : SecretKey
  /-- `realloc` in `create_crypto_connection` -/
  realloc : Bool
  /-- `new_tcp_connection_to` -/
  tcp : Bool
  /-- The allocations of `create_send_handshake` and of `new_temp_packet`. -/
  malloc : Bool
  /-- `calloc` for a packet buffer -/
  calloc : Bool
  /-- `send_packet_to` -/
  sendOk : UInt32 → Bool
  /-- `new_connection_callback` calls `accept_crypto_connection`. -/
  accept : Bool
  /-- `connection_data_callback` -/
  react : Bytes → List Peer.ApiCall

/-- A handshake for which `handle_crypto_handshake` returned `true`, and when. -/
structure AcceptedHandshake where
  time : UInt64
  packet : Handshake
  connection : NewConnection
deriving DecidableEq

/-- A handshake made by `create_crypto_handshake`. -/
structure CreatedHandshake where
  peerRealPk : PublicKey
  packet : Handshake
deriving DecidableEq

/-- What happened so far. -/
structure Trace where
  /-- The cookies made by `create_cookie`. -/
  cookies : List Cookie
  /-- The handshakes made by `create_crypto_handshake`. -/
  handshakes : List CreatedHandshake
  /-- All packets made. -/
  sent : List Packet
  /-- The handshakes accepted by `handle_crypto_handshake`. -/
  accepted : List AcceptedHandshake
  /-- The data packets passed to `handle_data_packet_core`. -/
  received : List DataPacket

/-- `Net_Crypto`, with the keys of its `DHT`. -/
structure NetCrypto where
  dhtSelfPublicKey : PublicKey
  dhtSelfSecretKey : SecretKey
  selfPublicKey : PublicKey
  selfSecretKey : SecretKey
  secretSymmetricKey : SharedKey
  cryptoConnections : List CryptoConnection
  ipPortList : BSList
  trace : Trace

namespace CryptoConnection

/-- Copy the nonce and the session key of a handshake into the connection. -/
def decodeHandshake (conn : CryptoConnection) (nC : NewConnection) : CryptoConnection :=
  { conn with recvNonce := nC.recvNonce, peerSessionPublicKey := nC.peerSessionPublicKey }

/-- Copy a handshake into the connection and compute the session key. -/
def rekey (conn : CryptoConnection) (box : CryptoBox) (nC : NewConnection) : CryptoConnection :=
  { conn.decodeHandshake nC with
    sharedKey := box.encryptPrecompute nC.peerSessionPublicKey conn.sessionSecretKey conn.sharedKey }

/-- The fields that `accept_crypto_connection` sets before it sends a handshake. -/
def openSession (conn : CryptoConnection) (box : CryptoBox) (env : Env) (nC : NewConnection) :
    CryptoConnection :=
  { conn with
    publicKey := nC.publicKey
    recvNonce := nC.recvNonce
    peerSessionPublicKey := nC.peerSessionPublicKey
    sentNonce := env.sentNonce
    sessionPublicKey := env.sessionPublicKey
    sessionSecretKey := env.sessionSecretKey
    sharedKey := box.encryptPrecompute nC.peerSessionPublicKey env.sessionSecretKey conn.sharedKey
    status := .notConfirmed }

/-- The fields that `new_crypto_connection` sets. -/
def requestCookie (conn : CryptoConnection) (env : Env) (realPublicKey dhtPublicKey : PublicKey)
    (sharedKey : SharedKey) : CryptoConnection :=
  { conn with
    publicKey := realPublicKey
    sentNonce := env.sentNonce
    sessionPublicKey := env.sessionPublicKey
    sessionSecretKey := env.sessionSecretKey
    status := .cookieRequesting
    packetsLeft := cryptoMinQueueLength
    rttTime := defaultPingConnection
    dhtPublicKey
    cookieRequestNumber := env.number
    sharedKey }

end CryptoConnection

namespace NetCrypto

def getCryptoConnection (c : NetCrypto) (id : Nat) : Option CryptoConnection :=
  match c.cryptoConnections[id]? with
  | none => none
  | some conn => if conn.isValid then some conn else none

def setConnection (c : NetCrypto) (id : Nat) (conn : CryptoConnection) : NetCrypto :=
  { c with cryptoConnections := c.cryptoConnections.set id conn }

/-- Record packets that were made. -/
def addSent (c : NetCrypto) (packets : List Packet) : NetCrypto :=
  { c with trace := { c.trace with sent := c.trace.sent ++ packets } }

/-! ## Cookies -/

def dhtGetSharedKeySent (c : NetCrypto) (box : CryptoBox) (publicKey : PublicKey) :
    Option SharedKey :=
  box.beforenm publicKey c.dhtSelfSecretKey

/-- `create_cookie_request`: the packet and the shared key. The model fails where this key is null. -/
def createCookieRequest (c : NetCrypto) (box : CryptoBox) (env : Env) (dhtPublicKey : PublicKey)
    (number : UInt64) : Option (CookieRequest × SharedKey) :=
  match c.dhtGetSharedKeySent box dhtPublicKey with
  | none => none
  | some sharedKey =>
    let plain := { publicKey := c.selfPublicKey, padding := Vector.replicate _ 0, number }
    some ({ dhtPublicKey := c.dhtSelfPublicKey
            encrypted := encryptDataSymmetric sharedKey env.packetNonce plain }, sharedKey)

def createCookie (c : NetCrypto) (env : Env) (publicKey dhtPublicKey : PublicKey) : Cookie :=
  encryptDataSymmetric c.secretSymmetricKey env.cookieNonce { time := env.now, publicKey, dhtPublicKey }

def openCookie (c : NetCrypto) (now : UInt64) (cookie : Cookie) : Option CookieContents :=
  match decryptDataSymmetric c.secretSymmetricKey cookie.nonce cookie with
  | none => none
  | some contents =>
    if contents.time + cookieTimeout < now ∨ now < contents.time then none else some contents

/-- `handle_cookie_request`: the request, the shared key and the DHT key of the sender. -/
def handleCookieRequest (c : NetCrypto) (box : CryptoBox) (packet : CookieRequest) :
    Option (CookieRequestPlain × SharedKey × PublicKey) :=
  match c.dhtGetSharedKeySent box packet.dhtPublicKey with
  | none => none
  | some sharedKey =>
    match decryptDataSymmetric sharedKey packet.encrypted.nonce packet.encrypted with
    | none => none
    | some plain => some (plain, sharedKey, packet.dhtPublicKey)

def createCookieResponse (c : NetCrypto) (env : Env) (requestPlain : CookieRequestPlain)
    (sharedKey : SharedKey) (dhtPublicKey : PublicKey) : NetCrypto :=
  let cookie := c.createCookie env requestPlain.publicKey dhtPublicKey
  let response := ⟨encryptDataSymmetric sharedKey env.packetNonce { cookie, number := requestPlain.number }⟩
  { c with trace := { c.trace with
      cookies := c.trace.cookies ++ [cookie]
      sent := c.trace.sent ++ [.cookieResponse response] } }

def udpHandleCookieRequest (c : NetCrypto) (box : CryptoBox) (env : Env) (packet : CookieRequest) :
    NetCrypto :=
  match c.handleCookieRequest box packet with
  | none => c
  | some (requestPlain, sharedKey, dhtPublicKey) =>
    c.createCookieResponse env requestPlain sharedKey dhtPublicKey

def tcpOobHandleCookieRequest (c : NetCrypto) (box : CryptoBox) (env : Env)
    (dhtPublicKey : PublicKey) (packet : CookieRequest) : NetCrypto :=
  match c.handleCookieRequest box packet with
  | none => c
  | some (requestPlain, sharedKey, dhtPublicKeyTemp) =>
    if dhtPublicKey ≠ dhtPublicKeyTemp then c
    else c.createCookieResponse env requestPlain sharedKey dhtPublicKey

def handleCookieResponse (packet : CookieResponse) (sharedKey : SharedKey) :
    Option (Cookie × UInt64) :=
  (decryptDataSymmetric sharedKey packet.encrypted.nonce packet.encrypted).map
    fun plain => (plain.cookie, plain.number)

/-! ## Handshakes -/

def createCryptoHandshake (c : NetCrypto) (box : CryptoBox) (env : Env) (cookie : Cookie)
    (nonce : Nonce) (sessionPk peerRealPk peerDhtPubkey : PublicKey) : Handshake × Cookie :=
  let ownCookie := c.createCookie env peerRealPk peerDhtPubkey
  let plain : HandshakePlain :=
    { nonce, sessionPk, cookieHash := cryptoSha512 cookie, cookie := ownCookie }
  ({ cookie, encrypted := box.encryptData peerRealPk c.selfSecretKey env.packetNonce plain }, ownCookie)

def handleCryptoHandshake (c : NetCrypto) (box : CryptoBox) (now : UInt64) (source : IPPort)
    (packet : Handshake) (expectedRealPk : Option PublicKey) : Option NewConnection :=
  match c.openCookie now packet.cookie with
  | none => none
  | some cookiePlain =>
    if expectedRealPk.any (· ≠ cookiePlain.publicKey) then none
    else
      match box.decryptData cookiePlain.publicKey c.selfSecretKey packet.encrypted.nonce
          packet.encrypted with
      | none => none
      | some plain =>
        if cryptoSha512 packet.cookie ≠ plain.cookieHash then none
        else
          some
            { source
              publicKey := cookiePlain.publicKey
              dhtPublicKey := cookiePlain.dhtPublicKey
              recvNonce := plain.nonce
              peerSessionPublicKey := plain.sessionPk
              cookie := plain.cookie }

def addAccepted (c : NetCrypto) (time : UInt64) (packet : Handshake) (connection : NewConnection) :
    NetCrypto :=
  { c with trace := { c.trace with
      accepted := c.trace.accepted ++ [{ time, packet, connection }] } }

/-! ## Temporary packets -/

def newTempPacket (c : NetCrypto) (env : Env) (id : Nat) (packet : Packet) : Bool × NetCrypto :=
  match c.getCryptoConnection id with
  | none => (false, c)
  | some conn =>
    if !env.malloc then (false, c)
    else
      (true, c.setConnection id { conn with tempPacket := some packet, tempPacketNumSent := 0 })

def sendTempPacket (c : NetCrypto) (env : Env) (id : Nat) : Bool × NetCrypto :=
  match c.getCryptoConnection id with
  | none => (false, c)
  | some conn =>
    if conn.tempPacket.isNone then (false, c)
    else if !env.sendOk 0 then (false, c)
    else (true, c.setConnection id { conn with tempPacketNumSent := conn.tempPacketNumSent + 1 })

def createSendHandshake (c : NetCrypto) (box : CryptoBox) (env : Env) (id : Nat) (cookie : Cookie)
    (dhtPublicKey : PublicKey) : Bool × NetCrypto :=
  match c.getCryptoConnection id with
  | none => (false, c)
  | some conn =>
    let (packet, ownCookie) := c.createCryptoHandshake box env cookie conn.sentNonce
      conn.sessionPublicKey conn.publicKey dhtPublicKey
    match c.newTempPacket env id (.cryptoHs packet) with
    | (false, c) => (false, c)
    | (true, c) =>
      let c := (c.sendTempPacket env id).2
      (true, { c with trace := { c.trace with
        cookies := c.trace.cookies ++ [ownCookie]
        handshakes := c.trace.handshakes ++ [{ peerRealPk := conn.publicKey, packet }]
        sent := c.trace.sent ++ [.cryptoHs packet] } })

/-! ## The connection table -/

def createCryptoConnection (c : NetCrypto) (env : Env) : Option (Nat × NetCrypto) :=
  match c.cryptoConnections.findIdx? (·.status == .free) with
  | some id =>
    match c.cryptoConnections[id]? with
    | none => none
    | some conn => some (id, c.setConnection id { conn with status := .noConnection })
  | none =>
    if !env.realloc then none
    else
      some (c.cryptoConnections.length, { c with cryptoConnections :=
        c.cryptoConnections ++ [{ emptyCryptoConnection with status := .noConnection }] })

/-- `wipe_crypto_connection`; free slots at the end of the array are given back. -/
def wipeCryptoConnection (c : NetCrypto) (id : Nat) : NetCrypto :=
  match c.cryptoConnections[id]? with
  | none => c
  | some conn =>
    if conn.status = .free then c
    else { c with cryptoConnections :=
      (c.cryptoConnections.set id emptyCryptoConnection).rdropWhile (·.status == .free) }

def getcryptconnectionId (c : NetCrypto) (publicKey : PublicKey) : Option Nat :=
  c.cryptoConnections.findIdx? fun conn => conn.isValid && publicKey == conn.publicKey

def cryptoIdIpPort (c : NetCrypto) (ipPort : IPPort) : Option Nat :=
  c.ipPortList.bsListFind ipPort.bytes

def addIpPortConnection (c : NetCrypto) (id : Nat) (ipPort : IPPort) : Bool × NetCrypto :=
  match c.getCryptoConnection id with
  | none => (false, c)
  | some conn =>
    if ipPort.isIpv4 then
      if !ipportEqual ipPort conn.ipPortv4 && !ipIsLan conn.ipPortv4 then
        match c.ipPortList.bsListAdd ipPort.bytes id with
        | (false, _) => (false, c)
        | (true, list) =>
          let ipPortList := (list.bsListRemove conn.ipPortv4.bytes id).2
          (true, { c.setConnection id { conn with ipPortv4 := ipPort } with ipPortList })
      else (false, c)
    else if ipPort.isIpv6 then
      if !ipportEqual ipPort conn.ipPortv6 then
        match c.ipPortList.bsListAdd ipPort.bytes id with
        | (false, _) => (false, c)
        | (true, list) =>
          let ipPortList := (list.bsListRemove conn.ipPortv6.bytes id).2
          (true, { c.setConnection id { conn with ipPortv6 := ipPort } with ipPortList })
      else (false, c)
    else (false, c)

def setDirectLastrecvTime (c : NetCrypto) (id : Nat) (ipPort : IPPort) (time : UInt64) :
    NetCrypto :=
  match c.cryptoConnections[id]? with
  | none => c
  | some conn =>
    if ipPort.isIpv4 then c.setConnection id { conn with directLastrecvTimev4 := time }
    else c.setConnection id { conn with directLastrecvTimev6 := time }

/-- `crypto_connection_add_source`; a source behind a TCP relay is the business of
    `TCP_connection.c`. -/
def cryptoConnectionAddSource (c : NetCrypto) (env : Env) (id : Nat) (source : IPPort) :
    NetCrypto :=
  match c.getCryptoConnection id with
  | none => c
  | some _ =>
    if source.isIpv4 || source.isIpv6 then
      match c.addIpPortConnection id source with
      | (false, c) => c
      | (true, c) => c.setDirectLastrecvTime id source env.now
    else c

def setDirectIpPort (c : NetCrypto) (env : Env) (id : Nat) (ipPort : IPPort) (connected : Bool) :
    NetCrypto :=
  match c.getCryptoConnection id with
  | none => c
  | some _ =>
    match c.addIpPortConnection id ipPort with
    | (false, c) => c
    | (true, c) => c.setDirectLastrecvTime id ipPort (if connected then env.now else 0)

/-- `crypto_kill`, also reached through `connection_kill`. -/
def cryptoKill (c : NetCrypto) (env : Env) (id : Nat) : NetCrypto :=
  match c.getCryptoConnection id with
  | none => c
  | some conn =>
    let killPacket := if conn.status = .established then
        (Peer.sendDataPacketHelper ⟨conn, [], [], []⟩ conn.recvArray.bufferStart
          conn.sendArray.bufferEnd [packetIdKill] (env.sendOk 0)).2.wire
      else []
    let list := (c.ipPortList.bsListRemove conn.ipPortv4.bytes id).2
    let ipPortList := (list.bsListRemove conn.ipPortv6.bytes id).2
    ({ c with ipPortList }.addSent (killPacket.map .cryptoData)).wipeCryptoConnection id

/-- The loop of `kill_timedout` over `count` ids from `id` on; the array may shrink meanwhile. -/
def killTimedoutLoop (env : Env) : (count : Nat) → (id : Nat) → NetCrypto → NetCrypto
  | 0, _, c => c
  | count + 1, id, c =>
    match c.getCryptoConnection id with
    | none => killTimedoutLoop env count (id + 1) c
    | some conn =>
      if (conn.status = .cookieRequesting ∨ conn.status = .handshakeSent ∨
          conn.status = .notConfirmed) ∧ ¬conn.tempPacketNumSent < maxNumSendpacketTries then
        killTimedoutLoop env count (id + 1) (c.cryptoKill env id)
      else killTimedoutLoop env count (id + 1) c

def killTimedout (c : NetCrypto) (env : Env) : NetCrypto :=
  killTimedoutLoop env c.cryptoConnections.length 0 c

/-! ## New connections -/

def acceptCryptoConnection (c : NetCrypto) (box : CryptoBox) (env : Env) (nC : NewConnection) :
    Option Nat × NetCrypto :=
  if (c.getcryptconnectionId nC.publicKey).isSome then (none, c)
  else
    match c.createCryptoConnection env with
    | none => (none, c)
    | some (id, c) =>
      if !env.tcp then (none, c.wipeCryptoConnection id)
      else
        match c.cryptoConnections[id]? with
        | none => (none, c)
        | some conn =>
          match (c.setConnection id (conn.openSession box env nC)).createSendHandshake box env id
              nC.cookie nC.dhtPublicKey with
          | (false, c) => (none, c.wipeCryptoConnection id)
          | (true, c) =>
            match c.cryptoConnections[id]? with
            | none => (none, c)
            | some conn =>
              let c := c.setConnection id { conn with
                dhtPublicKey := nC.dhtPublicKey
                packetsLeft := cryptoMinQueueLength
                rttTime := defaultPingConnection }
              (some id, c.cryptoConnectionAddSource env id nC.source)

def newCryptoConnection (c : NetCrypto) (box : CryptoBox) (env : Env)
    (realPublicKey dhtPublicKey : PublicKey) : Option Nat × NetCrypto :=
  match c.getcryptconnectionId realPublicKey with
  | some id => (some id, c)
  | none =>
    match c.createCryptoConnection env with
    | none => (none, c)
    | some (id, c) =>
      if !env.tcp then (none, c.wipeCryptoConnection id)
      else
        match c.cryptoConnections[id]? with
        | none => (none, c)
        | some conn =>
          match c.createCookieRequest box env dhtPublicKey env.number with
          | none => (none, c.wipeCryptoConnection id)
          | some (cookieRequest, sharedKey) =>
            let conn := conn.requestCookie env realPublicKey dhtPublicKey sharedKey
            match (c.setConnection id conn).newTempPacket env id (.cookieRequest cookieRequest) with
            | (false, c) => (none, c.wipeCryptoConnection id)
            | (true, c) => (some id, c.addSent [.cookieRequest cookieRequest])

def handleNewConnectionHandshake (c : NetCrypto) (box : CryptoBox) (env : Env) (source : IPPort)
    (packet : Handshake) : Bool × NetCrypto :=
  match c.handleCryptoHandshake box env.now source packet none with
  | none => (false, c)
  | some nC =>
    let c := c.addAccepted env.now packet nC
    -- `new_connection_callback`
    let callback (c : NetCrypto) : Bool × NetCrypto :=
      if env.accept then
        let (id, c) := c.acceptCryptoConnection box env nC
        (id.isSome, c)
      else (false, c)
    match c.getcryptconnectionId nC.publicKey with
    | none => callback c
    | some id =>
      match c.getCryptoConnection id with
      | none => (false, c)
      | some conn =>
        if nC.dhtPublicKey ≠ conn.dhtPublicKey then callback (c.cryptoKill env id)
        else if conn.status ≠ .cookieRequesting ∧ conn.status ≠ .handshakeSent then (false, c)
        else
          let c := c.setConnection id (conn.rekey box nC)
          let c := c.cryptoConnectionAddSource env id source
          match c.createSendHandshake box env id nC.cookie nC.dhtPublicKey with
          | (false, c) => (false, c)
          | (true, c) =>
            match c.cryptoConnections[id]? with
            | none => (false, c)
            | some conn => (true, c.setConnection id { conn with status := .notConfirmed })

/-! ## Packets for a connection -/

def handlePacketCookieResponse (c : NetCrypto) (box : CryptoBox) (env : Env) (id : Nat)
    (packet : CookieResponse) : Bool × NetCrypto :=
  match c.getCryptoConnection id with
  | none => (false, c)
  | some conn =>
    if conn.status ≠ .cookieRequesting then (false, c)
    else
      match handleCookieResponse packet conn.sharedKey with
      | none => (false, c)
      | some (cookie, number) =>
        if number ≠ conn.cookieRequestNumber then (false, c)
        else
          match c.createSendHandshake box env id cookie conn.dhtPublicKey with
          | (false, c) => (false, c)
          | (true, c) =>
            match c.cryptoConnections[id]? with
            | none => (false, c)
            | some conn => (true, c.setConnection id { conn with status := .handshakeSent })

/-- `handle_packet_crypto_hs`. The nonce and the session key are written before the DHT key is checked. -/
def handlePacketCryptoHs (c : NetCrypto) (box : CryptoBox) (env : Env) (id : Nat)
    (packet : Handshake) : Bool × NetCrypto :=
  match c.getCryptoConnection id with
  | none => (false, c)
  | some conn =>
    if conn.status ≠ .cookieRequesting ∧ conn.status ≠ .handshakeSent ∧
        conn.status ≠ .notConfirmed then (false, c)
    else
      match c.handleCryptoHandshake box env.now emptyIpPort packet (some conn.publicKey) with
      | none => (false, c)
      | some nC =>
        let c := c.addAccepted env.now packet nC
        if nC.dhtPublicKey = conn.dhtPublicKey then
          let c := c.setConnection id (conn.rekey box nC)
          if conn.status = .cookieRequesting then
            match c.createSendHandshake box env id nC.cookie nC.dhtPublicKey with
            | (false, c) => (false, c)
            | (true, c) =>
              match c.cryptoConnections[id]? with
              | none => (false, c)
              | some conn => (true, c.setConnection id { conn with status := .notConfirmed })
          else (true, c.setConnection id { conn.rekey box nC with status := .notConfirmed })
        else
          -- `dht_pk_callback`
          (true, c.setConnection id (conn.decodeHandshake nC))

def handlePacketCryptoData (c : NetCrypto) (env : Env) (id : Nat) (packet : DataPacket)
    (udp : Bool) : Bool × NetCrypto :=
  match c.getCryptoConnection id with
  | none => (false, c)
  | some conn =>
    if conn.status ≠ .notConfirmed ∧ conn.status ≠ .established then (false, c)
    else
      let (result, p) := Peer.handleDataPacketCore ⟨conn, [], [], []⟩ packet udp env.nowMs
        env.calloc (Peer.reactingCallback env.react)
      let c := (c.setConnection id p.conn).addSent (p.wire.map .cryptoData)
      let c := { c with trace := { c.trace with received := c.trace.received ++ [packet] } }
      match result with
      | .ok => (true, c)
      | .fail => (false, c)
      | .kill => (true, c.cryptoKill env id)

def handlePacketConnection (c : NetCrypto) (box : CryptoBox) (env : Env) (id : Nat)
    (packet : Packet) (udp : Bool) : Bool × NetCrypto :=
  match packet with
  | .cookieResponse packet => c.handlePacketCookieResponse box env id packet
  | .cryptoHs packet => c.handlePacketCryptoHs box env id packet
  | .cryptoData packet => c.handlePacketCryptoData env id packet udp
  | _ => (false, c)

/-! ## Entry points -/

/-- The length test of `udp_handle_packet`; handshakes and cookie responses pass it. -/
def udpLengthOk : Packet → Bool
  | .cryptoData packet =>
    cryptoMinPacketSize < packet.length && packet.length ≤ maxCryptoPacketSize
  | _ => true

def udpHandlePacket (c : NetCrypto) (box : CryptoBox) (env : Env) (source : IPPort)
    (packet : Packet) : NetCrypto :=
  if !udpLengthOk packet then c
  else
    match c.cryptoIdIpPort source with
    | none =>
      match packet with
      | .cryptoHs packet => (c.handleNewConnectionHandshake box env source packet).2
      | _ => c
    | some id =>
      match c.handlePacketConnection box env id packet true with
      | (false, c) => c
      | (true, c) =>
        match c.getCryptoConnection id with
        | none => c
        | some _ => c.setDirectLastrecvTime id source env.now

def tcpDataCallback (c : NetCrypto) (box : CryptoBox) (env : Env) (id : Nat) (packet : Packet) :
    NetCrypto :=
  match c.getCryptoConnection id with
  | none => c
  | some _ =>
    match packet with
    | .cookieRequest packet => c.udpHandleCookieRequest box env packet
    | packet => (c.handlePacketConnection box env id packet false).2

/-- `tcp_oob_callback` for a packet from `publicKey` through the relay `source`. -/
def tcpOobCallback (c : NetCrypto) (box : CryptoBox) (env : Env) (publicKey : PublicKey)
    (source : IPPort) (packet : Packet) : NetCrypto :=
  match packet with
  | .cookieRequest packet => c.tcpOobHandleCookieRequest box env publicKey packet
  | .cryptoHs packet => (c.handleNewConnectionHandshake box env source packet).2
  | _ => c

def connectionApi (c : NetCrypto) (id : Nat) (call : Peer.ApiCall) : NetCrypto :=
  match c.getCryptoConnection id with
  | none => c
  | some conn =>
    let p := Peer.api ⟨conn, [], [], []⟩ call
    (c.setConnection id p.conn).addSent (p.wire.map .cryptoData)

end NetCrypto

end Toxcore
