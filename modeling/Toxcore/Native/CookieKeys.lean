import Toxcore.Native.NetCrypto
import Toxcore.Native.Onion

/-!
# The shared keys of cookie requests

`handle_cookie_request`, `create_cookie_request` and its caller `new_crypto_connection`, with the
cache of the `DHT` from which they take their shared keys and with what happens when there is no key:
the source copies it without looking whether the pointer to it is null.  A received packet is a byte
string here, since its sender chooses it.  A packet that is made is that of `NetCrypto`.
-/

namespace Toxcore

def cookieRequestPlainLength : Nat := 2 * cryptoPublicKeySize + 8

def cookieRequestLength : Nat :=
  1 + cryptoPublicKeySize + cryptoNonceSize + cookieRequestPlainLength + cryptoMacSize

/-- The end of a call. -/
inductive CallEnd (α : Type) where
  | returned (result : α)
  | nullDereferenced
deriving DecidableEq

/-- `Net_Crypto` with `dht->shared_keys_sent`. -/
structure KeyedNetCrypto where
  netCrypto : NetCrypto
  sharedKeysSent : SharedKeyCache

namespace KeyedNetCrypto

variable (cipher : ByteCipher OnionNonce) (box : CryptoBox)

def dhtGetSharedKeySent (c : KeyedNetCrypto) (now : UInt64) (publicKey : PublicKey) :
    Option SharedKey × KeyedNetCrypto :=
  let (sharedKey, sharedKeysSent) := c.sharedKeysSent.lookup box now publicKey
  (sharedKey, { c with sharedKeysSent })

/-- The DHT key of the sender in a cookie request. -/
def requestDhtPublicKey (packet : Bytes) : PublicKey := bytesToVector _ (packet.drop 1)

def handleCookieRequest (c : KeyedNetCrypto) (now : UInt64) (packet : Bytes) :
    CallEnd (Option (Bytes × SharedKey × PublicKey)) × KeyedNetCrypto :=
  if packet.length ≠ cookieRequestLength then (.returned none, c)
  else
    let dhtPublicKey := requestDhtPublicKey packet
    match c.dhtGetSharedKeySent box now dhtPublicKey with
    | (none, c) => (.nullDereferenced, c)
    | (some sharedKey, c) =>
      let nonce := bytesToVector _ (packet.drop (1 + cryptoPublicKeySize))
      match cipher.decryptDataSymmetric sharedKey nonce
          (packet.drop (1 + cryptoPublicKeySize + cryptoNonceSize)) with
      | none => (.returned none, c)
      | some requestPlain => (.returned (some (requestPlain, sharedKey, dhtPublicKey)), c)

def createCookieRequest (c : KeyedNetCrypto) (env : Env) (dhtPublicKey : PublicKey)
    (number : UInt64) : CallEnd (CookieRequest × SharedKey) × KeyedNetCrypto :=
  let plain : CookieRequestPlain :=
    { publicKey := c.netCrypto.selfPublicKey, padding := Vector.replicate _ 0, number }
  match c.dhtGetSharedKeySent box env.now dhtPublicKey with
  | (none, c) => (.nullDereferenced, c)
  | (some sharedKey, c) =>
    (.returned
      ({ dhtPublicKey := c.netCrypto.dhtSelfPublicKey
         encrypted := encryptDataSymmetric sharedKey env.packetNonce plain }, sharedKey), c)

def newCryptoConnection (c : KeyedNetCrypto) (env : Env) (realPublicKey dhtPublicKey : PublicKey) :
    CallEnd (Option Nat) × KeyedNetCrypto :=
  match c.netCrypto.getcryptconnectionId realPublicKey with
  | some id => (.returned (some id), c)
  | none =>
    match c.netCrypto.createCryptoConnection env with
    | none => (.returned none, c)
    | some (id, netCrypto) =>
      let c := { c with netCrypto }
      if !env.tcp then (.returned none, { c with netCrypto := c.netCrypto.wipeCryptoConnection id })
      else
        match c.netCrypto.cryptoConnections[id]? with
        | none => (.returned none, c)
        | some conn =>
          match c.createCookieRequest box env dhtPublicKey env.number with
          | (.nullDereferenced, c) => (.nullDereferenced, c)
          | (.returned (cookieRequest, sharedKey), c) =>
            let conn := conn.requestCookie env realPublicKey dhtPublicKey sharedKey
            match (c.netCrypto.setConnection id conn).newTempPacket env id
                (.cookieRequest cookieRequest) with
            | (false, netCrypto) =>
              (.returned none, { c with netCrypto := netCrypto.wipeCryptoConnection id })
            | (true, netCrypto) =>
              (.returned (some id), { c with netCrypto := netCrypto.addSent [.cookieRequest cookieRequest] })

end KeyedNetCrypto

end Toxcore
