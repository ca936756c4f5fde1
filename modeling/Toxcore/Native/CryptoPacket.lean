import Toxcore.Native.CryptoCore

/-!
# Packets of `net_crypto.c`

The four packet kinds that `net_crypto.c` exchanges, with their encrypted parts.  All
parts of cookie and handshake packets have fixed sizes, so such a packet is a record of
its fields; the nonce that a packet carries in the clear is the nonce of its `Sealed`
part.  A packet of any other length or kind is `Packet.other`.

SHA-512 is collision-free: the digest of a cookie is modelled by the cookie itself.
-/

namespace Toxcore

/-- What `create_cookie` encrypts: the time, and the real and the DHT public key of a peer. -/
structure CookieContents where
  time : UInt64
  publicKey : PublicKey
  dhtPublicKey : PublicKey
deriving DecidableEq

/-- A cookie of `COOKIE_LENGTH` bytes. -/
abbrev Cookie := Sealed CookieContents

/-- `crypto_sha512` of a cookie. -/
structure Sha512 where
  preimage : Cookie
deriving DecidableEq

def cryptoSha512 (cookie : Cookie) : Sha512 := ⟨cookie⟩

/-- The `COOKIE_REQUEST_PLAIN_LENGTH` bytes of a cookie request. -/
structure CookieRequestPlain where
  publicKey : PublicKey
  padding : PublicKey
  number : UInt64
deriving DecidableEq

/-- A packet `NET_PACKET_COOKIE_REQUEST` of `COOKIE_REQUEST_LENGTH` bytes. -/
structure CookieRequest where
  dhtPublicKey : PublicKey
  encrypted : Sealed CookieRequestPlain
deriving DecidableEq

/-- The encrypted part of a cookie response. -/
structure CookieResponsePlain where
  cookie : Cookie
  number : UInt64
deriving DecidableEq

/-- A packet `NET_PACKET_COOKIE_RESPONSE` of `COOKIE_RESPONSE_LENGTH` bytes. -/
structure CookieResponse where
  encrypted : Sealed CookieResponsePlain
deriving DecidableEq

/-- The encrypted part of a handshake packet. -/
structure HandshakePlain where
  nonce : Nonce
  sessionPk : PublicKey
  cookieHash : Sha512
  cookie : Cookie
deriving DecidableEq

/-- A packet `NET_PACKET_CRYPTO_HS` of `HANDSHAKE_PACKET_LENGTH` bytes. -/
structure Handshake where
  cookie : Cookie
  encrypted : Sealed HandshakePlain
deriving DecidableEq

/-- A packet `NET_PACKET_CRYPTO_DATA`: the last two bytes of the nonce and the encrypted
    payload. -/
structure DataPacket where
  nonceLow : UInt16
  encrypted : Sealed Bytes
deriving DecidableEq

/-- The number of bytes of a data packet on the wire. -/
def DataPacket.length (packet : DataPacket) : Nat :=
  1 + 2 + packet.encrypted.plain.length + cryptoMacSize

/-- A packet as `net_crypto.c` receives it. -/
inductive Packet where
  | cookieRequest (packet : CookieRequest)
  | cookieResponse (packet : CookieResponse)
  | cryptoHs (packet : Handshake)
  | cryptoData (packet : DataPacket)
  | other
deriving DecidableEq

end Toxcore
