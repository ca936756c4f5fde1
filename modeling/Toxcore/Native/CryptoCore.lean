import Mathlib.Data.BitVec
import Mathlib.Data.Vector.Defs

/-!
# Keys, nonces and ideal encryption

The data of `crypto_core.h` that the modelled parts of toxcore pass around: byte
strings, 32-byte keys, 24-byte nonces read as big-endian numbers, and the result
of `encrypt_data_symmetric`.

A ciphertext is modelled ideally.  `Sealed` remembers the key, the nonce and the
plaintext it was made from, and `decryptDataSymmetric` returns the plaintext for
exactly that key and nonce.  Its size on the wire is the size of the plaintext
plus `cryptoMacSize`.
-/

namespace Toxcore

/-- A byte string (`uint8_t *` together with its length). -/
abbrev Bytes := List UInt8

def cryptoPublicKeySize : Nat := 32

def cryptoNonceSize : Nat := 24

def cryptoMacSize : Nat := 16

abbrev PublicKey := Vector UInt8 cryptoPublicKeySize

abbrev SecretKey := Vector UInt8 cryptoPublicKeySize

abbrev SharedKey := Vector UInt8 cryptoPublicKeySize

/-- A nonce: 24 bytes as a big-endian number, to which numbers are added modulo `2 ^ 192`. -/
abbrev Nonce := BitVec 192

def incrementNonce (nonce : Nonce) : Nonce := nonce + 1

def incrementNonceNumber (nonce : Nonce) (increment : UInt32) : Nonce :=
  nonce + BitVec.ofNat 192 increment.toNat

/-- The result of `encrypt_data_symmetric`: opaque to everyone who does not hold
    `key`, and bound to `nonce`. -/
structure Sealed (α : Type) where
  key : SharedKey
  nonce : Nonce
  plain : α
deriving DecidableEq

def encryptDataSymmetric {α : Type} (key : SharedKey) (nonce : Nonce) (plain : α) : Sealed α :=
  { key, nonce, plain }

def decryptDataSymmetric {α : Type} (key : SharedKey) (nonce : Nonce) (encrypted : Sealed α) :
    Option α :=
  if encrypted.key = key ∧ encrypted.nonce = nonce then some encrypted.plain else none

@[simp] theorem decryptDataSymmetric_encryptDataSymmetric {α : Type} (key : SharedKey)
    (nonce : Nonce) (plain : α) :
    decryptDataSymmetric key nonce (encryptDataSymmetric key nonce plain) = some plain := by
  simp [decryptDataSymmetric, encryptDataSymmetric]

theorem decryptDataSymmetric_eq_some {α : Type} {key : SharedKey} {nonce : Nonce} {encrypted : Sealed α}
    {plain : α} (h : decryptDataSymmetric key nonce encrypted = some plain) :
    encrypted = encryptDataSymmetric key nonce plain := by
  unfold decryptDataSymmetric at h
  split at h
  · rename_i hkn
    cases encrypted
    simp_all [encryptDataSymmetric]
  · cases h

/-! ## Public key encryption -/

/-- The crypto library behind `encrypt_precompute`: `crypto_box_beforenm`, which may fail and then writes nothing,
    and the key buffer of `encrypt_data` and `decrypt_data` before it is written. -/
structure CryptoBox where
  beforenm : PublicKey → SecretKey → Option SharedKey
  uninitialized : SharedKey

/-- `encrypt_precompute` into a buffer that holds `sharedKey`; no caller checks whether it
    failed. -/
def CryptoBox.encryptPrecompute (box : CryptoBox) (publicKey : PublicKey) (secretKey : SecretKey)
    (sharedKey : SharedKey) : SharedKey :=
  (box.beforenm publicKey secretKey).getD sharedKey

def CryptoBox.encryptData {α : Type} (box : CryptoBox) (publicKey : PublicKey)
    (secretKey : SecretKey) (nonce : Nonce) (plain : α) : Sealed α :=
  encryptDataSymmetric (box.encryptPrecompute publicKey secretKey box.uninitialized) nonce plain

def CryptoBox.decryptData {α : Type} (box : CryptoBox) (publicKey : PublicKey)
    (secretKey : SecretKey) (nonce : Nonce) (encrypted : Sealed α) : Option α :=
  decryptDataSymmetric (box.encryptPrecompute publicKey secretKey box.uninitialized) nonce encrypted

/-- A key exchange in which a public key is its own secret key. -/
def xorBox : CryptoBox where
  beforenm publicKey secretKey := some (Vector.zipWith (· ^^^ ·) publicKey secretKey)
  uninitialized := Vector.replicate _ 0

/-- A key made of one byte. -/
def key (b : UInt8) : PublicKey := Vector.replicate _ b

/-! ## Big-endian 32-bit words -/

/-- `net_htonl` followed by `memcpy`: the four bytes of `n`, most significant first. -/
def packU32 (n : UInt32) : Bytes :=
  [UInt8.ofNat (n.toNat / 2 ^ 24), UInt8.ofNat (n.toNat / 2 ^ 16),
   UInt8.ofNat (n.toNat / 2 ^ 8), UInt8.ofNat n.toNat]

/-- `memcpy` followed by `net_ntohl` on the first four bytes; `none` if there are fewer. -/
def unpackU32 : Bytes → Option (UInt32 × Bytes)
  | b₀ :: b₁ :: b₂ :: b₃ :: rest =>
    some (UInt32.ofNat (b₀.toNat * 2 ^ 24 + b₁.toNat * 2 ^ 16 + b₂.toNat * 2 ^ 8 + b₃.toNat), rest)
  | _ => none

@[simp] theorem length_packU32 (n : UInt32) : (packU32 n).length = 4 := rfl

@[simp] theorem unpackU32_packU32_append (n : UInt32) (rest : Bytes) :
    unpackU32 (packU32 n ++ rest) = some (n, rest) := by
  have hn : n.toNat < 2 ^ 32 := n.toNat_lt
  simp only [packU32, List.cons_append, List.nil_append, unpackU32, Option.some.injEq, Prod.mk.injEq, and_true]
  apply UInt32.toNat_inj.mp
  simp only [UInt32.toNat_ofNat', UInt8.toNat_ofNat']
  omega

end Toxcore
