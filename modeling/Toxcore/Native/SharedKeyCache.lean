import Toxcore.Native.CryptoCore

/-!
# The cache of shared keys

`shared_key_cache.c`: the results of `encrypt_precompute` with one secret key, in 256 buckets that
are chosen by a byte of the public key.  `shared_key_cache_new` never stores its argument `timeout`,
so the field keeps the zero of `calloc`.
-/

namespace Toxcore

/-- `Shared_Key` -/
structure SharedKeySlot where
  publicKey : PublicKey
  sharedKey : SharedKey
  timeLastRequested : UInt64
deriving DecidableEq

namespace SharedKeySlot

def isEmpty (k : SharedKeySlot) : Bool := k.timeLastRequested == 0

def empty : SharedKeySlot where
  publicKey := Vector.replicate _ 0
  sharedKey := Vector.replicate _ 0
  timeLastRequested := 0

end SharedKeySlot

/-- `Shared_Key_Cache`; every bucket has `keys_per_slot` entries. -/
structure SharedKeyCache where
  keys : UInt8 → List SharedKeySlot
  selfSecretKey : SecretKey
  timeout : UInt64

def sharedKeyCacheNew (now : UInt64) (selfSecretKey : SecretKey) (timeout : UInt64)
    (keysPerSlot : UInt8) : Option SharedKeyCache :=
  if timeout = 0 ∨ keysPerSlot = 0 then none
  else if now = 0 then none
  else
    some
      { keys := fun _ => List.replicate keysPerSlot.toNat SharedKeySlot.empty
        selfSecretKey
        timeout := 0 }

namespace SharedKeyCache

/-- The first loop of `shared_key_cache_lookup`: the entry for the key. -/
def findSlot (bucket : List SharedKeySlot) (publicKey : PublicKey) : Option Nat :=
  bucket.findIdx? fun k => !k.isEmpty && publicKey == k.publicKey

/-- The second loop: keys that have timed out are erased. -/
def housekeep (timeout curTime : UInt64) (bucket : List SharedKeySlot) : List SharedKeySlot :=
  bucket.map fun k =>
    if k.isEmpty then k
    else if k.timeLastRequested + timeout < curTime then SharedKeySlot.empty
    else k

/-- The third loop, from entry `i` on: the least recently used entry. -/
def oldestLoop : List SharedKeySlot → (i : Nat) → (timestamp : UInt64) → (index : Nat) → Nat
  | [], _, _, index => index
  | k :: bucket, i, timestamp, index =>
    if k.timeLastRequested < timestamp then oldestLoop bucket (i + 1) k.timeLastRequested i
    else oldestLoop bucket (i + 1) timestamp index

/-- The index of the least recently used entry. -/
def oldestIndex (bucket : List SharedKeySlot) : Nat := oldestLoop bucket 0 0xFFFFFFFFFFFFFFFF 0

def lookup (box : CryptoBox) (cache : SharedKeyCache) (curTime : UInt64) (publicKey : PublicKey) :
    Option SharedKey × SharedKeyCache :=
  let bucketIdx := publicKey[8]
  let withBucket (bucket : List SharedKeySlot) : SharedKeyCache :=
    { cache with keys := Function.update cache.keys bucketIdx bucket }
  let bucket := cache.keys bucketIdx
  match findSlot bucket publicKey with
  | some i =>
    let bucket := bucket.modify i fun k => { k with timeLastRequested := curTime }
    let bucket := housekeep cache.timeout curTime bucket
    -- the result points into the bucket
    (bucket[i]?.map (·.sharedKey), withBucket bucket)
  | none =>
    let bucket := housekeep cache.timeout curTime bucket
    match box.beforenm publicKey cache.selfSecretKey with
    | none => (none, withBucket bucket)
    | some sharedKey =>
      (some sharedKey, withBucket (bucket.set (oldestIndex bucket)
        { publicKey, sharedKey, timeLastRequested := curTime }))

end SharedKeyCache

end Toxcore
