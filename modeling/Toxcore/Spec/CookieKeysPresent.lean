import Toxcore.Native.CookieKeys
import Toxcore.Spec.KeyCoherence
import Toxcore.Spec.OnionRoute

/-!
# The shared keys of cookie requests are not always there

The lookup in the cache of shared keys fails for a key for which `encrypt_precompute` fails, and the
functions that copy its result do not look.
-/

namespace Toxcore

/-- The call comes to an end, and it returns `-1` if something it needs is missing. -/
def CallEnd.FailsWithout {α : Type} (e : CallEnd (Option α)) (missing : Prop) : Prop :=
  ∃ result, e = .returned result ∧ (missing → result = none)

section

variable {α : Type} {missing : Prop}

theorem CallEnd.FailsWithout.failed : (CallEnd.returned (none : Option α)).FailsWithout missing :=
  ⟨none, rfl, fun _ => rfl⟩

theorem CallEnd.FailsWithout.returned {result : Option α} (h : ¬missing) :
    (CallEnd.returned result).FailsWithout missing :=
  ⟨result, rfl, fun hmissing => absurd hmissing h⟩

theorem CallEnd.not_failsWithout : ¬(CallEnd.nullDereferenced : CallEnd (Option α)).FailsWithout missing :=
  fun ⟨_, h, _⟩ => nomatch h

end

namespace KeyedNetCrypto

variable {cipher : ByteCipher OnionNonce} {box : CryptoBox} {secretKey : SecretKey} {c : KeyedNetCrypto}

/-- The entries of the cache that are not empty hold the keys that `encrypt_precompute` returns. -/
def Correct (box : CryptoBox) (secretKey : SecretKey) (c : KeyedNetCrypto) : Prop :=
  c.sharedKeysSent.Correct box secretKey

theorem Correct.dhtGetSharedKeySent (h : c.Correct box secretKey) (now : UInt64) (publicKey : PublicKey) :
    (c.dhtGetSharedKeySent box now publicKey).1 = box.beforenm publicKey secretKey ∧
      (c.dhtGetSharedKeySent box now publicKey).2.Correct box secretKey :=
  SharedKeyCache.Correct.lookup h now publicKey

/-! ## Single calls -/

theorem Correct.handleCookieRequest (h : c.Correct box secretKey) (now : UInt64) (packet : Bytes) :
    ((c.handleCookieRequest cipher box now packet).1.FailsWithout
        ((c.dhtGetSharedKeySent box now (requestDhtPublicKey packet)).1 = none) ↔
      (packet.length = cookieRequestLength → (box.beforenm (requestDhtPublicKey packet) secretKey).isSome)) ∧
      (c.handleCookieRequest cipher box now packet).2.Correct box secretKey := by
  obtain ⟨hkey, hcorrect⟩ := h.dhtGetSharedKeySent now (requestDhtPublicKey packet)
  unfold KeyedNetCrypto.handleCookieRequest
  by_cases hlength : packet.length ≠ cookieRequestLength
  · rw [if_pos hlength]
    exact ⟨⟨fun _ heq => absurd heq hlength, fun _ => .failed⟩, h⟩
  · have heq := Decidable.of_not_not hlength
    rw [if_neg hlength, ← hkey]
    dsimp only
    generalize c.dhtGetSharedKeySent box now (requestDhtPublicKey packet) = found at hcorrect
    obtain ⟨sharedKey, c'⟩ := found
    cases sharedKey with
    | none =>
      -- `memcpy` from the null pointer
      exact ⟨⟨fun hfails => absurd hfails CallEnd.not_failsWithout, fun hsome => nomatch hsome heq⟩, hcorrect⟩
    | some sharedKey =>
      dsimp only
      split
      · exact ⟨⟨fun _ _ => rfl, fun _ => .failed⟩, hcorrect⟩
      · exact ⟨⟨fun _ _ => rfl, fun _ => .returned nofun⟩, hcorrect⟩

theorem Correct.createCookieRequest (h : c.Correct box secretKey) (env : Env)
    (dhtPublicKey : PublicKey) (number : UInt64) :
    ((c.createCookieRequest box env dhtPublicKey number).1 = .nullDereferenced ↔
      box.beforenm dhtPublicKey secretKey = none) ∧
      (c.createCookieRequest box env dhtPublicKey number).2.Correct box secretKey := by
  obtain ⟨hkey, hcorrect⟩ := h.dhtGetSharedKeySent env.now dhtPublicKey
  unfold KeyedNetCrypto.createCookieRequest
  rw [← hkey]
  generalize c.dhtGetSharedKeySent box env.now dhtPublicKey = found at hcorrect
  obtain ⟨sharedKey, c'⟩ := found
  cases sharedKey with
  | none => exact ⟨⟨fun _ => rfl, fun _ => rfl⟩, hcorrect⟩
  | some sharedKey => exact ⟨⟨nofun, nofun⟩, hcorrect⟩

/-- `new_crypto_connection` comes to `create_cookie_request`. -/
def AsksForCookie (c : NetCrypto) (env : Env) (realPublicKey : PublicKey) : Prop :=
  c.getcryptconnectionId realPublicKey = none ∧ (c.createCryptoConnection env).isSome ∧ env.tcp

theorem Correct.newCryptoConnection (h : c.Correct box secretKey) (env : Env)
    (realPublicKey dhtPublicKey : PublicKey) :
    ((c.newCryptoConnection box env realPublicKey dhtPublicKey).1.FailsWithout
        (AsksForCookie c.netCrypto env realPublicKey ∧
          (c.dhtGetSharedKeySent box env.now dhtPublicKey).1 = none) ↔
      (AsksForCookie c.netCrypto env realPublicKey → (box.beforenm dhtPublicKey secretKey).isSome)) ∧
      (c.newCryptoConnection box env realPublicKey dhtPublicKey).2.Correct box secretKey := by
  rw [(h.dhtGetSharedKeySent env.now dhtPublicKey).1]
  unfold KeyedNetCrypto.newCryptoConnection AsksForCookie
  cases hid : c.netCrypto.getcryptconnectionId realPublicKey with
  | some id =>
    exact ⟨⟨fun _ hasks => (nomatch hasks.1), fun _ => .returned fun hasks => (nomatch hasks.1.1)⟩, h⟩
  | none =>
    cases hcreate : c.netCrypto.createCryptoConnection env with
    | none => exact ⟨⟨fun _ hasks => (nomatch hasks.2.1), fun _ => .failed⟩, h⟩
    | some created =>
      obtain ⟨id, netCrypto⟩ := created
      dsimp only
      by_cases htcp : env.tcp = true
      · obtain ⟨-, -, conn, hconn, -⟩ := NetCrypto.idles_createCryptoConnection box hcreate
        have hcreated : Correct box secretKey { c with netCrypto } := h
        obtain ⟨hnull, hcorrect⟩ := hcreated.createCookieRequest env dhtPublicKey env.number
        have hneg : ¬(!env.tcp) = true := by
          rw [htcp]
          exact nofun
        rw [if_neg hneg, hconn]
        generalize KeyedNetCrypto.createCookieRequest box { c with netCrypto } env dhtPublicKey
          env.number = request at hnull hcorrect
        obtain ⟨result, c'⟩ := request
        cases result with
        | nullDereferenced =>
          rw [hnull.mp rfl]
          exact ⟨⟨fun hfails => absurd hfails CallEnd.not_failsWithout, fun hsome =>
            nomatch hsome ⟨rfl, rfl, htcp⟩⟩, hcorrect⟩
        | returned result =>
          have hsome : box.beforenm dhtPublicKey secretKey ≠ none := fun hnone =>
            nomatch hnull.mpr hnone
          have hisSome := Option.isSome_iff_ne_none.mpr hsome
          dsimp only
          split
          · exact ⟨⟨fun _ _ => hisSome, fun _ => .failed⟩, hcorrect⟩
          · exact ⟨⟨fun _ _ => hisSome, fun _ => .returned fun hasks => hsome hasks.2⟩, hcorrect⟩
      · have hpos : (!env.tcp) = true := by
          rw [Bool.eq_false_of_not_eq_true htcp]
          rfl
        rw [if_pos hpos]
        exact ⟨⟨fun _ hasks => absurd hasks.2.2 htcp, fun _ => .failed⟩, h⟩

/-! ## Runs -/

/-- A call that uses the cache. `lookup` is for other users, and `other` changes connections. -/
inductive Call where
  | handleRequest (now : UInt64) (packet : Bytes)
  | newConnection (env : Env) (realPublicKey dhtPublicKey : PublicKey)
  | lookup (now : UInt64) (publicKey : PublicKey)
  | other (netCrypto : NetCrypto)

def after (cipher : ByteCipher OnionNonce) (box : CryptoBox) (c : KeyedNetCrypto) : Call → KeyedNetCrypto
  | .handleRequest now packet => (c.handleCookieRequest cipher box now packet).2
  | .newConnection env realPublicKey dhtPublicKey =>
    (c.newCryptoConnection box env realPublicKey dhtPublicKey).2
  | .lookup now publicKey => (c.dhtGetSharedKeySent box now publicKey).2
  | .other netCrypto => { c with netCrypto }

/-- A call dereferences no null pointer, and returns `-1` if it finds no shared key. -/
def NeverNull (cipher : ByteCipher OnionNonce) (box : CryptoBox) (c : KeyedNetCrypto) : Call → Prop
  | .handleRequest now packet =>
    (c.handleCookieRequest cipher box now packet).1.FailsWithout
      ((c.dhtGetSharedKeySent box now (requestDhtPublicKey packet)).1 = none)
  | .newConnection env realPublicKey dhtPublicKey =>
    (c.newCryptoConnection box env realPublicKey dhtPublicKey).1.FailsWithout
      (AsksForCookie c.netCrypto env realPublicKey ∧ (c.dhtGetSharedKeySent box env.now dhtPublicKey).1 = none)
  | .lookup _ _ => True
  | .other _ => True

/-- `encrypt_precompute` succeeds for the key for which a call makes or handles a cookie request. -/
def Precomputes (box : CryptoBox) (secretKey : SecretKey) (c : KeyedNetCrypto) : Call → Prop
  | .handleRequest _ packet =>
    packet.length = cookieRequestLength → (box.beforenm (requestDhtPublicKey packet) secretKey).isSome
  | .newConnection env realPublicKey dhtPublicKey =>
    AsksForCookie c.netCrypto env realPublicKey → (box.beforenm dhtPublicKey secretKey).isSome
  | .lookup _ _ => True
  | .other _ => True

/-- No call of a run dereferences a null pointer, and the entries of the cache stay correct. -/
def KeysPresent (cipher : ByteCipher OnionNonce) (box : CryptoBox) (secretKey : SecretKey)
    (c : KeyedNetCrypto) : List Call → Prop
  | [] => c.Correct box secretKey
  | call :: calls =>
    c.Correct box secretKey ∧ c.NeverNull cipher box call ∧
      KeysPresent cipher box secretKey (c.after cipher box call) calls

/-- `encrypt_precompute` succeeds in each call of a run. -/
def PrecomputesAll (cipher : ByteCipher OnionNonce) (box : CryptoBox) (secretKey : SecretKey)
    (c : KeyedNetCrypto) : List Call → Prop
  | [] => True
  | call :: calls =>
    c.Precomputes box secretKey call ∧ PrecomputesAll cipher box secretKey (c.after cipher box call) calls

theorem Correct.after (h : c.Correct box secretKey) (call : Call) :
    (c.after cipher box call).Correct box secretKey := by
  cases call with
  | handleRequest now packet => exact (h.handleCookieRequest now packet).2
  | newConnection env realPublicKey dhtPublicKey =>
    exact (h.newCryptoConnection env realPublicKey dhtPublicKey).2
  | lookup now publicKey => exact (h.dhtGetSharedKeySent now publicKey).2
  | other netCrypto => exact h

theorem Correct.neverNull_iff (h : c.Correct box secretKey) (call : Call) :
    c.NeverNull cipher box call ↔ c.Precomputes box secretKey call := by
  cases call with
  | handleRequest now packet => exact (h.handleCookieRequest now packet).1
  | newConnection env realPublicKey dhtPublicKey =>
    exact (h.newCryptoConnection env realPublicKey dhtPublicKey).1
  | lookup now publicKey => exact Iff.rfl
  | other netCrypto => exact Iff.rfl

theorem Correct.keysPresent (h : c.Correct box secretKey) (calls : List Call) :
    c.KeysPresent cipher box secretKey calls ↔ c.PrecomputesAll cipher box secretKey calls := by
  induction calls generalizing c with
  | nil => exact ⟨fun _ => trivial, fun _ => h⟩
  | cons call calls ih =>
    rw [KeysPresent, h.neverNull_iff call, ih (h.after call)]
    exact ⟨And.right, fun hrest => ⟨h, hrest⟩⟩

end KeyedNetCrypto

open KeyedNetCrypto

/-- No missing key is copied and the cache stays correct, if and only if `encrypt_precompute` succeeds for the keys
    of all cookie requests. -/
theorem keysPresent_iff (cipher : ByteCipher OnionNonce) (box : CryptoBox) (netCrypto : NetCrypto)
    {now timeout : UInt64} {keysPerSlot : UInt8} {sharedKeysSent : SharedKeyCache}
    (hnew : sharedKeyCacheNew now netCrypto.dhtSelfSecretKey timeout keysPerSlot =
      some sharedKeysSent) (calls : List Call) :
    KeysPresent cipher box netCrypto.dhtSelfSecretKey ⟨netCrypto, sharedKeysSent⟩ calls ↔
      PrecomputesAll cipher box netCrypto.dhtSelfSecretKey ⟨netCrypto, sharedKeysSent⟩ calls :=
  Correct.keysPresent (SharedKeyCache.correct_new box hnew) calls

/-- The cache of `new_dht` at the time 1. -/
def newSharedKeysSent (secretKey : SecretKey) : SharedKeyCache where
  keys _ := List.replicate 4 SharedKeySlot.empty
  selfSecretKey := secretKey
  timeout := 0

theorem keysPresent_iff_alone :
    KeysPresent halfKeyCipher xorBox (key 1) ⟨NetCrypto.alone, newSharedKeysSent (key 1)⟩
        [.newConnection NetCrypto.goodEnv (key 4) (key 6), .lookup 2 (key 7)] ↔
      PrecomputesAll halfKeyCipher xorBox (key 1) ⟨NetCrypto.alone, newSharedKeysSent (key 1)⟩
        [.newConnection NetCrypto.goodEnv (key 4) (key 6), .lookup 2 (key 7)] := by
  have hnew : sharedKeyCacheNew 1 NetCrypto.alone.dhtSelfSecretKey 600 4 =
      some (newSharedKeysSent (key 1)) := rfl
  exact keysPresent_iff halfKeyCipher xorBox NetCrypto.alone hnew _

def failingBox : CryptoBox where
  beforenm publicKey _ := if publicKey = key 0 then none else some publicKey
  uninitialized := key 0

def zeroKeyRequest : Bytes := 0x18 :: List.replicate (cookieRequestLength - 1) 0

/-- A cookie request with a key for which there is no shared key ends with a null pointer. -/
theorem not_keysPresent_zeroKey :
    sharedKeyCacheNew 1 (key 1) 600 4 = some (newSharedKeysSent (key 1)) ∧
      ¬KeysPresent halfKeyCipher failingBox (key 1)
        ⟨NetCrypto.alone, newSharedKeysSent (key 1)⟩ [.handleRequest 1 zeroKeyRequest] := by
  have hnew : sharedKeyCacheNew 1 (key 1) 600 4 = some (newSharedKeysSent (key 1)) := rfl
  have hcorrect : Correct failingBox (key 1) ⟨NetCrypto.alone, newSharedKeysSent (key 1)⟩ :=
    SharedKeyCache.correct_new failingBox hnew
  have hlength : zeroKeyRequest.length = cookieRequestLength := by
    rw [zeroKeyRequest, List.length_cons, List.length_replicate]
    rfl
  have hnone : failingBox.beforenm (requestDhtPublicKey zeroKeyRequest) (key 1) = none := by
    decide +kernel
  refine ⟨hnew, fun h => ?_⟩
  have hsome := ((hcorrect.keysPresent _).mp h).1 hlength
  rw [hnone] at hsome
  exact nomatch hsome

end Toxcore
