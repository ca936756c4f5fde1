import Toxcore.Native.NodeFormat

/-!
# The moderation object of a group

`group_moderation.c`: the moderator list, the sanctions list and the credentials that a
moderator signs for it.  The hash and the signatures are those of libsodium and are
parameters, collected in `SignCrypto`.

A list stands for an array together with its `num_` field.  Allocations do not fail.  A
function that writes to a buffer returns the bytes it wrote, `none` where the source
returns `-1`.
-/

namespace Toxcore

/-! ## Sizes and keys -/

/-- `SIG_PUBLIC_KEY_SIZE`, also `MOD_LIST_ENTRY_SIZE` -/
def sigPublicKeySize : Nat := 32

def signatureSize : Nat := 64

/-- `CRYPTO_SHA256_SIZE`, also `MOD_MODERATION_HASH_SIZE` and `MOD_SANCTION_HASH_SIZE` -/
def cryptoSha256Size : Nat := 32

def timeStampSize : Nat := 8

abbrev SigPublicKey := Vector UInt8 sigPublicKeySize

/-- A secret signature key (`uint8_t[SIG_SECRET_KEY_SIZE]`). -/
abbrev SigSecretKey := Vector UInt8 64

/-- A detached signature. -/
abbrev Signature := Vector UInt8 signatureSize

abbrev Digest := Vector UInt8 cryptoSha256Size

/-- The digest of an empty list: `memset(hash, 0, ...)`. -/
def zeroDigest : Digest := Vector.replicate _ 0

/-- The functions of libsodium that the moderation uses. -/
structure SignCrypto where
  /-- `crypto_sha256` -/
  sha256 : Bytes → Digest
  signatureCreate : Bytes → SigSecretKey → Option Signature
  signatureVerify : Signature → Bytes → SigPublicKey → Bool

def maxPacketSizeNoHeaders : Nat := 49900

def modSanctionsCredsSize : Nat := 4 + cryptoSha256Size + 2 + sigPublicKeySize + signatureSize

def modSanctionPackedSize : Nat :=
  sigPublicKeySize + timeStampSize + 1 + cryptoPublicKeySize + signatureSize

def modMaxNumModerators : Nat := maxPacketSizeNoHeaders / sigPublicKeySize / 16 + 3

def modMaxNumSanctions : Nat :=
  (maxPacketSizeNoHeaders - modSanctionsCredsSize) / modSanctionPackedSize / 12

/-- `data_checksum`: the bytes at even and odd places, each combined with `^`. -/
def dataChecksum (data : Bytes) : UInt16 :=
  let sum := data.foldl (fun (acc : UInt8 × UInt8) b => (acc.2, acc.1 ^^^ b)) (0, 0)
  let (even, odd) := if data.length % 2 = 0 then sum else (sum.2, sum.1)
  UInt16.ofNat (even.toNat + 256 * odd.toNat)

/-! ## The moderation object -/

def saObserver : UInt8 := 0

def saInvalid : UInt8 := 1

structure ModSanctionCreds where
  version : UInt32
  /-- Hash of all sanctions list signatures and the version. -/
  hash : Digest
  checksum : UInt16
  /-- The last moderator who modified the sanctions list. -/
  sigPk : SigPublicKey
  /-- Signature of `hash` by the owner of `sigPk`. -/
  sig : Signature
deriving DecidableEq

structure ModSanction where
  setterPublicSigKey : SigPublicKey
  timeSet : UInt64
  type : UInt8
  targetPublicEncKey : PublicKey
  /-- Signature of the rest of the entry by the owner of `setterPublicSigKey`. -/
  signature : Signature
deriving DecidableEq

structure Moderation where
  sanctions : List ModSanction
  sanctionsCreds : ModSanctionCreds
  modList : List SigPublicKey
  founderPublicSigKey : SigPublicKey
  selfPublicSigKey : SigPublicKey
  selfSecretSigKey : SigSecretKey
  sharedStateVersion : UInt32
deriving DecidableEq

/-! ## The moderator list -/

/-- The first `n` entries of a packed moderator list. -/
def modListEntries (data : Bytes) (n : Nat) : List SigPublicKey :=
  (List.range n).map fun i => bytesToVector sigPublicKeySize (data.drop (i * sigPublicKeySize))

def modListPack (modList : List SigPublicKey) : Bytes := modList.flatMap (·.toList)

def modListMakeHash (crypto : SignCrypto) (modList : List SigPublicKey) : Digest :=
  if modList.length = 0 then zeroDigest else crypto.sha256 (modListPack modList)

namespace Moderation

variable (crypto : SignCrypto) (moderation : Moderation)

def modListCleanup : Moderation := { moderation with modList := [] }

def modListUnpack (data : Bytes) (numMods : UInt16) : Option Nat × Moderation :=
  if data.length < numMods.toNat * sigPublicKeySize then (none, moderation)
  else if numMods = 0 then (some 0, moderation.modListCleanup)
  else
    (some (numMods.toNat * sigPublicKeySize),
      { moderation.modListCleanup with modList := modListEntries data numMods.toNat })

def modListVerifySigPk (sigPk : SigPublicKey) : Bool :=
  moderation.founderPublicSigKey == sigPk || moderation.modList.contains sigPk

def modListRemoveIndex (index : Nat) : Bool × Moderation :=
  let modList := moderation.modList
  if index ≥ modList.length then (false, moderation)
  else if modList.length - 1 = 0 then (true, moderation.modListCleanup)
  else
    -- the last entry takes the place of the removed one
    let modList :=
      if index ≠ modList.length - 1 then
        modList.set index (modList.getD (modList.length - 1) (Vector.replicate _ 0))
      else modList
    (true, { moderation with modList := modList.take (modList.length - 1) })

def modListRemoveEntry (publicSigKey : SigPublicKey) : Bool × Moderation :=
  match moderation.modList.findIdx? (· == publicSigKey) with
  | none => (false, moderation)
  | some idx => moderation.modListRemoveIndex idx

def modListAddEntry (modData : SigPublicKey) : Bool × Moderation :=
  if moderation.modList.length ≥ modMaxNumModerators then (false, moderation)
  else (true, { moderation with modList := moderation.modList ++ [modData] })

end Moderation

/-! ## Packing sanctions -/

/-- The signed part of a packed entry. -/
def ModSanction.body (sanction : ModSanction) : Bytes :=
  [sanction.type] ++ sanction.setterPublicSigKey.toList ++ netPackU64 sanction.timeSet ++
    sanction.targetPublicEncKey.toList

def sanctionsCredsPack (creds : ModSanctionCreds) : Bytes :=
  netPackU32 creds.version ++ creds.hash.toList ++ netPackU16 creds.checksum ++
    creds.sigPk.toList ++ creds.sig.toList

def sanctionsListPackLoop : (length : Nat) → List ModSanction → Option Bytes
  | _, [] => some []
  | length, sanction :: sanctions =>
    if 1 + sigPublicKeySize + timeStampSize > length then none
    else if sanction.type ≠ saObserver then none
    else if 1 + sigPublicKeySize + timeStampSize + cryptoPublicKeySize > length then none
    else if modSanctionPackedSize > length then none
    else
      match sanctionsListPackLoop (length - modSanctionPackedSize) sanctions with
      | none => none
      | some data => some (sanction.body ++ sanction.signature.toList ++ data)

def sanctionsListPack (length : Nat) (sanctions : List ModSanction)
    (creds : Option ModSanctionCreds) : Option Bytes :=
  match sanctionsListPackLoop length sanctions, creds with
  | none, _ => none
  | some data, none => some data
  | some data, some creds =>
    if length - data.length < modSanctionsCredsSize then none
    else some (data ++ sanctionsCredsPack creds)

def sanctionsCredsUnpack (data : Bytes) : ModSanctionCreds :=
  { version := netUnpackU32 data
    hash := bytesToVector _ (data.drop 4)
    checksum := netUnpackU16 (data.drop 36)
    sigPk := bytesToVector _ (data.drop 38)
    sig := bytesToVector _ (data.drop 70) }

/-- One entry of a packed sanctions list of observers. -/
def modSanctionUnpack (data : Bytes) : ModSanction :=
  { type := data.getD 0 0
    setterPublicSigKey := bytesToVector _ (data.drop 1)
    timeSet := netUnpackU64 (data.drop 33)
    targetPublicEncKey := bytesToVector _ (data.drop 41)
    signature := bytesToVector _ (data.drop 73) }

def sanctionsListUnpackLoop : (max : Nat) → Bytes → Option (List ModSanction × Bytes)
  | 0, data => some ([], data)
  | max + 1, data =>
    if data.length = 0 then some ([], data)
    else if 1 + sigPublicKeySize + timeStampSize > data.length then none
    else if data.getD 0 0 ≠ saObserver then none
    else if 1 + sigPublicKeySize + timeStampSize + cryptoPublicKeySize > data.length then none
    else if modSanctionPackedSize > data.length then none
    else
      match sanctionsListUnpackLoop max (data.drop modSanctionPackedSize) with
      | none => none
      | some (sanctions, rest) => some (modSanctionUnpack data :: sanctions, rest)

/-- `sanctions_list_unpack`, with the bytes left. When there are no credentials, `creds` is kept. -/
def sanctionsListUnpack (creds : ModSanctionCreds) (maxSanctions : UInt16) (data : Bytes) :
    Option (List ModSanction × ModSanctionCreds × Bytes) :=
  match sanctionsListUnpackLoop (min maxSanctions.toNat modMaxNumSanctions) data with
  | none => none
  | some (sanctions, rest) =>
    if rest.length < modSanctionsCredsSize then
      if rest.length ≠ 0 then none else some (sanctions, creds, rest)
    else some (sanctions, sanctionsCredsUnpack rest, rest.drop modSanctionsCredsSize)

/-! ## Credentials of the sanctions list -/

/-- What `sanctions_list_make_hash` hashes: the signatures of the entries and the version in
    host order. -/
def sanctionsHashData (sanctions : List ModSanction) (version : UInt32) : Bytes :=
  sanctions.flatMap (·.signature.toList) ++ toLittleEndian 4 version.toNat

def sanctionsListMakeHash (crypto : SignCrypto) (sanctions : List ModSanction) (newVersion : UInt32) : Digest :=
  if sanctions.length = 0 then zeroDigest
  else crypto.sha256 (sanctionsHashData sanctions newVersion)

def ModSanctionCreds.getChecksum (creds : ModSanctionCreds) : UInt16 :=
  dataChecksum creds.hash.toList

def ModSanctionCreds.setChecksum (creds : ModSanctionCreds) : ModSanctionCreds :=
  { creds with checksum := creds.getChecksum }

namespace Moderation

variable (crypto : SignCrypto) (moderation : Moderation)

def sanctionsListValidateEntry (sanction : ModSanction) : Bool :=
  if !moderation.modListVerifySigPk sanction.setterPublicSigKey then false
  else if sanction.type ≥ saInvalid then false
  else if sanction.timeSet = 0 then false
  else
    match sanctionsListPack modSanctionPackedSize [sanction] none with
    | none => false
    | some packedData =>
      if packedData.length ≤ signatureSize then false
      else
        crypto.signatureVerify sanction.signature
          (packedData.take (packedData.length - signatureSize)) sanction.setterPublicSigKey

/-- The unsigned credentials that `sanctions_list_make_creds` makes. -/
def newCreds : ModSanctionCreds :=
  let version := moderation.sanctionsCreds.version + 1
  { moderation.sanctionsCreds with
    version
    sigPk := moderation.selfPublicSigKey
    hash := sanctionsListMakeHash crypto moderation.sanctions version }.setChecksum

def sanctionsListMakeCreds : Bool × Moderation :=
  let creds := moderation.newCreds crypto
  match crypto.signatureCreate creds.hash.toList moderation.selfSecretSigKey with
  | none => (false, moderation)
  | some sig => (true, { moderation with sanctionsCreds := { creds with sig } })

def sanctionsCredsValidate (sanctions : List ModSanction) (creds : ModSanctionCreds) : Bool :=
  let hash := sanctionsListMakeHash crypto sanctions creds.version
  if !moderation.modListVerifySigPk creds.sigPk then false
  else if hash ≠ creds.hash then false
  else if creds.checksum ≠ creds.getChecksum then false
  else if 0 < moderation.sharedStateVersion ∧
      creds.version < moderation.sanctionsCreds.version ∧
      ¬(creds.version = 0 ∧ moderation.sanctionsCreds.version = UInt32.ofNat (2 ^ 32 - 1)) then
    false
  else crypto.signatureVerify creds.sig hash.toList creds.sigPk

def sanctionsListCheckIntegrity (creds : ModSanctionCreds) (sanctions : List ModSanction) : Bool :=
  if !sanctions.all (moderation.sanctionsListValidateEntry crypto) then false
  else moderation.sanctionsCredsValidate crypto sanctions creds

/-- The part of `handle_gc_sanctions_list` that replaces the list. -/
def installSanctions (creds : ModSanctionCreds) (sanctions : List ModSanction) : Moderation :=
  if !moderation.sanctionsListCheckIntegrity crypto creds sanctions then moderation
  else if creds.version < moderation.sanctionsCreds.version then moderation
  -- two moderators changed the list at the same time
  else if creds.version = moderation.sanctionsCreds.version ∧
      creds.checksum ≤ moderation.sanctionsCreds.checksum then moderation
  else { moderation with sanctions, sanctionsCreds := creds }

/-! ## Changing the sanctions list -/

def sanctionsApplyNew (newSanctions : List ModSanction) (newCreds : Option ModSanctionCreds) :
    Bool × Moderation :=
  match newCreds with
  | none => (true, { moderation with sanctions := newSanctions })
  | some creds =>
    if !moderation.sanctionsCredsValidate crypto newSanctions creds then (false, moderation)
    else (true, { moderation with sanctions := newSanctions, sanctionsCreds := creds })

/-- `sanctions_list_remove_index`. With one entry left it validates the credentials for no entries. -/
def sanctionsListRemoveIndex (index : Nat) (creds : Option ModSanctionCreds) : Bool × Moderation :=
  let sanctions := moderation.sanctions
  match sanctions[index]?, sanctions[sanctions.length - 1]? with
  | some _, some last =>
    -- the last entry takes the place of the removed one
    moderation.sanctionsApplyNew crypto ((sanctions.set index last).take (sanctions.length - 1)) creds
  | _, _ => (false, moderation)

def sanctionsListRemoveObserver (publicKey : PublicKey) (creds : Option ModSanctionCreds) :
    Bool × Moderation :=
  let observed := fun (sanction : ModSanction) =>
    sanction.type == saObserver && publicKey == sanction.targetPublicEncKey
  match moderation.sanctions.findIdx? observed with
  | none => (false, moderation)
  | some index =>
    match moderation.sanctionsListRemoveIndex crypto index creds, creds with
    | (false, moderation), _ => (false, moderation)
    | (true, moderation), none => moderation.sanctionsListMakeCreds crypto
    | (true, moderation), some _ => (true, moderation)

def sanctionsListIsObserver (publicKey : PublicKey) : Bool :=
  moderation.sanctions.any fun sanction =>
    sanction.type == saObserver && sanction.targetPublicEncKey == publicKey

def sanctionsListEntryExists (sanction : ModSanction) : Bool :=
  sanction.type == saObserver && moderation.sanctionsListIsObserver sanction.targetPublicEncKey

def sanctionsListAddEntry (sanction : ModSanction) (creds : Option ModSanctionCreds) :
    Bool × Moderation :=
  if moderation.sanctions.length ≥ modMaxNumSanctions then (false, moderation)
  else if !moderation.sanctionsListValidateEntry crypto sanction then (false, moderation)
  else if moderation.sanctionsListEntryExists sanction then (false, moderation)
  else moderation.sanctionsApplyNew crypto (moderation.sanctions ++ [sanction]) creds

def sanctionsListSignEntry (sanction : ModSanction) : Option ModSanction :=
  match sanctionsListPack modSanctionPackedSize [sanction] none with
  | none => none
  | some packedData =>
    if packedData.length ≤ signatureSize then none
    else
      match crypto.signatureCreate (packedData.take (packedData.length - signatureSize))
          moderation.selfSecretSigKey with
      | none => none
      | some signature => some { sanction with signature }

/-- `sanctions_list_make_entry` for `SA_OBSERVER`, the only type it accepts; `now` is
    `time(nullptr)`. -/
def sanctionsListMakeEntry (publicKey : PublicKey) (now : UInt64) : Bool × Moderation :=
  let sanction : ModSanction :=
    { setterPublicSigKey := moderation.selfPublicSigKey
      timeSet := now
      type := saObserver
      targetPublicEncKey := publicKey
      signature := Vector.replicate _ 0 }
  match moderation.sanctionsListSignEntry crypto sanction with
  | none => (false, moderation)
  | some sanction =>
    match moderation.sanctionsListAddEntry crypto sanction none with
    | (false, moderation) => (false, moderation)
    | (true, moderation) => moderation.sanctionsListMakeCreds crypto

/-- One entry in the loop of `sanctions_list_replace_sig`, and whether it was signed again. -/
def replaceSig (publicSigKey : SigPublicKey) (sanction : ModSanction) : Bool × ModSanction :=
  if sanction.setterPublicSigKey ≠ publicSigKey then (false, sanction)
  else
    let sanction := { sanction with setterPublicSigKey := moderation.selfPublicSigKey }
    match moderation.sanctionsListSignEntry crypto sanction with
    | none => (false, sanction)
    | some sanction => (true, sanction)

def sanctionsListReplaceSig (publicSigKey : SigPublicKey) : Nat × Moderation :=
  let replaced := moderation.sanctions.map (moderation.replaceSig crypto publicSigKey)
  let count := replaced.countP (·.1)
  let moderation := { moderation with sanctions := replaced.map (·.2) }
  if 0 < count then
    match moderation.sanctionsListMakeCreds crypto with
    | (false, moderation) => (0, moderation)
    | (true, moderation) => (count, moderation)
  else (count, moderation)

end Moderation

end Toxcore
