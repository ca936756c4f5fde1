import Toxcore.Native.NgcModeration

/-!
# Changes of the moderation object that may fail

The functions of `group_moderation.c` that change the moderator list and the sanctions list, with the outcome of
every allocation and of every signature.  A call makes each allocation at most once, so that the outcomes are a
record.  Where all of them succeed the functions are those of `NgcModeration`.
-/

namespace Toxcore

/-! ## The moderator list -/

/-- The outcomes of the allocations of a `mod_list_*` call. -/
structure ModListCall where
  /-- The array of pointers. -/
  array : Bool
  /-- The entry at an index. -/
  entry : Nat → Bool

namespace ModListCall

variable (call : ModListCall) (crypto : SignCrypto) (moderation : Moderation)

def modListUnpack (data : Bytes) (numMods : UInt16) : Option Nat × Moderation :=
  if data.length < numMods.toNat * sigPublicKeySize then (none, moderation)
  else if numMods = 0 then (some 0, moderation.modListCleanup)
  else if !call.array then (none, moderation.modListCleanup)
  else if !(List.range numMods.toNat).all call.entry then (none, moderation.modListCleanup)
  else
    (some (numMods.toNat * sigPublicKeySize),
      { moderation.modListCleanup with modList := modListEntries data numMods.toNat })

def modListMakeHash (modList : List SigPublicKey) : Option Digest :=
  if modList.length = 0 then some zeroDigest
  else if !call.array then none
  else some (crypto.sha256 (modListPack modList))

/-- `mod_list_remove_index`.  The list is already shorter when its array cannot be shrunk. -/
def modListRemoveIndex (index : Nat) : Bool × Moderation :=
  let modList := moderation.modList
  if index ≥ modList.length then (false, moderation)
  else if modList.length - 1 = 0 then (true, moderation.modListCleanup)
  else
    -- the last entry takes the place of the removed one
    let modList :=
      if index ≠ modList.length - 1 then
        modList.set index (modList.getD (modList.length - 1) (Vector.replicate _ 0))
      else modList
    (call.array, { moderation with modList := modList.take (modList.length - 1) })

def modListRemoveEntry (publicSigKey : SigPublicKey) : Bool × Moderation :=
  match moderation.modList.findIdx? (· == publicSigKey) with
  | none => (false, moderation)
  | some idx => call.modListRemoveIndex moderation idx

def modListAddEntry (modData : SigPublicKey) : Bool × Moderation :=
  if moderation.modList.length ≥ modMaxNumModerators then (false, moderation)
  else if !call.array then (false, moderation)
  else if !call.entry moderation.modList.length then (false, moderation)
  else (true, { moderation with modList := moderation.modList ++ [modData] })

end ModListCall

/-! ## The sanctions list -/

/-- The outcomes of the allocations and signatures of a `sanctions_list_*` call. -/
structure SanctionsCall where
  /-- `calloc` in `sanctions_list_copy` -/
  copy : Bool
  /-- `realloc` of the copy -/
  resize : Bool
  /-- `malloc` in `sanctions_list_make_hash` -/
  hash : Bool
  /-- The signature of the entry at an index; a new entry has index `0`. -/
  signEntry : Nat → Bool
  /-- The signature of the credentials. -/
  signCreds : Bool

def SignCrypto.trySignatureCreate (crypto : SignCrypto) (outcome : Bool) (message : Bytes) (secretKey : SigSecretKey) :
    Option Signature :=
  if outcome then crypto.signatureCreate message secretKey else none

namespace SanctionsCall

variable (call : SanctionsCall) (crypto : SignCrypto) (moderation : Moderation)

def sanctionsListMakeHash (sanctions : List ModSanction) (newVersion : UInt32) : Option Digest :=
  if sanctions.length = 0 then some zeroDigest
  else if !call.hash then none
  else some (crypto.sha256 (sanctionsHashData sanctions newVersion))

def sanctionsListMakeCreds : Bool × Moderation :=
  let version := moderation.sanctionsCreds.version + 1
  match call.sanctionsListMakeHash crypto moderation.sanctions version with
  | none => (false, moderation)
  | some hash =>
    let creds :=
      { moderation.sanctionsCreds with version, sigPk := moderation.selfPublicSigKey, hash }.setChecksum
    match crypto.trySignatureCreate call.signCreds creds.hash.toList moderation.selfSecretSigKey with
    | none => (false, moderation)
    | some sig => (true, { moderation with sanctionsCreds := { creds with sig } })

def sanctionsCredsValidate (sanctions : List ModSanction) (creds : ModSanctionCreds) : Bool :=
  if !moderation.modListVerifySigPk creds.sigPk then false
  else
    match call.sanctionsListMakeHash crypto sanctions creds.version with
    | none => false
    | some hash =>
      if hash ≠ creds.hash then false
      else if creds.checksum ≠ creds.getChecksum then false
      else if 0 < moderation.sharedStateVersion ∧
          creds.version < moderation.sanctionsCreds.version ∧
          ¬(creds.version = 0 ∧ moderation.sanctionsCreds.version = UInt32.ofNat (2 ^ 32 - 1)) then
        false
      else crypto.signatureVerify creds.sig hash.toList creds.sigPk

def sanctionsApplyNew (newSanctions : List ModSanction) (newCreds : Option ModSanctionCreds) : Bool × Moderation :=
  match newCreds with
  | none => (true, { moderation with sanctions := newSanctions })
  | some creds =>
    if !call.sanctionsCredsValidate crypto moderation newSanctions creds then (false, moderation)
    else (true, { moderation with sanctions := newSanctions, sanctionsCreds := creds })

def sanctionsListRemoveIndex (index : Nat) (creds : Option ModSanctionCreds) : Bool × Moderation :=
  let sanctions := moderation.sanctions
  match sanctions[index]?, sanctions[sanctions.length - 1]? with
  | some _, some last =>
    -- the last entry takes the place of the removed one
    let newList := (sanctions.set index last).take (sanctions.length - 1)
    if sanctions.length - 1 = 0 then call.sanctionsApplyNew crypto moderation newList creds
    else if !call.copy then (false, moderation)
    else if !call.resize then (false, moderation)
    else call.sanctionsApplyNew crypto moderation newList creds
  | _, _ => (false, moderation)

def sanctionsListRemoveObserver (publicKey : PublicKey) (creds : Option ModSanctionCreds) : Bool × Moderation :=
  let observed := fun (sanction : ModSanction) =>
    sanction.type == saObserver && publicKey == sanction.targetPublicEncKey
  match moderation.sanctions.findIdx? observed with
  | none => (false, moderation)
  | some index =>
    match call.sanctionsListRemoveIndex crypto moderation index creds, creds with
    | (false, moderation), _ => (false, moderation)
    | (true, moderation), none => call.sanctionsListMakeCreds crypto moderation
    | (true, moderation), some _ => (true, moderation)

def sanctionsListAddEntry (sanction : ModSanction) (creds : Option ModSanctionCreds) : Bool × Moderation :=
  if moderation.sanctions.length ≥ modMaxNumSanctions then (false, moderation)
  else if !moderation.sanctionsListValidateEntry crypto sanction then (false, moderation)
  else if moderation.sanctionsListEntryExists sanction then (false, moderation)
  else if 0 < moderation.sanctions.length ∧ !call.copy then (false, moderation)
  else if !call.resize then (false, moderation)
  else call.sanctionsApplyNew crypto moderation (moderation.sanctions ++ [sanction]) creds

def sanctionsListSignEntry (index : Nat) (sanction : ModSanction) : Option ModSanction :=
  match sanctionsListPack modSanctionPackedSize [sanction] none with
  | none => none
  | some packedData =>
    if packedData.length ≤ signatureSize then none
    else
      match crypto.trySignatureCreate (call.signEntry index) (packedData.take (packedData.length - signatureSize))
          moderation.selfSecretSigKey with
      | none => none
      | some signature => some { sanction with signature }

def sanctionsListMakeEntry (publicKey : PublicKey) (type : UInt8) (now : UInt64) : Bool × Moderation :=
  if type ≠ saObserver then (false, moderation)
  else
    let sanction : ModSanction :=
      { setterPublicSigKey := moderation.selfPublicSigKey
        timeSet := now
        type
        targetPublicEncKey := publicKey
        signature := Vector.replicate _ 0 }
    match call.sanctionsListSignEntry crypto moderation 0 sanction with
    | none => (false, moderation)
    | some sanction =>
      match call.sanctionsListAddEntry crypto moderation sanction none with
      | (false, moderation) => (false, moderation)
      | (true, moderation) => call.sanctionsListMakeCreds crypto moderation

/-- One entry in the loop of `sanctions_list_replace_sig`, and whether it was signed again. -/
def replaceSig (publicSigKey : SigPublicKey) (index : Nat) (sanction : ModSanction) : Bool × ModSanction :=
  if sanction.setterPublicSigKey ≠ publicSigKey then (false, sanction)
  else
    let sanction := { sanction with setterPublicSigKey := moderation.selfPublicSigKey }
    match call.sanctionsListSignEntry crypto moderation index sanction with
    | none => (false, sanction)
    | some sanction => (true, sanction)

def sanctionsListReplaceSig (publicSigKey : SigPublicKey) : Nat × Moderation :=
  let replaced := moderation.sanctions.mapIdx (call.replaceSig crypto moderation publicSigKey)
  let count := replaced.countP (·.1)
  let moderation := { moderation with sanctions := replaced.map (·.2) }
  if 0 < count then
    match call.sanctionsListMakeCreds crypto moderation with
    | (false, moderation) => (0, moderation)
    | (true, moderation) => (count, moderation)
  else (count, moderation)

/-- A call in which no allocation and no signature fails. -/
def succeeds : SanctionsCall where
  copy := true
  resize := true
  hash := true
  signEntry _ := true
  signCreds := true

end SanctionsCall

end Toxcore
