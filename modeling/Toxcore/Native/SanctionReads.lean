import Toxcore.Native.NgcPeers
import Toxcore.Native.NodeFormatReads

/-!
# Reading a sanctions list

`sanctions_list_unpack` as it reads a buffer at an offset of 16 bits, and its two callers.  A read behind the end
of the buffer, a write behind the end of the array and a use of credentials that were not set are `none`; the
result of the source is inside.
-/

namespace Toxcore

/-- One round of the loop of `sanctions_list_unpack`: the entry and `len_processed` after it. -/
def readSanction (data : Bytes) (length lenProcessed : UInt16) : Option (Option (ModSanction × UInt16)) :=
  if lenProcessed.toNat + 1 + sigPublicKeySize + timeStampSize > length.toNat then some none
  else
    match readBytes data lenProcessed.toNat 1,
        readBytes data (lenProcessed + 1).toNat sigPublicKeySize,
        readBytes data (lenProcessed + 1 + 32).toNat timeStampSize with
    | some type, some setter, some timeSet =>
      let lenProcessed := lenProcessed + 1 + 32 + 8
      if type.getD 0 0 ≠ saObserver then some none
      else if lenProcessed.toNat + cryptoPublicKeySize > length.toNat then some none
      else
        match readBytes data lenProcessed.toNat cryptoPublicKeySize with
        | none => none
        | some target =>
          let lenProcessed := lenProcessed + 32
          if lenProcessed.toNat + signatureSize > length.toNat then some none
          else
            match readBytes data lenProcessed.toNat signatureSize with
            | none => none
            | some signature =>
              some (some ({ type := type.getD 0 0
                            setterPublicSigKey := bytesToVector _ setter
                            timeSet := netUnpackU64 timeSet
                            targetPublicEncKey := bytesToVector _ target
                            signature := bytesToVector _ signature }, lenProcessed + 64))
    | _, _, _ => none

/-- The loop of `sanctions_list_unpack`, for at most `rest` more entries of an array of `maxSanctions`. -/
def readSanctionsLoop (data : Bytes) (length maxSanctions : UInt16) :
    (rest : Nat) → List ModSanction → UInt16 → Option (Option (List ModSanction × UInt16))
  | 0, sanctions, lenProcessed => some (some (sanctions, lenProcessed))
  | rest + 1, sanctions, lenProcessed =>
    if ¬lenProcessed < length then some (some (sanctions, lenProcessed))
    else if ¬sanctions.length < maxSanctions.toNat then none
    else
      match readSanction data length lenProcessed with
      | none => none
      | some none => some none
      | some (some (sanction, lenProcessed)) =>
        readSanctionsLoop data length maxSanctions rest (sanctions ++ [sanction]) lenProcessed

def readCreds (data : Bytes) (offset : UInt16) : Option (ModSanctionCreds × UInt16) :=
  match readBytes data offset.toNat 4, readBytes data (offset.toNat + 4) cryptoSha256Size,
      readBytes data (offset.toNat + 36) 2, readBytes data (offset.toNat + 38) sigPublicKeySize,
      readBytes data (offset.toNat + 70) signatureSize with
  | some version, some hash, some checksum, some sigPk, some sig =>
    some ({ version := netUnpackU32 version
            hash := bytesToVector _ hash
            checksum := netUnpackU16 checksum
            sigPk := bytesToVector _ sigPk
            sig := bytesToVector _ sig }, 4 + 32 + 2 + 32 + 64)
  | _, _, _, _, _ => none

/-- `sanctions_list_unpack`: the entries, the credentials if they were set, and `processed_data_len`. -/
def readSanctionsList (maxSanctions : UInt16) (data : Bytes) (length : UInt16) :
    Option (Option (List ModSanction × Option ModSanctionCreds × UInt16)) :=
  match readSanctionsLoop data length maxSanctions (min maxSanctions.toNat modMaxNumSanctions) [] 0 with
  | none => none
  | some none => some none
  | some (some (sanctions, lenProcessed)) =>
    if length ≤ lenProcessed ∨ length.toNat - lenProcessed.toNat < modSanctionsCredsSize then
      if length ≠ lenProcessed then some none else some (some (sanctions, none, lenProcessed))
    else
      match readCreds data lenProcessed with
      | none => none
      | some (creds, credsLen) => some (some (sanctions, some creds, lenProcessed + credsLen))

/-- `handle_gc_sanctions_list`, where `calloc` gives an array, of no entries too. -/
def GCChat.readGcSanctionsList (chat : GCChat) (crypto : SignCrypto) (env : ChatEnv) (data : Bytes) :
    Option (Bool × GCChat) :=
  if data.length < 2 then some (false, chat)
  else
    let numSanctions := netUnpackU16 data
    if numSanctions.toNat > modMaxNumSanctions then some (chat.handleGcSanctionsListError env)
    else
      match readSanctionsList numSanctions (data.drop 2) (UInt16.ofNat (data.length - 2)) with
      | none => none
      | some none => some (chat.handleGcSanctionsListError env)
      | some (some (sanctions, creds, _)) =>
        if sanctions.length ≠ numSanctions.toNat then some (chat.handleGcSanctionsListError env)
        else
          -- `sanctions_list_check_integrity` comes to the credentials if every entry is valid
          match creds with
          | none =>
            if !sanctions.all (chat.moderation.sanctionsListValidateEntry crypto) then
              some (chat.handleGcSanctionsListError env)
            else none
          | some creds =>
            if !chat.moderation.sanctionsListCheckIntegrity crypto creds sanctions then
              some (chat.handleGcSanctionsListError env)
            else if creds.version < chat.moderation.sanctionsCreds.version then some (true, chat)
            else if creds.version = chat.moderation.sanctionsCreds.version ∧
                creds.checksum ≤ chat.moderation.sanctionsCreds.checksum then some (true, chat)
            else
              some (true, { chat with
                moderation := { chat.moderation with sanctions, sanctionsCreds := creds }
                }.updateGcPeerRoles)

/-- `validate_unpack_observer_entry` -/
def GCChat.readObserverEntry (chat : GCChat) (crypto : SignCrypto) (data : Bytes) (publicKey : PublicKey)
    (addObs : Bool) : Option (GCChat.ObserverEntry × GCChat) :=
  let moderation := chat.moderation
  if addObs then
    match readSanctionsList 1 data (UInt16.ofNat data.length) with
    | none => none
    | some none => some (.invalid, chat)
    | some (some (sanctions, creds, _)) =>
      match sanctions with
      | [sanction] =>
        match creds with
        | none => none
        | some creds =>
          if creds.version = moderation.sanctionsCreds.version ∧
              creds.checksum ≤ moderation.sanctionsCreds.checksum then some (.unchanged, chat)
          else if moderation.sanctionsListEntryExists sanction then some (.invalid, chat)
          else
            match moderation.sanctionsListAddEntry crypto sanction (some creds) with
            | (false, moderation) => some (.invalid, { chat with moderation })
            | (true, moderation) => some (.changed, { chat with moderation })
      | _ => some (.invalid, chat)
  else if data.length < modSanctionsCredsSize then some (.invalid, chat)
  else
    match readCreds data 0 with
    | none => none
    | some (creds, _) =>
      if creds.version = moderation.sanctionsCreds.version ∧
          creds.checksum ≤ moderation.sanctionsCreds.checksum then some (.unchanged, chat)
      else if !moderation.sanctionsListIsObserver publicKey then some (.unchanged, chat)
      else
        match moderation.sanctionsListRemoveObserver crypto publicKey (some creds) with
        | (false, moderation) => some (.unchanged, { chat with moderation })
        | (true, moderation) => some (.changed, { chat with moderation })

end Toxcore
