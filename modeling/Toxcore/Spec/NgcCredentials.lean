import Toxcore.ForStd.List
import Toxcore.ForStd.TransitionSystem
import Toxcore.Native.NgcState

/-!
# Credentials of the sanctions list

The members of a group run the code of `group_moderation.c` on what they receive, and every signature they make
is recorded. When `sanctions_list_check_integrity` accepts a list that is not empty, the owner of the key in the
credentials has made them for this list and version. For the empty list the hash is zero, whatever the version
is.
-/

namespace Toxcore

open List

/-! ## Members and their signatures -/

inductive SigningRun where
  /-- `sanctions_list_make_creds` on a moderation object. -/
  | creds (moderation : Moderation)
  /-- `sanctions_list_sign_entry` for an entry. -/
  | entry (moderation : Moderation) (sanction : ModSanction)
  | topic (moderation : Moderation) (info : GCTopicInfo)
deriving DecidableEq

namespace SigningRun

def moderation : SigningRun → Moderation
  | .creds moderation => moderation
  | .entry moderation _ => moderation
  | .topic moderation _ => moderation

def message (crypto : SignCrypto) : SigningRun → Bytes
  | .creds moderation => (moderation.newCreds crypto).hash.toList
  | .entry _ sanction => sanction.body
  | .topic _ info => packGcTopicInfo info

def signature (crypto : SignCrypto) (run : SigningRun) : Option Signature :=
  crypto.signatureCreate (run.message crypto) run.moderation.selfSecretSigKey

end SigningRun

inductive ModerationAction where
  /-- `init_gc_sanctions_creds` -/
  | makeCreds
  /-- `sanctions_list_make_entry` -/
  | makeEntry (publicKey : PublicKey) (now : UInt64)
  /-- `sanctions_list_remove_observer` without credentials. -/
  | removeObserver (publicKey : PublicKey)
  /-- `sanctions_list_replace_sig` -/
  | replaceSig (publicSigKey : SigPublicKey)
  | setTopic (info : GCTopicInfo)
  /-- `handle_gc_sanctions_list` -/
  | receiveList (sanctions : List ModSanction) (creds : ModSanctionCreds)
  /-- `handle_gc_set_observer` for a new observer. -/
  | receiveEntry (sanction : ModSanction) (creds : ModSanctionCreds)
  /-- `handle_gc_set_observer` for a former observer. -/
  | receiveRemoval (publicKey : PublicKey) (creds : ModSanctionCreds)
  /-- A new moderator list or a new shared state. -/
  | update (modList : List SigPublicKey) (founderPublicSigKey : SigPublicKey) (sharedStateVersion : UInt32)

namespace Moderation

variable (crypto : SignCrypto) (moderation : Moderation)

/-- The runs of a call of `sanctions_list_make_creds`. -/
def credsRuns : List SigningRun :=
  if (moderation.sanctionsListMakeCreds crypto).1 then [.creds moderation] else []

/-- The unsigned entry of `sanctions_list_make_entry`. -/
def newEntry (publicKey : PublicKey) (now : UInt64) : ModSanction :=
  { setterPublicSigKey := moderation.selfPublicSigKey
    timeSet := now
    type := saObserver
    targetPublicEncKey := publicKey
    signature := Vector.replicate _ 0 }

def makeEntryRuns (publicKey : PublicKey) (now : UInt64) : List SigningRun :=
  match moderation.sanctionsListSignEntry crypto (moderation.newEntry publicKey now) with
  | none => []
  | some sanction =>
    .entry moderation (moderation.newEntry publicKey now) ::
      match moderation.sanctionsListAddEntry crypto sanction none with
      | (false, _) => []
      | (true, moderation) => moderation.credsRuns crypto

/-- The runs of a call of `sanctions_list_remove_observer` without credentials. -/
def removeObserverRuns (publicKey : PublicKey) : List SigningRun :=
  match moderation.sanctions.findIdx? fun sanction =>
      sanction.type == saObserver && publicKey == sanction.targetPublicEncKey with
  | none => []
  | some index =>
    match moderation.sanctionsListRemoveIndex crypto index none with
    | (false, _) => []
    | (true, moderation) => moderation.credsRuns crypto

def replaceSigRuns (publicSigKey : SigPublicKey) : List SigningRun :=
  let replaced := moderation.sanctions.map (moderation.replaceSig crypto publicSigKey)
  (replaced.filter (·.1)).map (fun entry => .entry moderation entry.2) ++
    if 0 < replaced.countP (·.1) then
      credsRuns crypto { moderation with sanctions := replaced.map (·.2) }
    else []

def after : ModerationAction → Moderation
  | .makeCreds => (moderation.sanctionsListMakeCreds crypto).2
  | .makeEntry publicKey now => (moderation.sanctionsListMakeEntry crypto publicKey now).2
  | .removeObserver publicKey => (moderation.sanctionsListRemoveObserver crypto publicKey none).2
  | .replaceSig publicSigKey => (moderation.sanctionsListReplaceSig crypto publicSigKey).2
  | .setTopic _ => moderation
  | .receiveList sanctions creds => moderation.installSanctions crypto creds sanctions
  | .receiveEntry sanction creds => (moderation.sanctionsListAddEntry crypto sanction creds).2
  | .receiveRemoval publicKey creds =>
    (moderation.sanctionsListRemoveObserver crypto publicKey creds).2
  | .update modList founderPublicSigKey sharedStateVersion =>
    { moderation with modList, founderPublicSigKey, sharedStateVersion }

def runsOf : ModerationAction → List SigningRun
  | .makeCreds => moderation.credsRuns crypto
  | .makeEntry publicKey now => moderation.makeEntryRuns crypto publicKey now
  | .removeObserver publicKey => moderation.removeObserverRuns crypto publicKey
  | .replaceSig publicSigKey => moderation.replaceSigRuns crypto publicSigKey
  | .setTopic info => [.topic moderation info]
  | _ => []

def ModeratorsIn (keys : Set SigPublicKey) : Prop :=
  ∀ sigPk, moderation.modListVerifySigPk sigPk → sigPk ∈ keys

end Moderation

structure ModerationWorld where
  members : Nat → Moderation
  runs : List SigningRun

/-- A signature under one of the keys is valid only when the owner of the key made it. -/
def Unforged (crypto : SignCrypto) (keys : Set SigPublicKey) (runs : List SigningRun)
    (signature : Signature) (message : Bytes) (sigPk : SigPublicKey) : Prop :=
  sigPk ∈ keys → crypto.signatureVerify signature message sigPk →
    ∃ run ∈ runs, run.moderation.selfPublicSigKey = sigPk ∧ run.message crypto = message ∧
      run.signature crypto = some signature

namespace ModerationWorld

variable (crypto : SignCrypto) (keys : Set SigPublicKey)

/-- What a member receives is not forged, and only owners of `keys` become moderators. -/
def Enabled (world : ModerationWorld) : ModerationAction → Prop
  | .receiveList sanctions _ => ∀ sanction ∈ sanctions,
    Unforged crypto keys world.runs sanction.signature sanction.body sanction.setterPublicSigKey
  | .receiveEntry sanction _ =>
    Unforged crypto keys world.runs sanction.signature sanction.body sanction.setterPublicSigKey
  | .update modList founderPublicSigKey _ =>
    founderPublicSigKey ∈ keys ∧ ∀ sigPk ∈ modList, sigPk ∈ keys
  | _ => True

/-- Member `i` takes a step. -/
def apply (world : ModerationWorld) (i : Nat) (action : ModerationAction) : ModerationWorld where
  members := Function.update world.members i ((world.members i).after crypto action)
  runs := world.runs ++ (world.members i).runsOf crypto action

def system : TransitionSystem ModerationWorld where
  init world := world.runs = [] ∧ ∀ i, (world.members i).sanctions = [] ∧ (world.members i).ModeratorsIn keys
  step world world' := ∃ i action, Enabled crypto keys world action ∧ world' = world.apply crypto i action

end ModerationWorld

/-! ## What credentials bind -/

/-- `crypto_sign_detached` does not fail. -/
def SignCrypto.NeverFails (crypto : SignCrypto) : Prop :=
  ∀ message secretKey, (crypto.signatureCreate message secretKey).isSome

def DistinctSignatures (crypto : SignCrypto) (runs : List SigningRun) : Prop :=
  ∀ run ∈ runs, ∀ run' ∈ runs, run.signature crypto = run'.signature crypto →
    run.message crypto = run'.message crypto

def hashedData (runs : List SigningRun) (sanctions : List ModSanction) (version : UInt32) :
    Set Bytes :=
  { data | sanctions ≠ [] ∧ data = sanctionsHashData sanctions version ∨
    ∃ moderation, .creds moderation ∈ runs ∧ moderation.sanctions ≠ [] ∧
      data = sanctionsHashData moderation.sanctions (moderation.sanctionsCreds.version + 1) }

def SignCrypto.CollisionFree (crypto : SignCrypto) (data : Set Bytes) : Prop :=
  Set.InjOn crypto.sha256 data ∧ ∀ d ∈ data, crypto.sha256 d ≠ zeroDigest

/-- The owner of the key in the credentials has made credentials for this list and version. -/
def Produced (runs : List SigningRun) (creds : ModSanctionCreds) (sanctions : List ModSanction) :
    Prop :=
  ∃ moderation, .creds moderation ∈ runs ∧ moderation.selfPublicSigKey = creds.sigPk ∧
    moderation.sanctionsCreds.version + 1 = creds.version ∧ moderation.sanctions = sanctions

/-- Whenever the list is accepted, the owner of the key in the credentials made them for it. -/
def CredentialsBind (sanctions : List ModSanction) : Prop :=
  ∀ (crypto : SignCrypto) (keys : Set SigPublicKey) (world : ModerationWorld)
    (moderation : Moderation) (creds : ModSanctionCreds),
    crypto.NeverFails →
    (ModerationWorld.system crypto keys).Reachable world →
    DistinctSignatures crypto world.runs →
    crypto.CollisionFree (hashedData world.runs sanctions creds.version) →
    moderation.ModeratorsIn keys →
    (∀ sanction ∈ sanctions, Unforged crypto keys world.runs sanction.signature sanction.body
      sanction.setterPublicSigKey) →
    Unforged crypto keys world.runs creds.sig creds.hash.toList creds.sigPk →
    moderation.sanctionsListCheckIntegrity crypto creds sanctions →
    Produced world.runs creds sanctions

/-! ## Entries -/

theorem ModSanction.length_body (sanction : ModSanction) : sanction.body.length = 73 := by
  simp only [ModSanction.body, length_append, Vector.length_toList]
  rfl

theorem ModSanction.ext_body {sanction sanction' : ModSanction}
    (hbody : sanction.body = sanction'.body) (hsignature : sanction.signature = sanction'.signature) :
    sanction = sanction' := by
  simp only [ModSanction.body, append_assoc] at hbody
  obtain ⟨htype, hrest⟩ := append_inj hbody rfl
  obtain ⟨hsetter, hrest⟩ := append_inj hrest (by simp)
  obtain ⟨htime, htarget⟩ := append_inj hrest (by rw [length_netPackU64, length_netPackU64])
  have htime' : sanction.timeSet = sanction'.timeSet := by
    rw [← netUnpackU64_netPackU64_append sanction.timeSet [], htime, netUnpackU64_netPackU64_append]
  cases sanction
  cases sanction'
  simp_all [Vector.toList_inj]

theorem sanctionsListPack_singleton {sanction : ModSanction} (htype : sanction.type = saObserver) :
    sanctionsListPack modSanctionPackedSize [sanction] none =
      some (sanction.body ++ sanction.signature.toList) := by
  simp [sanctionsListPack, sanctionsListPackLoop, htype, modSanctionPackedSize, sigPublicKeySize,
    timeStampSize, cryptoPublicKeySize, signatureSize]

theorem take_body_append (sanction : ModSanction) :
    (sanction.body ++ sanction.signature.toList).take
      ((sanction.body ++ sanction.signature.toList).length - signatureSize) = sanction.body := by
  rw [length_append, Vector.length_toList, Nat.add_sub_cancel, take_left]

namespace Moderation

variable {crypto : SignCrypto} {moderation : Moderation}

theorem of_sanctionsListValidateEntry {sanction : ModSanction}
    (h : moderation.sanctionsListValidateEntry crypto sanction) :
    moderation.modListVerifySigPk sanction.setterPublicSigKey ∧ sanction.type = saObserver ∧
    crypto.signatureVerify sanction.signature sanction.body sanction.setterPublicSigKey := by
  rw [sanctionsListValidateEntry] at h
  split at h
  · exact absurd h (by simp)
  rename_i hmod
  split at h
  · exact absurd h (by simp)
  rename_i htype
  split at h
  · exact absurd h (by simp)
  have htype : sanction.type = saObserver := by
    rw [ge_iff_le, UInt8.le_iff_toNat_le, show saInvalid.toNat = 1 from rfl] at htype
    apply UInt8.toNat_inj.mp
    rw [show saObserver.toNat = 0 from rfl]
    omega
  rw [sanctionsListPack_singleton htype] at h
  dsimp only at h
  split at h
  · exact absurd h (by simp)
  rw [take_body_append] at h
  exact ⟨by simpa using hmod, htype, h⟩

theorem sanctionsListSignEntry_eq_some {sanction signed : ModSanction}
    (h : moderation.sanctionsListSignEntry crypto sanction = some signed) :
    sanction.type = saObserver ∧ signed.type = saObserver ∧ signed.body = sanction.body ∧
    crypto.signatureCreate sanction.body moderation.selfSecretSigKey = some signed.signature := by
  have htype : sanction.type = saObserver := by
    by_contra hne
    simp [sanctionsListSignEntry, sanctionsListPack, sanctionsListPackLoop, hne] at h
  rw [sanctionsListSignEntry, sanctionsListPack_singleton htype] at h
  dsimp only at h
  split at h
  · exact absurd h (by simp)
  rw [take_body_append] at h
  split at h
  · exact absurd h (by simp)
  rename_i signature hsignature
  cases Option.some.inj h
  exact ⟨htype, htype, rfl, hsignature⟩

theorem sanctionsListSignEntry_ne_none (hcrypto : crypto.NeverFails) {sanction : ModSanction}
    (htype : sanction.type = saObserver) :
    moderation.sanctionsListSignEntry crypto sanction ≠ none := by
  rw [sanctionsListSignEntry, sanctionsListPack_singleton htype]
  dsimp only
  have hlen : ¬(sanction.body ++ sanction.signature.toList).length ≤ signatureSize := by
    rw [length_append, sanction.length_body, Vector.length_toList]
    omega
  rw [if_neg hlen, take_body_append]
  have hsome := hcrypto sanction.body moderation.selfSecretSigKey
  cases hsig : crypto.signatureCreate sanction.body moderation.selfSecretSigKey with
  | none => rw [hsig] at hsome; exact absurd hsome (by simp)
  | some signature => simp

end Moderation

/-! ## Steps of a member -/

structure Kept (P : ModSanction → Prop) (moderation moderation' : Moderation) : Prop where
  modList : moderation'.modList = moderation.modList
  founder : moderation'.founderPublicSigKey = moderation.founderPublicSigKey
  sanctions : (∀ sanction ∈ moderation.sanctions, P sanction) → ∀ sanction ∈ moderation'.sanctions, P sanction

namespace Kept

variable {P : ModSanction → Prop} {crypto : SignCrypto} {moderation moderation' : Moderation}

theorem refl : Kept P moderation moderation := ⟨rfl, rfl, fun h => h⟩

theorem trans {moderation'' : Moderation} (h : Kept P moderation moderation')
    (h' : Kept P moderation' moderation'') : Kept P moderation moderation'' :=
  ⟨h'.modList.trans h.modList, h'.founder.trans h.founder, fun hP => h'.sanctions (h.sanctions hP)⟩

theorem moderatorsIn (h : Kept P moderation moderation') {keys : Set SigPublicKey}
    (hkeys : moderation.ModeratorsIn keys) : moderation'.ModeratorsIn keys := by
  intro sigPk hmod
  apply hkeys sigPk
  rw [Moderation.modListVerifySigPk, h.modList, h.founder] at hmod
  exact hmod

theorem sanctionsListMakeCreds : Kept P moderation (moderation.sanctionsListMakeCreds crypto).2 := by
  rw [Moderation.sanctionsListMakeCreds]
  split
  · exact refl
  · exact ⟨rfl, rfl, fun h => h⟩

theorem sanctionsApplyNew {sanctions : List ModSanction} {creds : Option ModSanctionCreds}
    (hP : (∀ sanction ∈ moderation.sanctions, P sanction) → ∀ sanction ∈ sanctions, P sanction) :
    Kept P moderation (moderation.sanctionsApplyNew crypto sanctions creds).2 := by
  cases creds with
  | none => exact ⟨rfl, rfl, hP⟩
  | some creds =>
    rw [Moderation.sanctionsApplyNew]
    split
    · exact refl
    · exact ⟨rfl, rfl, hP⟩

theorem sanctionsListRemoveIndex {index : Nat} {creds : Option ModSanctionCreds} :
    Kept P moderation (moderation.sanctionsListRemoveIndex crypto index creds).2 := by
  rw [Moderation.sanctionsListRemoveIndex]
  split
  · rename_i last _ hlast
    apply sanctionsApplyNew
    intro hP sanction hmem
    rcases mem_or_eq_of_mem_set (mem_of_mem_take hmem) with hmem | rfl
    · exact hP sanction hmem
    · exact hP _ (mem_of_getElem? hlast)
  · exact refl

theorem sanctionsListRemoveObserver {publicKey : PublicKey} {creds : Option ModSanctionCreds} :
    Kept P moderation (moderation.sanctionsListRemoveObserver crypto publicKey creds).2 := by
  rw [Moderation.sanctionsListRemoveObserver]
  split
  · exact refl
  rename_i index _
  have hremove := @sanctionsListRemoveIndex P crypto moderation index creds
  split
  · rename_i hresult
    rw [hresult] at hremove
    exact hremove
  · rename_i hresult
    rw [hresult] at hremove
    exact hremove.trans sanctionsListMakeCreds
  · rename_i hresult
    rw [hresult] at hremove
    exact hremove

theorem sanctionsListAddEntry {sanction : ModSanction} {creds : Option ModSanctionCreds}
    (hP : moderation.sanctionsListValidateEntry crypto sanction → P sanction) :
    Kept P moderation (moderation.sanctionsListAddEntry crypto sanction creds).2 := by
  rw [Moderation.sanctionsListAddEntry]
  split
  · exact refl
  split
  · exact refl
  rename_i hvalid
  split
  · exact refl
  apply sanctionsApplyNew
  intro hall entry hmem
  rcases mem_append.mp hmem with hmem | hmem
  · exact hall entry hmem
  · rw [mem_singleton.mp hmem]
    exact hP (by simpa using hvalid)

theorem installSanctions {creds : ModSanctionCreds} {sanctions : List ModSanction}
    (hP : ∀ sanction ∈ sanctions, moderation.sanctionsListValidateEntry crypto sanction → P sanction) :
    Kept P moderation (moderation.installSanctions crypto creds sanctions) := by
  rw [Moderation.installSanctions]
  split
  · exact refl
  rename_i hcheck
  split
  · exact refl
  split
  · exact refl
  refine ⟨rfl, rfl, fun _ sanction hmem => hP sanction hmem ?_⟩
  rw [Moderation.sanctionsListCheckIntegrity] at hcheck
  split at hcheck
  · exact absurd hcheck (by simp)
  · rename_i hall
    have hall : sanctions.all (moderation.sanctionsListValidateEntry crypto) = true := by
      simpa using hall
    exact all_eq_true.mp hall sanction hmem

end Kept

/-! ## Genuine entries -/

def Genuine (crypto : SignCrypto) (runs : List SigningRun) (sanction : ModSanction) : Prop :=
  sanction.type = saObserver ∧ ∃ run ∈ runs, run.message crypto = sanction.body ∧
    run.signature crypto = some sanction.signature

namespace Genuine

variable {crypto : SignCrypto} {runs : List SigningRun} {sanction : ModSanction} {moderation : Moderation}

theorem append (h : Genuine crypto runs sanction) (more : List SigningRun) :
    Genuine crypto (runs ++ more) sanction := by
  obtain ⟨htype, run, hrun, hmessage, hsignature⟩ := h
  exact ⟨htype, run, mem_append_left _ hrun, hmessage, hsignature⟩

theorem of_signEntry {unsigned : ModSanction}
    (h : moderation.sanctionsListSignEntry crypto unsigned = some sanction)
    {entry : ModSanction} (hentry : entry.body = unsigned.body)
    (hrun : .entry moderation entry ∈ runs) : Genuine crypto runs sanction := by
  obtain ⟨-, htype, hbody, hsignature⟩ := Moderation.sanctionsListSignEntry_eq_some h
  refine ⟨htype, .entry moderation entry, hrun, hentry.trans hbody.symm, ?_⟩
  rw [SigningRun.signature, SigningRun.message, hentry]
  exact hsignature

theorem of_validateEntry {keys : Set SigPublicKey} (hkeys : moderation.ModeratorsIn keys)
    (hunforged : Unforged crypto keys runs sanction.signature sanction.body sanction.setterPublicSigKey)
    (h : moderation.sanctionsListValidateEntry crypto sanction) : Genuine crypto runs sanction := by
  obtain ⟨hmod, htype, hverify⟩ := Moderation.of_sanctionsListValidateEntry h
  obtain ⟨run, hrun, -, hmessage, hsignature⟩ := hunforged (hkeys _ hmod) hverify
  exact ⟨htype, run, hrun, hmessage, hsignature⟩

end Genuine

namespace Moderation

variable {crypto : SignCrypto} {moderation : Moderation} {runs : List SigningRun}

def AllGenuine (crypto : SignCrypto) (runs : List SigningRun) (moderation : Moderation) : Prop :=
  ∀ sanction ∈ moderation.sanctions, Genuine crypto runs sanction

theorem AllGenuine.append (h : AllGenuine crypto runs moderation) (more : List SigningRun) :
    AllGenuine crypto (runs ++ more) moderation :=
  fun sanction hmem => (h sanction hmem).append more

theorem eq_of_mem_credsRuns {moderation' : Moderation}
    (h : .creds moderation' ∈ moderation.credsRuns crypto) : moderation' = moderation := by
  rw [credsRuns] at h
  split at h
  · exact SigningRun.creds.inj (mem_singleton.mp h)
  · exact absurd h (by simp)

theorem makeEntry_genuine (publicKey : PublicKey) (now : UInt64) (h : AllGenuine crypto runs moderation) :
    let runs' := runs ++ moderation.makeEntryRuns crypto publicKey now
    Kept (Genuine crypto runs') moderation (moderation.sanctionsListMakeEntry crypto publicKey now).2 ∧
    ∀ moderation', .creds moderation' ∈ moderation.makeEntryRuns crypto publicKey now →
      AllGenuine crypto runs' moderation' := by
  intro runs'
  have hruns : runs' = runs ++ moderation.makeEntryRuns crypto publicKey now := rfl
  clear_value runs'
  rw [sanctionsListMakeEntry, ← newEntry]
  rw [makeEntryRuns] at hruns ⊢
  cases hsign : moderation.sanctionsListSignEntry crypto (moderation.newEntry publicKey now) with
  | none => exact ⟨Kept.refl, fun _ hmem => absurd hmem (by simp)⟩
  | some sanction =>
    rw [hsign] at hruns
    have hgenuine : Genuine crypto runs' sanction :=
      Genuine.of_signEntry hsign rfl (by rw [hruns]; exact mem_append_right _ (mem_cons_self ..))
    have hadd : Kept (Genuine crypto runs') moderation
        (moderation.sanctionsListAddEntry crypto sanction none).2 :=
      Kept.sanctionsListAddEntry fun _ => hgenuine
    dsimp only
    cases hresult : moderation.sanctionsListAddEntry crypto sanction none with
    | mk ok moderation1 =>
      rw [hresult] at hadd
      cases ok with
      | false => exact ⟨hadd, fun _ hmem => absurd hmem (by simp)⟩
      | true =>
        refine ⟨hadd.trans Kept.sanctionsListMakeCreds, fun moderation' hmem => ?_⟩
        rcases mem_cons.mp hmem with hmem | hmem
        · exact absurd hmem (by simp)
        rw [eq_of_mem_credsRuns hmem]
        apply hadd.sanctions
        rw [hruns]
        exact h.append _

theorem removeObserver_genuine (publicKey : PublicKey) (h : AllGenuine crypto runs moderation)
    {moderation' : Moderation} (hmem : .creds moderation' ∈ moderation.removeObserverRuns crypto publicKey) :
    AllGenuine crypto runs moderation' := by
  rw [removeObserverRuns] at hmem
  split at hmem
  · exact absurd hmem (by simp)
  rename_i index _
  have hremove := @Kept.sanctionsListRemoveIndex (Genuine crypto runs) crypto moderation index none
  split at hmem
  · exact absurd hmem (by simp)
  rename_i hresult
  rw [hresult] at hremove
  rw [eq_of_mem_credsRuns hmem]
  exact hremove.sanctions h

section

variable (hcrypto : crypto.NeverFails)
include hcrypto

theorem replaceSig_genuine (publicSigKey : SigPublicKey)
    (h : AllGenuine crypto runs moderation) {sanction : ModSanction}
    (hmem : sanction ∈ moderation.sanctions)
    (hrun : (moderation.replaceSig crypto publicSigKey sanction).1 →
      .entry moderation (moderation.replaceSig crypto publicSigKey sanction).2 ∈ runs) :
    Genuine crypto runs (moderation.replaceSig crypto publicSigKey sanction).2 := by
  rw [replaceSig] at hrun ⊢
  split
  · exact h sanction hmem
  rename_i hsetter
  rw [if_neg hsetter] at hrun
  dsimp only at hrun ⊢
  -- an entry for an observer is signed without an error
  have htype := (h sanction hmem).1
  cases hsign : moderation.sanctionsListSignEntry crypto
      { sanction with setterPublicSigKey := moderation.selfPublicSigKey } with
  | none => exact absurd hsign (sanctionsListSignEntry_ne_none hcrypto htype)
  | some signed =>
    rw [hsign] at hrun
    exact Genuine.of_signEntry hsign (sanctionsListSignEntry_eq_some hsign).2.2.1 (hrun rfl)

theorem replaceSigList_genuine (publicSigKey : SigPublicKey) (h : AllGenuine crypto runs moderation) :
    AllGenuine crypto (runs ++ moderation.replaceSigRuns crypto publicSigKey)
      { moderation with sanctions :=
        (moderation.sanctions.map (moderation.replaceSig crypto publicSigKey)).map (·.2) } := by
  intro sanction hmem
  obtain ⟨entry, hentry, rfl⟩ := mem_map.mp hmem
  obtain ⟨old, hold, rfl⟩ := mem_map.mp hentry
  refine replaceSig_genuine hcrypto publicSigKey (h.append _) hold fun hsigned => ?_
  apply mem_append_right
  apply mem_append_left
  exact mem_map_of_mem (mem_filter.mpr ⟨hentry, hsigned⟩)

theorem sanctionsListReplaceSig_kept (publicSigKey : SigPublicKey) (h : AllGenuine crypto runs moderation) :
    Kept (Genuine crypto (runs ++ moderation.replaceSigRuns crypto publicSigKey)) moderation
      (moderation.sanctionsListReplaceSig crypto publicSigKey).2 := by
  have hreplaced : Kept (Genuine crypto (runs ++ moderation.replaceSigRuns crypto publicSigKey))
      moderation { moderation with sanctions :=
        (moderation.sanctions.map (moderation.replaceSig crypto publicSigKey)).map (·.2) } :=
    ⟨rfl, rfl, fun _ => replaceSigList_genuine hcrypto publicSigKey h⟩
  rw [sanctionsListReplaceSig]
  split
  · have hcreds := hreplaced.trans (@Kept.sanctionsListMakeCreds _ crypto _)
    split
    · rename_i hresult
      rw [hresult] at hcreds
      exact hcreds
    · rename_i hresult
      rw [hresult] at hcreds
      exact hcreds
  · exact hreplaced

theorem replaceSigRuns_genuine (publicSigKey : SigPublicKey) (h : AllGenuine crypto runs moderation)
    {moderation' : Moderation} (hmem : .creds moderation' ∈ moderation.replaceSigRuns crypto publicSigKey) :
    AllGenuine crypto (runs ++ moderation.replaceSigRuns crypto publicSigKey) moderation' := by
  have hlist := replaceSigList_genuine hcrypto publicSigKey h
  rcases mem_append.mp hmem with hmem | hmem
  · obtain ⟨entry, -, hentry⟩ := mem_map.mp hmem
    exact absurd hentry (by simp)
  split at hmem
  · rw [eq_of_mem_credsRuns hmem]
    exact hlist
  · exact absurd hmem (by simp)

end

end Moderation

/-! ## Runs -/

/-- Members only know moderators in `keys` and genuine entries, and credentials for such. -/
structure ModerationWorld.Sound (crypto : SignCrypto) (keys : Set SigPublicKey)
    (world : ModerationWorld) : Prop where
  moderators : ∀ i, (world.members i).ModeratorsIn keys
  entries : ∀ i, (world.members i).AllGenuine crypto world.runs
  creds : ∀ moderation, .creds moderation ∈ world.runs → moderation.AllGenuine crypto world.runs

namespace ModerationWorld.Sound

variable {crypto : SignCrypto} {keys : Set SigPublicKey} {world : ModerationWorld}

theorem after (hcrypto : crypto.NeverFails) (h : world.Sound crypto keys) (i : Nat)
    {action : ModerationAction} (henabled : Enabled crypto keys world action) :
    ((world.members i).after crypto action).ModeratorsIn keys ∧
    ((world.members i).after crypto action).AllGenuine crypto
      (world.runs ++ (world.members i).runsOf crypto action) := by
  have hmoderators := h.moderators i
  have hentries := h.entries i
  have hkept {moderation' : Moderation} {runs : List SigningRun}
      (hkept : Kept (Genuine crypto (world.runs ++ runs)) (world.members i) moderation') :
      moderation'.ModeratorsIn keys ∧ moderation'.AllGenuine crypto (world.runs ++ runs) :=
    ⟨hkept.moderatorsIn hmoderators, hkept.sanctions (hentries.append runs)⟩
  cases action with
  | makeCreds => exact hkept Kept.sanctionsListMakeCreds
  | makeEntry publicKey now => exact hkept (Moderation.makeEntry_genuine publicKey now hentries).1
  | removeObserver publicKey => exact hkept Kept.sanctionsListRemoveObserver
  | replaceSig publicSigKey =>
    exact hkept (Moderation.sanctionsListReplaceSig_kept hcrypto publicSigKey hentries)
  | setTopic info => exact hkept Kept.refl
  | receiveList sanctions creds =>
    exact hkept (Kept.installSanctions fun sanction hmem hvalid =>
      (Genuine.of_validateEntry hmoderators (henabled sanction hmem) hvalid).append _)
  | receiveEntry sanction creds =>
    exact hkept (Kept.sanctionsListAddEntry fun hvalid =>
      (Genuine.of_validateEntry hmoderators henabled hvalid).append _)
  | receiveRemoval publicKey creds => exact hkept Kept.sanctionsListRemoveObserver
  | update modList founderPublicSigKey sharedStateVersion =>
    refine ⟨fun sigPk hmod => ?_, hentries.append _⟩
    rw [Moderation.modListVerifySigPk, Bool.or_eq_true] at hmod
    rcases hmod with hfounder | hmem
    · rw [← eq_of_beq hfounder]
      exact henabled.1
    · exact henabled.2 sigPk (contains_iff_mem.mp hmem)

theorem runsOf (hcrypto : crypto.NeverFails) (h : world.Sound crypto keys) (i : Nat)
    (action : ModerationAction) {moderation : Moderation}
    (hmem : .creds moderation ∈ (world.members i).runsOf crypto action) :
    moderation.AllGenuine crypto (world.runs ++ (world.members i).runsOf crypto action) := by
  have hentries := h.entries i
  cases action with
  | makeCreds =>
    rw [Moderation.eq_of_mem_credsRuns hmem]
    exact hentries.append _
  | makeEntry publicKey now =>
    exact (Moderation.makeEntry_genuine publicKey now hentries).2 moderation hmem
  | removeObserver publicKey =>
    exact (Moderation.removeObserver_genuine publicKey hentries hmem).append _
  | replaceSig publicSigKey =>
    exact Moderation.replaceSigRuns_genuine hcrypto publicSigKey hentries hmem
  | setTopic info => exact absurd hmem (by simp [Moderation.runsOf])
  | receiveList sanctions creds => exact absurd hmem (by simp [Moderation.runsOf])
  | receiveEntry sanction creds => exact absurd hmem (by simp [Moderation.runsOf])
  | receiveRemoval publicKey creds => exact absurd hmem (by simp [Moderation.runsOf])
  | update modList founderPublicSigKey sharedStateVersion =>
    exact absurd hmem (by simp [Moderation.runsOf])

theorem apply (hcrypto : crypto.NeverFails) (h : world.Sound crypto keys) (i : Nat)
    {action : ModerationAction} (henabled : Enabled crypto keys world action) :
    (world.apply crypto i action).Sound crypto keys := by
  obtain ⟨hmoderators, hentries⟩ := h.after hcrypto i henabled
  constructor
  case moderators =>
    intro j
    by_cases hj : j = i
    · subst hj
      simpa [ModerationWorld.apply] using hmoderators
    · simpa [ModerationWorld.apply, Function.update_of_ne hj] using h.moderators j
  case entries =>
    intro j
    by_cases hj : j = i
    · subst hj
      simpa [ModerationWorld.apply] using hentries
    · simpa [ModerationWorld.apply, Function.update_of_ne hj] using (h.entries j).append _
  case creds =>
    intro moderation hmem
    rcases mem_append.mp hmem with hmem | hmem
    · exact (h.creds moderation hmem).append _
    · exact h.runsOf hcrypto i action hmem

theorem of_reachable (hcrypto : crypto.NeverFails)
    (h : (system crypto keys).Reachable world) : world.Sound crypto keys := by
  refine h.invariant ?_ ?_
  · intro world hinit
    obtain ⟨hruns, hmembers⟩ := hinit
    constructor
    case moderators => exact fun i => (hmembers i).2
    case entries =>
      intro i sanction hmem
      rw [(hmembers i).1] at hmem
      exact absurd hmem (by simp)
    case creds =>
      intro moderation hmem
      rw [hruns] at hmem
      exact absurd hmem (by simp)
  · intro world world' hsound hstep
    obtain ⟨i, action, henabled, rfl⟩ := hstep
    exact hsound.apply hcrypto i henabled

end ModerationWorld.Sound

/-! ## Non-empty lists -/

theorem Moderation.of_sanctionsListCheckIntegrity {crypto : SignCrypto} {moderation : Moderation}
    {creds : ModSanctionCreds} {sanctions : List ModSanction}
    (h : moderation.sanctionsListCheckIntegrity crypto creds sanctions) :
    (∀ sanction ∈ sanctions, moderation.sanctionsListValidateEntry crypto sanction) ∧
    moderation.modListVerifySigPk creds.sigPk ∧
    sanctionsListMakeHash crypto sanctions creds.version = creds.hash ∧
    crypto.signatureVerify creds.sig creds.hash.toList creds.sigPk := by
  rw [sanctionsListCheckIntegrity] at h
  split at h
  · exact absurd h (by simp)
  rename_i hall
  have hall : sanctions.all (moderation.sanctionsListValidateEntry crypto) = true := by
    simpa using hall
  refine ⟨all_eq_true.mp hall, ?_⟩
  rw [sanctionsCredsValidate] at h
  split at h
  · exact absurd h (by simp)
  rename_i hmod
  split at h
  · exact absurd h (by simp)
  rename_i hhash
  have hhash : sanctionsListMakeHash crypto sanctions creds.version = creds.hash := by
    simpa using hhash
  split at h
  · exact absurd h (by simp)
  split at h
  · exact absurd h (by simp)
  rw [hhash] at h
  exact ⟨by simpa using hmod, hhash, h⟩

theorem SigningRun.eq_creds {crypto : SignCrypto} {run : SigningRun} {hash : Digest}
    (h : run.message crypto = hash.toList) :
    run = .creds run.moderation ∧ (run.moderation.newCreds crypto).hash = hash := by
  have hlen := congrArg List.length h
  rw [Vector.length_toList, show cryptoSha256Size = 32 from rfl] at hlen
  cases run with
  | creds moderation => exact ⟨rfl, Vector.toList_inj.mp h⟩
  | entry moderation sanction =>
    rw [message, sanction.length_body] at hlen
    omega
  | topic moderation info =>
    rw [message, length_packGcTopicInfo, show gcMinPackedTopicInfoSize = 40 from rfl] at hlen
    omega

theorem length_flatMap_signatures (sanctions : List ModSanction) :
    (sanctions.flatMap (·.signature.toList)).length = sanctions.length * signatureSize :=
  List.length_flatMap_of_length_eq (fun _ => Vector.length_toList) sanctions

theorem sanctionsHashData_inj {sanctions sanctions' : List ModSanction} {version version' : UInt32}
    (h : sanctionsHashData sanctions version = sanctionsHashData sanctions' version') :
    sanctions.flatMap (·.signature.toList) = sanctions'.flatMap (·.signature.toList) ∧
    version = version' := by
  obtain ⟨hsignatures, hversion⟩ := append_inj' h (by simp)
  refine ⟨hsignatures, ?_⟩
  have hnat := congrArg ofLittleEndian hversion
  rw [ofLittleEndian_toLittleEndian, ofLittleEndian_toLittleEndian, show 256 ^ 4 = 2 ^ 32 from rfl,
    Nat.mod_eq_of_lt version.toNat_lt, Nat.mod_eq_of_lt version'.toNat_lt] at hnat
  exact UInt32.toNat_inj.mp hnat

theorem eq_of_flatMap_signatures {sanctions sanctions' : List ModSanction}
    (h : sanctions.flatMap (·.signature.toList) = sanctions'.flatMap (·.signature.toList))
    (hunique : ∀ sanction ∈ sanctions, ∀ sanction' ∈ sanctions',
      sanction.signature = sanction'.signature → sanction = sanction') :
    sanctions = sanctions' := by
  induction sanctions generalizing sanctions' with
  | nil =>
    have hlen := congrArg List.length h
    rw [length_flatMap_signatures, length_flatMap_signatures, show signatureSize = 64 from rfl] at hlen
    rw [eq_comm, ← length_eq_zero_iff]
    simp only [length_nil] at hlen
    omega
  | cons sanction sanctions ih =>
    cases sanctions' with
    | nil =>
      have hlen := congrArg List.length h
      rw [length_flatMap_signatures, length_flatMap_signatures, show signatureSize = 64 from rfl] at hlen
      simp only [length_cons, length_nil] at hlen
      omega
    | cons sanction' sanctions' =>
      obtain ⟨hhead, htail⟩ := append_inj h (by simp)
      rw [hunique sanction (mem_cons_self ..) sanction' (mem_cons_self ..) (Vector.toList_inj.mp hhead)]
      rw [ih htail fun s hs s' hs' => hunique s (mem_cons_of_mem _ hs) s' (mem_cons_of_mem _ hs')]

theorem Genuine.eq_of_signature {crypto : SignCrypto} {runs : List SigningRun}
    (hdistinct : DistinctSignatures crypto runs) {sanction sanction' : ModSanction}
    (h : Genuine crypto runs sanction) (h' : Genuine crypto runs sanction')
    (hsignature : sanction.signature = sanction'.signature) : sanction = sanction' := by
  obtain ⟨-, run, hrun, hmessage, hrunSignature⟩ := h
  obtain ⟨-, run', hrun', hmessage', hrunSignature'⟩ := h'
  apply ModSanction.ext_body _ hsignature
  rw [← hmessage, ← hmessage']
  apply hdistinct run hrun run' hrun'
  rw [hrunSignature, hrunSignature', hsignature]

theorem credentialsBind_of_ne_nil {sanctions : List ModSanction} (hne : sanctions ≠ []) :
    CredentialsBind sanctions := by
  intro crypto keys world moderation creds hcrypto hreachable hdistinct hcollision hkeys hunforged hcreds hcheck
  have hsound := ModerationWorld.Sound.of_reachable hcrypto hreachable
  obtain ⟨hvalid, hmod, hhash, hverify⟩ := Moderation.of_sanctionsListCheckIntegrity hcheck
  -- the owner of the key has signed the hash, and only in `sanctions_list_make_creds`
  obtain ⟨run, hrun, hkey, hmessage, -⟩ := hcreds (hkeys _ hmod) hverify
  obtain ⟨hrunCreds, hrunHash⟩ := SigningRun.eq_creds hmessage
  rw [hrunCreds] at hrun
  have hlen : ¬sanctions.length = 0 := fun hzero => hne (length_eq_zero_iff.mp hzero)
  have hdata : sanctionsHashData sanctions creds.version ∈
      hashedData world.runs sanctions creds.version := .inl ⟨hne, rfl⟩
  rw [sanctionsListMakeHash, if_neg hlen] at hhash
  have hrunHash : sanctionsListMakeHash crypto run.moderation.sanctions
      (run.moderation.sanctionsCreds.version + 1) = creds.hash := hrunHash
  rw [sanctionsListMakeHash] at hrunHash
  split at hrunHash
  · exact absurd (hhash.trans hrunHash.symm) (hcollision.2 _ hdata)
  rename_i hlen'
  have hdata' : sanctionsHashData run.moderation.sanctions
      (run.moderation.sanctionsCreds.version + 1) ∈
      hashedData world.runs sanctions creds.version :=
    .inr ⟨run.moderation, hrun, fun hnil => hlen' (length_eq_zero_iff.mpr hnil), rfl⟩
  obtain ⟨hsignatures, hversion⟩ :=
    sanctionsHashData_inj (hcollision.1 hdata' hdata (hrunHash.trans hhash.symm))
  refine ⟨run.moderation, hrun, hkey, hversion, ?_⟩
  apply eq_of_flatMap_signatures hsignatures
  intro sanction hmem sanction' hmem'
  exact Genuine.eq_of_signature hdistinct (hsound.creds _ hrun sanction hmem)
    (Genuine.of_validateEntry hkeys (hunforged sanction' hmem') (hvalid sanction' hmem'))

/-! ## Examples with Ed25519 and SHA-256 -/

def founderSigPk : SigPublicKey :=
  #v[215, 90, 152, 1, 130, 177, 10, 183, 213, 75, 254, 211, 201, 100, 7, 58,
    14, 225, 114, 243, 218, 166, 35, 37, 175, 2, 26, 104, 247, 7, 81, 26]

def founderSigSk : SigSecretKey :=
  #v[157, 97, 177, 157, 239, 253, 90, 96, 186, 132, 74, 244, 146, 236, 44, 196,
    68, 73, 197, 105, 123, 50, 105, 25, 112, 59, 172, 3, 28, 174, 127, 96,
    215, 90, 152, 1, 130, 177, 10, 183, 213, 75, 254, 211, 201, 100, 7, 58,
    14, 225, 114, 243, 218, 166, 35, 37, 175, 2, 26, 104, 247, 7, 81, 26]

def emptyListSig : Signature :=
  #v[53, 92, 116, 5, 58, 56, 10, 181, 139, 41, 141, 226, 58, 220, 202, 73,
    243, 155, 124, 165, 10, 44, 236, 91, 134, 31, 108, 127, 221, 248, 124, 138,
    83, 183, 140, 123, 179, 149, 146, 104, 192, 219, 30, 222, 176, 68, 7, 134,
    131, 158, 245, 222, 250, 173, 98, 50, 144, 7, 97, 152, 86, 11, 60, 2]

def observerEntry : ModSanction where
  setterPublicSigKey := founderSigPk
  timeSet := 1000
  type := saObserver
  targetPublicEncKey := Vector.replicate _ 1
  signature := #v[88, 203, 108, 59, 142, 165, 53, 81, 13, 63, 77, 108, 101, 236, 55, 72,
    20, 193, 20, 157, 13, 43, 112, 80, 32, 58, 98, 142, 239, 62, 239, 124,
    89, 145, 221, 231, 145, 230, 196, 83, 213, 85, 14, 201, 133, 252, 242, 236,
    68, 61, 157, 136, 113, 106, 254, 169, 254, 80, 36, 226, 112, 5, 23, 14]

/-- The hash of the list of this entry with the version `1`, and its signature. -/
def observerListHash : Digest :=
  #v[79, 92, 39, 149, 57, 239, 6, 78, 178, 28, 78, 146, 101, 180, 154, 13,
    131, 222, 143, 31, 121, 246, 202, 54, 43, 84, 166, 178, 200, 207, 118, 218]

def observerListSig : Signature :=
  #v[212, 212, 81, 147, 49, 186, 226, 149, 62, 108, 87, 84, 133, 212, 228, 187,
    114, 23, 63, 89, 163, 176, 122, 232, 47, 207, 229, 47, 6, 193, 12, 252,
    128, 27, 201, 227, 49, 13, 247, 243, 144, 147, 136, 124, 94, 73, 99, 168,
    9, 76, 83, 6, 116, 163, 65, 116, 40, 66, 11, 4, 62, 111, 148, 6]

/-- The functions of libsodium for the messages that the founder hashes and signs here. -/
def founderCrypto : SignCrypto where
  sha256 data :=
    if data = sanctionsHashData [observerEntry] 1 then observerListHash else zeroDigest
  signatureCreate message secretKey :=
    if secretKey ≠ founderSigSk then some (Vector.replicate _ 0)
    else if message = zeroDigest.toList then some emptyListSig
    else if message = observerEntry.body then some observerEntry.signature
    else if message = observerListHash.toList then some observerListSig
    else some (Vector.replicate _ 0)
  signatureVerify signature message sigPk :=
    sigPk == founderSigPk &&
      (signature == emptyListSig && message == zeroDigest.toList ||
        signature == observerEntry.signature && message == observerEntry.body ||
        signature == observerListSig && message == observerListHash.toList)

theorem founderCrypto_neverFails : founderCrypto.NeverFails := by
  intro message secretKey
  rw [founderCrypto]
  dsimp only
  split_ifs <;> rfl

def newModeration (sigPk : SigPublicKey) (sigSk : SigSecretKey) : Moderation where
  sanctions := []
  sanctionsCreds :=
    { version := 0, hash := zeroDigest, checksum := 0, sigPk := Vector.replicate _ 0
      sig := Vector.replicate _ 0 }
  modList := []
  founderPublicSigKey := founderSigPk
  selfPublicSigKey := sigPk
  selfSecretSigKey := sigSk
  sharedStateVersion := 1

def founderModeration : Moderation := newModeration founderSigPk founderSigSk

def memberModeration : Moderation := newModeration (Vector.replicate _ 1) (Vector.replicate _ 1)

theorem newModeration_moderatorsIn (sigPk : SigPublicKey) (sigSk : SigSecretKey) :
    (newModeration sigPk sigSk).ModeratorsIn {founderSigPk} := by
  intro key hmod
  rw [Moderation.modListVerifySigPk, Bool.or_eq_true] at hmod
  rcases hmod with hfounder | hmem
  · exact (eq_of_beq hfounder).symm
  · exact absurd (contains_iff_mem.mp hmem) (by simp [newModeration])

def newWorld : ModerationWorld where
  members i := if i = 0 then founderModeration else memberModeration
  runs := []

theorem newWorld_reachable (action : ModerationAction)
    (henabled : ModerationWorld.Enabled founderCrypto {founderSigPk} newWorld action) :
    (ModerationWorld.system founderCrypto {founderSigPk}).Reachable
      (newWorld.apply founderCrypto 0 action) := by
  refine .step (.init ⟨rfl, fun i => ?_⟩) ⟨0, action, henabled, rfl⟩
  rw [newWorld]
  dsimp only
  split <;> exact ⟨rfl, newModeration_moderatorsIn _ _⟩

/-! ## The empty list -/

/-- The credentials of the founder for the empty list, with the version `8`. -/
def replayedCreds : ModSanctionCreds where
  version := 8
  hash := zeroDigest
  checksum := 0
  sigPk := founderSigPk
  sig := emptyListSig

theorem not_credentialsBind_nil : ¬CredentialsBind [] := by
  intro hbind
  have hruns : (newWorld.apply founderCrypto 0 .makeCreds).runs = [.creds founderModeration] := rfl
  have hproduced : Produced (newWorld.apply founderCrypto 0 .makeCreds).runs replayedCreds [] := by
    apply hbind founderCrypto {founderSigPk} _ memberModeration replayedCreds
      founderCrypto_neverFails (newWorld_reachable .makeCreds trivial)
    · rw [hruns]
      intro run hrun run' hrun' _
      rw [mem_singleton.mp hrun, mem_singleton.mp hrun']
    · -- nothing was hashed
      have hnone : ∀ data, data ∉
          hashedData (newWorld.apply founderCrypto 0 .makeCreds).runs [] replayedCreds.version := by
        intro data hdata
        rcases hdata with ⟨hne, -⟩ | ⟨moderation, hmem, hne, -⟩
        · exact hne rfl
        · cases SigningRun.creds.inj (mem_singleton.mp hmem)
          exact hne rfl
      exact ⟨fun data hdata => absurd hdata (hnone data), fun data hdata => absurd hdata (hnone data)⟩
    · exact newModeration_moderatorsIn _ _
    · intro sanction hmem
      exact absurd hmem (by simp)
    · intro _ _
      exact ⟨_, mem_singleton_self _, rfl, by decide +kernel, by decide +kernel⟩
    · decide +kernel
  obtain ⟨moderation, hmem, -, hversion, -⟩ := hproduced
  rw [hruns] at hmem
  cases SigningRun.creds.inj (mem_singleton.mp hmem)
  exact absurd hversion (by decide)

/-- Not all lists are bound: an old empty list can be used again under any version. -/
theorem not_credentialsBind : ¬∀ sanctions, CredentialsBind sanctions :=
  fun hbind => not_credentialsBind_nil (hbind [])

/-! ## The lists that are bound -/

/-- Credentials bind exactly the lists with at least one entry. -/
theorem credentialsBind_iff (sanctions : List ModSanction) :
    CredentialsBind sanctions ↔ sanctions ≠ [] := by
  refine ⟨fun hbind hnil => ?_, credentialsBind_of_ne_nil⟩
  rw [hnil] at hbind
  exact not_credentialsBind_nil hbind

def observerCreds : ModSanctionCreds where
  version := 1
  hash := observerListHash
  checksum := dataChecksum observerListHash.toList
  sigPk := founderSigPk
  sig := observerListSig

def observerModeration : Moderation := { founderModeration with sanctions := [observerEntry] }

/-- A member accepts the list with one observer that the founder has made. -/
theorem credentialsBind_iff_oneObserver :
    memberModeration.sanctionsListCheckIntegrity founderCrypto observerCreds [observerEntry] ∧
    Produced (newWorld.apply founderCrypto 0
      (.makeEntry observerEntry.targetPublicEncKey observerEntry.timeSet)).runs observerCreds
      [observerEntry] := by
  have hcheck : memberModeration.sanctionsListCheckIntegrity founderCrypto observerCreds
      [observerEntry] := by decide +kernel
  have hruns : (newWorld.apply founderCrypto 0
      (.makeEntry observerEntry.targetPublicEncKey observerEntry.timeSet)).runs =
      [.entry founderModeration (founderModeration.newEntry observerEntry.targetPublicEncKey
        observerEntry.timeSet), .creds observerModeration] := by
    decide +kernel
  refine ⟨hcheck, ?_⟩
  apply (credentialsBind_iff [observerEntry]).mpr (by decide) founderCrypto {founderSigPk} _
    memberModeration observerCreds founderCrypto_neverFails (newWorld_reachable (.makeEntry _ _) trivial)
  · rw [hruns]
    intro run hrun run' hrun' hsignature
    rcases mem_pair.mp hrun with rfl | rfl <;> rcases mem_pair.mp hrun' with rfl | rfl
    · rfl
    · exact absurd hsignature (by decide +kernel)
    · exact absurd hsignature (by decide +kernel)
    · rfl
  · -- the data that was hashed to make the credentials is the data that is hashed to check them
    have hone : ∀ data ∈ hashedData (newWorld.apply founderCrypto 0
        (.makeEntry observerEntry.targetPublicEncKey observerEntry.timeSet)).runs [observerEntry]
        observerCreds.version, data = sanctionsHashData [observerEntry] 1 := by
      intro data hdata
      rcases hdata with ⟨-, hdata⟩ | ⟨moderation, hmem, -, hdata⟩
      · exact hdata
      · rw [hruns] at hmem
        rcases mem_pair.mp hmem with hmem | hmem
        · exact absurd hmem (by simp)
        · rw [hdata, SigningRun.creds.inj hmem]
          rfl
    refine ⟨fun data hdata data' hdata' _ => (hone data hdata).trans (hone data' hdata').symm, ?_⟩
    intro data hdata
    rw [hone data hdata]
    decide +kernel
  · exact newModeration_moderatorsIn _ _
  · intro sanction hmem _ _
    rw [hruns, mem_singleton.mp hmem]
    exact ⟨_, mem_cons_self .., rfl, by decide +kernel, by decide +kernel⟩
  · intro _ _
    rw [hruns]
    exact ⟨_, mem_cons_of_mem _ (mem_singleton_self _), rfl, by decide +kernel, by decide +kernel⟩
  · exact hcheck

end Toxcore
