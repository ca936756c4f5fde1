import Toxcore.ForStd.StepRun
import Toxcore.Native.ModerationCalls
import Toxcore.Spec.NgcCredentials

/-!
# Changes of the sanctions list

The list is edited before its credentials are renewed.  Where the renewal fails, the functions report a failure and
keep the edited list.
-/

namespace Toxcore

open List

/-! ## The invariant -/

structure SanctionsList (sanctions : List ModSanction) : Prop where
  observers : ∀ sanction ∈ sanctions, sanction.type = saObserver
  distinct : (sanctions.map (·.targetPublicEncKey)).Nodup
  bounded : sanctions.length ≤ modMaxNumSanctions

namespace SanctionsList

variable {crypto : SignCrypto} {sanctions : List ModSanction}

theorem nil : SanctionsList [] := by
  refine ⟨fun _ hmem => by simp at hmem, by simp, by simp⟩

theorem remove (h : SanctionsList sanctions) {index : Nat} {last : ModSanction} (hindex : index < sanctions.length)
    (hlast : sanctions[sanctions.length - 1]? = some last) :
    SanctionsList ((sanctions.set index last).take (sanctions.length - 1)) := by
  have hperm := List.take_set_perm_eraseIdx hindex hlast
  have hsub : (sanctions.eraseIdx index).Sublist sanctions := eraseIdx_sublist _ _
  refine ⟨fun sanction hmem => h.observers sanction (hsub.subset (hperm.mem_iff.mp hmem)), ?_, ?_⟩
  · rw [(hperm.map _).nodup_iff]
    exact h.distinct.sublist (hsub.map _)
  · rw [hperm.length_eq]
    exact Nat.le_trans hsub.length_le h.bounded

theorem of_map_eq (h : SanctionsList sanctions) {replaced : List ModSanction}
    (htypes : replaced.map (·.type) = sanctions.map (·.type))
    (htargets : replaced.map (·.targetPublicEncKey) = sanctions.map (·.targetPublicEncKey)) :
    SanctionsList replaced := by
  refine ⟨fun sanction hmem => ?_, by rw [htargets]; exact h.distinct, ?_⟩
  · have htype : sanction.type ∈ sanctions.map (·.type) := by
      rw [← htypes]
      exact mem_map_of_mem hmem
    obtain ⟨other, hother, heq⟩ := mem_map.mp htype
    rw [← heq]
    exact h.observers other hother
  · have hlength := congrArg List.length htypes
    rw [length_map, length_map] at hlength
    rw [hlength]
    exact h.bounded

end SanctionsList

namespace Moderation

variable (crypto : SignCrypto)

def HashRight (moderation : Moderation) : Prop :=
  moderation.sanctionsCreds.hash =
    sanctionsListMakeHash crypto moderation.sanctions moderation.sanctionsCreds.version

/-- What is claimed of every state: different targets, a bounded list and the right hash. -/
structure SanctionsRight (moderation : Moderation) : Prop where
  distinct : (moderation.sanctions.map (·.targetPublicEncKey)).Nodup
  bounded : moderation.sanctions.length ≤ modMaxNumSanctions
  hash : moderation.HashRight crypto

structure SanctionsInv (moderation : Moderation) : Prop where
  list : SanctionsList moderation.sanctions
  hash : moderation.HashRight crypto

variable {crypto} {moderation : Moderation}

theorem SanctionsInv.right (h : moderation.SanctionsInv crypto) : moderation.SanctionsRight crypto :=
  ⟨h.list.distinct, h.list.bounded, h.hash⟩

theorem SanctionsInv.of_eq (h : moderation.SanctionsInv crypto) {moderation' : Moderation}
    (hsanctions : moderation'.sanctions = moderation.sanctions)
    (hcreds : moderation'.sanctionsCreds = moderation.sanctionsCreds) : moderation'.SanctionsInv crypto := by
  refine ⟨by rw [hsanctions]; exact h.list, ?_⟩
  rw [HashRight, hsanctions, hcreds]
  exact h.hash

end Moderation

/-! ## Where nothing fails -/

namespace SanctionsCall

variable (crypto : SignCrypto) (moderation : Moderation)

theorem succeeds_makeHash (sanctions : List ModSanction) (version : UInt32) :
    succeeds.sanctionsListMakeHash crypto sanctions version =
      some (Toxcore.sanctionsListMakeHash crypto sanctions version) := by
  rw [sanctionsListMakeHash, Toxcore.sanctionsListMakeHash]
  split_ifs with hnil hfails
  · rfl
  · simp [succeeds] at hfails
  · rfl

theorem succeeds_makeCreds :
    succeeds.sanctionsListMakeCreds crypto moderation = moderation.sanctionsListMakeCreds crypto := by
  rw [sanctionsListMakeCreds, succeeds_makeHash]
  rfl

theorem succeeds_credsValidate (sanctions : List ModSanction) (creds : ModSanctionCreds) :
    succeeds.sanctionsCredsValidate crypto moderation sanctions creds =
      moderation.sanctionsCredsValidate crypto sanctions creds := by
  rw [sanctionsCredsValidate, succeeds_makeHash]
  rfl

theorem succeeds_applyNew (sanctions : List ModSanction) (creds : Option ModSanctionCreds) :
    succeeds.sanctionsApplyNew crypto moderation sanctions creds =
      moderation.sanctionsApplyNew crypto sanctions creds := by
  cases creds with
  | none => rfl
  | some creds => rw [sanctionsApplyNew, succeeds_credsValidate, Moderation.sanctionsApplyNew]

theorem succeeds_removeIndex (index : Nat) (creds : Option ModSanctionCreds) :
    succeeds.sanctionsListRemoveIndex crypto moderation index creds =
      moderation.sanctionsListRemoveIndex crypto index creds := by
  simp only [sanctionsListRemoveIndex, Moderation.sanctionsListRemoveIndex, succeeds_applyNew]
  cases moderation.sanctions[index]? with
  | none => rfl
  | some sanction =>
    cases moderation.sanctions[moderation.sanctions.length - 1]? with
    | none => rfl
    | some last => simp [succeeds]

theorem succeeds_removeObserver (publicKey : PublicKey) (creds : Option ModSanctionCreds) :
    succeeds.sanctionsListRemoveObserver crypto moderation publicKey creds =
      moderation.sanctionsListRemoveObserver crypto publicKey creds := by
  simp only [sanctionsListRemoveObserver, Moderation.sanctionsListRemoveObserver, succeeds_removeIndex,
    succeeds_makeCreds] <;> rfl

theorem succeeds_addEntry (sanction : ModSanction) (creds : Option ModSanctionCreds) :
    succeeds.sanctionsListAddEntry crypto moderation sanction creds =
      moderation.sanctionsListAddEntry crypto sanction creds := by
  simp only [sanctionsListAddEntry, Moderation.sanctionsListAddEntry, succeeds_applyNew]
  simp [succeeds]

end SanctionsCall

/-! ## What the calls do -/

namespace SanctionsCall

variable {call : SanctionsCall} {crypto : SignCrypto} {moderation : Moderation}

theorem sanctionsListMakeHash_eq (call : SanctionsCall) (crypto : SignCrypto) (sanctions : List ModSanction)
    (version : UInt32) : call.sanctionsListMakeHash crypto sanctions version =
      if sanctions = [] ∨ call.hash = true then some (Toxcore.sanctionsListMakeHash crypto sanctions version)
      else none := by
  rw [sanctionsListMakeHash, Toxcore.sanctionsListMakeHash]
  cases sanctions with
  | nil => simp
  | cons sanction sanctions => cases call.hash <;> simp

/-- Whether `sanctions_list_make_creds` succeeds: the hash has its buffer and is signed. -/
def Renews (call : SanctionsCall) (crypto : SignCrypto) (moderation : Moderation) : Prop :=
  (moderation.sanctions = [] ∨ call.hash = true) ∧
    (crypto.trySignatureCreate call.signCreds (moderation.newCreds crypto).hash.toList
      moderation.selfSecretSigKey).isSome

instance : Decidable (call.Renews crypto moderation) := inferInstanceAs (Decidable (_ ∧ _))

theorem makeCreds_of_renews (h : call.Renews crypto moderation) :
    (call.sanctionsListMakeCreds crypto moderation).1 = true ∧
      (call.sanctionsListMakeCreds crypto moderation).2.sanctions = moderation.sanctions ∧
      (call.sanctionsListMakeCreds crypto moderation).2.HashRight crypto := by
  obtain ⟨hhash, hsign⟩ := h
  obtain ⟨sig, hsig⟩ := Option.isSome_iff_exists.mp hsign
  have hcreds : crypto.trySignatureCreate call.signCreds
      (Toxcore.sanctionsListMakeHash crypto moderation.sanctions (moderation.sanctionsCreds.version + 1)).toList
      moderation.selfSecretSigKey = some sig := hsig
  rw [sanctionsListMakeCreds, sanctionsListMakeHash_eq, if_pos hhash]
  simp only [ModSanctionCreds.setChecksum, hcreds, true_and]
  rfl

theorem makeCreds_of_not_renews (h : ¬call.Renews crypto moderation) :
    call.sanctionsListMakeCreds crypto moderation = (false, moderation) := by
  rw [sanctionsListMakeCreds, sanctionsListMakeHash_eq]
  by_cases hhash : moderation.sanctions = [] ∨ call.hash = true
  · have hnone : crypto.trySignatureCreate call.signCreds
        (Toxcore.sanctionsListMakeHash crypto moderation.sanctions (moderation.sanctionsCreds.version + 1)).toList
        moderation.selfSecretSigKey = none := by
      rw [← Option.not_isSome_iff_eq_none]
      exact fun hsome => h ⟨hhash, hsome⟩
    rw [if_pos hhash]
    simp only [ModSanctionCreds.setChecksum, hnone]
  · rw [if_neg hhash]

theorem hash_of_credsValidate {sanctions : List ModSanction} {creds : ModSanctionCreds}
    (h : call.sanctionsCredsValidate crypto moderation sanctions creds = true) :
    creds.hash = Toxcore.sanctionsListMakeHash crypto sanctions creds.version := by
  rw [sanctionsCredsValidate, sanctionsListMakeHash_eq] at h
  split at h
  · simp at h
  by_cases hhash : sanctions = [] ∨ call.hash = true
  · rw [if_pos hhash] at h
    dsimp only at h
    split at h
    · simp at h
    · rename_i heq
      exact (not_not.mp heq).symm
  · rw [if_neg hhash] at h
    simp at h

theorem applyNew_some (call : SanctionsCall) (crypto : SignCrypto) (moderation : Moderation)
    (sanctions : List ModSanction) (creds : ModSanctionCreds) :
    call.sanctionsApplyNew crypto moderation sanctions (some creds) = (false, moderation) ∨
      (call.sanctionsApplyNew crypto moderation sanctions (some creds) =
        (true, { moderation with sanctions, sanctionsCreds := creds }) ∧
        creds.hash = Toxcore.sanctionsListMakeHash crypto sanctions creds.version) := by
  rw [sanctionsApplyNew]
  by_cases h : call.sanctionsCredsValidate crypto moderation sanctions creds = true
  · rw [if_neg (by simp [h])]
    exact .inr ⟨rfl, hash_of_credsValidate h⟩
  · rw [if_pos (by simpa using h)]
    exact .inl rfl

/-! ### Adding -/

/-- Whether `sanctions_list_add_entry` comes to the new list. -/
def Adds (call : SanctionsCall) (crypto : SignCrypto) (moderation : Moderation) (sanction : ModSanction) : Prop :=
  moderation.sanctions.length < modMaxNumSanctions ∧
    moderation.sanctionsListValidateEntry crypto sanction = true ∧
    moderation.sanctionsListEntryExists sanction = false ∧
    (moderation.sanctions = [] ∨ call.copy = true) ∧ call.resize = true

instance {sanction : ModSanction} : Decidable (call.Adds crypto moderation sanction) :=
  inferInstanceAs (Decidable (_ ∧ _))

variable {sanction : ModSanction}

theorem addEntry_of_adds (h : call.Adds crypto moderation sanction) (creds : Option ModSanctionCreds)
    : call.sanctionsListAddEntry crypto moderation sanction creds =
      call.sanctionsApplyNew crypto moderation (moderation.sanctions ++ [sanction]) creds := by
  obtain ⟨hroom, hvalid, hexists, hcopy, hresize⟩ := h
  rw [sanctionsListAddEntry, if_neg (by omega), if_neg (by simp [hvalid]), if_neg (by simp [hexists]),
    if_neg ?_, if_neg (by simp [hresize])]
  rintro ⟨hlength, hnot⟩
  cases hcopy with
  | inl hnil => simp [hnil] at hlength
  | inr hcopy => simp [hcopy] at hnot

theorem addEntry_of_not_adds (h : ¬call.Adds crypto moderation sanction) (creds : Option ModSanctionCreds) :
    call.sanctionsListAddEntry crypto moderation sanction creds = (false, moderation) := by
  rw [sanctionsListAddEntry]
  split
  · rfl
  split
  · rfl
  rename_i hvalid
  split
  · rfl
  rename_i hexists
  split
  · rfl
  rename_i hcopy
  split
  · rfl
  rename_i hresize
  refine absurd ⟨by omega, by simpa using hvalid, by simpa using hexists, ?_, by simpa using hresize⟩ h
  by_cases hnil : moderation.sanctions = []
  · exact .inl hnil
  · have hpos := length_pos_iff.mpr hnil
    simp only [hpos] at hcopy
    exact .inr (by simpa using hcopy)

theorem Adds.list (h : call.Adds crypto moderation sanction) (hlist : SanctionsList moderation.sanctions)
    : SanctionsList (moderation.sanctions ++ [sanction]) := by
  obtain ⟨hroom, hvalid, hexists, -, -⟩ := h
  have htype := (Moderation.of_sanctionsListValidateEntry hvalid).2.1
  have hnew : sanction.targetPublicEncKey ∉ moderation.sanctions.map (·.targetPublicEncKey) := by
    intro hmem
    obtain ⟨other, hother, heq⟩ := mem_map.mp hmem
    rw [Moderation.sanctionsListEntryExists, Moderation.sanctionsListIsObserver, htype, beq_self_eq_true,
      Bool.true_and, any_eq_false] at hexists
    refine hexists other hother ?_
    rw [hlist.observers other hother, heq]
    simp
  refine ⟨fun other hmem => ?_, ?_, ?_⟩
  · cases mem_append.mp hmem with
    | inl hmem => exact hlist.observers other hmem
    | inr hmem =>
      obtain rfl := mem_singleton.mp hmem
      exact htype
  · rw [map_append, map_singleton]
    refine nodup_append.mpr ⟨hlist.distinct, by simp, fun target hold other hother heq => hnew ?_⟩
    rw [← mem_singleton.mp hother, ← heq]
    exact hold
  · rw [length_append, length_singleton]
    omega

/-! ### Removing -/

/-- The entry that `sanctions_list_remove_observer` removes. -/
def observedAt (moderation : Moderation) (publicKey : PublicKey) : Option Nat :=
  moderation.sanctions.findIdx? fun sanction =>
    sanction.type == saObserver && publicKey == sanction.targetPublicEncKey

def withoutEntry (moderation : Moderation) (index : Nat) : List ModSanction :=
  match moderation.sanctions[moderation.sanctions.length - 1]? with
  | none => []
  | some last => (moderation.sanctions.set index last).take (moderation.sanctions.length - 1)

/-- Whether `sanctions_list_remove_observer` comes to the list without an entry. -/
def Removes (call : SanctionsCall) (moderation : Moderation) (publicKey : PublicKey) (index : Nat) : Prop :=
  observedAt moderation publicKey = some index ∧
    (moderation.sanctions.length = 1 ∨ call.copy = true ∧ call.resize = true)

variable {publicKey : PublicKey} {index : Nat}

theorem observedAt_lt (h : observedAt moderation publicKey = some index) :
    index < moderation.sanctions.length := by
  obtain ⟨hlt, -, -⟩ := findIdx?_eq_some_iff_getElem.mp h
  exact hlt

section

variable (h : index < moderation.sanctions.length)
include h

theorem withoutEntry_eq :
    ∃ last, moderation.sanctions[moderation.sanctions.length - 1]? = some last ∧
      withoutEntry moderation index =
        (moderation.sanctions.set index last).take (moderation.sanctions.length - 1) := by
  have hlt : moderation.sanctions.length - 1 < moderation.sanctions.length := by omega
  refine ⟨_, getElem?_eq_getElem hlt, ?_⟩
  rw [withoutEntry, getElem?_eq_getElem hlt]

theorem removeIndex_of_outcome
    (hcall : moderation.sanctions.length = 1 ∨ call.copy = true ∧ call.resize = true) (creds : Option ModSanctionCreds)
    : call.sanctionsListRemoveIndex crypto moderation index creds =
      call.sanctionsApplyNew crypto moderation (withoutEntry moderation index) creds := by
  obtain ⟨last, hlast, hlist⟩ := withoutEntry_eq h
  simp only [sanctionsListRemoveIndex, getElem?_eq_getElem h, hlast, hlist]
  cases hcall with
  | inl hone => rw [if_pos (by omega)]
  | inr hcall =>
    split_ifs with hzero hcopy hresize
    · rfl
    · simp [hcall.1] at hcopy
    · simp [hcall.2] at hresize
    · rfl

theorem removeIndex_of_not_outcome
    (hcall : ¬(moderation.sanctions.length = 1 ∨ call.copy = true ∧ call.resize = true))
    (creds : Option ModSanctionCreds) :
    call.sanctionsListRemoveIndex crypto moderation index creds = (false, moderation) := by
  obtain ⟨last, hlast, -⟩ := withoutEntry_eq h
  simp only [sanctionsListRemoveIndex, getElem?_eq_getElem h, hlast]
  rw [if_neg (by omega)]
  split_ifs with hcopy hresize
  · rfl
  · rfl
  · exact absurd (.inr ⟨by simpa using hcopy, by simpa using hresize⟩) hcall

end

theorem Removes.list (h : call.Removes moderation publicKey index) (hlist : SanctionsList moderation.sanctions)
    : SanctionsList (withoutEntry moderation index) := by
  have hlt := observedAt_lt h.1
  obtain ⟨last, hlast, heq⟩ := withoutEntry_eq hlt
  rw [heq]
  exact hlist.remove hlt hlast

theorem length_withoutEntry (h : index < moderation.sanctions.length) :
    (withoutEntry moderation index).length < moderation.sanctions.length := by
  obtain ⟨last, -, heq⟩ := withoutEntry_eq h
  rw [heq, length_take]
  omega

theorem removeObserver_of_removes (h : call.Removes moderation publicKey index) :
    call.sanctionsListRemoveObserver crypto moderation publicKey none =
      call.sanctionsListMakeCreds crypto { moderation with sanctions := withoutEntry moderation index } := by
  have hindex : moderation.sanctions.findIdx? (fun sanction =>
      sanction.type == saObserver && publicKey == sanction.targetPublicEncKey) = some index := h.1
  simp only [sanctionsListRemoveObserver, hindex, removeIndex_of_outcome (observedAt_lt h.1) h.2, sanctionsApplyNew]

theorem removeObserver_of_not_removes (h : ∀ index, ¬call.Removes moderation publicKey index)
    (creds : Option ModSanctionCreds) :
    call.sanctionsListRemoveObserver crypto moderation publicKey creds = (false, moderation) := by
  rw [sanctionsListRemoveObserver]
  split
  · rfl
  · rename_i index hindex
    have hnot : ¬(moderation.sanctions.length = 1 ∨ call.copy = true ∧ call.resize = true) :=
      fun hcall => h index ⟨hindex, hcall⟩
    rw [removeIndex_of_not_outcome (observedAt_lt hindex) hnot]

theorem removeObserver_some (h : call.Removes moderation publicKey index) (creds : ModSanctionCreds) :
    call.sanctionsListRemoveObserver crypto moderation publicKey (some creds) =
      call.sanctionsApplyNew crypto moderation (withoutEntry moderation index) (some creds) := by
  have hindex : moderation.sanctions.findIdx? (fun sanction =>
      sanction.type == saObserver && publicKey == sanction.targetPublicEncKey) = some index := h.1
  simp only [sanctionsListRemoveObserver, hindex, removeIndex_of_outcome (observedAt_lt h.1) h.2]
  cases call.sanctionsApplyNew crypto moderation (withoutEntry moderation index) (some creds) with
  | mk done moderation => cases done <;> rfl

/-! ### Signing again -/

theorem of_signEntry {signed : ModSanction}
    (h : call.sanctionsListSignEntry crypto moderation index sanction = some signed) :
    signed.type = sanction.type ∧ signed.targetPublicEncKey = sanction.targetPublicEncKey := by
  rw [sanctionsListSignEntry] at h
  split at h
  · simp at h
  split at h
  · simp at h
  split at h
  · simp at h
  · cases h
    exact ⟨rfl, rfl⟩

theorem of_replaceSig (call : SanctionsCall) (crypto : SignCrypto) (moderation : Moderation)
    (publicSigKey : SigPublicKey) (index : Nat) (sanction : ModSanction) :
    (call.replaceSig crypto moderation publicSigKey index sanction).2.type = sanction.type ∧
      (call.replaceSig crypto moderation publicSigKey index sanction).2.targetPublicEncKey =
        sanction.targetPublicEncKey := by
  rw [replaceSig]
  split_ifs
  · exact ⟨rfl, rfl⟩
  · dsimp only
    split
    · exact ⟨rfl, rfl⟩
    · rename_i signed hsigned
      obtain ⟨htype, htarget⟩ := of_signEntry hsigned
      exact ⟨htype, htarget⟩

/-- The list after the loop of `sanctions_list_replace_sig`. -/
def replaced (call : SanctionsCall) (crypto : SignCrypto) (moderation : Moderation) (publicSigKey : SigPublicKey) :
    List ModSanction :=
  (moderation.sanctions.mapIdx (call.replaceSig crypto moderation publicSigKey)).map (·.2)

/-- How many entries the loop of `sanctions_list_replace_sig` signs. -/
def numSigned (call : SanctionsCall) (crypto : SignCrypto) (moderation : Moderation) (publicSigKey : SigPublicKey) :
    Nat :=
  (moderation.sanctions.mapIdx (call.replaceSig crypto moderation publicSigKey)).countP (·.1)

theorem replaced_list (h : SanctionsList moderation.sanctions) (publicSigKey : SigPublicKey) :
    SanctionsList (call.replaced crypto moderation publicSigKey) := by
  have hmap : ∀ {β : Type} (f : ModSanction → β),
      (∀ index sanction, f (call.replaceSig crypto moderation publicSigKey index sanction).2 = f sanction) →
      (call.replaced crypto moderation publicSigKey).map f = moderation.sanctions.map f := by
    intro β f hf
    apply ext_getElem?
    intro index
    simp only [replaced, getElem?_map, getElem?_mapIdx]
    cases moderation.sanctions[index]? with
    | none => rfl
    | some sanction => simp [hf]
  exact h.of_map_eq (hmap _ fun index sanction => (of_replaceSig call crypto moderation publicSigKey index sanction).1)
    (hmap _ fun index sanction => (of_replaceSig call crypto moderation publicSigKey index sanction).2)

/-- Whether `sanctions_list_replace_sig` signs an entry and the credentials. -/
def SignsAgain (call : SanctionsCall) (crypto : SignCrypto) (moderation : Moderation) (publicSigKey : SigPublicKey) :
    Prop :=
  0 < call.numSigned crypto moderation publicSigKey ∧
    call.Renews crypto { moderation with sanctions := call.replaced crypto moderation publicSigKey }

theorem replaceSig_of_signsAgain {publicSigKey : SigPublicKey} (h : call.SignsAgain crypto moderation publicSigKey) :
    call.sanctionsListReplaceSig crypto moderation publicSigKey =
      (call.numSigned crypto moderation publicSigKey,
        (call.sanctionsListMakeCreds crypto
          { moderation with sanctions := call.replaced crypto moderation publicSigKey }).2) := by
  obtain ⟨hpos, hrenews⟩ := h
  have htrue := (makeCreds_of_renews hrenews).1
  simp only [sanctionsListReplaceSig, ← numSigned.eq_1, ← replaced.eq_1, if_pos hpos]
  cases hcreds : call.sanctionsListMakeCreds crypto
      { moderation with sanctions := call.replaced crypto moderation publicSigKey } with
  | mk done moderation =>
    rw [hcreds] at htrue
    obtain rfl : done = true := htrue
    rfl

theorem replaceSig_of_not_signsAgain {publicSigKey : SigPublicKey}
    (h : ¬call.SignsAgain crypto moderation publicSigKey) :
    call.sanctionsListReplaceSig crypto moderation publicSigKey =
      (0, { moderation with sanctions := call.replaced crypto moderation publicSigKey }) := by
  simp only [sanctionsListReplaceSig, ← numSigned.eq_1, ← replaced.eq_1]
  by_cases hpos : 0 < call.numSigned crypto moderation publicSigKey
  · rw [if_pos hpos, makeCreds_of_not_renews fun hrenews => h ⟨hpos, hrenews⟩]
  · rw [if_neg hpos, Nat.eq_zero_of_not_pos hpos]

end SanctionsCall

/-! ## Runs -/

inductive SanctionsOp where
  | makeEntry (call : SanctionsCall) (publicKey : PublicKey) (type : UInt8) (now : UInt64)
  | addEntry (call : SanctionsCall) (sanction : ModSanction) (creds : Option ModSanctionCreds)
  | removeObserver (call : SanctionsCall) (publicKey : PublicKey) (creds : Option ModSanctionCreds)
  | replaceSig (call : SanctionsCall) (publicSigKey : SigPublicKey)
  | modListUnpack (call : ModListCall) (data : Bytes) (numMods : UInt16)
  | modListRemoveIndex (call : ModListCall) (index : Nat)
  | modListRemoveEntry (call : ModListCall) (publicSigKey : SigPublicKey)
  | modListAddEntry (call : ModListCall) (modData : SigPublicKey)
  | modListCleanup

namespace SanctionsOp

def run (crypto : SignCrypto) (moderation : Moderation) : SanctionsOp → Bool × Moderation
  | .makeEntry call publicKey type now => call.sanctionsListMakeEntry crypto moderation publicKey type now
  | .addEntry call sanction creds => call.sanctionsListAddEntry crypto moderation sanction creds
  | .removeObserver call publicKey creds => call.sanctionsListRemoveObserver crypto moderation publicKey creds
  | .replaceSig call publicSigKey =>
    let (count, moderation) := call.sanctionsListReplaceSig crypto moderation publicSigKey
    (decide (count ≠ 0), moderation)
  | .modListUnpack call data numMods =>
    let (processed, moderation) := call.modListUnpack moderation data numMods
    (processed.isSome, moderation)
  | .modListRemoveIndex call index => call.modListRemoveIndex moderation index
  | .modListRemoveEntry call publicSigKey => call.modListRemoveEntry moderation publicSigKey
  | .modListAddEntry call modData => call.modListAddEntry moderation modData
  | .modListCleanup => (true, moderation.modListCleanup)

/-- A failure changes neither the list nor the credentials, and the state after is right. -/
structure Kept (crypto : SignCrypto) (moderation : Moderation) (op : SanctionsOp) : Prop where
  atomic : (op.run crypto moderation).1 = false →
    (op.run crypto moderation).2.sanctions = moderation.sanctions ∧
      (op.run crypto moderation).2.sanctionsCreds = moderation.sanctionsCreds
  right : (op.run crypto moderation).2.SanctionsRight crypto

def GetsCreds (crypto : SignCrypto) (moderation : Moderation) : SanctionsOp → Prop
  | .makeEntry call publicKey type now => type = saObserver → ∀ sanction,
      call.sanctionsListSignEntry crypto moderation 0 (moderation.newEntry publicKey now) = some sanction →
      call.Adds crypto moderation sanction →
        call.Renews crypto { moderation with sanctions := moderation.sanctions ++ [sanction] }
  | .addEntry call sanction none => call.Adds crypto moderation sanction →
      -- two lists with one hash
      sanctionsListMakeHash crypto (moderation.sanctions ++ [sanction]) moderation.sanctionsCreds.version =
        sanctionsListMakeHash crypto moderation.sanctions moderation.sanctionsCreds.version
  | .removeObserver call publicKey none => ∀ index, call.Removes moderation publicKey index →
      call.Renews crypto { moderation with sanctions := SanctionsCall.withoutEntry moderation index }
  | .replaceSig call publicSigKey =>
      call.replaced crypto moderation publicSigKey ≠ moderation.sanctions →
        call.SignsAgain crypto moderation publicSigKey
  | _ => True

variable {crypto : SignCrypto} {moderation : Moderation}

variable {op : SanctionsOp}

/-- The call keeps what it should, and leaves a list with right credentials. -/
abbrev KeptRight (crypto : SignCrypto) (moderation : Moderation) (op : SanctionsOp) : Prop :=
  op.Kept crypto moderation ∧ (op.run crypto moderation).2.SanctionsInv crypto

abbrev KeptExactly (crypto : SignCrypto) (moderation : Moderation) (op : SanctionsOp) : Prop :=
  (op.GetsCreds crypto moderation → op.KeptRight crypto moderation) ∧
    (¬op.GetsCreds crypto moderation → ¬op.Kept crypto moderation)

theorem kept_of_eq (h : moderation.SanctionsInv crypto)
    (hsanctions : (op.run crypto moderation).2.sanctions = moderation.sanctions)
    (hcreds : (op.run crypto moderation).2.sanctionsCreds = moderation.sanctionsCreds) :
    op.KeptRight crypto moderation := by
  have hinv := h.of_eq hsanctions hcreds
  exact ⟨⟨fun _ => ⟨hsanctions, hcreds⟩, hinv.right⟩, hinv⟩

theorem kept_of_true (htrue : (op.run crypto moderation).1 = true)
    (h : (op.run crypto moderation).2.SanctionsInv crypto) :
    op.KeptRight crypto moderation :=
  ⟨⟨fun hfalse => by simp [htrue] at hfalse, h.right⟩, h⟩

theorem kept_of_fails (h : moderation.SanctionsInv crypto) (heq : op.run crypto moderation = (false, moderation)) :
    op.KeptRight crypto moderation :=
  kept_of_eq h (by rw [heq]) (by rw [heq])

variable {sanctions : List ModSanction}

theorem kept_of_renews {call : SanctionsCall} (hlist : SanctionsList sanctions)
    (h : call.Renews crypto { moderation with sanctions })
    (heq : op.run crypto moderation = call.sanctionsListMakeCreds crypto { moderation with sanctions }) :
    op.KeptRight crypto moderation := by
  obtain ⟨htrue, hsanctions, hhash⟩ := SanctionsCall.makeCreds_of_renews h
  refine kept_of_true (by rw [heq, htrue]) ⟨?_, by rw [heq]; exact hhash⟩
  rw [heq, hsanctions]
  exact hlist

theorem not_kept_of_edited (heq : op.run crypto moderation = (false, { moderation with sanctions }))
    (hne : sanctions ≠ moderation.sanctions) : ¬op.Kept crypto moderation := by
  intro h
  have hsame := (h.atomic (by rw [heq])).1
  rw [heq] at hsame
  exact hne hsame

section

variable (h : moderation.SanctionsInv crypto)
include h

theorem kept_applyNew {call : SanctionsCall} {creds : ModSanctionCreds} (hlist : SanctionsList sanctions)
    (heq : op.run crypto moderation = call.sanctionsApplyNew crypto moderation sanctions (some creds)) :
    op.KeptRight crypto moderation := by
  cases call.applyNew_some crypto moderation sanctions creds with
  | inl hfails => exact kept_of_fails h (heq.trans hfails)
  | inr happlied =>
    obtain ⟨happlied, hhash⟩ := happlied
    refine kept_of_true (by rw [heq, happlied]) ⟨?_, ?_⟩
    · rw [heq, happlied]
      exact hlist
    · rw [heq, happlied]
      exact hhash

theorem makeEntry_iff (call : SanctionsCall) (publicKey : PublicKey) (type : UInt8) (now : UInt64) :
    KeptExactly crypto moderation (makeEntry call publicKey type now) := by
  by_cases htype : type = saObserver
  case neg =>
    have hrun : (makeEntry call publicKey type now).run crypto moderation = (false, moderation) := by
      rw [run, SanctionsCall.sanctionsListMakeEntry, if_pos htype]
    exact ⟨fun _ => kept_of_fails h hrun, fun hnot => absurd (fun heq => absurd heq htype) hnot⟩
  subst htype
  have hrun : (makeEntry call publicKey saObserver now).run crypto moderation =
      call.sanctionsListMakeEntry crypto moderation publicKey saObserver now := rfl
  rw [SanctionsCall.sanctionsListMakeEntry, if_neg (not_not.mpr rfl)] at hrun
  cases hsigned : call.sanctionsListSignEntry crypto moderation 0 (moderation.newEntry publicKey now) with
  | none =>
    have hrun : (makeEntry call publicKey saObserver now).run crypto moderation = (false, moderation) := by
      unfold Moderation.newEntry at hsigned
      simp only [hsigned] at hrun
      exact hrun
    exact ⟨fun _ => kept_of_fails h hrun, fun hnot => absurd (fun _ sanction hsome => by simp [hsigned] at hsome) hnot⟩
  | some sanction =>
    have hsome := hsigned
    unfold Moderation.newEntry at hsome
    simp only [hsome] at hrun
    by_cases hadds : call.Adds crypto moderation sanction
    · have hrun : (makeEntry call publicKey saObserver now).run crypto moderation =
          call.sanctionsListMakeCreds crypto { moderation with sanctions := moderation.sanctions ++ [sanction] } := by
        rw [SanctionsCall.addEntry_of_adds hadds] at hrun
        exact hrun
      by_cases hrenews : call.Renews crypto { moderation with sanctions := moderation.sanctions ++ [sanction] }
      · refine ⟨fun _ => kept_of_renews (hadds.list h.list) hrenews hrun, fun hnot => absurd ?_ hnot⟩
        rintro - other hother -
        cases hsigned.symm.trans hother
        exact hrenews
      · rw [SanctionsCall.makeCreds_of_not_renews hrenews] at hrun
        refine ⟨fun hgets => absurd (hgets rfl sanction hsigned hadds) hrenews,
          fun _ => not_kept_of_edited hrun (by simp)⟩
    · have hrun : (makeEntry call publicKey saObserver now).run crypto moderation = (false, moderation) := by
        rw [SanctionsCall.addEntry_of_not_adds hadds] at hrun
        exact hrun
      refine ⟨fun _ => kept_of_fails h hrun, fun hnot => absurd ?_ hnot⟩
      rintro - other hother hadds'
      cases hsigned.symm.trans hother
      exact absurd hadds' hadds

theorem addEntry_none_iff (call : SanctionsCall) (sanction : ModSanction) :
    KeptExactly crypto moderation (addEntry call sanction none) := by
  by_cases hadds : call.Adds crypto moderation sanction
  · have hrun : (addEntry call sanction none).run crypto moderation =
        (true, { moderation with sanctions := moderation.sanctions ++ [sanction] }) := by
      rw [run, SanctionsCall.addEntry_of_adds hadds]
      rfl
    constructor
    · intro hgets
      refine kept_of_true (by rw [hrun]) ⟨by rw [hrun]; exact hadds.list h.list, ?_⟩
      rw [hrun]
      exact h.hash.trans (hgets hadds).symm
    · intro hnot hkept
      refine hnot fun _ => ?_
      have hhash := hkept.right.hash
      rw [hrun] at hhash
      exact hhash.symm.trans h.hash
  · have hrun : (addEntry call sanction none).run crypto moderation = (false, moderation) := by
      rw [run, SanctionsCall.addEntry_of_not_adds hadds]
    exact ⟨fun _ => kept_of_fails h hrun, fun hnot => absurd (fun hadds' => absurd hadds' hadds) hnot⟩

theorem removeObserver_none_iff (call : SanctionsCall) (publicKey : PublicKey) :
    KeptExactly crypto moderation (removeObserver call publicKey none) := by
  by_cases hremoves : ∃ index, call.Removes moderation publicKey index
  · obtain ⟨index, hremoves⟩ := hremoves
    have hrun : (removeObserver call publicKey none).run crypto moderation = _ :=
      SanctionsCall.removeObserver_of_removes hremoves
    by_cases hrenews : call.Renews crypto
        { moderation with sanctions := SanctionsCall.withoutEntry moderation index }
    · refine ⟨fun _ => kept_of_renews (hremoves.list h.list) hrenews hrun, fun hnot => absurd ?_ hnot⟩
      intro other hother
      cases hremoves.1.symm.trans hother.1
      exact hrenews
    · rw [SanctionsCall.makeCreds_of_not_renews hrenews] at hrun
      refine ⟨fun hgets => absurd (hgets index hremoves) hrenews, fun _ => not_kept_of_edited hrun fun heq => ?_⟩
      have hlt := SanctionsCall.length_withoutEntry (SanctionsCall.observedAt_lt hremoves.1)
      rw [heq] at hlt
      omega
  · have hnone := fun index hindex => hremoves ⟨index, hindex⟩
    have hrun : (removeObserver call publicKey none).run crypto moderation = (false, moderation) :=
      SanctionsCall.removeObserver_of_not_removes hnone none
    exact ⟨fun _ => kept_of_fails h hrun, fun hnot => absurd (fun index hindex => absurd hindex (hnone index)) hnot⟩

theorem replaceSig_iff (call : SanctionsCall) (publicSigKey : SigPublicKey) :
    KeptExactly crypto moderation (replaceSig call publicSigKey) := by
  by_cases hsigns : call.SignsAgain crypto moderation publicSigKey
  · have hrun : (replaceSig call publicSigKey).run crypto moderation =
        (true, (call.sanctionsListMakeCreds crypto
          { moderation with sanctions := call.replaced crypto moderation publicSigKey }).2) := by
      rw [run, SanctionsCall.replaceSig_of_signsAgain hsigns]
      simp [Nat.pos_iff_ne_zero.mp hsigns.1]
    obtain ⟨-, hsanctions, hhash⟩ := SanctionsCall.makeCreds_of_renews hsigns.2
    refine ⟨fun _ => kept_of_true (by rw [hrun]) ⟨?_, by rw [hrun]; exact hhash⟩, fun hnot => absurd (fun _ => hsigns) hnot⟩
    rw [hrun, hsanctions]
    exact SanctionsCall.replaced_list h.list publicSigKey
  · have hrun : (replaceSig call publicSigKey).run crypto moderation =
        (false, { moderation with sanctions := call.replaced crypto moderation publicSigKey }) := by
      rw [run, SanctionsCall.replaceSig_of_not_signsAgain hsigns]
      rfl
    by_cases hsame : call.replaced crypto moderation publicSigKey = moderation.sanctions
    · refine ⟨fun _ => kept_of_fails h (by rw [hrun, hsame]), fun hnot => absurd (fun hne => absurd hsame hne) hnot⟩
    · exact ⟨fun hgets => absurd (hgets hsame) hsigns, fun _ => not_kept_of_edited hrun hsame⟩

/-- What one call keeps, exactly where an edited list gets its credentials. -/
theorem kept_iff (op : SanctionsOp) : KeptExactly crypto moderation op := by
  have hmods : ∀ op : SanctionsOp, op.GetsCreds crypto moderation →
      (op.run crypto moderation).2.sanctions = moderation.sanctions →
      (op.run crypto moderation).2.sanctionsCreds = moderation.sanctionsCreds →
      KeptExactly crypto moderation op :=
    fun op hgets hsanctions hcreds => ⟨fun _ => kept_of_eq h hsanctions hcreds, fun hnot => absurd hgets hnot⟩
  cases op with
  | makeEntry call publicKey type now => exact makeEntry_iff h call publicKey type now
  | addEntry call sanction creds =>
    cases creds with
    | none => exact addEntry_none_iff h call sanction
    | some creds =>
      refine ⟨fun _ => ?_, fun hnot => absurd trivial hnot⟩
      by_cases hadds : call.Adds crypto moderation sanction
      · exact kept_applyNew h (hadds.list h.list) (SanctionsCall.addEntry_of_adds hadds (some creds))
      · exact kept_of_fails h (SanctionsCall.addEntry_of_not_adds hadds (some creds))
  | removeObserver call publicKey creds =>
    cases creds with
    | none => exact removeObserver_none_iff h call publicKey
    | some creds =>
      refine ⟨fun _ => ?_, fun hnot => absurd trivial hnot⟩
      by_cases hremoves : ∃ index, call.Removes moderation publicKey index
      · obtain ⟨index, hremoves⟩ := hremoves
        exact kept_applyNew h (hremoves.list h.list) (SanctionsCall.removeObserver_some hremoves creds)
      · exact kept_of_fails h (SanctionsCall.removeObserver_of_not_removes
          (fun index hindex => hremoves ⟨index, hindex⟩) (some creds))
  | replaceSig call publicSigKey => exact replaceSig_iff h call publicSigKey
  | modListUnpack call data numMods =>
    refine hmods _ trivial ?_ ?_
    all_goals
      simp only [run, ModListCall.modListUnpack]
      split_ifs <;> rfl
  | modListRemoveIndex call index =>
    refine hmods _ trivial ?_ ?_
    all_goals
      simp only [run, ModListCall.modListRemoveIndex]
      split_ifs <;> rfl
  | modListRemoveEntry call publicSigKey =>
    refine hmods _ trivial ?_ ?_
    all_goals
      simp only [run, ModListCall.modListRemoveEntry, ModListCall.modListRemoveIndex]
      split
      · rfl
      · split_ifs <;> rfl
  | modListAddEntry call modData =>
    refine hmods _ trivial ?_ ?_
    all_goals
      simp only [run, ModListCall.modListAddEntry]
      split_ifs <;> rfl
  | modListCleanup => exact hmods _ trivial rfl rfl

end

def step (crypto : SignCrypto) (moderation : Moderation) (op : SanctionsOp) : Moderation :=
  (op.run crypto moderation).2

end SanctionsOp

open StepRun in
def SanctionsAlwaysKept : Prop :=
  ∀ (crypto : SignCrypto) (call : SanctionsCall) (moderation : Moderation) (ops : List SanctionsOp),
    moderation.sanctions = [] → (call.sanctionsListMakeCreds crypto moderation).1 = true →
    (call.sanctionsListMakeCreds crypto moderation).2.SanctionsRight crypto ∧
      AllSteps (SanctionsOp.step crypto) (SanctionsOp.Kept crypto)
        (call.sanctionsListMakeCreds crypto moderation).2 ops

open StepRun in
/-- The list and its credentials stay right exactly if every edited list gets its credentials. -/
theorem sanctionsKept_iff (crypto : SignCrypto) (call : SanctionsCall) {moderation : Moderation}
    (hempty : moderation.sanctions = []) (hcreds : (call.sanctionsListMakeCreds crypto moderation).1 = true)
    (ops : List SanctionsOp) :
    ((call.sanctionsListMakeCreds crypto moderation).2.SanctionsRight crypto ∧
      AllSteps (SanctionsOp.step crypto) (SanctionsOp.Kept crypto)
        (call.sanctionsListMakeCreds crypto moderation).2 ops) ↔
      AllSteps (SanctionsOp.step crypto) (SanctionsOp.GetsCreds crypto)
        (call.sanctionsListMakeCreds crypto moderation).2 ops := by
  have hrenews : call.Renews crypto moderation := by
    by_contra hnot
    simp [SanctionsCall.makeCreds_of_not_renews hnot] at hcreds
  obtain ⟨-, hsanctions, hhash⟩ := SanctionsCall.makeCreds_of_renews hrenews
  have hinv : (call.sanctionsListMakeCreds crypto moderation).2.SanctionsInv crypto := by
    refine ⟨?_, hhash⟩
    rw [hsanctions, hempty]
    exact SanctionsList.nil
  have hiff := @allSteps_iff Moderation SanctionsOp (SanctionsOp.step crypto) (Moderation.SanctionsInv crypto)
    (SanctionsOp.Kept crypto) (SanctionsOp.GetsCreds crypto) (fun _ => True)
    (fun _ op hs _ hgets => ((op.kept_iff hs).1 hgets).2)
    (fun _ op hs _ => ⟨fun hkept => by_contra fun hnot => (op.kept_iff hs).2 hnot hkept,
      fun hgets => ((op.kept_iff hs).1 hgets).1⟩)
    ops (fun _ _ => trivial) _ hinv
  exact ⟨fun hkept => hiff.mp hkept.2, fun hgets => ⟨hinv.right, hiff.mpr hgets⟩⟩

/-- The founder makes the entry of an observer. -/
theorem sanctionsKept_iff_oneObserver :
    StepRun.AllSteps (SanctionsOp.step founderCrypto) (SanctionsOp.Kept founderCrypto)
      (SanctionsCall.succeeds.sanctionsListMakeCreds founderCrypto founderModeration).2
      [.makeEntry .succeeds observerEntry.targetPublicEncKey saObserver observerEntry.timeSet] := by
  have hgets : StepRun.AllSteps (SanctionsOp.step founderCrypto) (SanctionsOp.GetsCreds founderCrypto)
      (SanctionsCall.succeeds.sanctionsListMakeCreds founderCrypto founderModeration).2
      [.makeEntry .succeeds observerEntry.targetPublicEncKey saObserver observerEntry.timeSet] := by
    refine ⟨?_, trivial⟩
    intro _ sanction _ _
    exact ⟨.inr rfl, founderCrypto_neverFails _ _⟩
  exact ((sanctionsKept_iff founderCrypto .succeeds (by rfl) (by decide +kernel) _).mpr hgets).2

/-- The entry is in the list when the credentials cannot be signed, and the call fails. -/
theorem not_sanctionsAlwaysKept_unsigned : ¬SanctionsAlwaysKept := by
  intro h
  have hkept := (h founderCrypto .succeeds founderModeration
    [.makeEntry { SanctionsCall.succeeds with signCreds := false } observerEntry.targetPublicEncKey saObserver
      observerEntry.timeSet] rfl (by decide +kernel)).2.1
  have hsame := (hkept.atomic (by decide +kernel)).1
  revert hsame
  decide +kernel

end Toxcore
