import Toxcore.Native.FileTransfer
import Toxcore.ForStd.TransitionSystem

/-!
# Positions of an outgoing transfer

What was sent of a file is at most what the client was asked for, and that is at most its size.  For transfers of the
second kind this needs chunks with an id and no more bytes than were asked for.
-/

namespace Toxcore

namespace FileTransfer

inductive SenderAction where
  | doFiletransfer (env : SendFileEnv) (received : Bool)
  | countSeekControl
  | sendFileData (env : SendFileEnv) (position : UInt64) (data : Bytes)
  | handleFilecontrol (controlType : UInt8) (data : Bytes)

variable (ft : FileTransfer)

def apply : SenderAction → FileTransfer
  | .doFiletransfer env received => ft.doFiletransfer env received
  | .countSeekControl => ft.countSeekControl
  | .sendFileData env position data => (ft.sendFileData env position data).2.1
  | .handleFilecontrol controlType data => (ft.handleFilecontrol controlType data).2

def AnyCall (_ : FileTransfer) : SenderAction → Prop
  | .sendFileData _ _ data => data.length < 2 ^ 16
  | _ => True

/-- Data of the second kind has an id in front, and is no longer than what was asked for. -/
def CarefulData (position : UInt64) (length : Nat) : Prop :=
  ft.status = .transferring → ft.fileType = filekindFtv2 → length ≤ maxFileDataSize - fileOffsetLength →
    fileIdLength ≤ length ∧
    (position = ft.transferred → ft.transferred < ft.requested →
      length - fileIdLength ≤ ft.size.toNat - ft.transferred.toNat →
      length - fileIdLength ≤ ft.requested.toNat - ft.transferred.toNat)

def Careful : SenderAction → Prop
  | .sendFileData _ position data => data.length < 2 ^ 16 ∧ ft.CarefulData position data.length
  | _ => True

def sender (allowed : FileTransfer → SenderAction → Prop) : TransitionSystem FileTransfer where
  init ft := ∃ slot fileType filesize id, ft = newFilesender slot fileType filesize id
  step ft ft' := ∃ action, allowed ft action ∧ ft' = ft.apply action

def fileBytes (packet : Bytes) : Nat :=
  if ft.fileType = filekindFtv2 then packet.length - (fileOffsetLength + fileIdLength) else packet.length

/-- What is claimed of a call of `send_file_data`. -/
structure ExactSend (env : SendFileEnv) (position : UInt64) (data : Bytes) : Prop where
  /-- The length without the id does not wrap. -/
  length : ft.status = .transferring → ft.fileType = filekindFtv2 →
    data.length ≤ maxFileDataSize - fileOffsetLength → fileIdLength ≤ data.length
  failed : (ft.sendFileData env position data).1 ≠ 0 → (ft.sendFileData env position data).2 = (ft, none)
  sent : (ft.sendFileData env position data).1 = 0 → ∃ packet,
    (ft.sendFileData env position data).2.2 = some packet ∧
    (ft.sendFileData env position data).2.1.transferred.toNat = ft.transferred.toNat + ft.fileBytes packet

structure Positions (allowed : FileTransfer → SenderAction → Prop) : Prop where
  transferred : ft.transferred.toNat ≤ ft.requested.toNat
  requested : ft.requested.toNat ≤ ft.size.toNat
  /-- The length of a chunk fits its 16 bits, and the position behind it its 64 bits. -/
  chunk : ∀ maxLength < 2 ^ 16, (ft.requestChunk maxLength).requested.toNat =
    ft.requested.toNat + min (ft.size.toNat - ft.requested.toNat) maxLength
  send : ∀ env position data, allowed ft (.sendFileData env position data) → ft.ExactSend env position data

structure Aligned : Prop where
  transferred : ft.transferred.toNat ≤ ft.requested.toNat
  requested : ft.requested.toNat ≤ ft.size.toNat
  unasked : ft.status = .notAccepted → ft.requested = ft.transferred
  aligned : ft.status = .transferring → ft.fileType ≠ filekindFtv2 →
    maxFileDataSize ∣ ft.requested.toNat - ft.transferred.toNat ∨ ft.requested = ft.size

variable {ft} {allowed : FileTransfer → SenderAction → Prop}

theorem toNat_requested_requestChunk (h : ft.requested.toNat ≤ ft.size.toNat) {maxLength : Nat} (hmax : maxLength < 2 ^ 16) :
    (ft.requestChunk maxLength).requested.toNat =
      ft.requested.toNat + min (ft.size.toNat - ft.requested.toNat) maxLength := by
  have hsize := ft.size.toNat_lt
  have hleft : (ft.size - ft.requested).toNat = ft.size.toNat - ft.requested.toNat := UInt64.toNat_sub_of_le _ _ h
  have hmaxLength : (UInt64.ofNat maxLength).toNat = maxLength := UInt64.toNat_ofNat_of_lt' (by simp only [UInt64.size]; omega)
  have hmin : (if ft.size - ft.requested < UInt64.ofNat maxLength then ft.size - ft.requested
      else UInt64.ofNat maxLength).toNat = min (ft.size.toNat - ft.requested.toNat) maxLength := by
    have hlt := @UInt64.lt_iff_toNat_lt (ft.size - ft.requested) (UInt64.ofNat maxLength)
    split
    · rename_i hless
      have hless := hlt.mp hless
      omega
    · rename_i hless
      have hless := mt hlt.mpr hless
      omega
  rw [requestChunk]
  rw [UInt64.toNat_add, UInt16.toNat_toUInt64, UInt64.toNat_toUInt16]
  omega

theorem aligned_newFilesender (slot : FileTransfer) (fileType : UInt32) (filesize : UInt64) (id : Vector UInt8 fileIdLength) :
    (newFilesender slot fileType filesize id).Aligned where
  transferred := le_rfl
  requested := Nat.zero_le _
  unasked _ := rfl
  aligned _ _ := .inl ⟨0, rfl⟩

/-- The outcomes of a call: it changes nothing, or it was for the right position in the file. -/
inductive SendOutcome (ft : FileTransfer) (position : UInt64) (data : Bytes) : Int × FileTransfer × Option Bytes → Prop where
  | failed {code : Int} (hcode : code ≠ 0) : SendOutcome ft position data (code, ft, none)
  | ftv2 (hstatus : ft.status = .transferring) (hposition : position = ft.transferred)
    (hasked : ft.requested ≤ position → ft.size = 0) (htype : ft.fileType = filekindFtv2)
    (hchunk : data.length ≤ maxFileDataSize - fileOffsetLength)
    (hfits : (UInt16.ofNat data.length - UInt16.ofNat fileIdLength).toUInt64 ≤ ft.size - ft.transferred) :
    SendOutcome ft position data
      (0, { ft with transferred := ft.transferred + (UInt16.ofNat data.length - UInt16.ofNat fileIdLength).toUInt64 },
        some (netPackU64 position ++ data))
  | plain (hstatus : ft.status = .transferring) (hposition : position = ft.transferred)
    (hasked : ft.requested ≤ position → ft.size = 0) (htype : ft.fileType ≠ filekindFtv2)
    (hmax : data.length ≤ maxFileDataSize) (hfits : (UInt16.ofNat data.length).toUInt64 ≤ ft.size - ft.transferred)
    (status : Filestatus) (hfull : status = .transferring → data.length = maxFileDataSize)
    (hne : status ≠ .notAccepted) (number : UInt32) :
    SendOutcome ft position data
      (0, { ft with
            transferred := ft.transferred + (UInt16.ofNat data.length).toUInt64
            status
            lastPacketNumber := number }, some data)

theorem SendOutcome.ite {position : UInt64} {data : Bytes} {c : Prop} [Decidable c] {code : Int}
    {rest : Int × FileTransfer × Option Bytes} (hcode : code ≠ 0) (h : ¬c → SendOutcome ft position data rest) :
    SendOutcome ft position data (if c then (code, ft, none) else rest) := by
  split
  · exact .failed hcode
  · exact h ‹_›

theorem sendOutcome_sendFileData (ft : FileTransfer) (env : SendFileEnv) (position : UInt64) {data : Bytes}
    (hdata : data.length < 2 ^ 16) : SendOutcome ft position data (ft.sendFileData env position data) := by
  have hlength : (UInt16.ofNat data.length).toNat = data.length := UInt16.toNat_ofNat_of_lt' hdata
  unfold sendFileData
  dsimp only
  rw [hlength]
  refine .ite (by decide) fun _ => .ite (by decide) fun _ => .ite (by decide) fun hstatus => ?_
  refine .ite (by decide) fun hmax => ?_
  by_cases htype : ft.fileType = filekindFtv2
  · rw [if_pos htype]
    refine .ite (by decide) fun hchunk => .ite (by decide) fun hfits => .ite (by decide) fun hposition => ?_
    refine .ite (by decide) fun _ => .ite (by decide) fun _ => .ite (by decide) fun _ => ?_
    obtain ⟨hposition, hasked⟩ := not_or.mp hposition
    exact .ftv2 (not_not.mp hstatus) (not_not.mp hposition) (fun hle => by_contra fun hne => hasked ⟨hle, hne⟩) htype
      (Nat.le_of_not_lt hchunk) (UInt64.not_lt.mp hfits)
  · rw [if_neg htype]
    refine .ite (by decide) fun hfits => .ite (by decide) fun _ => .ite (by decide) fun hposition => ?_
    refine .ite (by decide) fun _ => ?_
    obtain ⟨hposition, hasked⟩ := not_or.mp hposition
    cases env.packetNumber with
    | none => exact .failed (by decide)
    | some number =>
      have hplain := @SendOutcome.plain ft position data (not_not.mp hstatus) (not_not.mp hposition)
        (fun hle => by_contra fun hne => hasked ⟨hle, hne⟩) htype (Nat.le_of_not_lt hmax) (UInt64.not_lt.mp hfits)
      dsimp only
      split
      · exact hplain .finished nofun nofun number
      · rename_i hfull
        exact hplain ft.status (fun _ => not_not.mp (not_or.mp hfull).1) (fun hnot => hstatus (by rw [hnot]; nofun))
          ft.lastPacketNumber

theorem toNat_add_of_le_sub {size transferred length : UInt64} (h : transferred.toNat ≤ size.toNat)
    (hfits : length ≤ size - transferred) :
    (transferred + length).toNat = transferred.toNat + length.toNat ∧
      length.toNat ≤ size.toNat - transferred.toNat := by
  have hsize := size.toNat_lt
  rw [UInt64.le_iff_toNat_le, UInt64.toNat_sub_of_le _ _ h] at hfits
  rw [UInt64.toNat_add]
  omega

theorem toNat_lengthRaw {length : Nat} (hid : fileIdLength ≤ length) (hlt : length < 2 ^ 16) :
    (UInt16.ofNat length - UInt16.ofNat fileIdLength).toUInt64.toNat = length - fileIdLength := by
  have hlength : (UInt16.ofNat length).toNat = length := UInt16.toNat_ofNat_of_lt' hlt
  have hle : UInt16.ofNat fileIdLength ≤ UInt16.ofNat length := by
    rw [UInt16.le_iff_toNat_le, hlength]
    exact hid
  rw [UInt16.toNat_toUInt64, UInt16.toNat_sub_of_le _ _ hle, hlength]
  rfl

section

variable (h : ft.Aligned)
include h

theorem Aligned.outcome {position : UInt64} {data : Bytes} (hdata : data.length < 2 ^ 16)
    (hcareful : ft.CarefulData position data.length) {result : Int × FileTransfer × Option Bytes}
    (hresult : SendOutcome ft position data result) :
    result.2.1.Aligned ∧ (result.1 ≠ 0 → result.2 = (ft, none)) ∧ (result.1 = 0 → ∃ packet, result.2.2 = some packet ∧
      result.2.1.transferred.toNat = ft.transferred.toNat + ft.fileBytes packet) := by
  have hle := h.transferred.trans h.requested
  cases hresult with
  | failed hcode => exact ⟨h, fun _ => rfl, fun hzero => absurd hzero hcode⟩
  | ftv2 hstatus hposition hasked htype hchunk hfits =>
    subst hposition
    obtain ⟨hid, hroom⟩ := hcareful hstatus htype hchunk
    obtain ⟨hadd, hleft⟩ := toNat_add_of_le_sub hle hfits
    rw [toNat_lengthRaw hid hdata] at hadd hleft
    refine ⟨⟨?_, h.requested, fun hnot => absurd (hnot.symm.trans hstatus) nofun, fun _ hother => absurd htype hother⟩,
      absurd rfl, fun _ => ⟨_, rfl, ?_⟩⟩
    · rw [hadd]
      by_cases hbehind : ft.transferred < ft.requested
      · have hroom := hroom rfl hbehind hleft
        rw [UInt64.lt_iff_toNat_lt] at hbehind
        dsimp only
        omega
      · have hzero := congrArg UInt64.toNat (hasked (UInt64.not_lt.mp hbehind))
        rw [UInt64.toNat_zero] at hzero
        omega
    · rw [hadd, fileBytes, if_pos htype, List.length_append, length_netPackU64, fileOffsetLength]
      omega
  | plain hstatus hposition hasked htype hmax hfits status hfull hne number =>
    subst hposition
    have haligned := h.aligned hstatus htype
    obtain ⟨hadd, hleft⟩ := toNat_add_of_le_sub hle hfits
    rw [UInt16.toNat_toUInt64, UInt16.toNat_ofNat_of_lt' hdata] at hadd hleft
    -- what was asked for and not sent is a number of whole chunks, or the rest of the file
    have hroom : data.length ≤ ft.requested.toNat - ft.transferred.toNat := by
      by_cases hbehind : ft.transferred < ft.requested
      · rw [UInt64.lt_iff_toNat_lt] at hbehind
        rcases haligned with hwhole | hrest
        · exact hmax.trans (Nat.le_of_dvd (by omega) hwhole)
        · rw [hrest]
          exact hleft
      · have hzero := congrArg UInt64.toNat (hasked (UInt64.not_lt.mp hbehind))
        rw [UInt64.toNat_zero] at hzero
        omega
    refine ⟨⟨?_, h.requested, fun hnot => absurd hnot hne, fun hstatus' _ => ?_⟩, absurd rfl, fun _ => ⟨_, rfl, ?_⟩⟩
    · have htransferred := h.transferred
      dsimp only
      omega
    · refine haligned.imp_left fun hwhole => ?_
      rw [hadd, hfull hstatus', Nat.sub_add_eq]
      exact Nat.dvd_sub hwhole (Nat.dvd_refl _)
    · rw [hadd, fileBytes, if_neg htype]

theorem Aligned.sendFileData (env : SendFileEnv) {position : UInt64} {data : Bytes}
    (hdata : data.length < 2 ^ 16) (hcareful : ft.CarefulData position data.length) :
    (ft.sendFileData env position data).2.1.Aligned :=
  (h.outcome hdata hcareful (sendOutcome_sendFileData ft env position hdata)).1

theorem Aligned.exactSend (env : SendFileEnv) {position : UInt64} {data : Bytes}
    (hdata : data.length < 2 ^ 16) (hcareful : ft.CarefulData position data.length) :
    ft.ExactSend env position data := by
  obtain ⟨-, hfailed, hsent⟩ := h.outcome hdata hcareful (sendOutcome_sendFileData ft env position hdata)
  exact ⟨fun hstatus htype hchunk => (hcareful hstatus htype hchunk).1, hfailed, hsent⟩

/-! ## The other actions -/

theorem Aligned.of_inactive {ft' : FileTransfer} (hsize : ft'.size = ft.size)
    (htransferred : ft'.transferred = ft.transferred) (hrequested : ft'.requested = ft.requested)
    (hstatus : ft'.status ≠ .notAccepted ∧ ft'.status ≠ .transferring) : ft'.Aligned where
  transferred := by
    rw [htransferred, hrequested]
    exact h.transferred
  requested := by
    rw [hrequested, hsize]
    exact h.requested
  unasked hnot := absurd hnot hstatus.1
  aligned hactive := absurd hactive hstatus.2

theorem Aligned.clear : ft.clear.Aligned := h.of_inactive rfl rfl rfl ⟨nofun, nofun⟩

theorem Aligned.requestChunk (hstatus : ft.status = .transferring) {maxLength : Nat}
    (hmax : maxLength < 2 ^ 16) (hlength : ft.fileType ≠ filekindFtv2 → maxLength = maxFileDataSize) :
    (ft.requestChunk maxLength).Aligned := by
  have hchunk := toNat_requested_requestChunk h.requested hmax
  have htransferred := h.transferred
  have hrequested := h.requested
  refine ⟨?_, ?_, fun hnot => ?_, fun _ htype => ?_⟩
  · rw [hchunk]
    exact htransferred.trans (Nat.le_add_right _ _)
  · rw [hchunk]
    dsimp only [FileTransfer.requestChunk]
    omega
  · exact absurd (hnot.symm.trans hstatus) nofun
  · have hlength := hlength htype
    subst hlength
    by_cases hlast : ft.size.toNat - ft.requested.toNat ≤ maxFileDataSize
    · right
      apply UInt64.toNat_inj.mp
      rw [hchunk]
      dsimp only [FileTransfer.requestChunk]
      omega
    · rw [Nat.min_eq_right (Nat.le_of_not_le hlast)] at hchunk
      rcases h.aligned hstatus htype with hwhole | hrest
      · left
        rw [hchunk]
        change maxFileDataSize ∣ _ - ft.transferred.toNat
        rw [Nat.sub_add_comm htransferred]
        exact Nat.dvd_add hwhole (Nat.dvd_refl _)
      · rw [hrest] at hlast
        omega

theorem Aligned.doFiletransfer (env : SendFileEnv) (received : Bool) :
    (ft.doFiletransfer env received).Aligned := by
  unfold FileTransfer.doFiletransfer
  dsimp only
  split
  · rename_i htype
    split
    · exact h.clear
    split
    · rename_i hactive
      exact h.requestChunk hactive.1.1 (by decide) fun hother => absurd htype hother
    · exact h
  · rename_i htype
    split
    · exact h.clear
    split
    · rename_i hactive
      split
      · exact h.sendFileData env (by decide) fun _ hftv2 => absurd hftv2 htype
      split
      · exact h
      · exact h.requestChunk hactive.1 (by decide) fun _ => rfl
    · exact h

theorem Aligned.countSeekControl : ft.countSeekControl.Aligned := by
  unfold FileTransfer.countSeekControl
  split
  · exact ⟨h.transferred, h.requested, h.unasked, h.aligned⟩
  · exact h

theorem Aligned.handleSeek (data : Bytes) : (ft.handleSeek data).2.Aligned := by
  unfold FileTransfer.handleSeek
  dsimp only
  split
  · exact h
  split
  · exact h
  split
  · exact h
  · rename_i hposition
    have hposition := UInt64.not_le.mp hposition
    exact ⟨le_rfl, (UInt64.lt_iff_toNat_lt.mp hposition).le, fun _ => rfl, fun _ _ => .inl ⟨0, Nat.sub_self _⟩⟩

theorem Aligned.handleFilecontrol (controlType : UInt8) (data : Bytes) :
    (ft.handleFilecontrol controlType data).2.Aligned := by
  have hpaused : ∀ paused, ({ ft with pausedOther := paused } : FileTransfer).Aligned := fun _ =>
    ⟨h.transferred, h.requested, h.unasked, h.aligned⟩
  unfold FileTransfer.handleFilecontrol
  split
  · exact h
  split
  · split
    · rename_i hstatus
      refine ⟨h.transferred, h.requested, nofun, fun _ _ => .inl ⟨0, ?_⟩⟩
      rw [h.unasked hstatus]
      exact Nat.sub_self _
    split
    · exact hpaused _
    · exact h
  · split
    · exact h
    · exact hpaused _
  · split
    · exact h
    · exact h.clear
  · exact h.handleSeek data
  · split
    · exact h.of_inactive rfl rfl rfl ⟨nofun, nofun⟩
    · exact h
  · split
    · exact h
    · exact h
  · exact h

end

theorem Aligned.apply (h : ft.Aligned) {action : SenderAction} (hcareful : ft.Careful action) :
    (ft.apply action).Aligned := by
  cases action with
  | doFiletransfer env received => exact h.doFiletransfer env received
  | countSeekControl => exact h.countSeekControl
  | sendFileData env position data => exact h.sendFileData env hcareful.1 hcareful.2
  | handleFilecontrol controlType data => exact h.handleFilecontrol controlType data

theorem positions_of_careful (h : (sender Careful).Reachable ft) : ft.Positions Careful := by
  have haligned : ft.Aligned := by
    refine h.invariant (P := Aligned) ?_ ?_
    · rintro _ ⟨slot, fileType, filesize, id, rfl⟩
      exact aligned_newFilesender slot fileType filesize id
    · rintro s _ hs ⟨action, hcareful, rfl⟩
      exact hs.apply hcareful
  exact ⟨haligned.transferred, haligned.requested, fun _ hmax => toNat_requested_requestChunk haligned.requested hmax,
    fun env _ _ hcareful => haligned.exactSend env hcareful.1 hcareful.2⟩

def idleSendEnv : SendFileEnv where
  friendExists := true
  friendOnline := true
  freeSendqueueSlots := 64
  buffer := true
  packetNumber := some 1

/-- A file of `2 ^ 20` bytes that was accepted, and of which a chunk was asked for. -/
def askedFile (fileType : UInt32) : FileTransfer :=
  let slot := { size := 0, transferred := 0, status := .none, pausedUs := false, pausedOther := false,
                lastPacketNumber := 0, requested := 0, id := Vector.replicate _ 0, fileType := 0,
                receivedSeekControl := false, receivedSeekControlCounter := 0 }
  ((newFilesender slot fileType 1048576 (Vector.replicate _ 7)).apply (.handleFilecontrol 0 [])).apply
    (.doFiletransfer idleSendEnv false)

theorem reachable_askedFile {allowed : FileTransfer → SenderAction → Prop} (fileType : UInt32)
    (hcontrol : ∀ ft controlType data, allowed ft (.handleFilecontrol controlType data))
    (hdo : ∀ ft env received, allowed ft (.doFiletransfer env received)) :
    (sender allowed).Reachable (askedFile fileType) := by
  exact .step (.step (.init ⟨_, _, _, _, rfl⟩) ⟨_, hcontrol _ _ _, rfl⟩) ⟨_, hdo _ _ _, rfl⟩

theorem positions_askedFile : (askedFile 0).Positions Careful :=
  positions_of_careful (reachable_askedFile 0 (fun _ _ _ => trivial) fun _ _ _ => trivial)

theorem not_positions_empty : ¬∀ ft, (sender AnyCall).Reachable ft → ft.Positions AnyCall := by
  intro h
  have hasked := @reachable_askedFile AnyCall filekindFtv2 (fun _ _ _ => trivial) fun _ _ _ => trivial
  have hreachable : (sender AnyCall).Reachable ((askedFile filekindFtv2).apply (.sendFileData idleSendEnv 0 [])) :=
    hasked.step ⟨.sendFileData idleSendEnv 0 [], (by decide : 0 < 2 ^ 16), rfl⟩
  exact absurd (h _ hreachable).transferred (by decide +kernel)

end FileTransfer

end Toxcore
