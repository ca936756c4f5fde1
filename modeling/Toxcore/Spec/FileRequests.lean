import Toxcore.Native.FileTransfer

/-!
# Rejected file requests

A request that is not handed to the client leaves the incoming transfers as they are, but for one: of a kind that need
not be accepted and too large.
-/

namespace Toxcore

/-- A rejected request changes nothing, and a transfer that a request starts has the fields of that request. -/
structure LeavesNoTrace (files : ReceivingFiles) (data : Bytes) : Prop where
  rejected : (handleFileSendrequest files data).callback = none → (handleFileSendrequest files data).files = files
  started : ∀ n, (files.fileReceiving n).status = .none →
    ((handleFileSendrequest files data).files.fileReceiving n).status ≠ .none →
    ∃ request, (handleFileSendrequest files data).callback = some request ∧ request.filenumber = n ∧
      ((handleFileSendrequest files data).files.fileReceiving n).fileType = request.fileType ∧
      ((handleFileSendrequest files data).files.fileReceiving n).size = request.filesize ∧
      ((handleFileSendrequest files data).files.fileReceiving n).id = bytesToVector _ (data.drop 13) ∧
      ((handleFileSendrequest files data).files.fileReceiving n).transferred = 0

/-- A well formed request for a free file number, of a kind of the second message format and too large for it. -/
def OversizedMessage (files : ReceivingFiles) (data : Bytes) : Prop :=
  sendrequestHeadLength ≤ data.length ∧ data.length ≤ sendrequestHeadLength + maxFilenameLength ∧
    (files.fileReceiving (data.headD 0)).status = .none ∧ isMessagev2 (netUnpackU32 (data.drop 1)) ∧
    maxFiletransferSizeMsgv2 < netUnpackU64 (data.drop 5)

variable {files : ReceivingFiles} {data : Bytes}

theorem handleFileSendrequest_cases (files : ReceivingFiles) (data : Bytes) :
    ((handleFileSendrequest files data).files = files ∧ (handleFileSendrequest files data).callback = none ∧
      ¬OversizedMessage files data) ∨
    (OversizedMessage files data ∧ (handleFileSendrequest files data).callback = none ∧
      (handleFileSendrequest files data).files.fileReceiving (data.headD 0) =
        { files.fileReceiving (data.headD 0) with status := .transferring }) ∨
    (¬OversizedMessage files data ∧ ∃ filename ft,
      (handleFileSendrequest files data).callback = some
        { filenumber := data.headD 0, fileType := netUnpackU32 (data.drop 1), filesize := netUnpackU64 (data.drop 5), filename } ∧
      (handleFileSendrequest files data).files.fileReceiving =
        Function.update files.fileReceiving (data.headD 0) ft ∧
      ft.fileType = netUnpackU32 (data.drop 1) ∧ ft.size = netUnpackU64 (data.drop 5) ∧
      ft.id = bytesToVector _ (data.drop 13) ∧ ft.transferred = 0) := by
  unfold handleFileSendrequest
  by_cases hshort : data.length < sendrequestHeadLength
  · rw [if_pos hshort]
    exact .inl ⟨rfl, rfl, fun h => absurd h.1 (Nat.not_le.mpr hshort)⟩
  rw [if_neg hshort]
  by_cases hname : (data.drop sendrequestHeadLength).length > maxFilenameLength
  · rw [if_pos hname]
    rw [List.length_drop] at hname
    exact .inl ⟨rfl, rfl, fun h => by have := h.2.1; omega⟩
  rw [if_neg hname]
  by_cases hused : (files.fileReceiving (data.headD 0)).status ≠ .none
  · rw [if_pos hused]
    exact .inl ⟨rfl, rfl, fun h => hused h.2.2.1⟩
  rw [if_neg hused]
  by_cases hlarge : isMessagev2 (netUnpackU32 (data.drop 1)) ∧ netUnpackU64 (data.drop 5) > maxFiletransferSizeMsgv2
  · rw [if_pos hlarge]
    rw [List.length_drop] at hname
    exact .inr (.inl ⟨⟨by omega, by omega, not_not.mp hused, hlarge⟩, rfl, Function.update_self ..⟩)
  · rw [if_neg hlarge]
    exact .inr (.inr ⟨fun h => hlarge h.2.2.2, _, _, rfl, rfl, rfl, rfl, rfl, rfl⟩)

theorem not_leavesNoTrace (hover : OversizedMessage files data) : ¬LeavesNoTrace files data := by
  intro h
  rcases handleFileSendrequest_cases files data with ⟨-, -, hnot⟩ | ⟨-, hnone, hstatus⟩ | ⟨hnot, -⟩
  · exact hnot hover
  · rw [h.rejected hnone] at hstatus
    have hfree := congrArg FileTransfer.status hstatus
    rw [hover.2.2.1] at hfree
    cases hfree
  · exact hnot hover

theorem leavesNoTrace_iff (files : ReceivingFiles) (data : Bytes) :
    LeavesNoTrace files data ↔ ¬OversizedMessage files data := by
  rcases handleFileSendrequest_cases files data with ⟨hfiles, hnone, hnot⟩ | ⟨hover, -⟩ |
    ⟨hnot, filename, ft, hsome, hset, htype, hsize, hid, hzero⟩
  · refine iff_of_true ⟨fun _ => hfiles, fun n hfree hused => ?_⟩ hnot
    rw [hfiles] at hused
    exact absurd hfree hused
  · exact iff_of_false (not_leavesNoTrace hover) (not_not.mpr hover)
  · refine iff_of_true ⟨fun hnone => ?_, fun n hfree hused => ?_⟩ hnot
    · rw [hsome] at hnone
      cases hnone
    · rw [hset] at hused ⊢
      by_cases hn : n = data.headD 0
      · subst hn
        rw [Function.update_self]
        exact ⟨_, hsome, rfl, htype, hsize, hid, hzero⟩
      · rw [Function.update_of_ne hn] at hused
        exact absurd hfree hused

def noReceivingFiles : ReceivingFiles where
  fileReceiving _ := {
    size := 0, transferred := 0, status := .none, pausedUs := false, pausedOther := false, lastPacketNumber := 0
    requested := 0, id := Vector.replicate _ 0, fileType := 0, receivedSeekControl := false
    receivedSeekControlCounter := 0 }
  numReceivingFiles := 0

theorem not_leavesNoTrace_oversized : ¬∀ files data, LeavesNoTrace files data := by
  intro h
  have hover : OversizedMessage noReceivingFiles ([0, 0, 0, 0, 2, 1] ++ List.replicate 39 0) := by
    unfold OversizedMessage
    decide +kernel
  exact not_leavesNoTrace hover (h _ _)

end Toxcore
