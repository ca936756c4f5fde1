import Toxcore.ForStd.List
import Toxcore.ForStd.UInt32
import Toxcore.Native.GroupMessages

/-!
# Messages that are not processed twice

The numbers of the messages of a peer lie in a window of `2 ^ 31` numbers, so that `dist base` orders them.
`last_message_infos` holds the greatest of the accepted numbers, as long as no message comes that is exactly `2
^ 31 - 1` behind an earlier one, which is taken for a newer one.
-/

namespace Toxcore

open List

open UInt32 (dist dist_def dist_inj)

/-! ## The comparison -/

/-- The position of a message in the window that starts at `base`. -/
def MessageInfo.ahead (base : UInt32) (message : MessageInfo) : Nat := dist base message.messageNumber

def MessageInfo.InWindow (base : UInt32) (message : MessageInfo) : Prop :=
  message.ahead base < 2 ^ 31

instance (base : UInt32) : DecidablePred (MessageInfo.InWindow base) := fun _ => Nat.decLt _ _

variable {base : UInt32} {message info : MessageInfo}

theorem MessageInfo.number_eq_iff :
    message.messageNumber = info.messageNumber ↔ message.ahead base = info.ahead base :=
  ⟨fun h => by rw [ahead, ahead, h], fun h => dist_inj h⟩

theorem MessageInfo.newer_iff (hmessage : message.InWindow base) (hinfo : info.InWindow base) :
    message.messageNumber - (info.messageNumber + (1 : UInt32)) ≤ (1 : UInt32) <<< 31 ↔
      info.ahead base < message.ahead base ∨ info.ahead base = message.ahead base + (2 ^ 31 - 1) := by
  unfold InWindow ahead at *
  have hone : ((1 : UInt32) <<< 31).toNat = 2 ^ 31 := rfl
  rw [UInt32.le_iff_toNat_le, UInt32.toNat_sub, UInt32.toNat_add, UInt32.toNat_one]
  rw [dist_def] at hmessage hinfo
  rw [dist_def, dist_def]
  omega

/-! ## One message -/

namespace GroupPeer

variable {peer : GroupPeer}

theorem length_messageInfos (peer : GroupPeer) :
    peer.messageInfos.length = min peer.numLastMessageInfos.toNat maxLastMessageInfos := by
  rw [messageInfos, length_take, Vector.length_toList]
  rfl

def ignoresOlder (message : MessageInfo) : Bool :=
  message.messageId == groupMessageNameId || message.messageId == groupMessageTitleId

structure Slot (base : UInt32) (message : MessageInfo) (infos : List MessageInfo) (i : Nat) : Prop where
  le : i ≤ infos.length
  before : ∀ info ∈ infos.take i, message.ahead base < info.ahead base
  fresh : ignoresOlder message → ∀ info ∈ infos.take i, info.messageId ≠ message.messageId
  after : ∀ info ∈ infos.drop i, info.ahead base < message.ahead base

def Known (base : UInt32) (message : MessageInfo) (infos : List MessageInfo) : Prop :=
  ∃ info ∈ infos, info.ahead base = message.ahead base ∨
    (ignoresOlder message ∧ info.messageId = message.messageId ∧ message.ahead base < info.ahead base)

def Decreasing (base : UInt32) (infos : List MessageInfo) : Prop :=
  infos.Pairwise fun a b => b.ahead base < a.ahead base

theorem findSlotLoop_spec {infos : List MessageInfo} (hmessage : message.InWindow base)
    (hwindow : ∀ info ∈ infos, info.InWindow base) (hsorted : Decreasing base infos)
    (hahead : ∀ info ∈ infos, info.ahead base ≠ message.ahead base + (2 ^ 31 - 1)) (k : Nat) :
    match findSlotLoop message (ignoresOlder message) infos k with
    | none => Known base message infos
    | some j => ∃ i, j = k + i ∧ Slot base message infos i := by
  induction infos generalizing k with
  | nil => exact ⟨0, rfl, le_rfl, by simp, by simp, by simp⟩
  | cons info infos ih =>
    have htest := MessageInfo.newer_iff hmessage (hwindow info mem_cons_self)
    have hnot := hahead info mem_cons_self
    obtain ⟨hfirst, hrest⟩ := pairwise_cons.mp hsorted
    rw [findSlotLoop]
    -- the unsigned difference of the source compares the distances from the base
    by_cases hnewer : info.ahead base < message.ahead base
    · rw [if_pos (htest.mpr (.inl hnewer))]
      refine ⟨0, rfl, Nat.zero_le _, by simp, by simp, ?_⟩
      intro other hother
      cases mem_cons.mp hother with
      | inl heq => rwa [heq]
      | inr hother => exact Nat.lt_trans (hfirst other hother) hnewer
    · rw [if_neg (fun h => (htest.mp h).elim hnewer hnot)]
      by_cases hsame : message.messageNumber = info.messageNumber
      · rw [if_pos hsame]
        exact ⟨info, mem_cons_self, .inl (MessageInfo.number_eq_iff.mp hsame.symm)⟩
      · rw [if_neg hsame]
        have hlt : message.ahead base < info.ahead base :=
          Nat.lt_of_le_of_ne (Nat.le_of_not_lt hnewer) fun h => hsame (MessageInfo.number_eq_iff.mpr h)
        by_cases hold : (ignoresOlder message && message.messageId == info.messageId) = true
        · rw [if_pos hold]
          obtain ⟨hignores, hid⟩ := Bool.and_eq_true_iff.mp hold
          exact ⟨info, mem_cons_self, .inr ⟨hignores, (beq_iff_eq.mp hid).symm, hlt⟩⟩
        · rw [if_neg hold]
          -- the entry is newer and no reason to reject: the loop goes on behind it
          have ih := ih (fun other hother => hwindow other (mem_cons_of_mem _ hother)) hrest
            (fun other hother => hahead other (mem_cons_of_mem _ hother)) (k + 1)
          generalize findSlotLoop message (ignoresOlder message) infos (k + 1) = found at ih ⊢
          cases found with
          | none =>
            obtain ⟨other, hother, hreason⟩ := ih
            exact ⟨other, mem_cons_of_mem _ hother, hreason⟩
          | some j =>
            obtain ⟨i, hj, hslot⟩ := ih
            refine ⟨i + 1, by omega, Nat.succ_le_succ hslot.le, ?_, ?_, hslot.after⟩
            · intro other hother
              cases mem_cons.mp hother with
              | inl heq => rwa [heq]
              | inr hother => exact hslot.before other hother
            · intro hignores other hother
              cases mem_cons.mp hother with
              | inl heq =>
                rw [heq]
                intro hid
                exact hold (Bool.and_eq_true_iff.mpr ⟨hignores, beq_iff_eq.mpr hid.symm⟩)
              | inr hother => exact hslot.fresh hignores other hother

def Bounded (peer : GroupPeer) : Prop := peer.numLastMessageInfos.toNat ≤ maxLastMessageInfos

theorem checkMessageInfo_eq (hbounded : peer.Bounded) {i : Nat}
    (hslot : peer.findMessageSlotOrReject message = some i) (hi : i ≤ peer.messageInfos.length) :
    (peer.checkMessageInfo message).1 = decide (i < maxLastMessageInfos) ∧
      (peer.checkMessageInfo message).2.messageInfos =
        if i < maxLastMessageInfos then
          (peer.messageInfos.insertIdx i message).take maxLastMessageInfos
        else peer.messageInfos := by
  have hmax : maxLastMessageInfos = 8 := rfl
  have hlength := length_messageInfos peer
  unfold Bounded at hbounded
  rw [checkMessageInfo, hslot]
  dsimp only
  by_cases hfull : i = maxLastMessageInfos
  · rw [if_pos hfull, if_neg (by omega)]
    exact ⟨(decide_eq_false (by omega)).symm, rfl⟩
  · have hlt : i < maxLastMessageInfos := by omega
    rw [if_neg hfull, if_pos hlt]
    refine ⟨(decide_eq_true hlt).symm, ?_⟩
    -- the new number of entries
    have hnum : (if peer.numLastMessageInfos.toNat < maxLastMessageInfos
        then peer.numLastMessageInfos + 1 else peer.numLastMessageInfos).toNat =
          min (peer.messageInfos.length + 1) maxLastMessageInfos := by
      split
      · rw [UInt8.toNat_add, UInt8.toNat_one]
        omega
      · omega
    rw [messageInfos, hnum]
    apply ext_getElem
    · rw [length_take, length_take, Vector.length_toList, length_insertIdx_of_le_length hi]
      omega
    · intro j hj hj'
      have hlt : j < maxLastMessageInfos := by
        rw [length_take] at hj'
        omega
      have hnum : j < peer.messageInfos.length + 1 := by
        rw [length_take] at hj
        omega
      rw [getElem_take, getElem_take, Vector.getElem_toList]
      simp only [insertInfo, Vector.getElem_ofFn]
      -- entries before the slot stay, those behind it move by one
      rcases Nat.lt_trichotomy j i with hji | hji | hji
      · rw [if_neg (by omega), if_neg (by omega), getElem_insertIdx_of_lt hji]
        simp only [messageInfos, getElem_take]
        rfl
      · subst hji
        rw [if_pos rfl, getElem_insertIdx_self]
      · rw [if_neg (by omega), if_pos (by omega), getElem_insertIdx_of_gt hji]
        simp only [messageInfos, getElem_take]
        rfl

/-! ## The list of recent messages -/

/-- A number that is not in the list is smaller than eight others. -/
structure Recent (base : UInt32) (accepted : List MessageInfo) (peer : GroupPeer) : Prop where
  bounded : peer.Bounded
  sorted : Decreasing base peer.messageInfos
  seen : ∀ info ∈ peer.messageInfos, info ∈ accepted
  known : ∀ info ∈ accepted, info ∈ peer.messageInfos ∨
    peer.messageInfos.length = maxLastMessageInfos ∧
      ∀ other ∈ peer.messageInfos, info.ahead base < other.ahead base

def Fresh (base : UInt32) (accepted : List MessageInfo) (message : MessageInfo) : Prop :=
  ∀ info ∈ accepted, info.ahead base ≠ message.ahead base ∧
    (ignoresOlder message → info.messageId = message.messageId → info.ahead base < message.ahead base)

variable {infos accepted : List MessageInfo} {i : Nat}

theorem Slot.decreasing (h : Slot base message infos i) (hsorted : Decreasing base infos) :
    Decreasing base (infos.insertIdx i message) := by
  apply List.pairwise_insertIdx hsorted
  · intro j info hj hinfo
    apply h.before info
    rw [← getElem?_take_of_lt hj] at hinfo
    exact mem_of_getElem? hinfo
  · intro j info hj hinfo
    apply h.after info
    obtain ⟨k, rfl⟩ := Nat.exists_eq_add_of_le hj
    rw [← getElem?_drop] at hinfo
    exact mem_of_getElem? hinfo

theorem Decreasing.mem_take (h : Decreasing base infos) (hmem : info ∈ infos) (n : Nat) :
    info ∈ infos.take n ∨
      (infos.take n).length = n ∧ ∀ other ∈ infos.take n, info.ahead base < other.ahead base := by
  rw [← take_append_drop n infos] at h hmem
  cases mem_append.mp hmem with
  | inl hmem => exact .inl hmem
  | inr hmem =>
    refine .inr ⟨?_, fun other hother => (pairwise_append.mp h).2.2 other hother info hmem⟩
    have hlong := length_pos_of_mem hmem
    rw [length_drop] at hlong
    rw [length_take]
    omega

theorem Slot.lt_of_forall (h : Slot base message infos i) (hi : i < infos.length)
    (hall : ∀ other ∈ infos, info.ahead base < other.ahead base) :
    info.ahead base < message.ahead base := by
  have hmem : infos[i] ∈ infos.drop i :=
    mem_of_getElem? (by rw [getElem?_drop, Nat.add_zero, getElem?_eq_getElem hi])
  exact Nat.lt_trans (hall _ (getElem_mem hi)) (h.after _ hmem)

theorem Slot.fresh_of_recent (h : Slot base message peer.messageInfos i)
    (hrecent : Recent base accepted peer) (hi : i < maxLastMessageInfos) : Fresh base accepted message := by
  intro info hinfo
  cases hrecent.known info hinfo with
  | inl hmem =>
    -- the slot separates the newer entries from the older ones
    rw [← take_append_drop i peer.messageInfos] at hmem
    cases mem_append.mp hmem with
    | inl hmem =>
      have hlt := h.before info hmem
      exact ⟨by omega, fun hignores hid => absurd hid (h.fresh hignores info hmem)⟩
    | inr hmem =>
      have hlt := h.after info hmem
      exact ⟨by omega, fun _ _ => hlt⟩
  | inr hdropped =>
    -- what has dropped out is older than the oldest entry
    have hlt := h.lt_of_forall (by rw [hdropped.1]; exact hi) hdropped.2
    exact ⟨by omega, fun _ _ => hlt⟩

theorem Slot.recent (h : Slot base message peer.messageInfos i) (hrecent : Recent base accepted peer)
    (hi : i < maxLastMessageInfos) {peer' : GroupPeer} (hbounded : peer'.Bounded)
    (hinfos : peer'.messageInfos = (peer.messageInfos.insertIdx i message).take maxLastMessageInfos) :
    Recent base (accepted ++ [message]) peer' := by
  have hsorted := h.decreasing hrecent.sorted
  have hmem : ∀ info, info ∈ peer.messageInfos.insertIdx i message ↔
      info = message ∨ info ∈ peer.messageInfos := fun info => mem_insertIdx h.le
  refine ⟨hbounded, ?_, ?_, ?_⟩
  · rw [hinfos]
    exact hsorted.sublist (take_sublist _ _)
  · intro info hinfo
    rw [hinfos] at hinfo
    rw [mem_append, mem_singleton]
    cases (hmem info).mp (mem_of_mem_take hinfo) with
    | inl heq => exact .inr heq
    | inr hold => exact .inl (hrecent.seen info hold)
  · intro info hinfo
    rw [hinfos]
    by_cases hin : info ∈ peer.messageInfos.insertIdx i message
    · exact Decreasing.mem_take hsorted hin maxLastMessageInfos
    · -- the message had dropped out before
      obtain ⟨hne, hnot⟩ := not_or.mp (fun hor => hin ((hmem info).mpr hor))
      rw [mem_append, mem_singleton] at hinfo
      have hdropped := (hrecent.known info (hinfo.resolve_right hne)).resolve_left hnot
      refine .inr ⟨?_, ?_⟩
      · rw [length_take, length_insertIdx_of_le_length h.le]
        omega
      · intro other hother
        cases (hmem other).mp (mem_of_mem_take hother) with
        | inl heq =>
          rw [heq]
          exact h.lt_of_forall (by rw [hdropped.1]; exact hi) hdropped.2
        | inr hold => exact hdropped.2 other hold

theorem Bounded.checkMessageInfo (h : peer.Bounded) (message : MessageInfo) :
    (peer.checkMessageInfo message).2.Bounded := by
  unfold Bounded at *
  rw [GroupPeer.checkMessageInfo]
  split
  · exact h
  · split
    · exact h
    · split
      · rw [UInt8.toNat_add, UInt8.toNat_one]
        omega
      · exact h

theorem findMessageSlotOrReject_eq (peer : GroupPeer) (message : MessageInfo) :
    peer.findMessageSlotOrReject message =
      findSlotLoop message (ignoresOlder message) peer.messageInfos 0 := rfl

theorem Recent.checkMessageInfo (h : Recent base accepted peer) (hmessage : message.InWindow base)
    (hwindow : ∀ info ∈ accepted, info.InWindow base)
    (hahead : ∀ info ∈ accepted, info.ahead base ≠ message.ahead base + (2 ^ 31 - 1)) :
    ((peer.checkMessageInfo message).1 = true → Fresh base accepted message ∧
      Recent base (accepted ++ [message]) (peer.checkMessageInfo message).2) ∧
    ((peer.checkMessageInfo message).1 = false →
      (peer.checkMessageInfo message).2.messageInfos = peer.messageInfos ∧
        ∃ info ∈ accepted, message.ahead base ≤ info.ahead base) := by
  have hslot := findSlotLoop_spec hmessage (fun info hinfo => hwindow info (h.seen info hinfo)) h.sorted
    (fun info hinfo => hahead info (h.seen info hinfo)) 0
  have hbounded := h.bounded.checkMessageInfo message
  rw [← findMessageSlotOrReject_eq] at hslot
  cases hfound : peer.findMessageSlotOrReject message with
  | none =>
    rw [hfound] at hslot
    obtain ⟨info, hinfo, hreason⟩ := hslot
    rw [GroupPeer.checkMessageInfo, hfound]
    refine ⟨fun hfalse => Bool.noConfusion hfalse, fun _ => ⟨rfl, info, h.seen info hinfo, ?_⟩⟩
    cases hreason with
    | inl heq => exact Nat.le_of_eq heq.symm
    | inr hold => exact Nat.le_of_lt hold.2.2
  | some j =>
    rw [hfound] at hslot
    obtain ⟨i, rfl, hslot⟩ := hslot
    rw [Nat.zero_add] at hfound
    obtain ⟨haccepted, hinfos⟩ := checkMessageInfo_eq h.bounded hfound hslot.le
    rw [haccepted, decide_eq_true_iff, decide_eq_false_iff_not]
    constructor
    · intro hi
      rw [if_pos hi] at hinfos
      exact ⟨hslot.fresh_of_recent h hi, hslot.recent h hi hbounded hinfos⟩
    · intro hi
      rw [if_neg hi] at hinfos
      -- all eight entries are newer
      have hlength := length_messageInfos peer
      have hfull : i = peer.messageInfos.length := by
        have hle := hslot.le
        omega
      have hmax : maxLastMessageInfos = 8 := rfl
      have hpos : 0 < peer.messageInfos.length := by omega
      refine ⟨hinfos, peer.messageInfos[0], h.seen _ (getElem_mem hpos), ?_⟩
      refine Nat.le_of_lt (hslot.before _ ?_)
      rw [hfull, take_length]
      exact getElem_mem hpos

/-! ## Runs -/

structure Received where
  accepted : List MessageInfo
  peer : GroupPeer

def Received.receive (s : Received) (message : MessageInfo) : Received :=
  let (process, peer) := s.peer.checkMessageInfo message
  { accepted := if process then s.accepted ++ [message] else s.accepted, peer }

def receiveAll (peer : GroupPeer) (messages : List MessageInfo) : Received :=
  messages.foldl Received.receive { accepted := [], peer }

theorem receiveAll_concat (peer : GroupPeer) (messages : List MessageInfo) (message : MessageInfo) :
    peer.receiveAll (messages ++ [message]) = (peer.receiveAll messages).receive message := by
  rw [receiveAll, foldl_append]
  rfl

/-- What the list of recent messages is for, in a run over `messages`. -/
structure Deduplicates (base : UInt32) (peer : GroupPeer) (messages : List MessageInfo) : Prop where
  sorted : ∀ past, past <+: messages → Decreasing base (peer.receiveAll past).peer.messageInfos ∧
    (peer.receiveAll past).peer.messageInfos.length ≤ maxLastMessageInfos
  once : ((peer.receiveAll messages).accepted.map (·.messageNumber)).Nodup
  newest : ∀ past message, past ++ [message] <+: messages →
    (∀ seen ∈ past, seen.ahead base < message.ahead base) →
      ((peer.receiveAll past).peer.checkMessageInfo message).1 = true
  latest : ∀ id, id = groupMessageNameId ∨ id = groupMessageTitleId →
    ((peer.receiveAll messages).accepted.filter (·.messageId == id)).Pairwise fun old new =>
      old.ahead base < new.ahead base

def Comparable (base : UInt32) (earlier later : MessageInfo) : Prop :=
  earlier.ahead base ≠ later.ahead base + (2 ^ 31 - 1)

instance (base : UInt32) : DecidableRel (Comparable base) := fun _ _ => instDecidableNot

/-- What holds after the messages `past`. -/
structure RunInvariant (base : UInt32) (past : List MessageInfo) (s : Received) : Prop where
  recent : Recent base s.accepted s.peer
  arrived : ∀ info ∈ s.accepted, info ∈ past
  covered : ∀ message ∈ past, ∃ info ∈ s.accepted, message.ahead base ≤ info.ahead base
  fresh : s.accepted.Pairwise fun old new => old.ahead base ≠ new.ahead base ∧
    (ignoresOlder new → old.messageId = new.messageId → old.ahead base < new.ahead base)

variable {past messages : List MessageInfo} {s : Received}

theorem Recent.of_messageInfos (h : Recent base accepted peer) {peer' : GroupPeer}
    (hbounded : peer'.Bounded) (hinfos : peer'.messageInfos = peer.messageInfos) :
    Recent base accepted peer' := by
  obtain ⟨-, hsorted, hseen, hknown⟩ := h
  rw [← hinfos] at hsorted hseen hknown
  exact ⟨hbounded, hsorted, hseen, hknown⟩

theorem RunInvariant.receive (h : RunInvariant base past s) (hmessage : message.InWindow base)
    (hwindow : ∀ info ∈ past, info.InWindow base)
    (hcomparable : ∀ info ∈ past, Comparable base info message) :
    RunInvariant base (past ++ [message]) (s.receive message) := by
  obtain ⟨htrue, hfalse⟩ := h.recent.checkMessageInfo hmessage
    (fun info hinfo => hwindow info (h.arrived info hinfo))
    (fun info hinfo => hcomparable info (h.arrived info hinfo))
  have hbounded := h.recent.bounded.checkMessageInfo message
  rw [Received.receive]
  generalize s.peer.checkMessageInfo message = result at htrue hfalse hbounded ⊢
  obtain ⟨process, peer⟩ := result
  cases process with
  | true =>
    -- the message itself covers its number from now on
    obtain ⟨hfresh, hrecent⟩ := htrue rfl
    refine ⟨hrecent, ?_, ?_, ?_⟩
    · intro info hinfo
      cases mem_append.mp hinfo with
      | inl hold => exact mem_append_left _ (h.arrived info hold)
      | inr hnew => exact mem_append_right _ hnew
    · intro other hother
      cases mem_append.mp hother with
      | inl hold =>
        obtain ⟨info, hinfo, hle⟩ := h.covered other hold
        exact ⟨info, mem_append_left _ hinfo, hle⟩
      | inr hnew =>
        rw [mem_singleton.mp hnew]
        exact ⟨message, mem_append_right _ mem_cons_self, le_rfl⟩
    · refine pairwise_append.mpr ⟨h.fresh, pairwise_singleton _ _, ?_⟩
      intro old hold new hnew
      rw [mem_singleton.mp hnew]
      exact hfresh old hold
  | false =>
    -- the list is as before, and an accepted message is at least as new
    obtain ⟨hinfos, hnewer⟩ := hfalse rfl
    refine ⟨h.recent.of_messageInfos hbounded hinfos, ?_, ?_, h.fresh⟩
    · exact fun info hinfo => mem_append_left _ (h.arrived info hinfo)
    · intro other hother
      cases mem_append.mp hother with
      | inl hold => exact h.covered other hold
      | inr hnew =>
        rw [mem_singleton.mp hnew]
        exact hnewer

theorem runInvariant_nil (base : UInt32) (hnew : peer.numLastMessageInfos = 0) :
    RunInvariant base [] (peer.receiveAll []) := by
  have hinfos : peer.messageInfos = [] := by
    rw [messageInfos, hnew]
    rfl
  refine ⟨⟨?_, ?_, ?_, ?_⟩, ?_, ?_, List.Pairwise.nil⟩
  · show peer.numLastMessageInfos.toNat ≤ 8
    rw [hnew]
    exact Nat.zero_le _
  all_goals simp [receiveAll, hinfos, Decreasing]

theorem runInvariant_receiveAll (hnew : peer.numLastMessageInfos = 0)
    (hwindow : ∀ message ∈ messages, message.InWindow base)
    (hcomparable : messages.Pairwise (Comparable base)) :
    RunInvariant base messages (peer.receiveAll messages) := by
  -- messages arrive at the end of the list
  induction messages using List.reverseRecOn with
  | nil => exact runInvariant_nil base hnew
  | append_singleton messages message ih =>
    obtain ⟨hpast, -, hlast⟩ := pairwise_append.mp hcomparable
    rw [receiveAll_concat]
    refine (ih ?_ hpast).receive ?_ ?_ ?_
    · exact fun info hinfo => hwindow info (mem_append_left _ hinfo)
    · exact hwindow message (mem_append_right _ mem_cons_self)
    · exact fun info hinfo => hwindow info (mem_append_left _ hinfo)
    · exact fun info hinfo => hlast info hinfo message mem_cons_self

theorem ignoresOlder_iff : ignoresOlder message = true ↔
    message.messageId = groupMessageNameId ∨ message.messageId = groupMessageTitleId := by
  rw [ignoresOlder, Bool.or_eq_true, beq_iff_eq, beq_iff_eq]

theorem deduplicates_of_comparable (hnew : peer.numLastMessageInfos = 0)
    (hwindow : ∀ message ∈ messages, message.InWindow base)
    (hcomparable : messages.Pairwise (Comparable base)) : Deduplicates base peer messages := by
  -- the invariant holds after every prefix
  have hinvariant : ∀ past, past <+: messages → RunInvariant base past (peer.receiveAll past) :=
    fun past hpast => runInvariant_receiveAll hnew (fun info hinfo => hwindow info (hpast.subset hinfo))
      (hcomparable.sublist hpast.sublist)
  have hfresh := (hinvariant messages (prefix_refl _)).fresh
  refine ⟨?_, ?_, ?_, ?_⟩
  · intro past hpast
    refine ⟨(hinvariant past hpast).recent.sorted, ?_⟩
    rw [length_messageInfos]
    exact Nat.min_le_right _ _
  · rw [nodup_iff_pairwise_ne, pairwise_map]
    exact hfresh.imp fun h heq => h.1 (MessageInfo.number_eq_iff.mp heq)
  · intro past message hpast hnewest
    have hinv := hinvariant past ((prefix_append _ _).trans hpast)
    have hmem : ∀ info ∈ past ++ [message], info ∈ messages := fun info hinfo => hpast.subset hinfo
    obtain ⟨-, hfalse⟩ := hinv.recent.checkMessageInfo
      (hwindow message (hmem message (mem_append_right _ mem_cons_self)))
      (fun info hinfo => hwindow info (hmem info (mem_append_left _ (hinv.arrived info hinfo))))
      (fun info hinfo => (pairwise_append.mp (hcomparable.sublist hpast.sublist)).2.2 info
        (hinv.arrived info hinfo) message mem_cons_self)
    by_contra hrejected
    obtain ⟨-, info, hinfo, hle⟩ := hfalse (Bool.eq_false_iff.mpr hrejected)
    exact Nat.not_lt.mpr hle (hnewest info (hinv.arrived info hinfo))
  · intro id hid
    rw [pairwise_filter]
    refine hfresh.imp fun h hold hnew => ?_
    rw [beq_iff_eq] at hold hnew
    exact h.2 (ignoresOlder_iff.mpr (hnew ▸ hid)) (hold.trans hnew.symm)

theorem RunInvariant.head_ge (h : RunInvariant base past s) (hmem : message ∈ past) :
    ∃ first rest, s.peer.messageInfos = first :: rest ∧ message.ahead base ≤ first.ahead base := by
  obtain ⟨info, hinfo, hle⟩ := h.covered message hmem
  have hsorted := h.recent.sorted
  have hknown := h.recent.known info hinfo
  cases hinfos : s.peer.messageInfos with
  | nil =>
    rw [hinfos] at hknown
    cases hknown with
    | inl hin => exact absurd hin not_mem_nil
    | inr hdropped => exact absurd hdropped.1 (by decide)
  | cons first rest =>
    rw [hinfos] at hsorted hknown
    refine ⟨first, rest, rfl, Nat.le_trans hle ?_⟩
    cases hknown with
    | inl hin =>
      cases mem_cons.mp hin with
      | inl heq => rw [heq]
      | inr hin => exact Nat.le_of_lt ((pairwise_cons.mp hsorted).1 info hin)
    | inr hdropped => exact Nat.le_of_lt (hdropped.2 first mem_cons_self)

theorem RunInvariant.not_decreasing (h : RunInvariant base past s) (hmessage : message.InWindow base)
    (hwindow : ∀ info ∈ past, info.InWindow base) {earlier : MessageInfo} (hmem : earlier ∈ past)
    (hahead : earlier.ahead base = message.ahead base + (2 ^ 31 - 1)) :
    ¬Decreasing base (s.receive message).peer.messageInfos := by
  obtain ⟨first, rest, hinfos, hle⟩ := h.head_ge hmem
  have hin : first ∈ s.accepted := h.recent.seen first (hinfos ▸ mem_cons_self)
  have hfirst := hwindow first (h.arrived first hin)
  have hfirst' : first.ahead base = message.ahead base + (2 ^ 31 - 1) := by
    unfold MessageInfo.InWindow at hfirst
    omega
  have hfound : s.peer.findMessageSlotOrReject message = some 0 := by
    rw [findMessageSlotOrReject_eq, hinfos, findSlotLoop,
      if_pos ((MessageInfo.newer_iff hmessage hfirst).mpr (.inr hfirst'))]
  obtain ⟨-, hinfos'⟩ := checkMessageInfo_eq h.recent.bounded hfound (Nat.zero_le _)
  have hpeer : (s.receive message).peer = (s.peer.checkMessageInfo message).2 := rfl
  rw [hpeer, hinfos', hinfos]
  intro hsorted
  have hlt := (pairwise_cons.mp hsorted).1 first mem_cons_self
  omega

/-- The list keeps its promises exactly if no message is `2 ^ 31 - 1` behind an earlier one. -/
theorem deduplicates_iff (base : UInt32) (peer : GroupPeer) (hnew : peer.numLastMessageInfos = 0)
    (messages : List MessageInfo) (hwindow : ∀ message ∈ messages, message.InWindow base) :
    Deduplicates base peer messages ↔ messages.Pairwise (Comparable base) := by
  constructor
  · intro h
    -- an incomparable message breaks the order already, whatever the other promises are
    have hsorted : ∀ past, past <+: messages → Decreasing base (peer.receiveAll past).peer.messageInfos :=
      fun past hpast => (h.sorted past hpast).1
    clear h
    induction messages using List.reverseRecOn with
    | nil => exact List.Pairwise.nil
    | append_singleton messages message ih =>
      have hpast : ∀ info ∈ messages, info.InWindow base :=
        fun info hinfo => hwindow info (mem_append_left _ hinfo)
      have hcomparable := ih hpast fun past hbefore => hsorted past (hbefore.trans (prefix_append _ _))
      refine pairwise_append.mpr ⟨hcomparable, pairwise_singleton _ _, ?_⟩
      intro earlier hearlier later hlater hahead
      rw [mem_singleton.mp hlater] at hahead
      have hlast := hsorted _ (prefix_refl _)
      rw [receiveAll_concat] at hlast
      exact (runInvariant_receiveAll hnew hpast hcomparable).not_decreasing
        (hwindow message (mem_append_right _ mem_cons_self)) hpast hearlier hahead hlast
  · exact deduplicates_of_comparable hnew hwindow

/-- Three messages of which the second arrives late. -/
theorem deduplicates_three : Deduplicates 0 emptyGroupPeer
    [⟨2, groupMessageNameId⟩, ⟨1, groupMessageTitleId⟩, ⟨3, groupMessageNameId⟩] :=
  (deduplicates_iff 0 emptyGroupPeer rfl _ (by decide +kernel)).mpr (by decide +kernel)

/-- A name that is `2 ^ 31 - 1` behind the present one replaces it. -/
theorem not_deduplicates_boundary : ¬∀ (base : UInt32) (peer : GroupPeer) (messages : List MessageInfo),
    peer.numLastMessageInfos = 0 → (∀ message ∈ messages, message.InWindow base) →
      Deduplicates base peer messages := by
  intro h
  have hlatest := (h 0 emptyGroupPeer
    [⟨2147483647, groupMessageNameId⟩, ⟨0, groupMessageNameId⟩] rfl (by decide +kernel)).latest
      groupMessageNameId (.inl rfl)
  exact absurd hlatest (by decide +kernel)

end GroupPeer

end Toxcore
