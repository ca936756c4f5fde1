import Mathlib.Algebra.Order.Ring.Int
import Toxcore.Spec.RequestPacketExact
import Toxcore.ForStd.TransitionSystem

/-!
# `Packets_Array` refines a window of packets

A window is a finite map from the numbers of a cyclic interval to packets.  Every operation on a
packet array gives the same result as the operation on the window that the array stands for, and
leaves an array that stands for the new window.
-/

namespace Toxcore

open UInt32 (dist dist_self dist_add_one dist_add_one_left dist_of_le)

structure PacketsWindow where
  start : UInt32
  length : Nat
  packet : UInt32 → Option PacketData
  length_le : length ≤ cryptoPacketBufferSize
  inside : ∀ n, length ≤ dist start n → packet n = none

/-- The operations on packet arrays; `calloc` is whether memory can be allocated. -/
inductive PacketsOp where
  | addDataToBuffer (number : UInt32) (data : PacketData) (calloc : Bool)
  | addDataEndOfBuffer (data : PacketData) (calloc : Bool)
  | readDataBegBuffer
  | clearBufferUntil (number : UInt32)
  | setBufferEnd (number : UInt32)
  | handleRequestPacket (data : Bytes) (latestSendTime rttTime tempTime : UInt64)
  | clearBuffer

inductive PacketsResult where
  | failed
  | done
  | number (number : UInt32)
  | packet (number : UInt32) (data : PacketData)
  | requested (count : Nat) (latestSendTime : UInt64)
deriving DecidableEq

def PacketsArray.run (a : PacketsArray) : PacketsOp → PacketsResult × PacketsArray
  | .addDataToBuffer number data calloc =>
    match a.addDataToBuffer number data calloc with
    | none => (.failed, a)
    | some a => (.done, a)
  | .addDataEndOfBuffer data calloc =>
    match a.addDataEndOfBuffer data calloc with
    | none => (.failed, a)
    | some (number, a) => (.number number, a)
  | .readDataBegBuffer =>
    match a.readDataBegBuffer with
    | none => (.failed, a)
    | some (number, data, a) => (.packet number data, a)
  | .clearBufferUntil number =>
    match a.clearBufferUntil number with
    | none => (.failed, a)
    | some a => (.done, a)
  | .setBufferEnd number =>
    match a.setBufferEnd number with
    | none => (.failed, a)
    | some a => (.done, a)
  | .handleRequestPacket data latestSendTime rttTime tempTime =>
    match a.handleRequestPacket data latestSendTime rttTime tempTime with
    | (none, a, _) => (.failed, a)
    | (some count, a, latestSendTime) => (.requested count latestSendTime, a)
  | .clearBuffer => (.done, a.clearBuffer)

namespace PacketsWindow

variable (w : PacketsWindow)

def get (n : UInt32) : PacketsArray.DataPointer :=
  if dist w.start n < w.length then
    match w.packet n with
    | none => .hole
    | some data => .packet data
  else .outside

def extend (length : Nat) (hle : length ≤ cryptoPacketBufferSize) (hge : w.length ≤ length) :
    PacketsWindow where
  start := w.start
  length := length
  packet := w.packet
  length_le := hle
  inside n hn := w.inside n (Nat.le_trans hge hn)

def set (n : UInt32) (packet : Option PacketData) (hn : dist w.start n < w.length) :
    PacketsWindow where
  start := w.start
  length := w.length
  packet := Function.update w.packet n packet
  length_le := w.length_le
  inside m hm := by
    have hne : m ≠ n := by
      intro heq
      rw [heq] at hm
      omega
    rw [Function.update_of_ne hne]
    exact w.inside m hm

def mapPackets (f : UInt32 → Option PacketData → Option PacketData) (hf : ∀ n, f n none = none) :
    PacketsWindow where
  start := w.start
  length := w.length
  packet n := f n (w.packet n)
  length_le := w.length_le
  inside n hn := by rw [w.inside n hn, hf]

def dropUntil (n : UInt32) : PacketsWindow where
  start := n
  length := w.length - dist w.start n
  packet m := if dist n m < w.length - dist w.start n then w.packet m else none
  length_le := Nat.le_trans (Nat.sub_le _ _) w.length_le
  inside _ hm := if_neg (Nat.not_lt.mpr hm)

theorem applyMark_none (tempTime rttTime : UInt64) (mark : RequestMark) :
    PacketsArray.applyMark tempTime rttTime mark none = none := by
  cases mark with
  | asked => rfl
  | received => rfl
  | unknown => rfl

theorem dist_end (h : w.length < cryptoPacketBufferSize) :
    dist w.start (w.start + UInt32.ofNat w.length) < w.length + 1 := by
  have hsmall : cryptoPacketBufferSize < 2 ^ 32 := by decide
  rw [UInt32.dist_add_ofNat _ (by omega)]
  omega

def run : PacketsOp → PacketsResult × PacketsWindow
  | .addDataToBuffer number data calloc =>
    if h : dist w.start number < cryptoPacketBufferSize ∧ w.packet number = none ∧ calloc then
      (.done, (w.extend (max w.length (dist w.start number + 1))
        (Nat.max_le.mpr ⟨w.length_le, h.1⟩) (Nat.le_max_left _ _)).set number (some data)
          (Nat.le_max_right _ _))
    else (.failed, w)
  | .addDataEndOfBuffer data calloc =>
    if h : w.length < cryptoPacketBufferSize ∧ calloc then
      (.number (w.start + UInt32.ofNat w.length), (w.extend (w.length + 1) h.1
        (Nat.le_succ _)).set (w.start + UInt32.ofNat w.length) (some data) (w.dist_end h.1))
    else (.failed, w)
  | .readDataBegBuffer =>
    match w.packet w.start with
    | none => (.failed, w)
    | some data => (.packet w.start data, w.dropUntil (w.start + 1))
  | .clearBufferUntil number =>
    if 0 < dist w.start number ∧ dist w.start number ≤ w.length then (.done, w.dropUntil number)
    else (.failed, w)
  | .setBufferEnd number =>
    if h : dist w.start number ≤ cryptoPacketBufferSize ∧ w.length ≤ dist w.start number then
      (.done, w.extend (dist w.start number) h.1 h.2)
    else (.failed, w)
  | .handleRequestPacket data latestSendTime rttTime tempTime =>
    match data with
    | [] => (.failed, w)
    | d :: rest =>
      if d ≠ packetIdRequest then (.failed, w)
      else
        (.requested ((List.range w.length).countP fun j => requestMark 1 rest j = .asked)
          (max latestSendTime (PacketsArray.latestReceived (requestMark 1 rest)
            (fun j => w.packet (w.start + UInt32.ofNat j)) w.length 0)),
          w.mapPackets (fun n =>
            PacketsArray.applyMark tempTime rttTime (requestMark 1 rest (dist w.start n)))
            fun _ => applyMark_none _ _ _)
  | .clearBuffer => (.done, w.dropUntil (w.start + UInt32.ofNat w.length))

end PacketsWindow

namespace PacketsArray

variable {a a' : PacketsArray} {w : PacketsWindow}

structure Represents (a : PacketsArray) (w : PacketsWindow) : Prop where
  wellFormed : a.WellFormed
  start : w.start = a.bufferStart
  length : w.length = a.size
  packet : ∀ n, w.packet n = a.lookup n

def window (a : PacketsArray) (h : a.WellFormed) : PacketsWindow where
  start := a.bufferStart
  length := a.size
  packet := a.lookup
  length_le := h.size_le
  inside _ hn := if_neg (Nat.not_lt.mpr hn)

theorem represents_window (h : a.WellFormed) : a.Represents (a.window h) :=
  ⟨h, rfl, rfl, fun _ => rfl⟩

/-! ## The operations -/

theorem offset_dropUntil {n m : UInt32} (hn : a.offset n ≤ a.size) (hsize : a.size < 2 ^ 31) :
    dist n m < a.size - a.offset n ↔ a.offset n ≤ a.offset m ∧ a.offset m < a.size := by
  by_cases hle : a.offset n ≤ a.offset m
  · have hdist : dist n m = a.offset m - a.offset n := dist_of_le (s := a.bufferStart) hle
    omega
  · have hdist : dist n m = 2 ^ 32 + a.offset m - a.offset n :=
      UInt32.dist_of_lt (s := a.bufferStart) (Nat.not_le.mp hle)
    omega

theorem Represents.dropUntil (h : a.Represents w) {n : UInt32} (hn : a.offset n ≤ a.size)
    (hwf : a'.WellFormed) (hstart : a'.bufferStart = n) (hsize : a'.size = a.size - a.offset n)
    (hlookup : ∀ m, a'.lookup m = if a.offset m < a.offset n then none else a.lookup m) :
    a'.Represents (w.dropUntil n) := by
  have hcap := h.wellFormed.size_le
  have hsmall : cryptoPacketBufferSize < 2 ^ 31 := by decide
  refine ⟨hwf, hstart.symm, ?_, ?_⟩
  · show w.length - dist w.start n = a'.size
    rw [h.length, h.start, hsize]
    rfl
  · intro m
    show (if dist n m < w.length - dist w.start n then w.packet m else none) = _
    rw [h.length, h.start, hlookup, show dist a.bufferStart n = a.offset n from rfl]
    have hiff := offset_dropUntil (a := a) (m := m) hn (by omega)
    by_cases hlt : dist n m < a.size - a.offset n
    · rw [if_pos hlt, if_neg (by have := hiff.mp hlt; omega), h.packet]
    · rw [if_neg hlt]
      split
      · rfl
      · rw [lookup, if_neg]
        intro hin
        exact hlt (hiff.mpr ⟨by omega, hin⟩)

theorem Represents.addDataToBuffer (h : a.Represents w) (number : UInt32) (data : PacketData)
    (calloc : Bool) :
    (a.run (.addDataToBuffer number data calloc)).1 = (w.run (.addDataToBuffer number data calloc)).1 ∧
      (a.run (.addDataToBuffer number data calloc)).2.Represents
        (w.run (.addDataToBuffer number data calloc)).2 := by
  rw [PacketsArray.run, PacketsWindow.run]
  have hcond : (dist w.start number < cryptoPacketBufferSize ∧ w.packet number = none ∧ calloc) ↔
      (a.offset number < cryptoPacketBufferSize ∧ a.lookup number = none ∧ calloc) := by
    rw [h.start, h.packet]
    rfl
  cases hadd : a.addDataToBuffer number data calloc with
  | none =>
    have hnot : ¬(dist w.start number < cryptoPacketBufferSize ∧ w.packet number = none ∧ calloc) := by
      intro hall
      obtain ⟨hcap, hfree, rfl⟩ := hcond.mp hall
      have hsome := addDataToBuffer_isSome (d := data) h.wellFormed hcap hfree
      rw [hadd] at hsome
      cases hsome
    rw [dif_neg hnot]
    exact ⟨rfl, h⟩
  | some a' =>
    obtain ⟨hcap, hfree, hwf, hstart, hsize, hlookup⟩ := addDataToBuffer_spec h.wellFormed hadd
    have hcalloc : calloc = true := by
      cases calloc with
      | true => rfl
      | false =>
        unfold PacketsArray.addDataToBuffer at hadd
        simp at hadd
    rw [dif_pos (hcond.mpr ⟨hcap, hfree, hcalloc⟩)]
    refine ⟨rfl, hwf, h.start.trans hstart.symm, ?_, ?_⟩
    · show max w.length (dist w.start number + 1) = a'.size
      rw [hsize, h.length, h.start]
      rfl
    · intro m
      show Function.update w.packet number (some data) m = a'.lookup m
      rw [hlookup]
      by_cases hm : m = number
      · rw [hm, Function.update_self, if_pos rfl]
      · rw [Function.update_of_ne hm, if_neg hm, h.packet]

theorem Represents.addDataEndOfBuffer (h : a.Represents w) (data : PacketData) (calloc : Bool) :
    (a.run (.addDataEndOfBuffer data calloc)).1 = (w.run (.addDataEndOfBuffer data calloc)).1 ∧
      (a.run (.addDataEndOfBuffer data calloc)).2.Represents (w.run (.addDataEndOfBuffer data calloc)).2 := by
  rw [PacketsArray.run, PacketsWindow.run]
  have hend : w.start + UInt32.ofNat w.length = a.bufferEnd := by
    rw [h.start, h.length]
    exact UInt32.add_ofNat_dist a.bufferStart a.bufferEnd
  cases hadd : a.addDataEndOfBuffer data calloc with
  | none =>
    have hnot : ¬(w.length < cryptoPacketBufferSize ∧ calloc) := by
      intro hall
      obtain ⟨hcap, rfl⟩ := hall
      rw [h.length] at hcap
      unfold PacketsArray.addDataEndOfBuffer at hadd
      rw [toNat_numPacketsArray, if_neg (by omega)] at hadd
      cases hadd
    rw [dif_neg hnot]
    exact ⟨rfl, h⟩
  | some result =>
    obtain ⟨id, a'⟩ := result
    obtain ⟨hcap, hid, hwf, hstart, -, hsize, hlookup⟩ := addDataEndOfBuffer_spec h.wellFormed hadd
    have hcalloc : calloc = true := by
      cases calloc with
      | true => rfl
      | false =>
        unfold PacketsArray.addDataEndOfBuffer at hadd
        simp at hadd
    rw [dif_pos ⟨by rw [h.length]; exact hcap, hcalloc⟩]
    refine ⟨?_, hwf, h.start.trans hstart.symm, ?_, ?_⟩
    · show PacketsResult.number id = .number (w.start + UInt32.ofNat w.length)
      rw [hend, hid]
    · show w.length + 1 = a'.size
      rw [hsize, h.length]
    · intro m
      show Function.update w.packet (w.start + UInt32.ofNat w.length) (some data) m = a'.lookup m
      rw [hend, hlookup]
      by_cases hm : m = a.bufferEnd
      · rw [hm, Function.update_self, if_pos rfl]
      · rw [Function.update_of_ne hm, if_neg hm, h.packet]

theorem Represents.readDataBegBuffer (h : a.Represents w) :
    (a.run .readDataBegBuffer).1 = (w.run .readDataBegBuffer).1 ∧
      (a.run .readDataBegBuffer).2.Represents (w.run .readDataBegBuffer).2 := by
  rw [PacketsArray.run, PacketsWindow.run]
  have hfirst : w.packet w.start = a.lookup a.bufferStart := by
    rw [h.packet, h.start]
  cases hread : a.readDataBegBuffer with
  | none =>
    rw [hfirst, (readDataBegBuffer_eq_none h.wellFormed).mp hread]
    exact ⟨rfl, h⟩
  | some result =>
    obtain ⟨id, data, a'⟩ := result
    obtain ⟨hid, hpacket, hwf, hstart, -, hsize, hlookup⟩ := readDataBegBuffer_spec h.wellFormed hread
    rw [hfirst, hpacket]
    have hone : a.offset (a.bufferStart + 1) = 1 := UInt32.dist_add_ofNat a.bufferStart (by decide)
    refine ⟨?_, ?_⟩
    · rw [hid, h.start]
    · show a'.Represents (w.dropUntil (w.start + 1))
      rw [h.start]
      refine h.dropUntil (by omega) hwf hstart (by omega) ?_
      intro m
      rw [hlookup, hone]
      by_cases hm : m = a.bufferStart
      · rw [if_pos hm, hm, offset_bufferStart, if_pos (by decide)]
      · have hpos : a.offset m ≠ 0 := fun hzero => hm (UInt32.dist_eq_zero.mp hzero)
        rw [if_neg hm, if_neg (by omega)]

theorem Represents.clearBufferUntil (h : a.Represents w) (number : UInt32) :
    (a.run (.clearBufferUntil number)).1 = (w.run (.clearBufferUntil number)).1 ∧
      (a.run (.clearBufferUntil number)).2.Represents (w.run (.clearBufferUntil number)).2 := by
  rw [PacketsArray.run, PacketsWindow.run]
  have hcond : (0 < dist w.start number ∧ dist w.start number ≤ w.length) ↔
      (0 < a.offset number ∧ a.offset number ≤ a.size) := by
    rw [h.start, h.length]
    rfl
  cases hclear : a.clearBufferUntil number with
  | none =>
    rw [if_neg (fun hall => clearBufferUntil_eq_none.mp hclear (hcond.mp hall))]
    exact ⟨rfl, h⟩
  | some a' =>
    obtain ⟨hpos, hle, hwf, hstart, -, hsize, hlookup⟩ := clearBufferUntil_spec h.wellFormed hclear
    rw [if_pos (hcond.mpr ⟨hpos, hle⟩)]
    exact ⟨rfl, h.dropUntil hle hwf hstart hsize hlookup⟩

theorem Represents.setBufferEnd (h : a.Represents w) (number : UInt32) :
    (a.run (.setBufferEnd number)).1 = (w.run (.setBufferEnd number)).1 ∧
      (a.run (.setBufferEnd number)).2.Represents (w.run (.setBufferEnd number)).2 := by
  rw [PacketsArray.run, PacketsWindow.run]
  have hcond : (dist w.start number ≤ cryptoPacketBufferSize ∧ w.length ≤ dist w.start number) ↔
      (a.offset number ≤ cryptoPacketBufferSize ∧ a.size ≤ a.offset number) := by
    rw [h.start, h.length]
    rfl
  cases hset : a.setBufferEnd number with
  | none =>
    have hnot : ¬(dist w.start number ≤ cryptoPacketBufferSize ∧ w.length ≤ dist w.start number) := by
      intro hall
      obtain ⟨hcap, hge⟩ := hcond.mp hall
      -- the end moves forward by no more than the capacity
      have hforward : dist a.bufferEnd number = a.offset number - a.size :=
        dist_of_le (s := a.bufferStart) hge
      have hnear : ¬(number - a.bufferEnd).toNat > cryptoPacketBufferSize := by
        show ¬dist a.bufferEnd number > cryptoPacketBufferSize
        omega
      unfold PacketsArray.setBufferEnd at hset
      rw [if_neg (show ¬(number - a.bufferStart).toNat > _ from Nat.not_lt.mpr hcap), if_neg hnear] at hset
      cases hset
    rw [dif_neg hnot]
    exact ⟨rfl, h⟩
  | some a' =>
    obtain ⟨hcap, hge, hwf, hstart, -, hsize, hlookup⟩ := setBufferEnd_spec h.wellFormed hset
    rw [dif_pos (hcond.mpr ⟨hcap, hge⟩)]
    refine ⟨rfl, hwf, h.start.trans hstart.symm, ?_, ?_⟩
    · show dist w.start number = a'.size
      rw [hsize, h.start]
      rfl
    · intro m
      rw [hlookup]
      exact h.packet m

theorem Represents.handleRequestPacket (h : a.Represents w) (data : Bytes)
    (latestSendTime rttTime tempTime : UInt64) :
    (a.run (.handleRequestPacket data latestSendTime rttTime tempTime)).1 =
        (w.run (.handleRequestPacket data latestSendTime rttTime tempTime)).1 ∧
      (a.run (.handleRequestPacket data latestSendTime rttTime tempTime)).2.Represents
        (w.run (.handleRequestPacket data latestSendTime rttTime tempTime)).2 := by
  cases data with
  | nil => exact ⟨rfl, h⟩
  | cons d rest =>
    rw [PacketsArray.run, PacketsWindow.run]
    by_cases hd : d = packetIdRequest
    · subst hd
      obtain ⟨b, hhandle, hremarks⟩ :=
        handleRequestPacket_exact h.wellFormed rest latestSendTime rttTime tempTime
      rw [hhandle, if_neg (not_not.mpr rfl)]
      have hpackets : (fun j => w.packet (w.start + UInt32.ofNat j)) =
          fun j => a.lookup (a.bufferStart + UInt32.ofNat j) := by
        funext j
        rw [h.packet, h.start]
      refine ⟨?_, hremarks.wellFormed, h.start.trans hremarks.bufferStart_eq.symm, ?_, ?_⟩
      · rw [hpackets, h.length]
      · show w.length = b.size
        rw [h.length, size, size, hremarks.bufferStart_eq, hremarks.bufferEnd_eq]
      · intro m
        show applyMark tempTime rttTime (requestMark 1 rest (dist w.start m)) (w.packet m) = _
        rw [hremarks.lookup_eq, h.packet, h.start]
        rfl
    · rw [if_pos hd]
      have hfail : a.handleRequestPacket (d :: rest) latestSendTime rttTime tempTime =
          (none, a, latestSendTime) := by
        unfold PacketsArray.handleRequestPacket
        dsimp only
        rw [if_pos hd]
      rw [hfail]
      exact ⟨rfl, h⟩

theorem Represents.clearBuffer (h : a.Represents w) :
    (a.run .clearBuffer).1 = (w.run .clearBuffer).1 ∧
      (a.run .clearBuffer).2.Represents (w.run .clearBuffer).2 := by
  refine ⟨rfl, ?_⟩
  show a.clearBuffer.Represents (w.dropUntil (w.start + UInt32.ofNat w.length))
  have hend : w.start + UInt32.ofNat w.length = a.bufferEnd := by
    rw [h.start, h.length]
    exact UInt32.add_ofNat_dist a.bufferStart a.bufferEnd
  rw [hend]
  by_cases hempty : a.size = 0
  · -- nothing is cleared
    have hsame : a.clearBuffer = a := by
      have hstart : a.bufferEnd = a.bufferStart := UInt32.dist_eq_zero.mp hempty
      unfold PacketsArray.clearBuffer
      rw [toNat_numPacketsArray, hempty, clearSlots, hstart]
    rw [hsame]
    refine h.dropUntil le_rfl h.wellFormed ?_ ?_ ?_
    · exact (UInt32.dist_eq_zero.mp hempty).symm
    · rw [hempty, Nat.zero_sub]
    · intro m
      rw [if_neg]
      show ¬a.offset m < a.size
      omega
  · -- the same as clearing up to the end
    have hclear : a.clearBufferUntil a.bufferEnd = some a.clearBuffer := by
      cases hclear : a.clearBufferUntil a.bufferEnd with
      | none =>
        exact absurd ⟨Nat.pos_of_ne_zero hempty, le_rfl⟩ (clearBufferUntil_eq_none.mp hclear)
      | some a' =>
        unfold PacketsArray.clearBufferUntil at hclear
        dsimp only at hclear
        split at hclear
        · cases hclear
        · exact hclear.symm
    obtain ⟨-, hle, hwf, hstart, -, hsize, hlookup⟩ := clearBufferUntil_spec h.wellFormed hclear
    exact h.dropUntil hle hwf hstart hsize hlookup

theorem Represents.run (h : a.Represents w) (op : PacketsOp) :
    (a.run op).1 = (w.run op).1 ∧ (a.run op).2.Represents (w.run op).2 := by
  cases op with
  | addDataToBuffer number data calloc => exact h.addDataToBuffer number data calloc
  | addDataEndOfBuffer data calloc => exact h.addDataEndOfBuffer data calloc
  | readDataBegBuffer => exact h.readDataBegBuffer
  | clearBufferUntil number => exact h.clearBufferUntil number
  | setBufferEnd number => exact h.setBufferEnd number
  | handleRequestPacket data latestSendTime rttTime tempTime =>
    exact h.handleRequestPacket data latestSendTime rttTime tempTime
  | clearBuffer => exact h.clearBuffer

theorem run_of_failed (hwf : a.WellFormed) {op : PacketsOp} (hfailed : (a.run op).1 = .failed) :
    (a.run op).2 = a := by
  cases op with
  | addDataToBuffer number data calloc =>
    rw [run] at hfailed ⊢
    split at hfailed
    · rfl
    · cases hfailed
  | addDataEndOfBuffer data calloc =>
    rw [run] at hfailed ⊢
    split at hfailed
    · rfl
    · cases hfailed
  | readDataBegBuffer =>
    rw [run] at hfailed ⊢
    split at hfailed
    · rfl
    · cases hfailed
  | clearBufferUntil number =>
    rw [run] at hfailed ⊢
    split at hfailed
    · rfl
    · cases hfailed
  | setBufferEnd number =>
    rw [run] at hfailed ⊢
    split at hfailed
    · rfl
    · cases hfailed
  | handleRequestPacket data latestSendTime rttTime tempTime =>
    -- the loop never stops half-way
    rw [run] at hfailed ⊢
    cases data with
    | nil => rfl
    | cons d rest =>
      by_cases hd : d = packetIdRequest
      · subst hd
        obtain ⟨b, hhandle, -⟩ := handleRequestPacket_exact hwf rest latestSendTime rttTime tempTime
        rw [hhandle] at hfailed
        cases hfailed
      · have hfail : a.handleRequestPacket (d :: rest) latestSendTime rttTime tempTime =
            (none, a, latestSendTime) := by
          unfold PacketsArray.handleRequestPacket
          dsimp only
          rw [if_pos hd]
        rw [hfail]
  | clearBuffer => cases hfailed

def system : TransitionSystem PacketsArray where
  init a := a = empty
  step a a' := ∃ op, a' = (a.run op).2

theorem Represents.getDataPointer (h : a.Represents w) (n : UInt32) : a.getDataPointer n = w.get n := by
  unfold PacketsWindow.get
  rw [h.start, h.length, h.packet]
  by_cases hin : a.offset n < a.size
  · rw [if_pos (show dist a.bufferStart n < a.size from hin)]
    cases hlookup : a.lookup n with
    | none =>
      unfold PacketsArray.getDataPointer
      rw [if_neg, show a.buffer (slotOf n) = none by rwa [lookup, if_pos hin] at hlookup]
      -- a number in the window is not outside
      intro hout
      have houtside : a.getDataPointer n = .outside := by
        exact if_pos hout
      have := getDataPointer_eq_outside.mp houtside
      omega
    | some d => exact getDataPointer_eq_packet.mpr hlookup
  · rw [if_neg (show ¬dist a.bufferStart n < a.size from hin)]
    exact getDataPointer_eq_outside.mpr (Nat.not_lt.mp hin)

/-- A packet array stands for a window of packets, and its operations for those on the window. -/
structure RefinesWindow (a : PacketsArray) : Prop where
  size_le : a.numPacketsArray.toNat ≤ cryptoPacketBufferSize
  slots : ∀ slot, a.buffer slot ≠ none → ∃! n, a.offset n < a.size ∧ slotOf n = slot
  window : ∃ w : PacketsWindow, a.Represents w ∧ (∀ n, a.getDataPointer n = w.get n) ∧
    ∀ op, (a.run op).1 = (w.run op).1 ∧ (a.run op).2.Represents (w.run op).2 ∧
      ((a.run op).1 = .failed → (a.run op).2 = a)

/-- Every array that the operations can build refines a window, wherever it lies in the numbers. -/
theorem refines_window (h : system.Reachable a) : a.RefinesWindow := by
  have hwf : a.WellFormed := by
    refine h.invariant (P := WellFormed) ?_ ?_
    · intro s hs
      rw [hs]
      exact wellFormed_empty
    · intro s t hs hst
      obtain ⟨op, rfl⟩ := hst
      exact ((represents_window hs).run op).2.wellFormed
  refine ⟨hwf.size_le, ?_, a.window hwf, represents_window hwf, (represents_window hwf).getDataPointer, ?_⟩
  · intro slot hslot
    obtain ⟨n, hn, rfl⟩ := exists_slotOf a slot
    have hin : a.offset n < a.size := by
      by_contra hout
      exact hslot (hwf.empty_after n (Nat.not_lt.mp hout) hn)
    refine ⟨n, ⟨hin, rfl⟩, ?_⟩
    intro m hm
    exact slotOf_inj (Nat.lt_of_lt_of_le hm.1 hwf.size_le) hn hm.2
  · intro op
    obtain ⟨hresult, hrepresents⟩ := (represents_window hwf).run op
    exact ⟨hresult, hrepresents, run_of_failed hwf⟩

def emptyAt (n : UInt32) : PacketsArray := { buffer := fun _ => none, bufferStart := n, bufferEnd := n }

theorem reachable_emptyAt_add {n : UInt32} (h : system.Reachable (emptyAt n)) {k : Nat}
    (hk : k ≤ cryptoPacketBufferSize) : system.Reachable (emptyAt (n + UInt32.ofNat k)) := by
  have hsmall : cryptoPacketBufferSize < 2 ^ 32 := by decide
  have hdist : (n + UInt32.ofNat k - n).toNat = k := UInt32.dist_add_ofNat n (by omega)
  have hset : (emptyAt n).setBufferEnd (n + UInt32.ofNat k) =
      some { emptyAt n with bufferEnd := n + UInt32.ofNat k } := by
    unfold setBufferEnd
    rw [if_neg, if_neg]
    · rw [show (emptyAt n).bufferEnd = n from rfl]
      omega
    · rw [show (emptyAt n).bufferStart = n from rfl]
      omega
  have hmoved : system.Reachable { emptyAt n with bufferEnd := n + UInt32.ofNat k } := by
    refine h.step ⟨.setBufferEnd (n + UInt32.ofNat k), ?_⟩
    rw [run, hset]
  have hclear : emptyAt (n + UInt32.ofNat k) =
      clearBuffer { emptyAt n with bufferEnd := n + UInt32.ofNat k } := by
    unfold clearBuffer
    rw [PacketsArray.mk.injEq, clearSlots_bufferEnd]
    refine ⟨?_, rfl, rfl⟩
    funext slot
    exact (clearSlots_buffer_of_none _ _ _ slot rfl).symm
  exact hmoved.step ⟨.clearBuffer, hclear⟩

theorem reachable_emptyAt (k : Nat) : system.Reachable (emptyAt (UInt32.ofNat (32768 * k))) := by
  induction k with
  | zero => exact .init rfl
  | succ k ih =>
    rw [Nat.mul_succ, UInt32.ofNat_add]
    exact reachable_emptyAt_add ih (Nat.le_refl 32768)

/-- A window of one packet that ends at `2 ^ 32`. -/
theorem refines_window_straddling : ∃ a, system.Reachable a ∧
    a.bufferStart = UInt32.ofNat (2 ^ 32 - 1) ∧ a.bufferEnd = 0 ∧ a.RefinesWindow := by
  have hempty : system.Reachable (emptyAt (UInt32.ofNat (2 ^ 32 - 1))) :=
    reachable_emptyAt_add (k := 32767) (reachable_emptyAt 131071) (by decide)
  have hreachable : system.Reachable
      ((emptyAt (UInt32.ofNat (2 ^ 32 - 1))).run (.addDataEndOfBuffer ⟨5, [7]⟩ true)).2 :=
    hempty.step ⟨_, rfl⟩
  exact ⟨_, hreachable, by decide, by decide, refines_window hreachable⟩

end PacketsArray

end Toxcore
