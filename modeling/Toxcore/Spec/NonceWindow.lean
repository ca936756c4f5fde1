import Toxcore.Native.CryptoConnection
import Toxcore.Native.NonceBytes

/-!
# The window of receive nonces

Of the nonce of a data packet only the lowest two bytes are sent. `handle_data_packet` adds their distance to
`recv_nonce`, which lags behind the highest nonce received. Nonces are numbers modulo `2 ^ 192`; one is ahead of
another if its distance from it is less than half of that.
-/

namespace Toxcore

open List hiding Vector

theorem toNat_getNonceUint16_sub (n r : Nonce) :
    (CryptoConnection.getNonceUint16 n - CryptoConnection.getNonceUint16 r).toUInt32.toNat =
      (n - r).toNat % 2 ^ 16 := by
  rw [CryptoConnection.getNonceUint16, CryptoConnection.getNonceUint16, UInt16.toNat_toUInt32,
    UInt16.toNat_sub, UInt16.toNat_ofNat', UInt16.toNat_ofNat', BitVec.toNat_sub]
  omega

theorem incrementNonceNumber_getNonceUint16 (n r : Nonce) :
    incrementNonceNumber r
        (CryptoConnection.getNonceUint16 n - CryptoConnection.getNonceUint16 r).toUInt32 = n ↔
      (n - r).toNat < 2 ^ 16 := by
  rw [incrementNonceNumber, toNat_getNonceUint16_sub]
  have hsub := BitVec.toNat_sub n r
  constructor
  · intro h
    have h := congrArg BitVec.toNat h
    rw [BitVec.toNat_add, BitVec.toNat_ofNat] at h
    omega
  · intro h
    apply BitVec.eq_of_toNat_eq
    rw [BitVec.toNat_add, BitVec.toNat_ofNat, Nat.mod_eq_of_lt h]
    omega

theorem getNonceUint16_incrementNonceNumber (low : UInt16) (r : Nonce) :
    CryptoConnection.getNonceUint16
        (incrementNonceNumber r (low - CryptoConnection.getNonceUint16 r).toUInt32) = low := by
  have hlow := low.toNat_lt
  apply UInt16.toNat_inj.mp
  rw [CryptoConnection.getNonceUint16, UInt16.toNat_ofNat', incrementNonceNumber, BitVec.toNat_add,
    BitVec.toNat_ofNat, UInt16.toNat_toUInt32, UInt16.toNat_sub, CryptoConnection.getNonceUint16,
    UInt16.toNat_ofNat']
  omega

namespace CryptoConnection

def dataPacket (key : SharedKey) (nonce : Nonce) (data : Bytes) : DataPacket where
  nonceLow := getNonceUint16 nonce
  encrypted := encryptDataSymmetric key nonce data

/-- The lengths that `send_data_packet` accepts. -/
def Sendable (data : Bytes) : Prop :=
  data.length ≠ 0 ∧ data.length ≤ maxCryptoPacketSize - (1 + 2 + cryptoMacSize)

/-- The connection after a packet that was `distance` ahead of `recv_nonce`. -/
def advance (conn : CryptoConnection) (distance : Nat) : CryptoConnection :=
  if distance > 43690 then
    { conn with recvNonce := incrementNonceNumber conn.recvNonce dataNumThreshold }
  else conn

theorem handleDataPacket_dataPacket (conn : CryptoConnection) (nonce : Nonce) {data : Bytes}
    (hdata : Sendable data) :
    conn.handleDataPacket (dataPacket conn.sharedKey nonce data) =
      if (nonce - conn.recvNonce).toNat < 2 ^ 16 then
        some (data, conn.advance (nonce - conn.recvNonce).toNat)
      else none := by
  have hlength : (dataPacket conn.sharedKey nonce data).length =
      1 + 2 + data.length + cryptoMacSize := rfl
  obtain ⟨hne, hle⟩ := hdata
  unfold handleDataPacket
  rw [if_neg (by rw [hlength]; omega)]
  by_cases hnear : (nonce - conn.recvNonce).toNat < 2 ^ 16
  · have hnonce := (incrementNonceNumber_getNonceUint16 nonce conn.recvNonce).mpr hnear
    have hdiff := toNat_getNonceUint16_sub nonce conn.recvNonce
    rw [Nat.mod_eq_of_lt hnear] at hdiff
    rw [if_pos hnear]
    dsimp only [dataPacket]
    rw [hnonce, decryptDataSymmetric_encryptDataSymmetric]
    show (if (getNonceUint16 nonce - getNonceUint16 conn.recvNonce).toUInt32 >
      dataNumThreshold * 2 then _ else _) = _
    unfold advance
    have hthreshold : (dataNumThreshold * 2).toNat = 43690 := rfl
    by_cases hfar : (nonce - conn.recvNonce).toNat > 43690
    · rw [if_pos hfar, if_pos (UInt32.lt_iff_toNat_lt.mpr (by rw [hdiff, hthreshold]; exact hfar))]
    · rw [if_neg hfar, if_neg (fun h => hfar (by
        have := UInt32.lt_iff_toNat_lt.mp h
        rw [hdiff] at this
        exact this))]
  · have hnonce := fun h => hnear ((incrementNonceNumber_getNonceUint16 nonce conn.recvNonce).mp h)
    rw [if_neg hnear]
    dsimp only [dataPacket]
    rw [decryptDataSymmetric, if_neg (fun h => hnonce h.2.symm)]

theorem eq_dataPacket_of_handleDataPacket {conn conn' : CryptoConnection} {packet : DataPacket}
    {data : Bytes} (h : conn.handleDataPacket packet = some (data, conn')) :
    packet = dataPacket conn.sharedKey packet.encrypted.nonce data ∧ Sendable data := by
  unfold handleDataPacket at h
  by_cases hlength : packet.length ≤ 1 + 2 + cryptoMacSize ∨ packet.length > maxCryptoPacketSize
  · rw [if_pos hlength] at h
    cases h
  · rw [if_neg hlength] at h
    dsimp only at h
    cases hdecrypt : decryptDataSymmetric conn.sharedKey (incrementNonceNumber conn.recvNonce
        (packet.nonceLow - getNonceUint16 conn.recvNonce).toUInt32) packet.encrypted with
    | none => rw [hdecrypt] at h; cases h
    | some plain =>
      have hplain : plain = data := by
        rw [hdecrypt] at h
        dsimp only at h
        split at h
        · exact congrArg Prod.fst (Option.some.inj h)
        · exact congrArg Prod.fst (Option.some.inj h)
      have hencrypted := decryptDataSymmetric_eq_some hdecrypt
      rw [hplain] at hencrypted
      have hnonce : packet.encrypted.nonce = incrementNonceNumber conn.recvNonce
          (packet.nonceLow - getNonceUint16 conn.recvNonce).toUInt32 := by
        rw [hencrypted]
        rfl
      have hsize : packet.length = 1 + 2 + data.length + cryptoMacSize := by
        rw [DataPacket.length, hencrypted]
        rfl
      constructor
      · have hlow : packet.nonceLow = getNonceUint16 packet.encrypted.nonce := by
          rw [hnonce, getNonceUint16_incrementNonceNumber]
        rw [← hnonce] at hencrypted
        show packet = { nonceLow := _, encrypted := _ }
        rw [← hlow, ← hencrypted]
      · constructor
        · omega
        · omega

end CryptoConnection

/-! ## The highest nonce -/

def later (highest nonce : Nonce) : Nonce :=
  if (nonce - highest).toNat < 2 ^ 191 then nonce else highest

theorem toNat_later_sub (r highest nonce : Nonce) (hhighest : (highest - r).toNat < 2 ^ 191)
    (hnonce : (nonce - r).toNat < 2 ^ 191) :
    (later highest nonce - r).toNat = max (highest - r).toNat (nonce - r).toNat := by
  have hsub := BitVec.toNat_sub nonce highest
  rw [BitVec.toNat_sub] at hhighest hnonce
  unfold later
  by_cases hahead : (nonce - highest).toNat < 2 ^ 191
  · rw [if_pos hahead, BitVec.toNat_sub, BitVec.toNat_sub]
    omega
  · rw [if_neg hahead, BitVec.toNat_sub, BitVec.toNat_sub]
    omega

def raise (highest : Option Nonce) (nonce : Nonce) : Nonce :=
  match highest with
  | none => nonce
  | some highest => later highest nonce

theorem later_mem {highest nonce : Nonce} {received : List Nonce} (h : highest ∈ received) :
    later highest nonce ∈ received ++ [nonce] := by
  unfold later
  split
  · exact mem_append_right _ (mem_singleton.mpr rfl)
  · exact mem_append_left _ h

structure NonceTrace where
  conn : CryptoConnection
  /-- The nonces of the packets that were decrypted. -/
  received : List Nonce
  /-- The highest of them. -/
  highest : Option Nonce
  /-- `recv_nonce` was changed. -/
  moved : Bool

namespace NonceTrace

def start (conn : CryptoConnection) : NonceTrace where
  conn
  received := []
  highest := none
  moved := false

def receive (trace : NonceTrace) (packet : DataPacket) : NonceTrace :=
  match trace.conn.handleDataPacket packet with
  | none => trace
  | some (_, conn) =>
    { conn
      received := trace.received ++ [packet.encrypted.nonce]
      highest := some (raise trace.highest packet.encrypted.nonce)
      moved := trace.moved || conn.recvNonce != trace.conn.recvNonce }

/-- `recv_nonce` and the highest nonce after a handshake with the nonce `first`. -/
structure Window (first : Nonce) (trace : NonceTrace) : Prop where
  unmoved : trace.moved = false → trace.conn.recvNonce = first
  highest_none : trace.highest = none → trace.moved = false ∧ trace.received = []
  lags : ∀ highest, trace.highest = some highest →
    (trace.moved → 21845 ≤ (highest - trace.conn.recvNonce).toNat) ∧
    (highest - trace.conn.recvNonce).toNat ≤ 43690
  highest_mem : ∀ highest, trace.highest = some highest → highest ∈ trace.received
  highest_max : (∀ nonce ∈ trace.received, (nonce - first).toNat < 2 ^ 191) →
    ∀ highest, trace.highest = some highest →
    ∀ nonce ∈ trace.received, (nonce - first).toNat ≤ (highest - first).toNat

theorem window_start (conn : CryptoConnection) : Window conn.recvNonce (start conn) where
  unmoved _ := rfl
  highest_none _ := ⟨rfl, rfl⟩
  lags _ h := nomatch h
  highest_mem _ h := nomatch h
  highest_max _ _ h := nomatch h

theorem receive_eq (trace : NonceTrace) (packet : DataPacket) :
    trace.receive packet = trace ∨
    ((packet.encrypted.nonce - trace.conn.recvNonce).toNat < 2 ^ 16 ∧
      (∃ data, CryptoConnection.Sendable data ∧ packet =
        CryptoConnection.dataPacket trace.conn.sharedKey packet.encrypted.nonce data) ∧
      trace.receive packet =
        { conn := trace.conn.advance (packet.encrypted.nonce - trace.conn.recvNonce).toNat
          received := trace.received ++ [packet.encrypted.nonce]
          highest := some (raise trace.highest packet.encrypted.nonce)
          moved := trace.moved ||
            (trace.conn.advance (packet.encrypted.nonce - trace.conn.recvNonce).toNat).recvNonce !=
              trace.conn.recvNonce }) := by
  cases hhandle : trace.conn.handleDataPacket packet with
  | none =>
    left
    rw [receive, hhandle]
  | some handled =>
    obtain ⟨data, conn⟩ := handled
    right
    obtain ⟨hpacket, hdata⟩ := CryptoConnection.eq_dataPacket_of_handleDataPacket hhandle
    have heq := CryptoConnection.handleDataPacket_dataPacket trace.conn packet.encrypted.nonce hdata
    rw [← hpacket, hhandle] at heq
    by_cases hnear : (packet.encrypted.nonce - trace.conn.recvNonce).toNat < 2 ^ 16
    · rw [if_pos hnear] at heq
      have hconn : conn = trace.conn.advance (packet.encrypted.nonce - trace.conn.recvNonce).toNat :=
        congrArg Prod.snd (Option.some.inj heq)
      refine ⟨hnear, ⟨data, hdata, hpacket⟩, ?_⟩
      rw [receive, hhandle, hconn]
    · rw [if_neg hnear] at heq
      cases heq

theorem recvNonce_advance (conn : CryptoConnection) (distance : Nat) :
    (conn.advance distance).recvNonce =
      if distance > 43690 then incrementNonceNumber conn.recvNonce dataNumThreshold
      else conn.recvNonce := by
  unfold CryptoConnection.advance
  split <;> rfl

variable {nonce : Nonce}

theorem toNat_sub_incrementNonceNumber {r : Nonce} (h : 21845 ≤ (nonce - r).toNat) :
    (nonce - incrementNonceNumber r dataNumThreshold).toNat = (nonce - r).toNat - 21845 := by
  have hthreshold : dataNumThreshold.toNat = 21845 := rfl
  rw [BitVec.toNat_sub] at h
  rw [incrementNonceNumber, hthreshold, BitVec.toNat_sub, BitVec.toNat_sub, BitVec.toNat_add,
    BitVec.toNat_ofNat]
  omega

variable {first : Nonce} {trace : NonceTrace}

section

variable (hwindow : Window first trace)
include hwindow

theorem Window.toNat_raise_sub (hnear : (nonce - trace.conn.recvNonce).toNat < 2 ^ 16) :
    (nonce - trace.conn.recvNonce).toNat ≤ (raise trace.highest nonce - trace.conn.recvNonce).toNat ∧
      (raise trace.highest nonce - trace.conn.recvNonce).toNat ≤
        max 43690 (nonce - trace.conn.recvNonce).toNat ∧
      (trace.moved → 21845 ≤ (raise trace.highest nonce - trace.conn.recvNonce).toNat) := by
  cases hhighest : trace.highest with
  | none =>
    have hunmoved := (hwindow.highest_none hhighest).1
    refine ⟨le_rfl, Nat.le_max_right _ _, fun hmoved => ?_⟩
    rw [hunmoved] at hmoved
    cases hmoved
  | some highest =>
    obtain ⟨hbehind, hlag⟩ := hwindow.lags highest hhighest
    have hlater := toNat_later_sub trace.conn.recvNonce highest nonce (by omega) (by omega)
    show _ ≤ (later highest nonce - _).toNat ∧ (later highest nonce - _).toNat ≤ _ ∧
      (_ → _ ≤ (later highest nonce - _).toNat)
    rw [hlater]
    refine ⟨Nat.le_max_right _ _, ?_, ?_⟩
    · omega
    · intro hmoved
      have := hbehind hmoved
      omega

theorem Window.receive (packet : DataPacket) : Window first (trace.receive packet) := by
  obtain heq | ⟨hnear, -, heq⟩ := trace.receive_eq packet
  · rw [heq]
    exact hwindow
  rw [heq]
  obtain ⟨hge, hle, hmoved⟩ := hwindow.toNat_raise_sub hnear
  have hadvance := recvNonce_advance trace.conn (packet.encrypted.nonce - trace.conn.recvNonce).toNat
  generalize packet.encrypted.nonce = nonce at *
  constructor
  case unmoved =>
    intro hunmoved
    obtain ⟨hbefore, hsame⟩ := Bool.or_eq_false_iff.mp hunmoved
    have hsame : (trace.conn.advance (nonce - trace.conn.recvNonce).toNat).recvNonce =
        trace.conn.recvNonce := bne_eq_false_iff_eq.mp hsame
    exact hsame.trans (hwindow.unmoved hbefore)
  case highest_none => exact fun h => nomatch h
  case lags =>
    intro highest hhighest
    cases hhighest
    rw [hadvance]
    by_cases hfar : (nonce - trace.conn.recvNonce).toNat > 43690
    · rw [if_pos hfar, toNat_sub_incrementNonceNumber (by omega)]
      omega
    · rw [if_neg hfar]
      refine ⟨fun hafter => ?_, by omega⟩
      have hbefore : trace.moved = true := by
        rw [bne_self_eq_false, Bool.or_false] at hafter
        exact hafter
      exact hmoved hbefore
  case highest_mem =>
    intro highest hhighest
    cases hhighest
    cases hbefore : trace.highest with
    | none => exact mem_append_right _ (mem_singleton.mpr rfl)
    | some before => exact later_mem (hwindow.highest_mem before hbefore)
  case highest_max =>
    intro hbound highest hhighest other hother
    cases hhighest
    have hnew := hbound nonce (mem_append_right _ (mem_singleton.mpr rfl))
    have hold := fun n hn => hbound n (mem_append_left _ hn)
    cases hbefore : trace.highest with
    | none =>
      have hempty := (hwindow.highest_none hbefore).2
      rw [hempty] at hother
      rw [mem_singleton.mp hother]
      exact le_rfl
    | some before =>
      show _ ≤ (later before nonce - first).toNat
      rw [toNat_later_sub first before nonce (hold before (hwindow.highest_mem before hbefore)) hnew]
      cases mem_append.mp hother with
      | inl hmem =>
        exact Nat.le_trans (hwindow.highest_max hold before hbefore other hmem) (Nat.le_max_left _ _)
      | inr hmem =>
        rw [mem_singleton.mp hmem]
        exact Nat.le_max_right _ _

theorem Window.foldl_receive (packets : List DataPacket)
    : Window first (packets.foldl NonceTrace.receive trace) := by
  induction packets generalizing trace with
  | nil => exact hwindow
  | cons packet packets ih => exact ih (hwindow.receive packet)

end

theorem sharedKey_receive (trace : NonceTrace) (packet : DataPacket) :
    (trace.receive packet).conn.sharedKey = trace.conn.sharedKey := by
  obtain heq | ⟨-, -, heq⟩ := trace.receive_eq packet
  · rw [heq]
  · rw [heq]
    show (trace.conn.advance _).sharedKey = _
    unfold CryptoConnection.advance
    split <;> rfl

theorem sharedKey_foldl_receive (trace : NonceTrace) (packets : List DataPacket) :
    (packets.foldl receive trace).conn.sharedKey = trace.conn.sharedKey := by
  induction packets generalizing trace with
  | nil => rfl
  | cons packet packets ih => exact (ih _).trans (sharedKey_receive trace packet)

def Close (highest nonce : Nonce) : Prop :=
  (nonce - highest).toNat ≤ 21845 ∨ (highest - nonce).toNat ≤ 21845

theorem Window.lt_of_close (hwindow : Window first trace) {highest : Nonce} (hhighest : trace.highest = some highest)
    (hclose : Close highest nonce) (hfirst : trace.moved = false → (nonce - first).toNat < 2 ^ 191) :
    (nonce - trace.conn.recvNonce).toNat < 2 ^ 16 := by
  obtain ⟨hbehind, hlag⟩ := hwindow.lags highest hhighest
  unfold Close at hclose
  cases hmoved : trace.moved with
  | true =>
    have hbehind := hbehind hmoved
    rw [BitVec.toNat_sub] at hlag hbehind ⊢
    rw [BitVec.toNat_sub, BitVec.toNat_sub] at hclose
    omega
  | false =>
    have hfirst := hfirst hmoved
    rw [← hwindow.unmoved hmoved, BitVec.toNat_sub] at hfirst
    rw [BitVec.toNat_sub] at hlag ⊢
    rw [BitVec.toNat_sub, BitVec.toNat_sub] at hclose
    omega

/-- What a connection with the key `key` makes of the packets after a handshake with the nonce
    `first`. -/
structure InWindow (key : SharedKey) (first : Nonce) (trace : NonceTrace) : Prop where
  changed : ∀ packet, (trace.receive packet).conn.recvNonce ≠ trace.conn.recvNonce →
    ∃ data, CryptoConnection.Sendable data ∧
      packet = CryptoConnection.dataPacket key packet.encrypted.nonce data
  unmoved : trace.moved = false → trace.conn.recvNonce = first
  moved : trace.moved → trace.highest.isSome
  /-- Once it has moved it is at least 21845 behind the highest nonce. -/
  behind : ∀ highest, trace.highest = some highest → trace.moved →
    21845 ≤ (highest - trace.conn.recvNonce).toNat
  /-- It is at most 43690 behind the highest nonce. -/
  near : ∀ highest, trace.highest = some highest → (highest - trace.conn.recvNonce).toNat ≤ 43690
  /-- The highest nonce has been received, and may be the one sent last. -/
  highest : ∀ highest, trace.highest = some highest → highest ∈ trace.received ∧
    ((∀ nonce ∈ trace.received, (nonce - first).toNat < 2 ^ 191) →
      ∀ nonce ∈ trace.received, (nonce - first).toNat ≤ (highest - first).toNat)
  /-- A packet near the highest nonce, and not before the handshake, is decrypted. -/
  decrypts : ∀ highest nonce data, trace.highest = some highest → Close highest nonce →
    (trace.moved = false → (nonce - first).toNat < 2 ^ 191) → CryptoConnection.Sendable data →
    incrementNonceNumber trace.conn.recvNonce
        (CryptoConnection.getNonceUint16 nonce -
          CryptoConnection.getNonceUint16 trace.conn.recvNonce).toUInt32 = nonce ∧
      ∃ conn, trace.conn.handleDataPacket (CryptoConnection.dataPacket key nonce data) = some (data, conn)

theorem Window.inWindow (hwindow : Window first trace) :
    InWindow trace.conn.sharedKey first trace where
  changed packet hchanged := by
    obtain heq | ⟨-, hpacket, -⟩ := trace.receive_eq packet
    · rw [heq] at hchanged
      exact absurd rfl hchanged
    · exact hpacket
  unmoved := hwindow.unmoved
  moved hmoved := by
    cases hhighest : trace.highest with
    | none =>
      rw [(hwindow.highest_none hhighest).1] at hmoved
      cases hmoved
    | some highest => rfl
  behind highest hhighest := (hwindow.lags highest hhighest).1
  near highest hhighest := (hwindow.lags highest hhighest).2
  highest highest hhighest :=
    ⟨hwindow.highest_mem highest hhighest, fun h => hwindow.highest_max h highest hhighest⟩
  decrypts highest nonce data hhighest hclose hfirst hdata := by
    have hnear := hwindow.lt_of_close hhighest hclose hfirst
    refine ⟨(incrementNonceNumber_getNonceUint16 nonce _).mpr hnear,
      trace.conn.advance (nonce - trace.conn.recvNonce).toNat, ?_⟩
    rw [CryptoConnection.handleDataPacket_dataPacket trace.conn nonce hdata, if_pos hnear]

end NonceTrace

/-- `recv_nonce` stays in its window behind the highest nonce, and packets close to that are decrypted; all bytes of
    a nonce carry. -/
theorem nonceWindow (conn : CryptoConnection) (packets : List DataPacket) :
    NonceTrace.InWindow conn.sharedKey conn.recvNonce
        (packets.foldl NonceTrace.receive (NonceTrace.start conn)) ∧
      ∀ (nonce : Vector UInt8 cryptoNonceSize) (increment : UInt32),
        nonceOfBytes (incrementNonceBytes nonce.toList) = incrementNonce (nonceOfBytes nonce.toList) ∧
        nonceOfBytes (incrementNonceNumberBytes nonce.toList increment) =
          incrementNonceNumber (nonceOfBytes nonce.toList) increment := by
  have hwindow := (NonceTrace.window_start conn).foldl_receive packets
  have hkey := NonceTrace.sharedKey_foldl_receive (NonceTrace.start conn) packets
  constructor
  · have hin := hwindow.inWindow
    rw [hkey] at hin
    exact hin
  · intro nonce increment
    have hlength : nonce.toList.length = cryptoNonceSize := Vector.length_toList
    exact ⟨nonceOfBytes_incrementNonceBytes hlength, nonceOfBytes_incrementNonceNumberBytes hlength increment⟩

end Toxcore
