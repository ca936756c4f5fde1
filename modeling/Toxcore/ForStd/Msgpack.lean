import Toxcore.ForStd.LittleEndian

/-!
# MessagePack

The part of the MessagePack format that stores unsigned numbers, truth values, byte strings and
the headers of arrays.  A reader consumes bytes from the front and may fail.
-/

namespace Msgpack

abbrev Reader (α : Type) := StateT (List UInt8) Option α

/-- The reader reads `a` from the bytes `enc`, whatever follows. -/
def Reads {α : Type} (reader : Reader α) (enc : List UInt8) (a : α) : Prop :=
  ∀ rest, reader.run (enc ++ rest) = some (a, rest)

variable {α β : Type} {reader : Reader α} {enc enc' : List UInt8} {a : α}

theorem Reads.pure (a : α) : Reads (Pure.pure a) [] a := fun _ => rfl

theorem Reads.bind {next : α → Reader β} {b : β} (h : Reads reader enc a)
    (hnext : Reads (next a) enc' b) : Reads (reader >>= next) (enc ++ enc') b := by
  intro rest
  rw [List.append_assoc, StateT.run_bind, h]
  exact hnext rest

theorem Reads.bind_last {next : α → Reader β} {b : β} (h : Reads reader enc a)
    (hnext : Reads (next a) [] b) : Reads (reader >>= next) enc b := by
  have hbind := h.bind hnext
  rwa [List.append_nil] at hbind

/-! ## Bytes -/

def bytes (n : Nat) : Reader (List UInt8) := fun data =>
  if data.length < n then none else some (data.take n, data.drop n)

theorem reads_bytes (data : List UInt8) : Reads (bytes data.length) data data := by
  intro rest
  have hlen : ¬(data ++ rest).length < data.length := by simp
  show (if (data ++ rest).length < data.length then none else _) = _
  rw [if_neg hlen, List.take_left, List.drop_left]

/-- A number in `n` bytes, the highest byte first. -/
def bigEndian (n value : Nat) : List UInt8 := (toLittleEndian n value).reverse

/-- Reads a number of `n` bytes. -/
def number (n : Nat) : Reader Nat := do
  let data ← bytes n
  Pure.pure (ofLittleEndian data.reverse)

theorem reads_number {n value : Nat} (h : value < 256 ^ n) :
    Reads (number n) (bigEndian n value) value := by
  have hlen : (bigEndian n value).length = n := by simp [bigEndian]
  have hbytes := reads_bytes (bigEndian n value)
  rw [hlen] at hbytes
  refine hbytes.bind_last ?_
  rw [bigEndian, List.reverse_reverse, ofLittleEndian_toLittleEndian, Nat.mod_eq_of_lt h]
  exact Reads.pure value

def byte : Reader UInt8 := fun data =>
  match data with
  | [] => none
  | b :: rest => some (b, rest)

theorem reads_byte (b : UInt8) : Reads byte [b] b := fun _ => rfl

def fail : Reader α := fun _ => none

/-! ## Numbers -/

/-- Writes a number below `2 ^ 32` in the shortest form. -/
def uint (value : Nat) : List UInt8 :=
  if value ≤ 0x7f then [UInt8.ofNat value]
  else if value ≤ 0xff then 0xcc :: bigEndian 1 value
  else if value ≤ 0xffff then 0xcd :: bigEndian 2 value
  else 0xce :: bigEndian 4 value

/-- A signed number of `n` bytes that is not negative. -/
def signed (n : Nat) : Reader Nat := do
  let value ← number n
  if value < 256 ^ n / 2 then Pure.pure value else fail

/-- Reads a number that is stored in at most `width` bytes. -/
def readUint (width : Nat) : Reader Nat := do
  let marker ← byte
  if marker ≤ 0x7f then Pure.pure marker.toNat
  else if marker = 0xcc ∧ 1 ≤ width then number 1
  else if marker = 0xcd ∧ 2 ≤ width then number 2
  else if marker = 0xce ∧ 4 ≤ width then number 4
  else if marker = 0xd0 ∧ 1 ≤ width then signed 1
  else if marker = 0xd1 ∧ 2 ≤ width then signed 2
  else if marker = 0xd2 ∧ 4 ≤ width then signed 4
  else fail

theorem reads_uint {width value : Nat} (hwidth : width = 1 ∨ width = 2 ∨ width = 4)
    (h : value < 256 ^ width) : Reads (readUint width) (uint value) value := by
  have hbound : value < 256 ^ 4 := by
    rcases hwidth with rfl | rfl | rfl <;> omega
  rw [uint]
  split
  · -- one byte is the marker and the number
    rename_i hsmall
    have hnat : (UInt8.ofNat value).toNat = value := by
      rw [UInt8.toNat_ofNat']
      omega
    refine (reads_byte _).bind_last ?_
    rw [if_pos (by rw [UInt8.le_iff_toNat_le, hnat]; exact hsmall), hnat]
    exact Reads.pure value
  split
  · refine (reads_byte 0xcc).bind ?_
    rw [if_neg (by decide), if_pos ⟨rfl, by omega⟩]
    exact reads_number (by omega)
  have htwo : 2 ≤ width := by
    rcases hwidth with rfl | rfl | rfl <;> omega
  split
  · refine (reads_byte 0xcd).bind ?_
    rw [if_neg (by decide), if_neg (fun h => absurd h.1 (by decide)), if_pos ⟨rfl, htwo⟩]
    exact reads_number (by omega)
  · have hfour : 4 ≤ width := by
      rcases hwidth with rfl | rfl | rfl <;> omega
    refine (reads_byte 0xce).bind ?_
    rw [if_neg (by decide), if_neg (fun h => absurd h.1 (by decide)),
      if_neg (fun h => absurd h.1 (by decide)), if_pos ⟨rfl, hfour⟩]
    exact reads_number hbound

/-! ## Other values -/

def nil : List UInt8 := [0xc0]

def readNil : Reader Unit := do
  let marker ← byte
  if marker = 0xc0 then Pure.pure () else fail

theorem reads_nil : Reads readNil nil () := fun _ => rfl

def bool (b : Bool) : List UInt8 := [if b then 0xc3 else 0xc2]

def readBool : Reader Bool := do
  let marker ← byte
  if marker = 0xc3 then Pure.pure true else if marker = 0xc2 then Pure.pure false else fail

theorem reads_bool (b : Bool) : Reads readBool (bool b) b := by
  intro rest
  cases b <;> rfl

/-- Writes the header of an array of `n` values. -/
def array (n : Nat) : List UInt8 :=
  if n ≤ 0xf then [UInt8.ofNat (0x90 + n)]
  else if n ≤ 0xffff then 0xdc :: bigEndian 2 n
  else 0xdd :: bigEndian 4 n

def readArray : Reader Nat := do
  let marker ← byte
  if 0x90 ≤ marker ∧ marker ≤ 0x9f then Pure.pure (marker.toNat - 0x90)
  else if marker = 0xdc then number 2
  else if marker = 0xdd then number 4
  else fail

theorem reads_array {n : Nat} (h : n ≤ 0xf) : Reads readArray (array n) n := by
  have hnat : (UInt8.ofNat (0x90 + n)).toNat = 0x90 + n := by
    rw [UInt8.toNat_ofNat']
    omega
  rw [array, if_pos h]
  refine (reads_byte _).bind_last ?_
  rw [if_pos (by
    rw [UInt8.le_iff_toNat_le, UInt8.le_iff_toNat_le, hnat]
    exact ⟨Nat.le_add_right _ _, by
      show 0x90 + n ≤ 0x9f
      omega⟩), hnat, Nat.add_sub_cancel_left]
  exact Reads.pure n

/-- Writes a byte string of less than `2 ^ 32` bytes. -/
def bin (data : List UInt8) : List UInt8 :=
  (if data.length ≤ 0xff then 0xc4 :: bigEndian 1 data.length
  else if data.length ≤ 0xffff then 0xc5 :: bigEndian 2 data.length
  else 0xc6 :: bigEndian 4 data.length) ++ data

def readBinSize : Reader Nat := do
  let marker ← byte
  if marker = 0xc4 then number 1
  else if marker = 0xc5 then number 2
  else if marker = 0xc6 then number 4
  else fail

def readBinFixed (n : Nat) : Reader (List UInt8) := do
  let size ← readBinSize
  if size ≠ n then fail else bytes n

theorem reads_bin {data : List UInt8} {n : Nat} (h : data.length = n) (hn : n ≤ 0xffff) :
    Reads (readBinFixed n) (bin data) data := by
  subst h
  refine Reads.bind (a := data.length) ?_ ?_
  · split
    · refine (reads_byte 0xc4).bind ?_
      exact reads_number (by omega)
    refine (reads_byte 0xc5).bind ?_
    exact reads_number (by omega)
  · rw [if_neg (fun hne => hne rfl)]
    exact reads_bytes data

end Msgpack
