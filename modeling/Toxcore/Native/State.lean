import Toxcore.ForStd.LittleEndian
import Toxcore.Native.CryptoCore

/-!
# State files

The sections of `state.c`: a header with the length and the type of the section, and its
data.  Numbers are little-endian.  `state_load` calls a callback for each section.
-/

namespace Toxcore

def hostToLendianBytes32 (num : UInt32) : Bytes :=
  [UInt8.ofNat num.toNat, UInt8.ofNat (num.toNat / 2 ^ 8), UInt8.ofNat (num.toNat / 2 ^ 16),
   UInt8.ofNat (num.toNat / 2 ^ 24)]

def lendianBytesToHost32 (data : Bytes) : UInt32 :=
  UInt32.ofNat ((data.getD 0 0).toNat + (data.getD 1 0).toNat * 2 ^ 8 +
    (data.getD 2 0).toNat * 2 ^ 16 + (data.getD 3 0).toNat * 2 ^ 24)

def hostToLendianBytes16 (num : UInt16) : Bytes := toLittleEndian 2 num.toNat

def lendianBytesToHost16 (data : Bytes) : UInt16 := UInt16.ofNat (ofLittleEndian (data.take 2))

def hostToLendianBytes64 (num : UInt64) : Bytes := toLittleEndian 8 num.toNat

def lendianBytesToHost64 (data : Bytes) : UInt64 := UInt64.ofNat (ofLittleEndian (data.take 8))

def stateWriteSectionHeader (cookieType : UInt16) (len sectionType : UInt32) : Bytes :=
  hostToLendianBytes32 len ++
    hostToLendianBytes32 (cookieType.toUInt32 <<< 16 ||| sectionType.toUInt16.toUInt32)

inductive StateLoadStatus where
  | continue
  | error
  | end
deriving DecidableEq

/-- The size of a section header. -/
def sizeHead : Nat := 8

/-- The loop of `state_load`; the length of the data is enough fuel. -/
def stateLoadLoop {σ : Type} (callback : σ → Bytes → UInt16 → StateLoadStatus × σ)
    (cookieInner : UInt16) : (fuel : Nat) → σ → Bytes → Bool × σ
  | 0, outer, data => (data.length = 0, outer)
  | fuel + 1, outer, data =>
    if data.length < sizeHead then (data.length = 0, outer)
    else
      let lengthSub := lendianBytesToHost32 data
      let cookieType := lendianBytesToHost32 (data.drop 4)
      let rest := data.drop sizeHead
      if rest.length < lengthSub.toNat then (false, outer)
      else if (cookieType >>> 16).toUInt16 ≠ cookieInner then (false, outer)
      else
        match callback outer (rest.take lengthSub.toNat) cookieType.toUInt16 with
        | (.continue, outer) =>
          stateLoadLoop callback cookieInner fuel outer (rest.drop lengthSub.toNat)
        | (.error, outer) => (false, outer)
        | (.end, outer) => (true, outer)

def stateLoad {σ : Type} (callback : σ → Bytes → UInt16 → StateLoadStatus × σ) (outer : σ)
    (data : Bytes) (cookieInner : UInt16) : Bool × σ :=
  stateLoadLoop callback cookieInner data.length outer data

end Toxcore
