import Toxcore.Native.NodeFormat

/-!
# Packed nodes

Packing and unpacking of nodes, over UDP and TCP.  The unused bytes of an IPv4 address are not packed, so a
node that was packed and unpacked is the original one with these bytes zero.  For UDP nodes this is the
canonical form of the node.
-/

namespace Toxcore

open List

namespace IPPort

def isUdp (ipPort : IPPort) : Bool := ipPort.isIpv4 || ipPort.isIpv6

def address (ipPort : IPPort) : Bytes := if ipPort.isIpv4 then ipPort.v4 else ipPort.v6

def canonical (ipPort : IPPort) : IPPort :=
  { emptyIpPort with
    family := ipPort.family
    ip := bytesToVector 16 ipPort.address
    port := ipPort.port }

@[simp] theorem family_canonical (ipPort : IPPort) : ipPort.canonical.family = ipPort.family := by
  rw [canonical]

@[simp] theorem port_canonical (ipPort : IPPort) : ipPort.canonical.port = ipPort.port := by
  rw [canonical]

theorem isUdp_iff {ipPort : IPPort} :
    ipPort.isUdp ↔ ipPort.family = toxAfInet ∨ ipPort.family = toxAfInet6 := by
  simp [isUdp, isIpv4, isIpv6]

def packed (ipPort : IPPort) : Bytes := ipPort.family :: ipPort.address ++ packPort ipPort.port

variable {ipPort : IPPort}

theorem length_address (ipPort : IPPort) :
    ipPort.address.length = if ipPort.isIpv4 then sizeIp4 else sizeIp6 := by
  unfold address v4 v6
  split <;> simp [sizeIp4, sizeIp6]

theorem length_packed (ipPort : IPPort) : ipPort.packed.length = 1 + ipPort.address.length + 2 := by
  simp only [packed, packPort, length_append, length_cons, length_nil]
  omega

/-- An address that `pack_ip_port` can pack, of a UDP node or of a TCP relay. -/
def isPackable (a : IPPort) : Bool := a.isUdp || a.isTcpIpv4 || a.isTcpIpv6

def isShort (a : IPPort) : Bool := a.isIpv4 || a.isTcpIpv4

def wireFamily (a : IPPort) : UInt8 :=
  if a.isTcpIpv4 then toxTcpInet else if a.isTcpIpv6 then toxTcpInet6 else a.family

def wireAddress (a : IPPort) : Bytes := if a.isShort then a.v4 else a.v6

def wire (a : IPPort) : Bytes := a.wireFamily :: a.wireAddress ++ packPort a.port

def received (a : IPPort) : IPPort :=
  { emptyIpPort with
    family := a.family
    ip := bytesToVector 16 a.wireAddress
    port := a.port }

variable {a : IPPort}

theorem isPackable_of_isUdp (h : a.isUdp) : a.isPackable := by
  simp [isPackable, h]

theorem isPackable_iff : a.isPackable ↔ a.family = toxAfInet ∨ a.family = tcpInet ∨
    a.family = toxAfInet6 ∨ a.family = tcpInet6 := by
  simp only [isPackable, isUdp, isIpv4, isIpv6, isTcpIpv4, isTcpIpv6, Bool.or_eq_true, beq_iff_eq]
  tauto

theorem length_wireAddress (a : IPPort) :
    a.wireAddress.length = if a.isShort then sizeIp4 else sizeIp6 := by
  unfold wireAddress v4 v6
  split <;> simp [sizeIp4, sizeIp6]

theorem length_wire (a : IPPort) : a.wire.length = if a.isShort then 7 else 19 := by
  simp only [wire, length_append, length_cons, length_wireAddress]
  split <;> rfl

theorem length_wire_pos (a : IPPort) : 0 < a.wire.length := by
  rw [length_wire]
  split
  · decide
  · decide

theorem length_v4 (a : IPPort) : a.v4.length = sizeIp4 := by
  rw [v4, length_take, Vector.length_toList]
  rfl

theorem length_v6 (a : IPPort) : a.v6.length = sizeIp6 := by
  rw [v6, Vector.length_toList]
  rfl

theorem wire_of_isUdp (h : a.isUdp) : a.wireFamily = a.family ∧ a.wireAddress = a.address := by
  have htcp : a.isTcpIpv4 = false ∧ a.isTcpIpv6 = false := by
    cases isUdp_iff.mp h with
    | inl hfamily =>
      rw [isTcpIpv4, isTcpIpv6, hfamily]
      exact ⟨rfl, rfl⟩
    | inr hfamily =>
      rw [isTcpIpv4, isTcpIpv6, hfamily]
      exact ⟨rfl, rfl⟩
  constructor
  · rw [wireFamily, htcp.1, htcp.2]
    rfl
  · rw [wireAddress, isShort, htcp.1, Bool.or_false, address]

theorem packed_eq_wire (h : a.isUdp) : a.packed = a.wire := by
  obtain ⟨hfamily, haddress⟩ := wire_of_isUdp h
  rw [packed, wire, hfamily, haddress]

theorem canonical_eq_received (h : a.isUdp) : a.canonical = a.received := by
  obtain ⟨-, haddress⟩ := wire_of_isUdp h
  rw [canonical, received, haddress]

end IPPort

namespace NodeFormat

def canonical (node : NodeFormat) : NodeFormat := { node with ipPort := node.ipPort.canonical }

def packed (node : NodeFormat) : Bytes := node.ipPort.packed ++ node.publicKey.toList

theorem length_packed (node : NodeFormat) : node.packed.length =
    if node.ipPort.isIpv4 then packedNodeSizeIp4 else packedNodeSizeIp6 := by
  simp only [packed, length_append, IPPort.length_packed, IPPort.length_address, Vector.length_toList]
  split <;> rfl

theorem length_packed_ge (node : NodeFormat) : 39 ≤ node.packed.length := by
  rw [length_packed]
  split <;> decide

theorem length_packed_le (node : NodeFormat) : node.packed.length ≤ 51 := by
  rw [length_packed]
  split <;> decide

def wire (node : NodeFormat) : Bytes := node.ipPort.wire ++ node.publicKey.toList

def received (node : NodeFormat) : NodeFormat := { node with ipPort := node.ipPort.received }

theorem length_wire (node : NodeFormat) : node.wire.length = node.ipPort.wire.length + cryptoPublicKeySize := by
  rw [wire, length_append, Vector.length_toList]

theorem length_wire_pos (node : NodeFormat) : 0 < node.wire.length := by
  have hpos := node.ipPort.length_wire_pos
  rw [length_wire]
  omega

theorem flatMap_packed_eq {nodes : List NodeFormat} (h : ∀ node ∈ nodes, node.ipPort.isUdp) :
    nodes.flatMap packed = nodes.flatMap wire := by
  apply flatMap_congr
  intro node hnode
  rw [packed, wire, IPPort.packed_eq_wire (h node hnode)]

theorem map_canonical_eq {nodes : List NodeFormat} (h : ∀ node ∈ nodes, node.ipPort.isUdp) :
    nodes.map canonical = nodes.map received := by
  apply map_congr_left
  intro node hnode
  rw [canonical, received, IPPort.canonical_eq_received (h node hnode)]

end NodeFormat

/-! ## Packing -/

theorem length_flatMap_packed_ge (nodes : List NodeFormat) :
    39 * nodes.length ≤ (nodes.flatMap NodeFormat.packed).length := by
  induction nodes with
  | nil => simp
  | cons node nodes ih =>
    have hnode := node.length_packed_ge
    rw [flatMap_cons, length_append, length_cons]
    omega

theorem length_flatMap_packed_le (nodes : List NodeFormat) :
    (nodes.flatMap NodeFormat.packed).length ≤ 51 * nodes.length := by
  induction nodes with
  | nil => simp
  | cons node nodes ih =>
    have hnode := node.length_packed_le
    rw [flatMap_cons, length_append, length_cons]
    omega

theorem packIpPort_of_isPackable {a : IPPort} (h : a.isPackable) (length : Nat) :
    packIpPort length a = if a.wire.length > length then none else some a.wire := by
  unfold packIpPort IPPort.wire IPPort.wireFamily IPPort.wireAddress IPPort.isShort
  rcases IPPort.isPackable_iff.mp h with hfamily | hfamily | hfamily | hfamily
  all_goals
    simp only [IPPort.isIpv4, IPPort.isTcpIpv4, IPPort.isIpv6, IPPort.isTcpIpv6, hfamily]
    simp [packPort, toxAfInet, tcpInet, toxAfInet6, tcpInet6]
    congr 1
    simp
    omega

variable {ipPort : IPPort}

theorem packIpPort_of_isUdp (h : ipPort.isUdp) (length : Nat) :
    packIpPort length ipPort =
      if ipPort.packed.length > length then none else some ipPort.packed := by
  rw [IPPort.packed_eq_wire h]
  exact packIpPort_of_isPackable (IPPort.isPackable_of_isUdp h) length

variable {length : Nat} {nodes : List NodeFormat} {written : Bytes}

theorem packNodesLoop_wire (hpackable : ∀ node ∈ nodes, node.ipPort.isPackable)
    (hlength : (written ++ nodes.flatMap NodeFormat.wire).length ≤ length) :
    packNodesLoop length nodes written =
      (some (written ++ nodes.flatMap NodeFormat.wire).length, written ++ nodes.flatMap NodeFormat.wire) := by
  induction nodes generalizing written with
  | nil =>
    rw [packNodesLoop, flatMap_nil, append_nil]
  | cons node nodes ih =>
    have hassoc : written ++ (node :: nodes).flatMap NodeFormat.wire =
        written ++ node.ipPort.wire ++ node.publicKey.toList ++ nodes.flatMap NodeFormat.wire := by
      rw [flatMap_cons, NodeFormat.wire, append_assoc, append_assoc, append_assoc]
    rw [hassoc] at hlength ⊢
    have hsum : written.length + node.ipPort.wire.length + cryptoPublicKeySize ≤ length := by
      rw [length_append, length_append, length_append, Vector.length_toList] at hlength
      omega
    have hpos := node.ipPort.length_wire_pos
    rw [packNodesLoop, if_neg (by omega), packIpPort_of_isPackable (hpackable node mem_cons_self), if_neg (by omega)]
    dsimp only
    rw [if_neg (by omega)]
    exact ih (fun n hn => hpackable n (mem_cons_of_mem _ hn)) hlength

theorem packNodesLoop_of_le (hudp : ∀ node ∈ nodes, node.ipPort.isUdp)
    (hlength : written.length + (nodes.flatMap NodeFormat.packed).length ≤ length) :
    packNodesLoop length nodes written =
      (some (written ++ nodes.flatMap NodeFormat.packed).length,
        written ++ nodes.flatMap NodeFormat.packed) := by
  rw [NodeFormat.flatMap_packed_eq hudp, ← length_append] at *
  exact packNodesLoop_wire (fun node hnode => IPPort.isPackable_of_isUdp (hudp node hnode)) hlength

theorem length_packNodesLoop_le (hudp : ∀ node ∈ nodes, node.ipPort.isUdp) (hwritten : written.length ≤ length) :
    (packNodesLoop length nodes written).2.length ≤ length := by
  induction nodes generalizing written with
  | nil => exact hwritten
  | cons node nodes ih =>
    unfold packNodesLoop
    rw [packIpPort_of_isUdp (hudp node mem_cons_self)]
    split
    · exact hwritten
    · by_cases hfits : node.ipPort.packed.length > length - written.length
      · rw [if_pos hfits]
        exact hwritten
      · rw [if_neg hfits]
        simp only
        split
        · simp only [length_append]
          omega
        · apply ih (fun n hn => hudp n (mem_cons_of_mem _ hn))
          simp only [length_append, Vector.length_toList]
          omega

/-! ## Unpacking -/

variable {data : Bytes}

theorem take_toList_bytesToVector {n k : Nat} (hn : k ≤ n) (hdata : k ≤ data.length) :
    (bytesToVector n data).toList.take k = data.take k := by
  apply ext_getElem?
  intro i
  by_cases hi : i < k
  · have hin : i < n := by omega
    have hidata : i < data.length := by omega
    simp [bytesToVector, hi, hin, hidata]
  · simp [hi]

theorem unpackPort_packPort_append (port : UInt16) (rest : Bytes) :
    unpackPort (packPort port ++ rest) = port := by
  have hport : port.toNat < 2 ^ 16 := port.toNat_lt
  apply UInt16.toNat_inj.mp
  simp [unpackPort, packPort]
  omega

theorem unpackIpPort_wire_append {a : IPPort} (h : a.isPackable) {tcpEnabled : Bool}
    (htcp : a.isUdp ∨ tcpEnabled) (rest : Bytes) :
    unpackIpPort (a.wire ++ rest) tcpEnabled = some (a.received, rest) := by
  have hlength := a.length_wireAddress
  have hport : ∀ n, a.wireAddress.length = n →
      ¬n + 2 > (a.wireAddress ++ (packPort a.port ++ rest)).length ∧
      (a.wireAddress ++ (packPort a.port ++ rest)).take n = a.wireAddress ∧
      unpackPort ((a.wireAddress ++ (packPort a.port ++ rest)).drop n) = a.port ∧
      (a.wireAddress ++ (packPort a.port ++ rest)).drop (n + 2) = rest := by
    rintro n rfl
    refine ⟨by simp [packPort], take_left, ?_, ?_⟩
    · rw [drop_left, unpackPort_packPort_append]
    · rw [← append_assoc, drop_left' (by simp [packPort])]
  unfold unpackIpPort IPPort.wire IPPort.received
  rcases IPPort.isPackable_iff.mp h with hfamily | hfamily | hfamily | hfamily
  · rw [if_pos (by simp [IPPort.isShort, IPPort.isIpv4, hfamily])] at hlength
    obtain ⟨hle, htake, hport, hdrop⟩ := hport _ hlength
    simp only [cons_append, append_assoc, IPPort.wireFamily, IPPort.isTcpIpv4, IPPort.isTcpIpv6, hfamily,
      show (toxAfInet == tcpInet) = false from rfl, show (toxAfInet == tcpInet6) = false from rfl,
      Bool.false_eq_true, if_false, if_true]
    rw [if_neg hle, htake, hport, hdrop]
  · have hon : tcpEnabled = true := by
      rcases htcp with hudp | hon
      · rcases IPPort.isUdp_iff.mp hudp with hudp | hudp <;> rw [hfamily] at hudp <;> cases hudp
      · exact hon
    rw [if_pos (by simp [IPPort.isShort, IPPort.isTcpIpv4, hfamily])] at hlength
    obtain ⟨hle, htake, hport, hdrop⟩ := hport _ hlength
    simp only [cons_append, append_assoc, IPPort.wireFamily, IPPort.isTcpIpv4, hfamily, beq_self_eq_true, if_true, hon,
      show toxTcpInet ≠ toxAfInet by decide, if_false, Bool.not_true, Bool.false_eq_true]
    rw [if_neg hle, htake, hport, hdrop]
  · rw [if_neg (by simp [IPPort.isShort, IPPort.isIpv4, IPPort.isTcpIpv4, hfamily]; decide)] at hlength
    obtain ⟨hle, htake, hport, hdrop⟩ := hport _ hlength
    simp only [cons_append, append_assoc, IPPort.wireFamily, IPPort.isTcpIpv4, IPPort.isTcpIpv6, hfamily,
      show (toxAfInet6 == tcpInet) = false from rfl, show (toxAfInet6 == tcpInet6) = false from rfl,
      Bool.false_eq_true, if_false, if_true, show toxAfInet6 ≠ toxAfInet by decide,
      show toxAfInet6 ≠ toxTcpInet by decide]
    rw [if_neg hle, htake, hport, hdrop]
  · have hon : tcpEnabled = true := by
      rcases htcp with hudp | hon
      · rcases IPPort.isUdp_iff.mp hudp with hudp | hudp <;> rw [hfamily] at hudp <;> cases hudp
      · exact hon
    rw [if_neg (by simp [IPPort.isShort, IPPort.isIpv4, IPPort.isTcpIpv4, hfamily]; decide)] at hlength
    obtain ⟨hle, htake, hport, hdrop⟩ := hport _ hlength
    simp only [cons_append, append_assoc, IPPort.wireFamily, IPPort.isTcpIpv4, IPPort.isTcpIpv6, hfamily, beq_self_eq_true,
      if_true, hon, show (tcpInet6 == tcpInet) = false from rfl, Bool.false_eq_true, if_false,
      show toxTcpInet6 ≠ toxAfInet by decide, show toxTcpInet6 ≠ toxTcpInet by decide,
      show toxTcpInet6 ≠ toxAfInet6 by decide, Bool.not_true]
    rw [if_neg hle, htake, hport, hdrop]

variable {rest : Bytes} {maxNumNodes : Nat}

theorem unpackNodesLoop_wire {tcpEnabled : Bool} (hpackable : ∀ node ∈ nodes, node.ipPort.isPackable)
    (htcp : ∀ node ∈ nodes, node.ipPort.isUdp ∨ tcpEnabled) (hmax : nodes.length ≤ maxNumNodes)
    (hend : nodes.length = maxNumNodes ∨ rest = []) :
    unpackNodesLoop tcpEnabled maxNumNodes (nodes.flatMap NodeFormat.wire ++ rest) =
      some (nodes.map NodeFormat.received, rest) := by
  induction nodes generalizing maxNumNodes with
  | nil =>
    cases maxNumNodes with
    | zero => rfl
    | succ m =>
      obtain rfl : rest = [] := by simpa using hend
      rfl
  | cons node nodes ih =>
    cases maxNumNodes with
    | zero => simp at hmax
    | succ m =>
      have hpos := node.length_wire_pos
      rw [unpackNodesLoop, if_neg (by rw [flatMap_cons, length_append, length_append]; omega),
        flatMap_cons, NodeFormat.wire, append_assoc, append_assoc,
        unpackIpPort_wire_append (hpackable node mem_cons_self) (htcp node mem_cons_self)]
      dsimp only
      rw [if_neg (by simp), drop_left' (by simp),
        ih (fun n hn => hpackable n (mem_cons_of_mem _ hn)) (fun n hn => htcp n (mem_cons_of_mem _ hn))
          (by simpa using hmax) (by simpa using hend), bytesToVector_toList_append]
      rfl

theorem unpackIpPort_packed_append (h : ipPort.isUdp) (rest : Bytes) (tcpEnabled : Bool) :
    unpackIpPort (ipPort.packed ++ rest) tcpEnabled = some (ipPort.canonical, rest) := by
  rw [IPPort.packed_eq_wire h, IPPort.canonical_eq_received h]
  exact unpackIpPort_wire_append (IPPort.isPackable_of_isUdp h) (.inl h) rest

theorem unpackNodesLoop_flatMap (tcpEnabled : Bool) (hudp : ∀ node ∈ nodes, node.ipPort.isUdp)
    (hmax : nodes.length ≤ maxNumNodes) (hend : nodes.length = maxNumNodes ∨ rest = []) :
    unpackNodesLoop tcpEnabled maxNumNodes (nodes.flatMap NodeFormat.packed ++ rest) =
      some (nodes.map NodeFormat.canonical, rest) := by
  rw [NodeFormat.flatMap_packed_eq hudp, NodeFormat.map_canonical_eq hudp]
  exact unpackNodesLoop_wire (fun node hnode => IPPort.isPackable_of_isUdp (hudp node hnode))
    (fun node hnode => .inl (hudp node hnode)) hmax hend

theorem isUdp_of_unpackIpPort (h : unpackIpPort data false = some (ipPort, rest)) : ipPort.isUdp := by
  unfold unpackIpPort at h
  rw [IPPort.isUdp_iff]
  split at h
  · cases h
  · simp only [Bool.not_false] at h
    split_ifs at h
    all_goals
      cases h
      simp

theorem isUdp_of_unpackNodesLoop {left : Bytes} (h : unpackNodesLoop false maxNumNodes data = some (nodes, left)) :
    ∀ node ∈ nodes, node.ipPort.isUdp := by
  induction maxNumNodes generalizing data nodes left with
  | zero =>
    cases h
    simp
  | succ m ih =>
    unfold unpackNodesLoop at h
    split at h
    · cases h
      simp
    · split at h
      · cases h
      · rename_i hipPort
        split at h
        · cases h
        · split at h
          · cases h
          · rename_i hnodes
            cases h
            intro node hnode
            rcases mem_cons.mp hnode with rfl | hnode
            · exact isUdp_of_unpackIpPort hipPort
            · exact ih hnodes node hnode

end Toxcore
