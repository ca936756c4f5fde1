import Toxcore.Native.NodeFormatReads
import Toxcore.Spec.NodeFormatCorrect

/-!
# The codec of node lists

What `pack_nodes` writes is unpacked again, and what `unpack_nodes` accepts is packed to the same bytes, for
nodes of all four families.
-/

namespace Toxcore

open List

/-! ## Packing -/

theorem packNodesLoop_prefix {length : Nat} {nodes : List NodeFormat} {written : Bytes} {n : Nat} {bytes : Bytes}
    (hpackable : ∀ node ∈ nodes, node.ipPort.isPackable) (hwritten : written.length ≤ length)
    (h : packNodesLoop length nodes written = (some n, bytes)) :
    ∃ taken rest, nodes = taken ++ rest ∧ bytes = written ++ taken.flatMap NodeFormat.wire ∧
      n = bytes.length ∧ n ≤ length := by
  induction nodes generalizing written with
  | nil =>
    obtain ⟨hn, rfl⟩ := Prod.mk.inj h
    cases hn
    exact ⟨[], [], rfl, (append_nil _).symm, rfl, hwritten⟩
  | cons node nodes ih =>
    rw [packNodesLoop] at h
    split at h
    · obtain ⟨hn, rfl⟩ := Prod.mk.inj h
      cases hn
      exact ⟨[], node :: nodes, rfl, (append_nil _).symm, rfl, hwritten⟩
    · rw [packIpPort_of_isPackable (hpackable node mem_cons_self)] at h
      split at h
      · cases h
      · rename_i ipp hipp
        split at hipp
        · cases hipp
        · cases hipp
          split at h
          · cases h
          · have hlength : (written ++ node.ipPort.wire ++ node.publicKey.toList).length ≤ length := by
              rw [length_append, length_append, Vector.length_toList]
              omega
            obtain ⟨taken, rest, rfl, hbytes, hn, hle⟩ :=
              ih (fun n hn => hpackable n (mem_cons_of_mem _ hn)) hlength h
            refine ⟨node :: taken, rest, rfl, ?_, hn, hle⟩
            rw [hbytes, flatMap_cons, NodeFormat.wire, append_assoc, append_assoc, append_assoc]

/-! ## Packing what was unpacked -/

theorem packPort_unpackPort {data : Bytes} (h : 2 ≤ data.length) : packPort (unpackPort data) = data.take 2 := by
  match data, h with
  | high :: low :: rest, _ =>
    have hhigh : high.toNat < 2 ^ 8 := high.toNat_lt
    have hlow : low.toNat < 2 ^ 8 := low.toNat_lt
    have hport : (unpackPort (high :: low :: rest)).toNat = high.toNat * 2 ^ 8 + low.toNat := by
      simp [unpackPort]
      omega
    have hfst : UInt8.ofNat ((high.toNat * 2 ^ 8 + low.toNat) / 2 ^ 8) = high := by
      apply UInt8.toNat_inj.mp
      simp
      omega
    have hsnd : UInt8.ofNat (high.toNat * 2 ^ 8 + low.toNat) = low := by
      apply UInt8.toNat_inj.mp
      simp
    rw [packPort, hport, hfst, hsnd]
    rfl

theorem IPPort.wire_of_read {ipPort : IPPort} {data : Bytes} {size : Nat}
    (hip : ipPort.ip = bytesToVector 16 (data.take size)) (hport : ipPort.port = unpackPort (data.drop size))
    (hwire : ipPort.wireAddress = ipPort.ip.toList.take size) (hsize : size ≤ 16)
    (hlength : size + 2 ≤ data.length) :
    ipPort.wire ++ data.drop (size + 2) = ipPort.wireFamily :: data := by
  have htake : size ≤ (data.take size).length := by
    rw [length_take]
    omega
  have haddress : ipPort.wireAddress = data.take size := by
    rw [hwire, hip, take_toList_bytesToVector hsize htake, take_take, Nat.min_self]
  have hbytes : packPort ipPort.port = (data.drop size).take 2 := by
    rw [hport, packPort_unpackPort (by rw [length_drop]; omega)]
  rw [IPPort.wire, haddress, hbytes, cons_append, cons_append, append_assoc, ← drop_drop,
    take_append_drop, take_append_drop]

theorem IPPort.wire_of_branch {ipPort : IPPort} {family host : UInt8} {size : Nat} {bytes rest : Bytes}
    (h : (if size + 2 > bytes.length then none
      else some (({ emptyIpPort with
            family := host
            ip := bytesToVector 16 (bytes.take size)
            port := unpackPort (bytes.drop size) } : IPPort), bytes.drop (size + 2))) = some (ipPort, rest))
    (hsize : size ≤ 16) (hhost : ∀ a : IPPort, a.family = host →
      a.isPackable ∧ a.wireFamily = family ∧ a.wireAddress = a.ip.toList.take size) :
    ipPort.isPackable ∧ family :: bytes = ipPort.wire ++ rest := by
  split at h
  · cases h
  · obtain ⟨hipPort, rfl⟩ := Prod.mk.inj (Option.some.inj h)
    have hip : ipPort.ip = bytesToVector 16 (bytes.take size) := by rw [← hipPort]
    have hport : ipPort.port = unpackPort (bytes.drop size) := by rw [← hipPort]
    obtain ⟨hpackable, hfamily, hwire⟩ := hhost ipPort (by rw [← hipPort])
    rw [IPPort.wire_of_read hip hport hwire hsize (by omega), hfamily]
    exact ⟨hpackable, rfl⟩

theorem IPPort.wireAddress_of_ipv4 {ipPort : IPPort} (h : ipPort.family = toxAfInet ∨ ipPort.family = tcpInet) :
    ipPort.wireAddress = ipPort.ip.toList.take sizeIp4 := by
  have hshort : ipPort.isShort = true := by
    cases h with
    | inl h => rw [isShort, isIpv4, h, beq_self_eq_true, Bool.true_or]
    | inr h => rw [isShort, isTcpIpv4, h, beq_self_eq_true, Bool.or_true]
  rw [wireAddress, if_pos hshort]
  rfl

theorem IPPort.wireAddress_of_ipv6 {ipPort : IPPort} (h : ipPort.family = toxAfInet6 ∨ ipPort.family = tcpInet6) :
    ipPort.wireAddress = ipPort.ip.toList.take sizeIp6 := by
  have hlong : ipPort.isShort = false := by
    cases h with
    | inl h => rw [isShort, isIpv4, isTcpIpv4, h]; rfl
    | inr h => rw [isShort, isIpv4, isTcpIpv4, h]; rfl
  have hlength : ipPort.ip.toList.length = sizeIp6 := Vector.length_toList
  rw [wireAddress, if_neg (by rw [hlong]; exact Bool.false_ne_true), v6, ← hlength, take_length]

theorem eq_wire_of_unpackIpPort {data rest : Bytes} {tcpEnabled : Bool} {ipPort : IPPort}
    (h : unpackIpPort data tcpEnabled = some (ipPort, rest)) :
    ipPort.isPackable ∧ data = ipPort.wire ++ rest := by
  cases data with
  | nil => cases h
  | cons family bytes =>
    rw [unpackIpPort] at h
    by_cases hipv4 : family = toxAfInet
    · rw [if_pos hipv4] at h
      exact IPPort.wire_of_branch h (by decide) fun a ha => ⟨IPPort.isPackable_iff.mpr (.inl ha),
        by rw [IPPort.wireFamily, IPPort.isTcpIpv4, IPPort.isTcpIpv6, ha, hipv4]; rfl, IPPort.wireAddress_of_ipv4 (.inl ha)⟩
    · rw [if_neg hipv4] at h
      by_cases htcp : family = toxTcpInet
      · rw [if_pos htcp] at h
        split at h
        · cases h
        · exact IPPort.wire_of_branch h (by decide) fun a ha => ⟨IPPort.isPackable_iff.mpr (.inr (.inl ha)),
            by rw [IPPort.wireFamily, IPPort.isTcpIpv4, IPPort.isTcpIpv6, ha, htcp]; rfl, IPPort.wireAddress_of_ipv4 (.inr ha)⟩
      · rw [if_neg htcp] at h
        by_cases hipv6 : family = toxAfInet6
        · rw [if_pos hipv6] at h
          exact IPPort.wire_of_branch h (by decide) fun a ha => ⟨IPPort.isPackable_iff.mpr (.inr (.inr (.inl ha))),
            by rw [IPPort.wireFamily, IPPort.isTcpIpv4, IPPort.isTcpIpv6, ha, hipv6]; rfl, IPPort.wireAddress_of_ipv6 (.inl ha)⟩
        · rw [if_neg hipv6] at h
          split at h
          · rename_i htcp6
            split at h
            · cases h
            · exact IPPort.wire_of_branch h (by decide) fun a ha => ⟨IPPort.isPackable_iff.mpr (.inr (.inr (.inr ha))),
                by rw [IPPort.wireFamily, IPPort.isTcpIpv4, IPPort.isTcpIpv6, ha, htcp6]; rfl, IPPort.wireAddress_of_ipv6 (.inr ha)⟩
          · cases h

theorem eq_wire_of_unpackNodesLoop {tcpEnabled : Bool} {maxNumNodes : Nat} {data left : Bytes}
    {nodes : List NodeFormat} (h : unpackNodesLoop tcpEnabled maxNumNodes data = some (nodes, left)) :
    (∀ node ∈ nodes, node.ipPort.isPackable) ∧ data = nodes.flatMap NodeFormat.wire ++ left := by
  induction maxNumNodes generalizing data nodes left with
  | zero =>
    cases h
    exact ⟨fun _ hnode => absurd hnode not_mem_nil, rfl⟩
  | succ m ih =>
    rw [unpackNodesLoop] at h
    split at h
    · cases h
      exact ⟨fun _ hnode => absurd hnode not_mem_nil, rfl⟩
    · split at h
      · cases h
      · rename_i ipPort rest hipPort
        split at h
        · cases h
        · split at h
          · cases h
          · rename_i nodes' left' hnodes
            cases h
            obtain ⟨hpackable, hdata⟩ := eq_wire_of_unpackIpPort hipPort
            obtain ⟨hpackables, hrest⟩ := ih hnodes
            constructor
            · intro node hnode
              cases mem_cons.mp hnode with
              | inl hnode => rw [hnode]; exact hpackable
              | inr hnode => exact hpackables node hnode
            · -- the key is the bytes before what the rest of the loop reads
              have hpk : (bytesToVector cryptoPublicKeySize rest).toList = rest.take cryptoPublicKeySize :=
                toList_bytesToVector (by omega)
              rw [flatMap_cons, NodeFormat.wire, hpk, append_assoc, append_assoc, ← hrest, take_append_drop]
              exact hdata

/-! ## Reading the buffer -/

theorem readBytes_of_le {data : Bytes} {offset size : Nat} (h : offset + size ≤ data.length) :
    readBytes data offset size = some ((data.drop offset).take size) := if_pos h

theorem unpackPort_take (data : Bytes) : unpackPort (data.take 2) = unpackPort data := by
  match data with
  | [] => rfl
  | [_] => rfl
  | _ :: _ :: _ => rfl

theorem readAddress_eq {data bytes : Bytes} {offset : Nat} {family : UInt8} (hdata : data.drop offset = family :: bytes)
    (host : UInt8) (size : Nat) :
    readAddress data offset (bytes.length + 1) host size =
      some (if size + 2 > bytes.length then none
        else some ({ emptyIpPort with
              family := host
              ip := bytesToVector 16 (bytes.take size)
              port := unpackPort (bytes.drop size) }, 1 + size + 2)) := by
  have hlength : data.length = offset + (bytes.length + 1) := by
    have hdrop := congrArg List.length hdata
    rw [length_drop, length_cons] at hdrop
    omega
  have hbytes : data.drop (offset + 1) = bytes := by
    rw [← drop_drop, hdata]
    rfl
  by_cases hshort : size + 2 > bytes.length
  · rw [readAddress, if_pos (by omega), if_pos hshort]
  · have haddress : readBytes data (offset + 1) size = some (bytes.take size) := by
      rw [readBytes_of_le (by omega), hbytes]
    have hport : readBytes data (offset + 1 + size) 2 = some ((bytes.drop size).take 2) := by
      rw [readBytes_of_le (by omega), ← drop_drop, hbytes]
    rw [readAddress, if_neg (by omega), if_neg hshort, haddress, hport]
    dsimp only
    rw [unpackPort_take]

theorem map_branch (bytes : Bytes) (ipPort : IPPort) (size : Nat) :
    (if size + 2 > bytes.length then none else some (ipPort, 1 + size + 2)) =
      (if size + 2 > bytes.length then none else some (ipPort, bytes.drop (size + 2))).map
        (fun result => (result.1, bytes.length + 1 - result.2.length)) := by
  split
  · rfl
  · have hdrop : bytes.length + 1 - (bytes.drop (size + 2)).length = 1 + size + 2 := by
      rw [length_drop]
      omega
    rw [Option.map_some, hdrop]

theorem readIpPort_eq {data : Bytes} {offset length : Nat} (tcpEnabled : Bool) (hpos : 0 < length)
    (hlength : offset + length = data.length) :
    readIpPort data offset length tcpEnabled =
      some ((unpackIpPort (data.drop offset) tcpEnabled).map (fun result => (result.1, length - result.2.length))) := by
  have hoffset : offset < data.length := by omega
  obtain ⟨family, bytes, hdata⟩ : ∃ family bytes, data.drop offset = family :: bytes :=
    ⟨_, _, drop_eq_getElem_cons hoffset⟩
  have hfamily : data[offset]? = some family := by
    rw [← head?_drop, hdata]
    rfl
  obtain rfl : length = bytes.length + 1 := by
    have hdrop := congrArg List.length hdata
    rw [length_drop, length_cons] at hdrop
    omega
  rw [readIpPort, hfamily, hdata, unpackIpPort]
  simp only [readAddress_eq hdata, map_branch]
  -- both sides now decide by the same family
  by_cases hipv4 : family = toxAfInet
  · rw [if_pos hipv4, if_pos hipv4]
  · rw [if_neg hipv4, if_neg hipv4]
    by_cases htcp : family = toxTcpInet
    · rw [if_pos htcp, if_pos htcp]
      cases tcpEnabled with
      | false => rfl
      | true => rfl
    · rw [if_neg htcp, if_neg htcp]
      by_cases hipv6 : family = toxAfInet6
      · rw [if_pos hipv6, if_pos hipv6]
      · rw [if_neg hipv6, if_neg hipv6]
        by_cases htcp6 : family = toxTcpInet6
        · rw [if_pos htcp6, if_pos htcp6]
          cases tcpEnabled with
          | false => rfl
          | true => rfl
        · rw [if_neg htcp6, if_neg htcp6]
          rfl

theorem bytesToVector_take (n : Nat) (data : Bytes) : bytesToVector n (data.take n) = bytesToVector n data := by
  ext i hi
  simp [bytesToVector]

theorem readNodesLoop_eq {data : Bytes} (tcpEnabled : Bool) {maxNumNodes lenProcessed : Nat}
    (hprocessed : lenProcessed ≤ data.length) :
    readNodesLoop data data.length tcpEnabled maxNumNodes lenProcessed =
      some ((unpackNodesLoop tcpEnabled maxNumNodes (data.drop lenProcessed)).map
        (fun result => (result.1, data.length - result.2.length))) := by
  induction maxNumNodes generalizing lenProcessed with
  | zero =>
    have hprocessed' : data.length - (data.drop lenProcessed).length = lenProcessed := by
      rw [length_drop]
      omega
    rw [readNodesLoop, unpackNodesLoop, Option.map_some, hprocessed']
  | succ m ih =>
    have hdrop : (data.drop lenProcessed).length = data.length - lenProcessed := length_drop
    rw [readNodesLoop, unpackNodesLoop]
    by_cases hend : lenProcessed < data.length
    · rw [if_neg (not_not_intro hend), if_neg (by omega), readIpPort_eq tcpEnabled (by omega) (by omega)]
      cases hipPort : unpackIpPort (data.drop lenProcessed) tcpEnabled with
      | none => rfl
      | some result =>
        obtain ⟨ipPort, rest⟩ := result
        obtain ⟨-, hwire⟩ := eq_wire_of_unpackIpPort hipPort
        have hsum : data.length - lenProcessed = ipPort.wire.length + rest.length := by
          rw [← hdrop, hwire, length_append]
        have hsize : data.length - lenProcessed - rest.length = ipPort.wire.length := by omega
        have hrest : data.drop (lenProcessed + ipPort.wire.length) = rest := by
          rw [← drop_drop, hwire, drop_left]
        rw [Option.map_some]
        dsimp only
        rw [hsize]
        by_cases hkey : cryptoPublicKeySize > rest.length
        · rw [if_pos (by omega), if_pos hkey]
          rfl
        · have hread : readBytes data (lenProcessed + ipPort.wire.length) cryptoPublicKeySize =
              some (rest.take cryptoPublicKeySize) := by
            rw [readBytes_of_le (by omega), hrest]
          have hnext : data.drop (lenProcessed + ipPort.wire.length + cryptoPublicKeySize) =
              rest.drop cryptoPublicKeySize := by
            rw [← drop_drop, hrest]
          rw [if_neg (by omega), if_neg hkey, hread]
          dsimp only
          rw [ih (by omega), hnext, bytesToVector_take]
          cases unpackNodesLoop tcpEnabled m (rest.drop cryptoPublicKeySize) with
          | none => rfl
          | some result => rfl
    · have hzero : data.length - (data.drop lenProcessed).length = lenProcessed := by omega
      rw [if_pos hend, if_pos (by omega), Option.map_some, hzero]

theorem readNodes_eq {maxNumNodes length : UInt16} {data : Bytes} (tcpEnabled : Bool)
    (hlength : data.length = length.toNat) :
    readNodes maxNumNodes data length tcpEnabled = some (unpackNodes maxNumNodes data length tcpEnabled) := by
  have htake : data.take length.toNat = data := by rw [← hlength, take_length]
  rw [readNodes, unpackNodes, htake, ← hlength, readNodesLoop_eq tcpEnabled (Nat.zero_le _), drop_zero]
  cases hloop : unpackNodesLoop tcpEnabled maxNumNodes.toNat data with
  | none => rfl
  | some result =>
    obtain ⟨nodes, left⟩ := result
    obtain ⟨-, hdata⟩ := eq_wire_of_unpackNodesLoop hloop
    have hleft : left.length ≤ data.length := by
      rw [hdata, length_append]
      omega
    have hof : UInt16.ofNat (data.length - left.length) = length - UInt16.ofNat left.length := by
      apply UInt16.toNat_inj.mp
      rw [UInt16.toNat_sub]
      simp
      omega
    rw [Option.map_some]
    dsimp only
    rw [hof]

/-! ## The codec -/

theorem isLong_of_not_isShort {ipPort : IPPort} (h : ipPort.isPackable) (hshort : ¬ipPort.isShort) :
    (ipPort.isIpv6 || ipPort.isTcpIpv6) = true := by
  rw [IPPort.isShort, Bool.or_eq_true, not_or] at hshort
  rw [IPPort.isPackable, IPPort.isUdp, Bool.or_eq_true, Bool.or_eq_true, Bool.or_eq_true] at h
  rw [Bool.or_eq_true]
  cases h with
  | inl h =>
    cases h with
    | inl h => exact .inl (h.resolve_left hshort.1)
    | inr h => exact absurd h hshort.2
  | inr h => exact .inr h

theorem ipEqual_received {ipPort : IPPort} (h : ipPort.isPackable) : ipEqual ipPort ipPort.received = true := by
  have hip : ipPort.received.ip.toList.take ipPort.wireAddress.length = ipPort.wireAddress := by
    have hle : ipPort.wireAddress.length ≤ 16 := by
      rw [IPPort.length_wireAddress]
      split
      · decide
      · decide
    rw [IPPort.received, take_toList_bytesToVector hle le_rfl, take_length]
  have hfamily : ipPort.family = ipPort.received.family := rfl
  by_cases hshort : ipPort.isShort = true
  · have haddress : ipPort.wireAddress = ipPort.v4 := if_pos hshort
    rw [haddress, IPPort.length_v4] at hip
    have hv4 : ipPort.received.v4 = ipPort.v4 := hip
    rw [IPPort.isShort] at hshort
    rw [ipEqual, if_pos hfamily, if_pos hshort, hv4, beq_self_eq_true]
  · have haddress : ipPort.wireAddress = ipPort.v6 := if_neg hshort
    rw [haddress, IPPort.length_v6] at hip
    have hv6 : ipPort.received.v6 = ipPort.v6 := by
      rw [← hip, IPPort.v6]
      exact (take_of_length_le (Nat.le_of_eq Vector.length_toList)).symm
    have hlong : (ipPort.isIpv6 || ipPort.isTcpIpv6) = true := isLong_of_not_isShort h hshort
    rw [IPPort.isShort] at hshort
    rw [ipEqual, if_pos hfamily, if_neg hshort, if_pos hlong, hv6, beq_self_eq_true]

theorem unpackNodes_of_packNodes {length : UInt16} {nodes : List NodeFormat} {n : Nat} {bytes : Bytes}
    (hpackable : ∀ node ∈ nodes, node.ipPort.isPackable) (h : packNodes length nodes = (some n, bytes)) :
    ∃ taken rest, nodes = taken ++ rest ∧ bytes.length = n ∧ n ≤ length.toNat ∧
      (∀ node ∈ taken, ipEqual node.ipPort node.received.ipPort = true) ∧
      ∀ maxNumNodes : UInt16, taken.length ≤ maxNumNodes.toNat →
        unpackNodes maxNumNodes bytes (UInt16.ofNat n) true =
          some (taken.map NodeFormat.received, UInt16.ofNat n) := by
  obtain ⟨taken, rest, rfl, rfl, rfl, hle⟩ := packNodesLoop_prefix hpackable (Nat.zero_le _) h
  rw [nil_append] at hle ⊢
  have htaken : ∀ node ∈ taken, node.ipPort.isPackable := fun node hnode =>
    hpackable node (mem_append_left _ hnode)
  refine ⟨taken, rest, rfl, rfl, hle, fun node hnode => ipEqual_received (htaken node hnode), ?_⟩
  intro maxNumNodes hmax
  have hlt : length.toNat < 2 ^ 16 := length.toNat_lt
  have hlength : (UInt16.ofNat (taken.flatMap NodeFormat.wire).length).toNat =
      (taken.flatMap NodeFormat.wire).length := by
    rw [UInt16.toNat_ofNat']
    omega
  have hunpack : unpackNodesLoop true maxNumNodes.toNat (taken.flatMap NodeFormat.wire ++ []) =
      some (taken.map NodeFormat.received, []) :=
    unpackNodesLoop_wire htaken (fun _ _ => .inr rfl) hmax (.inr rfl)
  rw [append_nil] at hunpack
  rw [unpackNodes, hlength, take_length, hunpack]
  dsimp only
  congr 2
  exact UInt16.sub_zero _

theorem packNodes_of_unpackNodes {maxNumNodes length processed : UInt16} {data : Bytes} {tcpEnabled : Bool}
    {nodes : List NodeFormat} (hlength : length.toNat ≤ data.length)
    (h : unpackNodes maxNumNodes data length tcpEnabled = some (nodes, processed)) :
    processed ≤ length ∧ ∀ size : UInt16, processed ≤ size →
      packNodes size nodes = (some processed.toNat, data.take processed.toNat) := by
  rw [unpackNodes] at h
  split at h
  · cases h
  · rename_i nodes' left hloop
    obtain ⟨rfl, rfl⟩ := Prod.mk.inj (Option.some.inj h)
    obtain ⟨hpackable, hdata⟩ := eq_wire_of_unpackNodesLoop hloop
    have hlt : length.toNat < 2 ^ 16 := length.toNat_lt
    have hsum : length.toNat = (nodes'.flatMap NodeFormat.wire).length + left.length := by
      rw [← length_append, ← hdata, length_take]
      omega
    have hprocessed : (length - UInt16.ofNat left.length).toNat = (nodes'.flatMap NodeFormat.wire).length := by
      rw [UInt16.toNat_sub, UInt16.toNat_ofNat']
      omega
    have htake : data.take (nodes'.flatMap NodeFormat.wire).length = nodes'.flatMap NodeFormat.wire := by
      have htake := congrArg (List.take (nodes'.flatMap NodeFormat.wire).length) hdata
      rwa [take_take, Nat.min_eq_left (by omega), take_left] at htake
    constructor
    · rw [UInt16.le_iff_toNat_le, hprocessed]
      omega
    · intro size hsize
      rw [UInt16.le_iff_toNat_le, hprocessed] at hsize
      rw [hprocessed, htake]
      exact packNodesLoop_wire hpackable hsize

/-- Packing and unpacking of nodes undo each other; unpacking stays inside the given length, and without TCP it
    accepts UDP addresses only. -/
theorem nodeCodec :
    (∀ (length : UInt16) (nodes : List NodeFormat) (n : Nat) (bytes : Bytes),
      (∀ node ∈ nodes, node.ipPort.isPackable) → packNodes length nodes = (some n, bytes) →
      ∃ taken rest, nodes = taken ++ rest ∧ bytes.length = n ∧ n ≤ length.toNat ∧
        (∀ node ∈ taken, ipEqual node.ipPort node.received.ipPort = true) ∧
        ∀ maxNumNodes : UInt16, taken.length ≤ maxNumNodes.toNat →
          unpackNodes maxNumNodes bytes (UInt16.ofNat n) true =
            some (taken.map NodeFormat.received, UInt16.ofNat n)) ∧
    (∀ (maxNumNodes length processed : UInt16) (data : Bytes) (tcpEnabled : Bool) (nodes : List NodeFormat),
      length.toNat ≤ data.length → unpackNodes maxNumNodes data length tcpEnabled = some (nodes, processed) →
      processed ≤ length ∧ ∀ size : UInt16, processed ≤ size →
        packNodes size nodes = (some processed.toNat, data.take processed.toNat)) ∧
    (∀ (maxNumNodes length : UInt16) (data : Bytes) (tcpEnabled : Bool), data.length = length.toNat →
      readNodes maxNumNodes data length tcpEnabled = some (unpackNodes maxNumNodes data length tcpEnabled)) ∧
    (∀ (maxNumNodes length processed : UInt16) (data : Bytes) (nodes : List NodeFormat),
      unpackNodes maxNumNodes data length false = some (nodes, processed) → ∀ node ∈ nodes, node.ipPort.isUdp) := by
  refine ⟨?_, ?_, ?_, ?_⟩
  · intro length nodes n bytes hpackable h
    exact unpackNodes_of_packNodes hpackable h
  · intro maxNumNodes length processed data tcpEnabled nodes hlength h
    exact packNodes_of_unpackNodes hlength h
  · intro maxNumNodes length data tcpEnabled hlength
    exact readNodes_eq tcpEnabled hlength
  · intro maxNumNodes length processed data nodes h
    rw [unpackNodes] at h
    split at h
    · cases h
    · rename_i hloop
      cases h
      exact isUdp_of_unpackNodesLoop hloop

end Toxcore
