import Toxcore.Spec.CloseNodes

/-!
# What `replace_all` evicts

`replace_all` looks at the first two entries of a friend's list, sorts the list and overwrites the first
entry.  The C library may put entries that compare as equal in any order.
-/

namespace Toxcore

open List

def ClientData.timedOut (curTime : UInt64) (client : ClientData) : Bool :=
  assocTimeout curTime client.assoc4 && assocTimeout curTime client.assoc6

section

variable {curTime : UInt64} {compPublicKey publicKey : PublicKey} {a b c client : ClientData}

theorem storeNodeOk_iff :
    storeNodeOk client curTime publicKey compPublicKey = true ↔
      client.timedOut curTime = true ∨
        keyDistance compPublicKey publicKey < keyDistance compPublicKey client.publicKey := by
  rw [storeNodeOk, Bool.or_eq_true, beq_iff_eq, idClosest_eq_second_iff]
  rfl

theorem dhtCmpEntryLe_iff :
    dhtCmpEntryLe curTime compPublicKey a b = true ↔
      a.timedOut curTime = true ∨ b.timedOut curTime = false ∧
        keyDistance compPublicKey b.publicKey ≤ keyDistance compPublicKey a.publicKey := by
  unfold dhtCmpEntryLe
  change (if a.timedOut curTime = true then _ else if b.timedOut curTime = true then _ else _) = true ↔ _
  cases ha : a.timedOut curTime with
  | true => exact ⟨fun _ => .inl rfl, fun _ => rfl⟩
  | false =>
    rw [if_neg Bool.false_ne_true]
    cases hb : b.timedOut curTime with
    | true => exact ⟨nofun, fun h => h.elim nofun fun hb => nomatch hb.1⟩
    | false =>
      rw [if_neg Bool.false_ne_true, bne_iff_ne, ne_eq, idClosest_eq_first_iff, Nat.not_lt]
      exact ⟨fun h => .inr ⟨rfl, h⟩, fun h => h.elim nofun And.right⟩

theorem dhtCmpEntryLe_total (a b : ClientData) :
    dhtCmpEntryLe curTime compPublicKey a b = true ∨
      dhtCmpEntryLe curTime compPublicKey b a = true := by
  rw [dhtCmpEntryLe_iff, dhtCmpEntryLe_iff]
  cases ha : a.timedOut curTime with
  | true => exact .inl (.inl rfl)
  | false =>
    cases hb : b.timedOut curTime with
    | true => exact .inr (.inl rfl)
    | false =>
      exact (Nat.le_total (keyDistance compPublicKey b.publicKey)
        (keyDistance compPublicKey a.publicKey)).imp (fun h => .inr ⟨rfl, h⟩) fun h => .inr ⟨rfl, h⟩

theorem dhtCmpEntryLe_trans (hab : dhtCmpEntryLe curTime compPublicKey a b = true)
    (hbc : dhtCmpEntryLe curTime compPublicKey b c = true) :
    dhtCmpEntryLe curTime compPublicKey a c = true := by
  rw [dhtCmpEntryLe_iff] at hab hbc ⊢
  obtain ha | ⟨hb, hdist⟩ := hab
  · exact .inl ha
  · obtain hb' | ⟨hc, hdist'⟩ := hbc
    · rw [hb] at hb'
      exact nomatch hb'
    · exact .inr ⟨hc, Nat.le_trans hdist' hdist⟩

end

/-- What the C library promises about `qsort`: the entries are put in the order of the comparison. -/
structure IsQsort (qsort : (ClientData → ClientData → Bool) → List ClientData → List ClientData) :
    Prop where
  perm : ∀ le list, (qsort le list).Perm list
  ordered : ∀ (le : ClientData → ClientData → Bool) (list : List ClientData),
    (∀ a b, le a b = true ∨ le b a = true) →
    (∀ a b c, le a b = true → le b c = true → le a c = true) →
    (qsort le list).Pairwise fun a b => le a b = true

def sortClientListBy (qsort : (ClientData → ClientData → Bool) → List ClientData → List ClientData)
    (list : List ClientData) (curTime : UInt64) (compPublicKey : PublicKey) (calloc : Bool) :
    List ClientData :=
  if !calloc then list else qsort (dhtCmpEntryLe curTime compPublicKey) list

def replaceAllBy (qsort : (ClientData → ClientData → Bool) → List ClientData → List ClientData)
    (now curTime : UInt64) (calloc : Bool) (list : List ClientData) (publicKey : PublicKey)
    (ipPort : IPPort) (compPublicKey : PublicKey) : Bool × List ClientData :=
  if !ipPort.isIpv4 && !ipPort.isIpv6 then (false, list)
  else if !(list[1]?.any (storeNodeOk · curTime publicKey compPublicKey)) &&
      !(list[0]?.any (storeNodeOk · curTime publicKey compPublicKey)) then (false, list)
  else
    let list := sortClientListBy qsort list curTime compPublicKey calloc
    (true, updateAt list 0 fun client =>
      updateClientWithReset now ipPort { client with publicKey })

def stableQsort (le : ClientData → ClientData → Bool) (list : List ClientData) : List ClientData :=
  list.insertionSort fun a b => le a b

theorem isQsort_stableQsort : IsQsort stableQsort where
  perm le list := perm_insertionSort _ list
  ordered le list htotal htrans := by
    have : Std.Total fun a b => le a b = true := ⟨htotal⟩
    have : IsTrans ClientData fun a b => le a b = true := ⟨htrans⟩
    exact pairwise_insertionSort _ list

theorem replaceAll_eq (now curTime : UInt64) (calloc : Bool) (list : List ClientData)
    (publicKey : PublicKey) (ipPort : IPPort) (compPublicKey : PublicKey) :
    replaceAll now curTime calloc list publicKey ipPort compPublicKey =
      replaceAllBy stableQsort now curTime calloc list publicKey ipPort compPublicKey := rfl

/-! ## The evicted entry -/

/-- A timed out entry, else the farthest, which has to be farther than the new key. -/
structure RightVictim (curTime : UInt64) (publicKey compPublicKey : PublicKey)
    (list : List ClientData) (old : ClientData) : Prop where
  timedOut : (∃ client ∈ list, client.timedOut curTime = true) → old.timedOut curTime = true
  farthest : (∀ client ∈ list, client.timedOut curTime = false) →
    (∀ client ∈ list, keyDistance compPublicKey client.publicKey ≤ keyDistance compPublicKey old.publicKey) ∧
    keyDistance compPublicKey publicKey < keyDistance compPublicKey old.publicKey

/-- One of the first two entries gives way, and the address is an IPv4 or IPv6 address. -/
def Admits (curTime : UInt64) (list : List ClientData) (publicKey : PublicKey) (ipPort : IPPort)
    (compPublicKey : PublicKey) : Prop :=
  (ipPort.isIpv4 ∨ ipPort.isIpv6) ∧ ∃ (i : Nat) (client : ClientData), i < 2 ∧
    list[i]? = some client ∧ storeNodeOk client curTime publicKey compPublicKey = true

/-- If the node is stored, one entry is replaced by it, the right one, and all others stay. -/
def ReplacesSoundly (now curTime : UInt64) (list : List ClientData) (publicKey : PublicKey)
    (ipPort : IPPort) (compPublicKey : PublicKey) (result : Bool × List ClientData) : Prop :=
  result.1 = true → ∃ old rest, list.Perm (old :: rest) ∧
    result.2 = updateClientWithReset now ipPort { old with publicKey } :: rest ∧
    RightVictim curTime publicKey compPublicKey list old

section

variable {qsort : (ClientData → ClientData → Bool) → List ClientData → List ClientData}
  {now curTime : UInt64} {calloc : Bool} {list : List ClientData} {publicKey compPublicKey : PublicKey}
  {ipPort : IPPort} {old : ClientData} {rest : List ClientData}

theorem RightVictim.timedOut_or_farther (h : RightVictim curTime publicKey compPublicKey list old) :
    old.timedOut curTime = true ∨
      keyDistance compPublicKey publicKey < keyDistance compPublicKey old.publicKey := by
  by_cases hany : ∃ client ∈ list, client.timedOut curTime = true
  · exact .inl (h.timedOut hany)
  · refine .inr (h.farthest fun client hclient => ?_).2
    exact Bool.eq_false_of_not_eq_true fun hout => hany ⟨client, hclient, hout⟩

/-- The first entry of a sorted list is the right one to evict, if some entry may be. -/
theorem rightVictim_of_sorted (hperm : (old :: rest).Perm list)
    (hsorted : (old :: rest).Pairwise fun a b => dhtCmpEntryLe curTime compPublicKey a b = true)
    (hadmits : Admits curTime list publicKey ipPort compPublicKey) :
    RightVictim curTime publicKey compPublicKey list old := by
  have hfirst : ∀ client ∈ list, client = old ∨
      dhtCmpEntryLe curTime compPublicKey old client = true := by
    intro client hclient
    obtain rfl | hrest := mem_cons.mp (hperm.mem_iff.mpr hclient)
    · exact .inl rfl
    · exact .inr ((pairwise_cons.mp hsorted).1 client hrest)
  constructor
  · rintro ⟨client, hclient, hout⟩
    obtain rfl | hle := hfirst client hclient
    · exact hout
    · obtain hold | ⟨hgood, -⟩ := dhtCmpEntryLe_iff.mp hle
      · exact hold
      · rw [hgood] at hout
        exact nomatch hout
  · intro hgood
    have hold : old.timedOut curTime = false := hgood old (hperm.mem_iff.mp mem_cons_self)
    have hfar : ∀ client ∈ list, keyDistance compPublicKey client.publicKey ≤
        keyDistance compPublicKey old.publicKey := by
      intro client hclient
      obtain rfl | hle := hfirst client hclient
      · exact le_rfl
      · obtain hout | ⟨-, hdist⟩ := dhtCmpEntryLe_iff.mp hle
        · rw [hold] at hout
          exact nomatch hout
        · exact hdist
    refine ⟨hfar, ?_⟩
    obtain ⟨-, i, client, -, hget, hok⟩ := hadmits
    have hclient := mem_of_getElem? hget
    obtain hout | hdist := storeNodeOk_iff.mp hok
    · rw [hgood client hclient] at hout
      exact nomatch hout
    · exact Nat.lt_of_lt_of_le hdist (hfar client hclient)

theorem firstTwo_any (list : List ClientData) (ok : ClientData → Bool) :
    (!(list[1]?.any ok) && !(list[0]?.any ok)) = true ↔
      ¬∃ (i : Nat) (client : ClientData), i < 2 ∧ list[i]? = some client ∧ ok client = true := by
  rw [Bool.and_eq_true, Bool.not_eq_true', Bool.not_eq_true', ← Bool.not_eq_true, ← Bool.not_eq_true,
    Option.any_eq_true, Option.any_eq_true]
  constructor
  · rintro ⟨hone, hzero⟩ ⟨i, client, hi, hget, hok⟩
    match i with
    | 0 => exact hzero ⟨client, hget, hok⟩
    | 1 => exact hone ⟨client, hget, hok⟩
  · intro h
    exact ⟨fun ⟨client, hget, hok⟩ => h ⟨1, client, Nat.lt_succ_self 1, hget, hok⟩,
      fun ⟨client, hget, hok⟩ => h ⟨0, client, Nat.zero_lt_succ 1, hget, hok⟩⟩

theorem replaceAllBy_of_not_admits (h : ¬Admits curTime list publicKey ipPort compPublicKey) :
    replaceAllBy qsort now curTime calloc list publicKey ipPort compPublicKey = (false, list) := by
  unfold replaceAllBy
  by_cases hfamily : (!ipPort.isIpv4 && !ipPort.isIpv6) = true
  · rw [if_pos hfamily]
  · rw [if_neg hfamily, if_pos]
    rw [firstTwo_any]
    intro hok
    refine h ⟨?_, hok⟩
    rw [Bool.and_eq_true, not_and_or, Bool.not_eq_true', Bool.not_eq_false, Bool.not_eq_true',
      Bool.not_eq_false] at hfamily
    exact hfamily

theorem replaceAllBy_of_admits (h : Admits curTime list publicKey ipPort compPublicKey) :
    replaceAllBy qsort now curTime calloc list publicKey ipPort compPublicKey =
      (true, updateAt (sortClientListBy qsort list curTime compPublicKey calloc) 0 fun client =>
        updateClientWithReset now ipPort { client with publicKey }) := by
  unfold replaceAllBy
  have hfamily : ¬(!ipPort.isIpv4 && !ipPort.isIpv6) = true := by
    rw [Bool.and_eq_true, not_and_or, Bool.not_eq_true', Bool.not_eq_false, Bool.not_eq_true',
      Bool.not_eq_false]
    exact h.1
  rw [if_neg hfamily, if_neg]
  rw [firstTwo_any]
  exact not_not_intro h.2

theorem perm_sortClientListBy (hq : IsQsort qsort) (list : List ClientData) (curTime : UInt64)
    (compPublicKey : PublicKey) (calloc : Bool) :
    (sortClientListBy qsort list curTime compPublicKey calloc).Perm list := by
  unfold sortClientListBy
  split
  · exact List.Perm.refl list
  · exact hq.perm _ list

theorem sorted_sortClientListBy (hq : IsQsort qsort) (list : List ClientData) (curTime : UInt64)
    (compPublicKey : PublicKey) :
    (sortClientListBy qsort list curTime compPublicKey true).Pairwise fun a b =>
      dhtCmpEntryLe curTime compPublicKey a b = true :=
  hq.ordered _ list dhtCmpEntryLe_total fun _ _ _ => dhtCmpEntryLe_trans

theorem ReplacesSoundly.first {first : ClientData}
    (hadmits : Admits curTime (first :: rest) publicKey ipPort compPublicKey)
    (h : ReplacesSoundly now curTime (first :: rest) publicKey ipPort compPublicKey
      (replaceAllBy qsort now curTime false (first :: rest) publicKey ipPort compPublicKey)) :
    RightVictim curTime publicKey compPublicKey (first :: rest) first := by
  rw [replaceAllBy_of_admits hadmits] at h
  obtain ⟨old, rest', hperm, heq, hvictim⟩ := h rfl
  have hrest : rest = rest' := (List.cons.inj heq).2
  rw [← hrest] at hperm
  have hold : first = old :=
    (Multiset.cons_inj_left (rest : Multiset ClientData)).mp (Multiset.coe_eq_coe.mpr hperm)
  rw [hold] at hvictim ⊢
  exact hvictim

end

/-- `replace_all` evicts the right entry, if and only if it stores nothing, sorts, or has it in front. -/
theorem replaceSound_iff {qsort : (ClientData → ClientData → Bool) → List ClientData → List ClientData}
    (hq : IsQsort qsort) (now curTime : UInt64) (calloc : Bool) (list : List ClientData)
    (publicKey : PublicKey) (ipPort : IPPort) (compPublicKey : PublicKey) :
    ReplacesSoundly now curTime list publicKey ipPort compPublicKey
        (replaceAllBy qsort now curTime calloc list publicKey ipPort compPublicKey) ↔
      (Admits curTime list publicKey ipPort compPublicKey → calloc = true ∨
        ∃ first ∈ list[0]?, RightVictim curTime publicKey compPublicKey list first) := by
  by_cases hadmits : Admits curTime list publicKey ipPort compPublicKey
  · cases calloc with
    | true =>
      -- the list is sorted
      have hperm := perm_sortClientListBy hq list curTime compPublicKey true
      have hsorted := sorted_sortClientListBy hq list curTime compPublicKey
      rw [replaceAllBy_of_admits hadmits]
      refine ⟨fun _ _ => .inl rfl, fun _ _ => ?_⟩
      cases hlist : sortClientListBy qsort list curTime compPublicKey true with
      | nil =>
        rw [hlist] at hperm
        obtain ⟨-, i, client, -, hget, -⟩ := hadmits
        rw [hperm.nil_eq.symm] at hget
        exact nomatch hget
      | cons old rest =>
        rw [hlist] at hperm hsorted
        exact ⟨old, rest, hperm.symm, rfl, rightVictim_of_sorted hperm hsorted hadmits⟩
    | false =>
      cases list with
      | nil =>
        obtain ⟨-, i, client, -, hget, -⟩ := hadmits
        exact nomatch hget
      | cons first rest =>
        constructor
        · exact fun h _ => .inr ⟨first, rfl, h.first hadmits⟩
        · intro h _
          rw [replaceAllBy_of_admits hadmits]
          obtain hcalloc | ⟨first', hget, hvictim⟩ := h hadmits
          · cases hcalloc
          · cases hget
            exact ⟨first, rest, List.Perm.refl _, rfl, hvictim⟩
  · rw [replaceAllBy_of_not_admits hadmits]
    exact ⟨fun _ h => absurd h hadmits, fun _ h => nomatch h⟩

def goodClients : List ClientData := [1, 8, 7, 6, 5, 4, 3, 2].map (clientSeen · 1000)

theorem replaceSound_iff_goodClients :
    IsQsort stableQsort ∧
      (ReplacesSoundly 1000 1000 goodClients (key 0) (clientSeen 9 0).assoc4.ipPort (key 0)
          (replaceAllBy stableQsort 1000 1000 true goodClients (key 0) (clientSeen 9 0).assoc4.ipPort (key 0)) ↔
        (Admits 1000 goodClients (key 0) (clientSeen 9 0).assoc4.ipPort (key 0) → true = true ∨
          ∃ first ∈ goodClients[0]?, RightVictim 1000 (key 0) (key 0) goodClients first)) :=
  ⟨isQsort_stableQsort, replaceSound_iff isQsort_stableQsort 1000 1000 true goodClients (key 0)
    (clientSeen 9 0).assoc4.ipPort (key 0)⟩

/-- When there is no memory for sorting, a good node is evicted that is closer than the new one. -/
theorem not_replaceSound_calloc :
    ¬ReplacesSoundly 1000 1000 goodClients (key 2) (clientSeen 9 0).assoc4.ipPort (key 0)
      (replaceAll 1000 1000 false goodClients (key 2) (clientSeen 9 0).assoc4.ipPort (key 0)) := by
  intro h
  have hadmits : Admits 1000 goodClients (key 2) (clientSeen 9 0).assoc4.ipPort (key 0) :=
    ⟨.inl (by decide), 1, clientSeen 8 1000, Nat.lt_succ_self 1, rfl, by decide⟩
  rw [replaceAll_eq] at h
  obtain hout | hdist := (h.first hadmits).timedOut_or_farther
  · exact absurd hout (by decide)
  · exact absurd hdist (by decide)

end Toxcore
