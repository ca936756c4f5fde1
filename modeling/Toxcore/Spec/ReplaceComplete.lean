import Toxcore.Spec.AddtoListsCount
import Toxcore.Spec.CloseListAlive
import Toxcore.Spec.ReplaceSound

/-!
# When `replace_all` refuses a node

`replace_all` looks only at the first two entries of a friend's list. That is enough as long as one of them is
the worst one. Sorting puts it first and storing a node puts another one before it, but entries time out, are
heard from again and are taken over where they stand.
-/

namespace Toxcore

open List

/-- For each entry, one of the first two comes before it in the order of `sort_client_list`. -/
def WorstFirst (curTime : UInt64) (compPublicKey : PublicKey) (list : List ClientData) : Prop :=
  ∀ client ∈ list, ∃ first ∈ list.take 2, dhtCmpEntryLe curTime compPublicKey first client = true

instance (curTime : UInt64) (compPublicKey : PublicKey) (list : List ClientData) :
    Decidable (WorstFirst curTime compPublicKey list) :=
  inferInstanceAs (Decidable (∀ client ∈ list, ∃ first ∈ list.take 2, _))

def HasNode (now : UInt64) (publicKey : PublicKey) (ipPort : IPPort) (client : ClientData) : Prop :=
  client.publicKey = publicKey ∧
    (if ipPort.isIpv4 then client.assoc4 else client.assoc6).ipPort = ipPort ∧
    (if ipPort.isIpv4 then client.assoc4 else client.assoc6).timestamp = now

/-- Every node with an IPv4 or IPv6 address is stored if some entry is timed out or farther than it. -/
def ReplacesCompletely (now curTime : UInt64) (calloc : Bool) (compPublicKey : PublicKey)
    (list : List ClientData) : Prop :=
  ∀ (publicKey : PublicKey) (ipPort : IPPort), (ipPort.isIpv4 ∨ ipPort.isIpv6) →
    (∃ client ∈ list, client.timedOut curTime = true ∨
      keyDistance compPublicKey publicKey < keyDistance compPublicKey client.publicKey) →
    (replaceAll now curTime calloc list publicKey ipPort compPublicKey).1 = true ∧
      ∃ client ∈ (replaceAll now curTime calloc list publicKey ipPort compPublicKey).2,
        HasNode now publicKey ipPort client

section

variable {now curTime : UInt64} {calloc : Bool} {list : List ClientData}
  {publicKey compPublicKey : PublicKey} {ipPort : IPPort}

theorem hasNode_updateClientWithReset (client : ClientData) :
    HasNode now publicKey ipPort (updateClientWithReset now ipPort { client with publicKey }) := by
  unfold updateClientWithReset HasNode
  split
  · exact ⟨rfl, rfl, rfl⟩
  · exact ⟨rfl, rfl, rfl⟩

theorem admits_iff (hfamily : ipPort.isIpv4 ∨ ipPort.isIpv6) :
    Admits curTime list publicKey ipPort compPublicKey ↔
      ∃ first ∈ list.take 2, first.timedOut curTime = true ∨
        keyDistance compPublicKey publicKey < keyDistance compPublicKey first.publicKey := by
  constructor
  · rintro ⟨-, i, first, hi, hget, hok⟩
    obtain ⟨hlt, rfl⟩ := List.getElem?_eq_some_iff.mp hget
    exact ⟨_, mem_take_iff_getElem.mpr ⟨i, by omega, rfl⟩, storeNodeOk_iff.mp hok⟩
  · rintro ⟨first, hfirst, hok⟩
    obtain ⟨i, hi, rfl⟩ := mem_take_iff_getElem.mp hfirst
    have hlt : i < list.length := by omega
    exact ⟨hfamily, i, _, by omega, getElem?_eq_getElem hlt, storeNodeOk_iff.mpr hok⟩

theorem stored_of_admits (h : Admits curTime list publicKey ipPort compPublicKey) :
    (replaceAll now curTime calloc list publicKey ipPort compPublicKey).1 = true ∧
      ∃ client ∈ (replaceAll now curTime calloc list publicKey ipPort compPublicKey).2,
        HasNode now publicKey ipPort client := by
  rw [replaceAll_eq, replaceAllBy_of_admits h]
  refine ⟨rfl, ?_⟩
  have hperm := perm_sortClientListBy isQsort_stableQsort list curTime compPublicKey calloc
  cases hlist : sortClientListBy stableQsort list curTime compPublicKey calloc with
  | nil =>
    rw [hlist] at hperm
    obtain ⟨-, i, client, -, hget, -⟩ := h
    rw [hperm.nil_eq.symm] at hget
    exact nomatch hget
  | cons first rest =>
    exact ⟨_, mem_cons_self, hasNode_updateClientWithReset first⟩

theorem exists_farthest (hne : list ≠ []) (compPublicKey : PublicKey) :
    ∃ first ∈ list.take 2, ∀ other ∈ list.take 2,
      keyDistance compPublicKey other.publicKey ≤ keyDistance compPublicKey first.publicKey := by
  match list with
  | [] => exact absurd rfl hne
  | [a] =>
    refine ⟨a, mem_cons_self, fun other hother => ?_⟩
    rw [mem_singleton.mp hother]
  | a :: b :: rest =>
    obtain hle | hle := Nat.le_total (keyDistance compPublicKey a.publicKey)
      (keyDistance compPublicKey b.publicKey)
    · refine ⟨b, mem_cons_of_mem a mem_cons_self, fun other hother => ?_⟩
      obtain rfl | hother := mem_cons.mp hother
      · exact hle
      · rw [mem_singleton.mp hother]
    · refine ⟨a, mem_cons_self, fun other hother => ?_⟩
      obtain rfl | hother := mem_cons.mp hother
      · exact le_rfl
      · rw [mem_singleton.mp hother]
        exact hle

theorem complete_iff (now curTime : UInt64) (calloc : Bool) (compPublicKey : PublicKey)
    (list : List ClientData) :
    ReplacesCompletely now curTime calloc compPublicKey list ↔
      WorstFirst curTime compPublicKey list := by
  constructor
  · intro h client hclient
    by_contra hnone
    obtain ⟨first, hfirst, hfar⟩ := exists_farthest (ne_nil_of_mem hclient) compPublicKey
    -- the key of the farther of the two is useful, because of the entry that is worse
    have hworse : client.timedOut curTime = true ∨
        keyDistance compPublicKey first.publicKey < keyDistance compPublicKey client.publicKey := by
      by_contra hnot
      rw [not_or, Nat.not_lt] at hnot
      exact hnone ⟨first, hfirst, dhtCmpEntryLe_iff.mpr (.inr ⟨Bool.eq_false_of_not_eq_true hnot.1, hnot.2⟩)⟩
    have hfamily : address4.isIpv4 = true ∨ address4.isIpv6 = true := .inl (by decide)
    have hstored := (h first.publicKey address4 hfamily ⟨client, hclient, hworse⟩).1
    by_cases hadmits : Admits curTime list first.publicKey address4 compPublicKey
    · obtain ⟨other, hother, hout | hdist⟩ := (admits_iff hfamily).mp hadmits
      · exact hnone ⟨other, hother, dhtCmpEntryLe_iff.mpr (.inl hout)⟩
      · exact absurd hdist (Nat.not_lt.mpr (hfar other hother))
    · rw [replaceAll_eq, replaceAllBy_of_not_admits hadmits] at hstored
      exact nomatch hstored
  · rintro h publicKey ipPort hfamily ⟨client, hclient, huseful⟩
    refine stored_of_admits ((admits_iff hfamily).mpr ?_)
    obtain ⟨first, hfirst, hle⟩ := h client hclient
    refine ⟨first, hfirst, ?_⟩
    obtain hout | ⟨hgood, hdist⟩ := dhtCmpEntryLe_iff.mp hle
    · exact .inl hout
    · obtain hout | hlt := huseful
      · rw [hgood] at hout
        exact nomatch hout
      · exact .inr (Nat.lt_of_lt_of_le hlt hdist)

/-! ## Keeping the worst entry first -/

theorem worstFirst_core :
    WorstFirst curTime compPublicKey (list.map (·.core)) ↔ WorstFirst curTime compPublicKey list := by
  unfold WorstFirst
  rw [forall_mem_map]
  refine forall₂_congr fun client _ => ?_
  rw [← map_take]
  constructor
  · rintro ⟨_, hmem, hle⟩
    obtain ⟨first, hfirst, rfl⟩ := mem_map.mp hmem
    exact ⟨first, hfirst, hle⟩
  · rintro ⟨first, hfirst, hle⟩
    exact ⟨first.core, mem_map_of_mem hfirst, hle⟩

theorem WorstFirst.of_core {list' : List ClientData} (h : WorstFirst curTime compPublicKey list)
    (hcore : list'.map (·.core) = list.map (·.core)) : WorstFirst curTime compPublicKey list' := by
  rw [← worstFirst_core, hcore, worstFirst_core]
  exact h

section

variable (h : list.Pairwise fun a b => dhtCmpEntryLe curTime compPublicKey a b = true)
include h

theorem worstFirst_of_sorted :
    WorstFirst curTime compPublicKey list := by
  intro client hclient
  cases list with
  | nil => exact nomatch hclient
  | cons first rest =>
    refine ⟨first, mem_cons_self, ?_⟩
    obtain rfl | hrest := mem_cons.mp hclient
    · exact (dhtCmpEntryLe_total client client).elim id id
    · exact (pairwise_cons.mp h).1 client hrest

theorem worstFirst_cons {first : ClientData} :
    WorstFirst curTime compPublicKey (first :: list) := by
  intro client hclient
  obtain rfl | hlist := mem_cons.mp hclient
  · exact ⟨client, mem_cons_self, (dhtCmpEntryLe_total client client).elim id id⟩
  · cases list with
    | nil => exact nomatch hlist
    | cons second' rest =>
      refine ⟨second', mem_cons_of_mem first mem_cons_self, ?_⟩
      obtain rfl | hrest := mem_cons.mp hlist
      · exact (dhtCmpEntryLe_total client client).elim id id
      · exact (pairwise_cons.mp h).1 client hrest

end

theorem worstFirst_replicate (n : Nat) (client : ClientData) :
    WorstFirst curTime compPublicKey (List.replicate n client) := by
  refine worstFirst_of_sorted (pairwise_replicate.mpr (.inr ?_))
  exact (dhtCmpEntryLe_total client client).elim id id

theorem sorted_sortClientList (list : List ClientData) (curTime : UInt64) (compPublicKey : PublicKey) :
    (sortClientList list curTime compPublicKey true).Pairwise fun a b =>
      dhtCmpEntryLe curTime compPublicKey a b = true :=
  sorted_sortClientListBy isQsort_stableQsort list curTime compPublicKey

theorem WorstFirst.sortClientList (h : WorstFirst curTime compPublicKey list) (calloc : Bool) :
    WorstFirst curTime compPublicKey (sortClientList list curTime compPublicKey calloc) := by
  cases calloc with
  | false => exact h
  | true => exact worstFirst_of_sorted (sorted_sortClientList list curTime compPublicKey)

theorem WorstFirst.replaceAll (h : WorstFirst curTime compPublicKey list) (now : UInt64)
    (publicKey : PublicKey) (ipPort : IPPort) :
    WorstFirst curTime compPublicKey (replaceAll now curTime true list publicKey ipPort compPublicKey).2 := by
  rw [replaceAll_eq]
  by_cases hadmits : Admits curTime list publicKey ipPort compPublicKey
  · rw [replaceAllBy_of_admits hadmits]
    have hsorted := sorted_sortClientListBy isQsort_stableQsort list curTime compPublicKey
    cases hlist : sortClientListBy stableQsort list curTime compPublicKey true with
    | nil => exact worstFirst_replicate 0 emptyClientData
    | cons first rest =>
      rw [hlist] at hsorted
      exact worstFirst_cons (pairwise_cons.mp hsorted).2
  · rw [replaceAllBy_of_not_admits hadmits]
    exact h

theorem core_updateClientData (now : UInt64) (list : List ClientData) (ipPort : IPPort)
    (pk : PublicKey) (nodeIsSelf : Bool) :
    (updateClientData now list ipPort pk nodeIsSelf).2.map (·.core) = list.map (·.core) := by
  unfold updateClientData
  split
  · rfl
  · rw [updateAt, List.map_modify_of_eq]
    intro client
    split_ifs <;> rfl

theorem core_setAnnounceNodeInList (list : List ClientData) (publicKey : PublicKey) :
    (setAnnounceNodeInList list publicKey).map (·.core) = list.map (·.core) := by
  unfold setAnnounceNodeInList
  split
  · rfl
  · rw [updateAt, List.map_modify_of_eq]
    exact fun _ => rfl

end

end Toxcore
