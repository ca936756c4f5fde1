import Toxcore.Spec.FriendconRefs
import Toxcore.Spec.GroupSystem

/-!
# The connections of a conference

The slots in use are considered up to their order: a function adds a slot, removes one or changes one. At most
`DESIRED_CLOSEST` connections are to closest peers, because `connect_to_closest` leaves only such connections,
and different connections have different peers. This needs that a connection in use exists among the friend
connections, which all conferences and the friends share.
-/

namespace Toxcore

open List hiding Vector

namespace GroupchatConnection

theorem flag_and_flag {reason reason' : Reason} (h : reason ≠ reason') :
    reason.flag &&& reason'.flag = 0 ∧ ~~~reason.flag &&& reason'.flag = reason'.flag := by
  cases reason <;> cases reason' <;> first | exact absurd rfl h | exact ⟨rfl, rfl⟩

theorem and_flag_or_flag (reasons : UInt8) (reason : Reason) :
    (reasons &&& reason.flag ||| reason.flag) ≠ 0 := by
  have hself : reasons &&& reason.flag ||| reason.flag = reason.flag := by
    apply UInt8.toBitVec_inj.1
    ext i hi
    simp
  rw [hself]
  cases reason <;> decide

theorem has_or (connection : GroupchatConnection) (reason reason' : Reason) :
    { connection with reasons := connection.reasons ||| reason.flag }.has reason' =
      (connection.has reason' || reason == reason') := by
  have hdistrib (a b c : UInt8) : (a ||| b) &&& c = a &&& c ||| b &&& c :=
    UInt8.toBitVec_inj.1 BitVec.and_or_distrib_right
  unfold has
  rw [hdistrib]
  by_cases h : reason = reason'
  · subst h
    simpa using and_flag_or_flag connection.reasons reason
  · rw [(flag_and_flag h).1, UInt8.or_zero, beq_false_of_ne h, Bool.or_false]

theorem has_andNot (connection : GroupchatConnection) (reason reason' : Reason) :
    { connection with reasons := connection.reasons &&& ~~~reason.flag }.has reason' =
      (connection.has reason' && reason != reason') := by
  unfold has
  rw [UInt8.and_assoc]
  by_cases h : reason = reason'
  · subst h
    simp
  · rw [(flag_and_flag h).2, bne_iff_ne.mpr h, Bool.and_true]

theorem has_of_reasons_eq_zero {connection : GroupchatConnection} (h : connection.reasons = 0)
    (reason : Reason) : connection.has reason = false := by
  unfold has
  simp [h]

end GroupchatConnection

namespace GroupC

variable {g g' : GroupC}

/-- The status of a conference and our own key in it, which its functions do not change. -/
abbrev own (g : GroupC) : GroupchatStatus × PublicKey := (g.status, g.realPk)

def slots (g : GroupC) : List GroupchatConnection := g.connections.toList.filter (·.used)

/-- At most `bound` connections to closest peers; the others are counted right and distinct. -/
structure SlotsOk (bound : Nat) (g : GroupC) : Prop where
  introducers : g.numIntroducerConnections = UInt32.ofNat (g.slots.countP (·.has .introducer))
  numbers : (g.slots.map (·.number)).Nodup
  closest : g.slots.countP (·.has .closest) ≤ bound

theorem length_slots_le (g : GroupC) : g.slots.length ≤ maxGroupConnections := by
  have h := length_filter_le (·.used) g.connections.toList
  rwa [Vector.length_toList] at h

theorem countP_slots_le (g : GroupC) (p : GroupchatConnection → Bool) :
    g.slots.countP p ≤ maxGroupConnections :=
  countP_le_length.trans g.length_slots_le

variable {c : GroupchatConnection}

theorem mem_slots_iff :
    c ∈ g.slots ↔ ∃ i : Nat, g.connections[i]? = some c ∧ c.used := by
  unfold slots
  rw [mem_filter, mem_iff_getElem?]
  simp only [Vector.getElem?_toList]
  exact ⟨fun ⟨⟨i, hi⟩, hused⟩ => ⟨i, hi, hused⟩, fun ⟨i, hi, hused⟩ => ⟨⟨i, hi⟩, hused⟩⟩

variable {i : Nat}

theorem slots_modifyConnection (h : g.connections[i]? = some c) (f : GroupchatConnection → GroupchatConnection) :
    ∃ rest, g.slots.Perm ((if c.used then [c] else []) ++ rest) ∧
      (g.modifyConnection i f).slots.Perm ((if (f c).used then [f c] else []) ++ rest) := by
  have hlist : g.connections.toList[i]? = some c := by rwa [Vector.getElem?_toList]
  obtain ⟨hlt, hc⟩ := List.getElem?_eq_some_iff.mp hlist
  have hfilter (d : GroupchatConnection) :
      (d :: g.connections.toList.eraseIdx i).filter (·.used) =
        (if d.used then [d] else []) ++ (g.connections.toList.eraseIdx i).filter (·.used) := by
    rw [filter_cons]
    split <;> rfl
  refine ⟨(g.connections.toList.eraseIdx i).filter (·.used), ?_, ?_⟩
  · rw [← hfilter c]
    have hperm := (getElem_cons_eraseIdx_perm hlt).symm
    rw [hc] at hperm
    exact hperm.filter _
  · rw [← hfilter (f c)]
    unfold modifyConnection slots
    rw [h]
    rw [Vector.toList_setIfInBounds]
    exact (set_perm_cons_eraseIdx hlt (f c)).filter _

variable {f : GroupchatConnection → GroupchatConnection}

section

variable (h : g.connections[i]? = some c)
include h

theorem slots_change (hused : c.used) (hused' : (f c).used) :
    ∃ rest, g.slots.Perm (c :: rest) ∧ (g.modifyConnection i f).slots.Perm (f c :: rest) := by
  obtain ⟨rest, hold, hnew⟩ := slots_modifyConnection h f
  rw [if_pos hused] at hold
  rw [if_pos hused'] at hnew
  exact ⟨rest, hold, hnew⟩

theorem slots_insert (hused : ¬c.used) (hused' : (f c).used) :
    (g.modifyConnection i f).slots.Perm (f c :: g.slots) := by
  obtain ⟨rest, hold, hnew⟩ := slots_modifyConnection h f
  rw [if_neg hused] at hold
  rw [if_pos hused'] at hnew
  exact hnew.trans (hold.symm.cons _)

theorem slots_remove (hused : c.used) (hused' : ¬(f c).used) :
    g.slots.Perm (c :: (g.modifyConnection i f).slots) := by
  obtain ⟨rest, hold, hnew⟩ := slots_modifyConnection h f
  rw [if_pos hused] at hold
  rw [if_neg hused'] at hnew
  exact hold.trans (hnew.symm.cons _)

end

theorem getElem?_modifyConnection (g : GroupC) (i j : Nat) (f : GroupchatConnection → GroupchatConnection) :
    (g.modifyConnection i f).connections[j]? =
      if i = j then g.connections[j]?.map f else g.connections[j]? := by
  unfold modifyConnection
  cases h : g.connections[i]? with
  | none =>
    dsimp only
    split
    · rename_i hij
      rw [← hij, h]
      rfl
    · rfl
  | some c =>
    rw [Vector.getElem?_setIfInBounds]
    split
    · rename_i hij
      rw [← hij, h, if_pos (Vector.getElem?_eq_some_iff.mp h).1]
      rfl
    · rfl

theorem modifyConnection_some (h : g.connections[i]? = some c) (f : GroupchatConnection → GroupchatConnection) :
    g.modifyConnection i f = { g with connections := g.connections.setIfInBounds i (f c) } := by
  unfold modifyConnection
  rw [h]

theorem modifyConnection_eq (g : GroupC) (i : Nat) (f : GroupchatConnection → GroupchatConnection) :
    ∃ connections, g.modifyConnection i f = { g with connections } := by
  unfold modifyConnection
  split
  · exact ⟨g.connections, rfl⟩
  · exact ⟨_, rfl⟩

/-! ## Adding, changing and removing a slot -/

variable {bound : Nat} {c c' : GroupchatConnection} {rest : List GroupchatConnection}

/-- How `num_introducer_connections` changes with a slot. -/
def introducerStep (before after : Bool) (n : UInt32) : UInt32 :=
  match before, after with
  | false, true => n + 1
  | true, false => n - 1
  | _, _ => n

section

variable (h : g.SlotsOk bound)
include h

theorem introducers_change (hold : g.slots.Perm (c :: rest))
    (hnew : g'.slots.Perm (c' :: rest))
    (hnum : g'.numIntroducerConnections =
      introducerStep (c.has .introducer) (c'.has .introducer) g.numIntroducerConnections) :
    g'.numIntroducerConnections = UInt32.ofNat (g'.slots.countP (·.has .introducer)) := by
  rw [hnum, h.introducers, hold.countP_eq, hnew.countP_eq, countP_cons, countP_cons]
  unfold introducerStep
  cases c.has .introducer <;> cases c'.has .introducer <;> simp [UInt32.ofNat_add]

theorem SlotsOk.change (hold : g.slots.Perm (c :: rest))
    (hnew : g'.slots.Perm (c' :: rest)) (hnumber : c'.number = c.number)
    (hclosest : c'.has .closest → c.has .closest ∨ maxGroupConnections ≤ bound)
    (hnum : g'.numIntroducerConnections =
      introducerStep (c.has .introducer) (c'.has .introducer) g.numIntroducerConnections) :
    g'.SlotsOk bound := by
  refine ⟨introducers_change h hold hnew hnum, ?_, ?_⟩
  · have hnodup := (hold.map (·.number)).nodup_iff.mp h.numbers
    rw [(hnew.map (·.number)).nodup_iff, map_cons, hnumber]
    exact hnodup
  · by_cases hbound : maxGroupConnections ≤ bound
    · exact (g'.countP_slots_le _).trans hbound
    · have hle := h.closest
      rw [hold.countP_eq, countP_cons] at hle
      rw [hnew.countP_eq, countP_cons]
      cases hc' : c'.has .closest with
      | false =>
        simp only [Bool.false_eq_true, if_false]
        omega
      | true =>
        have hc : c.has .closest := (hclosest hc').resolve_right hbound
        rw [hc] at hle
        exact hle

theorem SlotsOk.insert (hnew : g'.slots.Perm (c :: g.slots))
    (hnumber : c.number ∉ g.slots.map (·.number))
    (hclosest : c.has .closest → maxGroupConnections ≤ bound)
    (hnum : g'.numIntroducerConnections = introducerStep false (c.has .introducer) g.numIntroducerConnections) :
    g'.SlotsOk bound := by
  refine ⟨?_, ?_, ?_⟩
  · rw [hnum, h.introducers, hnew.countP_eq, countP_cons]
    unfold introducerStep
    cases c.has .introducer <;> simp [UInt32.ofNat_add]
  · rw [(hnew.map (·.number)).nodup_iff, map_cons, nodup_cons]
    exact ⟨hnumber, h.numbers⟩
  · cases hc : c.has .closest with
    | false =>
      rw [hnew.countP_eq, countP_cons, hc]
      exact h.closest
    | true => exact (g'.countP_slots_le _).trans (hclosest hc)

theorem SlotsOk.remove (hold : g.slots.Perm (c :: g'.slots))
    (hnum : g'.numIntroducerConnections = introducerStep (c.has .introducer) false g.numIntroducerConnections) :
    g'.SlotsOk bound := by
  refine ⟨?_, ?_, ?_⟩
  · rw [hnum, h.introducers, hold.countP_eq, countP_cons]
    unfold introducerStep
    cases c.has .introducer <;> simp [UInt32.ofNat_add]
  · have hnodup := (hold.map (·.number)).nodup_iff.mp h.numbers
    rw [map_cons, nodup_cons] at hnodup
    exact hnodup.2
  · have hle := h.closest
    rw [hold.countP_eq, countP_cons] at hle
    omega

end

/-! ## Reasons -/

theorem friendInConnections_eq_some {friendconId : Nat} (h : g.friendInConnections friendconId = some i) :
    ∃ c, g.connections[i]? = some c ∧ c.used ∧ c.number = friendconId := by
  obtain ⟨hlt, hc, -⟩ := findIdx?_eq_some_iff_getElem.mp h
  have hsome := getElem?_eq_getElem hlt
  rw [Vector.getElem?_toList] at hsome
  rw [Bool.and_eq_true, beq_iff_eq] at hc
  exact ⟨_, hsome, hc.1, hc.2⟩

theorem friendInConnections_eq_none {friendconId : Nat} (h : g.friendInConnections friendconId = none) :
    friendconId ∉ g.slots.map (·.number) := by
  intro hmem
  obtain ⟨c, hc, heq⟩ := mem_map.mp hmem
  obtain ⟨hc, hused⟩ := mem_filter.mp hc
  have hnot := findIdx?_eq_none_iff.mp h c hc
  simp [hused, heq] at hnot

theorem emptySlot_eq_some (h : g.emptySlot = some i) : ∃ c, g.connections[i]? = some c ∧ ¬c.used := by
  have hfound := find?_some h
  cases hc : g.connections[i]? with
  | none =>
    rw [hc] at hfound
    cases hfound
  | some c =>
    rw [hc] at hfound
    exact ⟨c, rfl, by simpa using hfound⟩

theorem addReason_spec (h : g.connections[i]? = some c) (hused : c.used) (reason : Reason) :
    ∃ c' rest, g.slots.Perm (c :: rest) ∧ (g.addReason i reason).slots.Perm (c' :: rest) ∧
      (g.addReason i reason).connections[i]? = some c' ∧ c'.used ∧ c'.number = c.number ∧
      (∀ reason', c'.has reason' = (c.has reason' || reason == reason')) ∧
      (g.addReason i reason).numIntroducerConnections =
        introducerStep (c.has .introducer) (c'.has .introducer) g.numIntroducerConnections := by
  unfold addReason
  rw [h, Option.any_some]
  cases hhas : c.has reason with
  | true =>
    obtain ⟨rest, hold, -⟩ := slots_change h hused (f := fun connection => connection) hused
    refine ⟨c, rest, hold, hold, h, hused, rfl, fun reason' => ?_, ?_⟩
    · by_cases heq : reason = reason'
      · rw [← heq, hhas, Bool.true_or]
      · rw [beq_false_of_ne heq, Bool.or_false]
    · cases c.has .introducer <;> rfl
  | false =>
    have hor := c.has_or reason
    have hget := g.getElem?_modifyConnection i i fun connection =>
      { connection with reasons := connection.reasons ||| reason.flag }
    rw [if_pos rfl, h] at hget
    obtain ⟨rest, hold, hnew⟩ := slots_change h hused (f := fun connection =>
      { connection with reasons := connection.reasons ||| reason.flag }) hused
    obtain ⟨connections, hmodify⟩ := g.modifyConnection_eq i fun connection =>
      { connection with reasons := connection.reasons ||| reason.flag }
    refine ⟨{ c with reasons := c.reasons ||| reason.flag }, rest, hold, ?_, ?_, hused, rfl, hor, ?_⟩
    · simp only [Bool.not_false, if_true]
      split <;> exact hnew
    · simp only [Bool.not_false, if_true]
      split <;> exact hget
    · simp only [hor]
      rw [hmodify]
      by_cases heq : reason = .introducer
      · subst heq
        rw [hhas]
        rfl
      · rw [if_neg heq, beq_false_of_ne heq]
        cases c.has .introducer <;> rfl

theorem addReason_eq (g : GroupC) (i : Nat) (reason : Reason) :
    ∃ connections n, g.addReason i reason = { g with connections, numIntroducerConnections := n } := by
  unfold addReason
  split
  · obtain ⟨connections, hmodify⟩ := g.modifyConnection_eq i fun connection =>
      { connection with reasons := connection.reasons ||| reason.flag }
    rw [hmodify]
    split
    · exact ⟨connections, _, rfl⟩
    · exact ⟨connections, _, rfl⟩
  · exact ⟨g.connections, _, rfl⟩

end GroupC

/-! ## Connections and friend connections -/

namespace Conference

open GroupC FriendConnections

/-- The connections with this status and own key, when `others` use the friend connections. -/
structure Linked (others : List Nat) (own : GroupchatStatus × PublicKey) (bound : Nat)
    (conf : Conference) : Prop where
  own : conf.g.own = own
  slots : conf.g.SlotsOk bound
  held : Held (conf.g.slots.map (·.number) ++ others) conf.frC

variable {others : List Nat} {own : GroupchatStatus × PublicKey} {bound : Nat} {conf : Conference} {g' : GroupC}

theorem Linked.congr (h : Linked others own bound conf) (hslots : g'.slots = conf.g.slots)
    (hnum : g'.numIntroducerConnections = conf.g.numIntroducerConnections) :
    Linked others g'.own bound { g := g', frC := conf.frC } where
  own := rfl
  slots := ⟨by rw [hnum, hslots, h.slots.introducers], by rw [hslots]; exact h.slots.numbers,
    by rw [hslots]; exact h.slots.closest⟩
  held := by
    rw [hslots]
    exact h.held

theorem Linked.weaken (h : Linked others own bound conf) {bound' : Nat} (hle : bound ≤ bound') :
    Linked others own bound' conf :=
  ⟨h.own, ⟨h.slots.introducers, h.slots.numbers, h.slots.closest.trans hle⟩, h.held⟩

variable {c : GroupchatConnection}

section

variable (h : Linked others own bound conf)
include h

theorem Linked.key_of_mem (hmem : c ∈ conf.g.slots)
    : ∃ pk, conf.frC.getFriendconPublicKeys c.number = some pk :=
  h.held.key_of_mem (mem_append_left _ (mem_map_of_mem hmem))

theorem Linked.change {c' : GroupchatConnection} {rest : List GroupchatConnection}
    (hold : conf.g.slots.Perm (c :: rest)) (hnew : g'.slots.Perm (c' :: rest)) (hnumber : c'.number = c.number)
    (hclosest : c'.has .closest → c.has .closest ∨ maxGroupConnections ≤ bound)
    (hnum : g'.numIntroducerConnections = introducerStep (c.has .introducer) (c'.has .introducer) conf.g.numIntroducerConnections)
    (hown : g'.own = conf.g.own) :
    Linked others own bound { g := g', frC := conf.frC } := by
  refine ⟨hown.trans h.own, h.slots.change hold hnew hnumber hclosest hnum, ?_⟩
  apply h.held.perm
  apply List.Perm.append_right
  refine (hold.map _).trans (List.Perm.trans ?_ (hnew.map _).symm)
  rw [map_cons, map_cons, hnumber]

theorem Linked.insert {frC' : FriendConnections}
    (hnew : g'.slots.Perm (c :: conf.g.slots)) (hnumber : c.number ∉ conf.g.slots.map (·.number))
    (hclosest : c.has .closest → maxGroupConnections ≤ bound)
    (hnum : g'.numIntroducerConnections = introducerStep false (c.has .introducer) conf.g.numIntroducerConnections)
    (hown : g'.own = conf.g.own) {others' : List Nat}
    (hheld : Held (c.number :: (conf.g.slots.map (·.number) ++ others')) frC') :
    Linked others' own bound { g := g', frC := frC' } := by
  refine ⟨hown.trans h.own, h.slots.insert hnew hnumber hclosest hnum, ?_⟩
  apply hheld.perm
  exact ((hnew.map (·.number)).append_right others').symm

theorem Linked.remove (hold : conf.g.slots.Perm (c :: g'.slots))
    (hnum : g'.numIntroducerConnections = introducerStep (c.has .introducer) false conf.g.numIntroducerConnections)
    (hown : g'.own = conf.g.own) :
    Linked others own bound { g := g', frC := conf.frC.killFriendConnection c.number } := by
  refine ⟨hown.trans h.own, h.slots.remove hold hnum, ?_⟩
  apply held_kill
  apply h.held.perm
  exact (hold.map (·.number)).append_right others

end

/-! ## `add_conn_to_groupchat` -/

theorem addConnToGroupchat_cases (conf : Conference) (friendconId : Nat) (reason : Reason) (lock : Bool) :
    (∃ i c c' rest g', conf.addConnToGroupchat friendconId reason lock =
        (some i, { g := g', frC := conf.frC }) ∧
      conf.g.slots.Perm (c :: rest) ∧ g'.slots.Perm (c' :: rest) ∧ g'.connections[i]? = some c' ∧
      c'.used ∧ c.number = friendconId ∧ c'.number = friendconId ∧
      (∀ reason', c'.has reason' = (c.has reason' || reason == reason')) ∧
      g'.numIntroducerConnections = introducerStep (c.has .introducer) (c'.has .introducer)
        conf.g.numIntroducerConnections ∧
      g'.own = conf.g.own ∧ g'.closestPeers = conf.g.closestPeers) ∨
    (∃ i c' g', conf.addConnToGroupchat friendconId reason lock =
        (some i, { g := g', frC := if lock then conf.frC.friendConnectionLock friendconId
          else conf.frC }) ∧
      g'.slots.Perm (c' :: conf.g.slots) ∧ g'.connections[i]? = some c' ∧ c'.used ∧
      friendconId ∉ conf.g.slots.map (·.number) ∧ c'.number = friendconId ∧
      (∀ reason', c'.has reason' = (reason == reason')) ∧
      g'.numIntroducerConnections = introducerStep false (c'.has .introducer) conf.g.numIntroducerConnections ∧
      g'.own = conf.g.own ∧ g'.closestPeers = conf.g.closestPeers) ∨
    (conf.addConnToGroupchat friendconId reason lock = (none, conf) ∧
      conf.g.friendInConnections friendconId = none ∧ conf.g.emptySlot = none) := by
  unfold addConnToGroupchat
  cases hfind : conf.g.friendInConnections friendconId with
  | some i =>
    obtain ⟨c, hc, hused, hnumber⟩ := friendInConnections_eq_some hfind
    obtain ⟨c', rest, hold, hnew, hget, hused', hnumber', hhas, hnum⟩ :=
      addReason_spec hc hused reason
    obtain ⟨connections, n, heq⟩ := conf.g.addReason_eq i reason
    refine .inl ⟨i, c, c', rest, _, rfl, hold, hnew, hget, hused', hnumber,
      hnumber'.trans hnumber, hhas, hnum, ?_, ?_⟩ <;> rw [heq]
  | none =>
    cases hempty : conf.g.emptySlot with
    | none => exact .inr (.inr ⟨rfl, rfl, rfl⟩)
    | some i =>
      obtain ⟨old, hold, hunused⟩ := emptySlot_eq_some hempty
      let f (connection : GroupchatConnection) : GroupchatConnection :=
        { connection with type := .connecting, number := friendconId, reasons := 0 }
      have hinsert : (conf.g.modifyConnection i f).slots.Perm (f old :: conf.g.slots) :=
        slots_insert hold hunused rfl
      have hget : (conf.g.modifyConnection i f).connections[i]? = some (f old) := by
        rw [getElem?_modifyConnection, if_pos rfl, hold, Option.map_some]
      obtain ⟨c', rest, hperm, hnew, hget', hused', hnumber', hhas, hnum⟩ :=
        addReason_spec hget rfl reason
      obtain ⟨connections, hmodify⟩ := conf.g.modifyConnection_eq i f
      obtain ⟨connections', n, heq⟩ := (conf.g.modifyConnection i f).addReason_eq i reason
      have hzero (reason' : Reason) : (f old).has reason' = false :=
        GroupchatConnection.has_of_reasons_eq_zero rfl reason'
      have hrest : rest.Perm conf.g.slots := List.Perm.cons_inv (hperm.symm.trans hinsert)
      refine .inr (.inl ⟨i, c', _, rfl, hnew.trans (hrest.cons c'), hget', hused',
        friendInConnections_eq_none hfind, hnumber', fun reason' => ?_, ?_, ?_, ?_⟩)
      · rw [hhas, hzero, Bool.false_or]
      · refine hnum.trans ?_
        rw [hzero, hmodify]
      · rw [heq, hmodify]
      · rw [heq, hmodify]

variable {reason : Reason}

theorem closest_of_ne (hreason : reason ≠ .closest ∨ maxGroupConnections ≤ bound) {c' : GroupchatConnection}
    (hhas : ∀ reason', c'.has reason' = (c.has reason' || reason == reason')) (hc' : c'.has .closest)
    : c.has .closest ∨ maxGroupConnections ≤ bound := by
  rcases hreason with hne | hbound
  · rw [hhas, beq_false_of_ne hne, Bool.or_false] at hc'
    exact .inl hc'
  · exact .inr hbound

variable {friendconId : Nat}

/-- A connection is added for a friend connection that exists. -/
theorem linked_addConnToGroupchat (h : Linked others own bound conf) (hid : (conf.frC.getConn friendconId).isSome)
    (hreason : reason ≠ .closest ∨ maxGroupConnections ≤ bound) :
    Linked others own bound (conf.addConnToGroupchat friendconId reason true).2 := by
  rcases conf.addConnToGroupchat_cases friendconId reason true with
    ⟨i, c, c', rest, g', heq, hold, hnew, -, -, hc, hc', hhas, hnum, hown, -⟩ |
    ⟨i, c', g', heq, hnew, -, -, hnot, hc', hhas, hnum, hown, -⟩ | ⟨heq, -, -⟩ <;> rw [heq]
  · exact h.change hold hnew (hc'.trans hc.symm) (closest_of_ne hreason hhas) hnum hown
  · subst hc'
    apply h.insert hnew hnot _ hnum hown
    · exact held_lock h.held hid
    · intro hclosest
      rw [hhas, beq_iff_eq] at hclosest
      exact hreason.resolve_left (not_not_intro hclosest)
  · exact h

variable {i : Nat}

theorem linked_addConnToGroupchat_take (h : Linked (friendconId :: others) own bound conf)
    (hnot : conf.g.friendInConnections friendconId = none) (hreason : reason ≠ .closest ∨ maxGroupConnections ≤ bound)
    {conf' : Conference} (hadd : conf.addConnToGroupchat friendconId reason false = (some i, conf')) :
    Linked others own bound conf' := by
  rcases conf.addConnToGroupchat_cases friendconId reason false with
    ⟨j, c, c', rest, g', heq, hold, -, -, -, hc, -⟩ |
    ⟨j, c', g', heq, hnew, -, -, hmem, hc', hhas, hnum, hown, -⟩ | ⟨heq, -, -⟩ <;>
    rw [heq] at hadd <;> cases hadd
  · -- the connection would be among those in use
    refine absurd ?_ (friendInConnections_eq_none hnot)
    rw [← hc]
    exact mem_map_of_mem (hold.mem_iff.mpr mem_cons_self)
  · subst hc'
    apply h.insert hnew hmem _ hnum hown
    · exact h.held.perm perm_middle
    · intro hclosest
      rw [hhas, beq_iff_eq] at hclosest
      exact hreason.resolve_left (not_not_intro hclosest)

/-! ## `remove_connection` and `remove_connection_reason` -/

theorem linked_giveUp (h : Linked others own bound conf) (hc : conf.g.connections[i]? = some c) (hused : c.used)
    {f : GroupchatConnection → GroupchatConnection} (hf : ¬(f c).used) {n : UInt32}
    (hn : n = introducerStep (c.has .introducer) false conf.g.numIntroducerConnections) :
    Linked others own bound
      { g := { conf.g.modifyConnection i f with numIntroducerConnections := n }
        frC := conf.frC.killFriendConnection c.number } := by
  apply h.remove (c := c)
  · exact slots_remove hc hused hf
  · exact hn
  · obtain ⟨connections, hmodify⟩ := conf.g.modifyConnection_eq i f
    rw [hmodify]

theorem linked_removeConnection (h : Linked others own bound conf) (hc : conf.g.connections[i]? = some c)
    (hused : c.used) :
    Linked others own bound (conf.removeConnection i) := by
  have hgiveUp := linked_giveUp h hc hused (f := fun connection => { connection with type := .none })
    (by simp [GroupchatConnection.used]) rfl
  rw [modifyConnection_some hc] at hgiveUp
  unfold removeConnection
  rw [hc]
  dsimp only
  cases hhas : c.has .introducer with
  | false =>
    rw [hhas] at hgiveUp
    rw [if_neg Bool.false_ne_true, modifyConnection_some hc]
    exact hgiveUp
  | true =>
    rw [hhas] at hgiveUp
    rw [modifyConnection_some (by exact hc)]
    exact hgiveUp

theorem removeConnectionReason_eq (hc : conf.g.connections[i]? = some c) (hhas : c.has reason) :
    conf.removeConnectionReason i reason =
      if c.reasons &&& ~~~reason.flag = 0 then
        { g := { conf.g.modifyConnection i (fun connection =>
            { connection with reasons := c.reasons &&& ~~~reason.flag, type := .none }) with
            numIntroducerConnections := introducerStep true (reason != .introducer)
              conf.g.numIntroducerConnections }
          frC := conf.frC.killFriendConnection c.number }
      else
        { g := { conf.g.modifyConnection i (fun connection =>
            { connection with reasons := c.reasons &&& ~~~reason.flag }) with
            numIntroducerConnections := introducerStep true (reason != .introducer)
              conf.g.numIntroducerConnections }
          frC := conf.frC } := by
  have hget : (conf.g.connections.setIfInBounds i
      { c with reasons := c.reasons &&& ~~~reason.flag })[i]? =
      some { c with reasons := c.reasons &&& ~~~reason.flag } := by
    rw [Vector.getElem?_setIfInBounds, if_pos rfl, if_pos (Vector.getElem?_eq_some_iff.mp hc).1]
  unfold removeConnectionReason
  rw [hc]
  simp only [hhas, Bool.not_true, Bool.false_eq_true, if_false, modifyConnection_some hc]
  split
  · cases reason <;>
      · simp only [reduceCtorEq, if_false, if_true]
        rw [modifyConnection_some (by exact hget)]
        simp only [Vector.setIfInBounds_setIfInBounds]
        rfl
  · cases reason <;> rfl

theorem linked_removeConnectionReason (h : Linked others own bound conf) (hc : conf.g.connections[i]? = some c)
    (hused : c.used) (reason : Reason) : Linked others own bound (conf.removeConnectionReason i reason) := by
  have handNot := c.has_andNot reason
  cases hhas : c.has reason with
  | false =>
    unfold removeConnectionReason
    rw [hc]
    simp only [hhas]
    exact h
  | true =>
    have hintroducer : introducerStep true (reason != .introducer) conf.g.numIntroducerConnections =
        introducerStep (c.has .introducer) (c.has .introducer && reason != .introducer)
          conf.g.numIntroducerConnections := by
      by_cases heq : reason = .introducer
      · rw [← heq, hhas, Bool.true_and]
      · rw [bne_iff_ne.mpr heq]
        cases c.has .introducer <;> rfl
    rw [removeConnectionReason_eq hc hhas]
    split
    · rename_i hzero
      -- without reasons the connection is not counted
      have hnone : (c.has .introducer && reason != .introducer) = false := by
        rw [← handNot]
        exact GroupchatConnection.has_of_reasons_eq_zero hzero _
      apply linked_giveUp h hc hused
      · simp [GroupchatConnection.used]
      · rw [hintroducer, hnone]
    · obtain ⟨rest, hold, hnew⟩ := slots_change hc hused (f := fun connection =>
        { connection with reasons := c.reasons &&& ~~~reason.flag }) hused
      obtain ⟨connections, hmodify⟩ := conf.g.modifyConnection_eq i fun connection =>
        { connection with reasons := c.reasons &&& ~~~reason.flag }
      apply h.change hold
      · exact hnew
      · rfl
      · intro hclosest
        rw [handNot, Bool.and_eq_true] at hclosest
        exact .inl hclosest.1
      · rw [handNot]
        exact hintroducer
      · rw [hmodify]

/-! ## `connect_to_closest` -/

def ToClosest (conf : Conference) (c : GroupchatConnection) : Prop :=
  ∃ pk, conf.frC.getFriendconPublicKeys c.number = some pk ∧ conf.g.pkInClosestPeers pk

def Purged (conf : Conference) : Prop :=
  ∀ c ∈ conf.g.slots, c.has .closest → conf.ToClosest c

theorem removeConnectionReason_frame (hc : conf.g.connections[i]? = some c) (hhas : c.has reason) :
    (∀ d, (conf.removeConnectionReason i reason).g.connections[i]? = some d → d.has reason = false) ∧
    (∀ j, j ≠ i → (conf.removeConnectionReason i reason).g.connections[j]? = conf.g.connections[j]?) ∧
    (conf.removeConnectionReason i reason).g.closestPeers = conf.g.closestPeers ∧
    ∀ j pk, (conf.removeConnectionReason i reason).frC.getFriendconPublicKeys j = some pk →
      conf.frC.getFriendconPublicKeys j = some pk := by
  have handNot := c.has_andNot reason reason
  rw [bne_self_eq_false, Bool.and_false] at handNot
  rw [removeConnectionReason_eq hc hhas]
  split
  · refine ⟨fun d hd => ?_, fun j hj => ?_, ?_, fun j pk => key_of_kill⟩
    · rw [getElem?_modifyConnection, if_pos rfl, hc] at hd
      cases hd
      exact handNot
    · rw [getElem?_modifyConnection, if_neg (Ne.symm hj)]
    · obtain ⟨connections, hmodify⟩ := conf.g.modifyConnection_eq i fun connection =>
        { connection with reasons := c.reasons &&& ~~~reason.flag, type := .none }
      rw [hmodify]
  · refine ⟨fun d hd => ?_, fun j hj => ?_, ?_, fun j pk => id⟩
    · rw [getElem?_modifyConnection, if_pos rfl, hc] at hd
      cases hd
      exact handNot
    · rw [getElem?_modifyConnection, if_neg (Ne.symm hj)]
    · obtain ⟨connections, hmodify⟩ := conf.g.modifyConnection_eq i fun connection =>
        { connection with reasons := c.reasons &&& ~~~reason.flag }
      rw [hmodify]

def PurgedBelow (n : Nat) (conf : Conference) : Prop :=
  ∀ j < n, ∀ c, conf.g.connections[j]? = some c → c.used → c.has .closest → conf.ToClosest c

section

variable (h : Linked others own bound conf)
include h

theorem linked_purgeSlot (env : GroupEnv) (hpurged : PurgedBelow i conf) :
    Linked others own bound (purgeSlot env conf i) ∧ PurgedBelow (i + 1) (purgeSlot env conf i) := by
  unfold purgeSlot
  cases hc : conf.g.connections[i]? with
  | none =>
    refine ⟨h, fun j hj c hget hused => ?_⟩
    rcases Nat.lt_or_eq_of_le (Nat.le_of_lt_succ hj) with hlt | rfl
    · exact hpurged j hlt c hget hused
    · rw [hc] at hget
      cases hget
  | some c =>
    dsimp only
    split
    · rename_i hskip
      refine ⟨h, fun j hj d hget hused hclosest => ?_⟩
      rcases Nat.lt_or_eq_of_le (Nat.le_of_lt_succ hj) with hlt | rfl
      · exact hpurged j hlt d hget hused hclosest
      · obtain rfl : c = d := by simpa [hc] using hget
        simp [hused, hclosest] at hskip
    · rename_i hskip
      simp only [Bool.or_eq_true, Bool.not_eq_true', not_or, Bool.not_eq_false] at hskip
      obtain ⟨hused, hhas⟩ := hskip
      obtain ⟨pk, hpk⟩ := h.key_of_mem (mem_slots_iff.mpr ⟨i, hc, hused⟩)
      rw [hpk]
      split
      · have hlinked := linked_removeConnectionReason h hc hused .closest
        obtain ⟨hown, hother, hpeers, hkeys⟩ := removeConnectionReason_frame hc hhas
        refine ⟨hlinked, fun j hj d hget hd hclosest => ?_⟩
        rcases Nat.lt_or_eq_of_le (Nat.le_of_lt_succ hj) with hlt | rfl
        · -- the friend connection of another slot is still there
          obtain ⟨pk', hpk'⟩ := hlinked.key_of_mem (mem_slots_iff.mpr ⟨j, hget, hd⟩)
          rw [hother j (Nat.ne_of_lt hlt)] at hget
          obtain ⟨pk'', hpk'', hin⟩ := hpurged j hlt d hget hd hclosest
          obtain rfl : pk'' = pk' := by simpa [hkeys _ _ hpk'] using hpk''.symm
          exact ⟨pk'', hpk', by simpa only [pkInClosestPeers, hpeers] using hin⟩
        · rw [hown d hget] at hclosest
          cases hclosest
      · rename_i hin
        refine ⟨h, fun j hj d hget hused hclosest => ?_⟩
        rcases Nat.lt_or_eq_of_le (Nat.le_of_lt_succ hj) with hlt | rfl
        · exact hpurged j hlt d hget hused hclosest
        · obtain rfl : c = d := by simpa [hc] using hget
          rw [Bool.not_eq_true', Bool.not_eq_false] at hin
          exact ⟨pk, hpk, hin⟩

theorem linked_purgeClosest (env : GroupEnv) :
    Linked others own bound (conf.purgeClosest env) ∧ Purged (conf.purgeClosest env) := by
  have hloop (n : Nat) : Linked others own bound ((List.range n).foldl (purgeSlot env) conf) ∧
      PurgedBelow n ((List.range n).foldl (purgeSlot env) conf) := by
    induction n with
    | zero => exact ⟨h, fun j hj => absurd hj (Nat.not_lt_zero j)⟩
    | succ n ih =>
      rw [range_succ, foldl_append]
      exact linked_purgeSlot ih.1 env ih.2
  obtain ⟨hlinked, hpurged⟩ := hloop maxGroupConnections
  unfold purgeClosest
  generalize (List.range maxGroupConnections).foldl (purgeSlot env) conf = conf' at hlinked hpurged ⊢
  refine ⟨hlinked, fun c hmem hclosest => ?_⟩
  obtain ⟨i, hi, hused⟩ := mem_slots_iff.mp hmem
  exact hpurged i (Vector.getElem?_eq_some_iff.mp hi).1 c hi hused hclosest

theorem Linked.of_purged (hpurged : Purged conf) :
    Linked others own desiredClosest conf := by
  refine ⟨h.own, ⟨h.slots.introducers, h.slots.numbers, ?_⟩, h.held⟩
  -- the keys of the connections are distinct and among those of the closest peers
  let keys := (conf.g.slots.filter (·.has .closest)).map fun c =>
    conf.frC.getFriendconPublicKeys c.number
  have hnodup : keys.Nodup := by
    have hnumbers : ((conf.g.slots.filter (·.has .closest)).map (·.number)).Nodup :=
      (filter_sublist.map _).nodup h.slots.numbers
    have hkeys : keys = ((conf.g.slots.filter (·.has .closest)).map (·.number)).map
        conf.frC.getFriendconPublicKeys := by
      rw [map_map]
      rfl
    rw [hkeys]
    refine (nodup_map_iff_inj_on hnumbers).mpr fun a ha b hb heq => ?_
    obtain ⟨c, hc, rfl⟩ := mem_map.mp ha
    obtain ⟨pk, hpk⟩ := h.key_of_mem (mem_filter.mp hc).1
    exact h.held.keys _ _ pk hpk (heq ▸ hpk)
  have hsubset : keys ⊆ conf.g.closestPeers.toList.map fun peer => some peer.realPk := by
    intro key hmem
    obtain ⟨c, hc, rfl⟩ := mem_map.mp hmem
    obtain ⟨hc, hclosest⟩ := mem_filter.mp hc
    obtain ⟨pk, hpk, hin⟩ := hpurged c hc hclosest
    unfold pkInClosestPeers at hin
    rw [← Vector.any_toList, any_eq_true] at hin
    obtain ⟨peer, hpeer, heq⟩ := hin
    rw [Bool.and_eq_true, beq_iff_eq] at heq
    exact mem_map.mpr ⟨peer, hpeer, by rw [hpk, heq.2]⟩
  have hle := (hnodup.subperm hsubset).length_le
  rwa [length_map, length_map, Vector.length_toList, ← countP_eq_length_filter] at hle

end

theorem Purged.of_perm (h : Purged conf) {conf' : Conference} {rest : List GroupchatConnection}
    (hpeers : conf'.g.closestPeers = conf.g.closestPeers) (hnew : conf'.g.slots.Perm (c :: rest))
    (hrest : rest ⊆ conf.g.slots)
    (hkeys : ∀ d ∈ conf.g.slots, conf'.frC.getFriendconPublicKeys d.number = conf.frC.getFriendconPublicKeys d.number)
    (hc : conf'.ToClosest c) : Purged conf' := by
  intro d hmem hclosest
  rcases mem_cons.mp (hnew.mem_iff.mp hmem) with rfl | hmem
  · exact hc
  · obtain ⟨pk, hpk, hin⟩ := h d (hrest hmem) hclosest
    exact ⟨pk, by rw [hkeys d (hrest hmem), hpk], by simpa only [pkInClosestPeers, hpeers] using hin⟩

theorem purged_addConnToGroupchat (h : Purged conf) {pk : PublicKey}
    (hpk : conf.frC.getFriendconPublicKeys friendconId = some pk) (hin : conf.g.pkInClosestPeers pk) (reason : Reason)
    (lock : Bool) :
    Purged (conf.addConnToGroupchat friendconId reason lock).2 := by
  rcases conf.addConnToGroupchat_cases friendconId reason lock with
    ⟨i, c, c', rest, g', heq, hold, hnew, -, -, -, hc', -, -, -, hpeers⟩ |
    ⟨i, c', g', heq, hnew, -, -, -, hc', -, -, -, hpeers⟩ | ⟨heq, -, -⟩ <;> rw [heq]
  · apply h.of_perm hpeers hnew
    · exact fun d hd => hold.mem_iff.mpr (mem_cons_of_mem c hd)
    · exact fun _ _ => rfl
    · exact ⟨pk, by rw [hc', hpk], by simpa only [pkInClosestPeers, hpeers] using hin⟩
  · have hkeys (j : Nat) : (if lock then conf.frC.friendConnectionLock friendconId
        else conf.frC).getFriendconPublicKeys j = conf.frC.getFriendconPublicKeys j := by
      split
      · exact key_lock j
      · rfl
    apply h.of_perm hpeers hnew (List.Subset.refl _)
    · exact fun d _ => hkeys d.number
    · exact ⟨pk, by rw [hkeys, hc', hpk], by simpa only [pkInClosestPeers, hpeers] using hin⟩
  · exact h

theorem linked_addClosestConnection (h : Linked others own maxGroupConnections conf)
    (hpurged : Purged conf) (env : GroupEnv) (i : Nat) :
    Linked others own maxGroupConnections (addClosestConnection env conf i) ∧
      Purged (addClosestConnection env conf i) := by
  have hbound : Reason.closest ≠ .closest ∨ maxGroupConnections ≤ maxGroupConnections :=
    .inr le_rfl
  unfold addClosestConnection
  cases hpeer : conf.g.closestPeers[i]? with
  | none => exact ⟨h, hpurged⟩
  | some peer =>
    dsimp only
    cases hactive : peer.active with
    | false => exact ⟨h, hpurged⟩
    | true =>
      have hin : conf.g.pkInClosestPeers peer.realPk := by
        obtain ⟨hi, rfl⟩ := Vector.getElem?_eq_some_iff.mp hpeer
        unfold pkInClosestPeers
        rw [Vector.any_eq_true]
        exact ⟨i, hi, by rw [hactive, Bool.true_and, beq_self_eq_true]⟩
      simp only [Bool.not_true, Bool.false_eq_true, if_false]
      cases hfind : conf.frC.getfriendConnIdPk peer.realPk with
      | some friendconId =>
        exact ⟨linked_addConnToGroupchat h (isSome_of_getfriendConnIdPk hfind) hbound,
          purged_addConnToGroupchat hpurged (getfriendConnIdPk_eq_some hfind) hin _ _⟩
      | none =>
        dsimp only
        split
        · rename_i frC hnew
          obtain ⟨hheld, hkeys⟩ := held_newFriendConnection_none h.held hnew
          refine ⟨⟨h.own, h.slots, hheld⟩, fun c hmem hclosest => ?_⟩
          obtain ⟨pk, hpk, hin⟩ := hpurged c hmem hclosest
          exact ⟨pk, (hkeys _).trans hpk, hin⟩
        · rename_i friendconId frC hnew
          obtain ⟨hheld, hkey, hkeys⟩ := held_newFriendConnection h.held hnew
          have hlinked : Linked (friendconId :: others) own maxGroupConnections
              { conf with frC } := ⟨h.own, h.slots, hheld.perm perm_middle.symm⟩
          have hpurged' : Purged { conf with frC } := by
            intro c hmem hclosest
            obtain ⟨pk, hpk, hin⟩ := hpurged c hmem hclosest
            refine ⟨pk, ?_, hin⟩
            rw [hkeys _ (mem_append_left _ (mem_map_of_mem hmem))]
            exact hpk
          -- the connection is new, so no slot uses it
          have hnot : ({ conf with frC } : Conference).g.friendInConnections friendconId = none := by
            cases hfound : conf.g.friendInConnections friendconId with
            | none => rfl
            | some j =>
              obtain ⟨c, hc, hused, hnumber⟩ := friendInConnections_eq_some hfound
              have hmem : c ∈ conf.g.slots := mem_slots_iff.mpr ⟨j, hc, hused⟩
              have hold := hkeys _ (mem_append_left _ (mem_map_of_mem hmem))
              rw [hnumber, hkey] at hold
              exact absurd hold.symm (getfriendConnIdPk_eq_none hfind _)
          have hadded := purged_addConnToGroupchat hpurged' hkey hin .closest false
          split
          · rename_i conf' hadd
            rcases ({ conf with frC } : Conference).addConnToGroupchat_cases friendconId .closest
              false with ⟨j, _, _, _, _, heq, -⟩ | ⟨j, _, _, heq, -⟩ | ⟨heq, -, -⟩ <;>
              rw [heq] at hadd <;> cases hadd
            refine ⟨⟨h.own, h.slots, ?_⟩, fun c hmem hclosest => ?_⟩
            · exact held_kill hheld
            · obtain ⟨pk, hpk, hin⟩ := hpurged' c hmem hclosest
              refine ⟨pk, ?_, hin⟩
              rw [← hpk]
              exact key_kill hheld (mem_append_left _ (mem_map_of_mem hmem))
          · rename_i j conf' hadd
            rw [hadd] at hadded
            exact ⟨linked_addConnToGroupchat_take hlinked hnot hbound hadd, hadded⟩

theorem linked_addClosestConnections (h : Linked others own bound conf)
    (hpurged : Purged conf) (hbound : bound ≤ maxGroupConnections) (env : GroupEnv) :
    Linked others own desiredClosest (conf.addClosestConnections env) := by
  have hloop (is : List Nat) (conf : Conference)
      (h : Linked others own maxGroupConnections conf) (hpurged : Purged conf) :
      Linked others own maxGroupConnections (is.foldl (addClosestConnection env) conf) ∧
        Purged (is.foldl (addClosestConnection env) conf) := by
    induction is generalizing conf with
    | nil => exact ⟨h, hpurged⟩
    | cons i is ih =>
      obtain ⟨h', hpurged'⟩ := linked_addClosestConnection h hpurged env i
      exact ih _ h' hpurged'
  obtain ⟨hlinked, hpurged'⟩ := hloop (List.range desiredClosest) conf (h.weaken hbound) hpurged
  exact hlinked.of_purged hpurged'

end Conference

/-! ## Peers and closest peers -/

namespace GroupC

/-- The part of a conference that `Linked` is about. -/
def links (g : GroupC) :
    (GroupchatStatus × PublicKey) × Vector GroupchatConnection maxGroupConnections × UInt32 :=
  (g.own, g.connections, g.numIntroducerConnections)

theorem links_addToClosestLoop (fuel : Nat) (g : GroupC) (realPk tempPk : PublicKey) :
    (addToClosestLoop fuel g realPk tempPk).2.links = g.links := by
  induction fuel generalizing g realPk tempPk with
  | zero => rfl
  | succ fuel ih =>
    rw [addToClosestLoop]
    split
    · rfl
    · split
      · rfl
      · split
        · rfl
        · dsimp only
          split
          · split <;> rfl
          · rename_i index _ _ peer _
            have hnext := ih { g with closestPeers :=
              g.closestPeers.setIfInBounds index { active := true, realPk, tempPk } }
              peer.realPk peer.tempPk
            split <;> exact hnext

theorem links_addToClosest (g : GroupC) (realPk tempPk : PublicKey) :
    (g.addToClosest realPk tempPk).2.links = g.links :=
  links_addToClosestLoop 121 g realPk tempPk

theorem links_removeFromClosest (g : GroupC) (realPk : PublicKey) :
    (g.removeFromClosest realPk).links = g.links := by
  unfold removeFromClosest
  split
  · rfl
  · split <;> rfl

theorem links_deleteFrozen (g : GroupC) (frozenIndex : Nat) :
    (g.deleteFrozen frozenIndex).2.links = g.links := by
  unfold deleteFrozen
  split <;> rfl

theorem links_deleteOldFrozen (g : GroupC) : g.deleteOldFrozen.2.links = g.links := by
  unfold deleteOldFrozen
  split <;> rfl

theorem links_notePeerActive (g : GroupC) (env : GroupEnv) (peerNumber : UInt16) :
    (g.notePeerActive env peerNumber).2.links = g.links := by
  unfold notePeerActive
  split
  · rfl
  · split
    · rfl
    · split
      · rfl
      · rename_i peer _
        have hclosest := links_addToClosest g peer.realPk peer.tempPk
        exact (links_deleteFrozen { (g.addToClosest peer.realPk peer.tempPk).2 with
          group := _ } _).trans hclosest

theorem slots_squashConnections (g : GroupC) : g.squashConnections.slots = g.slots := by
  unfold slots squashConnections
  simp only [Vector.toList_mk, filter_append, filter_filter, Bool.and_self]
  rw [append_right_eq_self, filter_eq_nil_iff]
  intro c hmem
  obtain ⟨d, -, rfl⟩ := mem_map.mp hmem
  simp [GroupchatConnection.used]

end GroupC

namespace Conference

open GroupC FriendConnections

variable {others : List Nat} {own : GroupchatStatus × PublicKey} {bound : Nat} {conf : Conference} {g' : GroupC}

theorem Linked.of_links (h : Linked others own bound conf) (hlinks : g'.links = conf.g.links) :
    Linked others own bound { g := g', frC := conf.frC } := by
  have hown : g'.own = conf.g.own := congrArg Prod.fst hlinks
  have hconnections : g'.connections = conf.g.connections := congrArg (·.2.1) hlinks
  have hnum : g'.numIntroducerConnections = conf.g.numIntroducerConnections :=
    congrArg (·.2.2) hlinks
  have hslots : g'.slots = conf.g.slots := by
    unfold GroupC.slots
    rw [hconnections]
  have hlinked := h.congr hslots hnum
  rwa [hown, h.own] at hlinked

theorem linked_fillClosest (h : Linked others own bound conf) :
    Linked others own bound conf.fillClosest := by
  have hloop (peers : List GroupPeer) (g : GroupC) : (peers.foldl (fun g peer =>
      (g.addToClosest peer.realPk peer.tempPk).2) g).links = g.links := by
    induction peers generalizing g with
    | nil => rfl
    | cons peer peers ih => exact (ih _).trans (links_addToClosest g _ _)
  unfold fillClosest
  split
  · exact h.of_links (hloop _ _)
  · exact h

theorem linked_connectToClosest (h : Linked others own desiredClosest conf) (env : GroupEnv) :
    Linked others own desiredClosest (conf.connectToClosest env) := by
  unfold connectToClosest
  split
  · exact h
  · obtain ⟨hlinked, hpurged⟩ := linked_purgeClosest (linked_fillClosest h) env
    have hadd := linked_addClosestConnections hlinked hpurged (by decide) env
    generalize (conf.fillClosest.purgeClosest env).addClosestConnections env = conf' at hadd ⊢
    exact hadd.of_links rfl

theorem linked_removeUsed (h : Linked others own bound conf) (i : Nat) :
    Linked others own bound
      (if conf.g.connections[i]?.any (·.used) then conf.removeConnection i else conf) := by
  split
  · rename_i hany
    cases hc : conf.g.connections[i]? with
    | none =>
      rw [hc] at hany
      cases hany
    | some c =>
      rw [hc] at hany
      exact linked_removeConnection h hc hany
  · exact h

theorem linked_foldl {α : Type} {f : Conference → α → Conference}
    (hf : ∀ conf a, Linked others own bound conf → Linked others own bound (f conf a))
    (h : Linked others own bound conf) (list : List α) :
    Linked others own bound (list.foldl f conf) := by
  induction list generalizing conf with
  | nil => exact h
  | cons a list ih => exact ih (hf conf a h)

section

variable (h : Linked others own bound conf)
include h

theorem linked_cleanConnections :
    Linked others own bound conf.cleanConnections := by
  have hloop := linked_foldl (f := fun conf toClear =>
    if conf.g.connections[conf.g.cleanIndex toClear]?.any (·.used) then
      conf.removeConnection (conf.g.cleanIndex toClear) else conf)
    (fun conf toClear h => linked_removeUsed h _) h
    ((List.range conf.g.emptyConnectionCount).map (· + 1)).reverse
  have hlinked := hloop.congr (slots_squashConnections _) rfl
  rw [← hloop.own]
  exact hlinked

theorem linked_trySendRejoin (env : GroupEnv)
    (realPk : PublicKey) : Linked others own bound (conf.trySendRejoin env realPk) := by
  unfold trySendRejoin
  split
  · exact h
  · rename_i friendconId hfind
    split
    · exact h
    · exact linked_addConnToGroupchat h (isSome_of_getfriendConnIdPk hfind) (.inl (by decide))

theorem linked_delpeer (peerIndex : Nat) :
    Linked others own bound (conf.delpeer peerIndex) := by
  unfold delpeer
  split
  · exact h
  · rename_i peer _
    have hclosest : Linked others own bound { conf with g := conf.g.removeFromClosest peer.realPk } :=
      h.of_links (links_removeFromClosest conf.g peer.realPk)
    dsimp only
    split
    · exact hclosest.of_links rfl
    · split
      · exact hclosest.of_links rfl
      · rename_i i hfound
        obtain ⟨c, hc, hused, -⟩ := friendInConnections_eq_some hfound
        exact (linked_removeConnection hclosest hc hused).of_links rfl

theorem linked_freezePeer (env : GroupEnv)
    (peerIndex : Nat) : Linked others own bound (conf.freezePeer env peerIndex) := by
  unfold freezePeer
  split
  · exact h
  · rename_i peer _
    have hrejoin := linked_trySendRejoin (linked_delpeer h peerIndex) env peer.realPk
    exact hrejoin.of_links (links_deleteOldFrozen _)

theorem linked_deleteAnyPeerWithPk (realPk : PublicKey) :
    Linked others own bound (conf.deleteAnyPeerWithPk realPk) := by
  have hactive : Linked others own bound (conf.deleteActivePeerWithPk realPk) := by
    unfold deleteActivePeerWithPk
    split
    · exact h
    · exact linked_delpeer h _
  unfold deleteAnyPeerWithPk
  dsimp only
  split
  · exact hactive
  · exact hactive.of_links (links_deleteFrozen _ _)

theorem linked_addpeer (env : GroupEnv) (realPk tempPk : PublicKey) (peerNumber : UInt16) (fresh : Bool) :
    Linked others own bound (conf.addpeer env realPk tempPk peerNumber fresh).2 := by
  have hfound : Linked others own bound { conf with g :=
      (if fresh then conf.g.notePeerActive env peerNumber
        else (conf.g.getPeerIndex peerNumber, conf.g)).2 } := by
    cases fresh with
    | true => exact h.of_links (links_notePeerActive conf.g env peerNumber)
    | false => exact h
  unfold addpeer
  generalize (if fresh then conf.g.notePeerActive env peerNumber
        else (conf.g.getPeerIndex peerNumber, conf.g)) = found at hfound ⊢
  dsimp only at hfound ⊢
  split
  · split
    · exact hfound
    · unfold updatePeer
      split_ifs
      · exact hfound
      · exact hfound.of_links rfl
      · exact hfound
  · split
    · exact hfound.of_links rfl
    · have hdeleted := linked_deleteAnyPeerWithPk hfound realPk
      exact hdeleted.of_links (links_addToClosest _ _ _)

theorem linked_checkDisconnected (env : GroupEnv) :
    Linked others own bound (conf.checkDisconnected env) := by
  have hloop (fuel i : Nat) (conf : Conference) (h : Linked others own bound conf) :
      Linked others own bound (checkDisconnectedLoop env fuel i conf) := by
    induction fuel generalizing i conf with
    | zero => exact h
    | succ fuel ih =>
      rw [checkDisconnectedLoop]
      split
      · exact h
      · split
        · exact ih _ _ (linked_freezePeer h env i)
        · exact ih _ _ h
  unfold checkDisconnected
  split
  · exact h
  · exact hloop _ _ _ h

end

variable {i : Nat} {c : GroupchatConnection}

section

variable (h : Linked others own bound conf)
include h

theorem linked_setType (hc : conf.g.connections[i]? = some c) (hused : c.used)
    {f : GroupchatConnection → GroupchatConnection} (hf : (f c).used) (hnumber : (f c).number = c.number)
    (hreasons : (f c).reasons = c.reasons) :
    Linked others own bound { conf with g := conf.g.modifyConnection i f } := by
  have hhas (reason : Reason) : (f c).has reason = c.has reason := by
    unfold GroupchatConnection.has
    rw [hreasons]
  obtain ⟨rest, hold, hnew⟩ := slots_change hc hused hf
  obtain ⟨connections, hmodify⟩ := conf.g.modifyConnection_eq i f
  apply h.change hold hnew hnumber
  · rw [hhas]
    exact .inl
  · rw [hhas, hmodify]
    cases c.has .introducer <;> rfl
  · rw [hmodify]

theorem linked_setConnsTypeConnections (env : GroupEnv) (friendconId : Nat) :
    Linked others own bound (conf.setConnsTypeConnections env friendconId) := by
  refine linked_foldl (fun conf i h => ?_) h _
  unfold setOffline
  split
  · exact h
  · rename_i c hc
    split
    · exact h
    · rename_i hskip
      have hused : c.used := by
        rw [Bool.or_eq_true, not_or] at hskip
        simpa using hskip.1
      exact linked_checkDisconnected (linked_setType h hc hused rfl rfl rfl) env

theorem linked_setOnline (hc : conf.g.connections[i]? = some c) (hused : c.used) (groupNumber : UInt16) :
    Linked others own bound (conf.setOnline i groupNumber) :=
  linked_setType h hc hused rfl rfl rfl

theorem linked_addReason (hc : conf.g.connections[i]? = some c) (hused : c.used)
    {reason : Reason} (hreason : reason ≠ .closest) :
    Linked others own bound { conf with g := conf.g.addReason i reason } := by
  obtain ⟨c', rest, hold, hnew, -, -, hnumber, hhas, hnum⟩ := addReason_spec hc hused reason
  obtain ⟨connections, n, heq⟩ := conf.g.addReason_eq i reason
  apply h.change hold hnew hnumber (closest_of_ne (.inl hreason) hhas) hnum
  rw [heq]

end

theorem used_addReason {g : GroupC} {j : Nat} (reason : Reason) (hc : g.connections[i]? = some c) (hused : c.used) :
    ∃ c', (g.addReason j reason).connections[i]? = some c' ∧ c'.used := by
  unfold addReason
  split
  · have hget := g.getElem?_modifyConnection j i fun connection =>
      { connection with reasons := connection.reasons ||| reason.flag }
    rw [hc] at hget
    split <;>
    · rw [hget]
      split
      · exact ⟨_, rfl, hused⟩
      · exact ⟨c, rfl, hused⟩
  · exact ⟨c, hc, hused⟩

theorem linked_addInviteConn (h : Linked others own bound conf) {friendconId : Nat}
    (hid : (conf.frC.getConn friendconId).isSome) {first second : Reason} (hfirst : first ≠ .closest)
    (hsecond : second ≠ .closest) (member : Bool) (otherGroupnum : UInt16) :
    Linked others own bound (conf.addInviteConn friendconId first second member otherGroupnum) := by
  have hlinked := linked_addConnToGroupchat h hid (.inl hfirst)
  -- a slot that the first call returns is in use
  have hslot : ∀ i conf', conf.addConnToGroupchat friendconId first true = (some i, conf') →
      ∃ c, conf'.g.connections[i]? = some c ∧ c.used ∧ c.number = friendconId := by
    intro i conf' hadd
    rcases conf.addConnToGroupchat_cases friendconId first true with
      ⟨j, _, c', _, g', heq, -, -, hget, hused, -, hnumber, -⟩ |
      ⟨j, c', g', heq, -, hget, hused, -, hnumber, -⟩ | ⟨heq, -, -⟩ <;>
      rw [heq] at hadd <;> cases hadd <;> exact ⟨c', hget, hused, hnumber⟩
  have hnone : ∀ conf', conf.addConnToGroupchat friendconId first true = (none, conf') →
      conf' = conf ∧ conf.g.friendInConnections friendconId = none ∧ conf.g.emptySlot = none := by
    intro conf' hadd
    rcases conf.addConnToGroupchat_cases friendconId first true with
      ⟨j, _, c', _, g', heq, -⟩ | ⟨j, c', g', heq, -⟩ | ⟨heq, hfind, hempty⟩ <;>
      rw [heq] at hadd <;> cases hadd
    exact ⟨rfl, hfind, hempty⟩
  unfold addInviteConn
  generalize conf.addConnToGroupchat friendconId first true = added at hlinked hslot hnone ⊢
  obtain ⟨index, conf1⟩ := added
  dsimp only at hlinked ⊢
  cases index with
  | none =>
    obtain ⟨rfl, hfind, hempty⟩ := hnone conf1 rfl
    -- the second call fails as well
    have hfail : conf1.addConnToGroupchat friendconId second false = (none, conf1) := by
      unfold addConnToGroupchat
      rw [hfind, hempty]
    cases member with
    | false => exact hlinked
    | true =>
      rw [hfail]
      exact hlinked
  | some i =>
    obtain ⟨c, hc, hused, hnumber⟩ := hslot i conf1 rfl
    cases member with
    | false => exact linked_setOnline hlinked hc hused otherGroupnum
    | true =>
      cases hfind : conf1.g.friendInConnections friendconId with
      | none =>
        refine absurd ?_ (friendInConnections_eq_none hfind)
        rw [← hnumber]
        exact mem_map_of_mem (mem_slots_iff.mpr ⟨i, hc, hused⟩)
      | some j =>
        obtain ⟨d, hd, hdused, -⟩ := friendInConnections_eq_some hfind
        have hadd : (conf1.addConnToGroupchat friendconId second false).2 =
            { conf1 with g := conf1.g.addReason j second } := by
          unfold addConnToGroupchat
          rw [hfind]
        obtain ⟨c', hc', hused'⟩ := used_addReason (j := j) second hc hused
        rw [hadd]
        exact linked_setOnline (linked_addReason hlinked hd hdused hsecond) hc' hused' otherGroupnum

theorem linked_step (h : Linked others own desiredClosest conf) (env : GroupEnv) (input : ConferenceInput) :
    Linked others own desiredClosest (conf.step env input) := by
  cases input with
  | addpeer realPk tempPk peerNumber fresh => exact linked_addpeer h env realPk tempPk peerNumber fresh
  | notePeerActive peerNumber => exact h.of_links (links_notePeerActive conf.g env peerNumber)
  | freezePeer peerIndex => exact linked_freezePeer h env peerIndex
  | delpeer peerIndex => exact linked_delpeer h peerIndex
  | deleteFrozen frozenIndex => exact h.of_links (links_deleteFrozen conf.g frozenIndex)
  | deleteOldFrozen => exact h.of_links (links_deleteOldFrozen conf.g)
  | setMaxFrozen maxfrozen => exact h.of_links (links_deleteOldFrozen { conf.g with maxfrozen })
  | setnick peerIndex nick => exact h.of_links rfl
  | inviteResponse friendconId member otherGroupnum =>
    simp only [step, onFriendcon]
    split
    · rename_i hid
      exact linked_addInviteConn h hid (by decide) (by decide) member otherGroupnum
    · exact h
  | inviteAccepted friendconId member otherGroupnum =>
    simp only [step, onFriendcon]
    split
    · rename_i hid
      exact linked_addInviteConn h hid (by decide) (by decide) member otherGroupnum
    · exact h
  | rejoin friendconId =>
    simp only [step, onFriendcon]
    split
    · rename_i hid
      exact linked_addConnToGroupchat h hid (.inl (by decide))
    · exact h
  | sendRejoin realPk => exact linked_trySendRejoin h env realPk
  | packetOnline friendconId otherGroupnum =>
    simp only [step]
    split
    · exact h
    · rename_i i hfind
      obtain ⟨c, hc, hused, -⟩ := friendInConnections_eq_some hfind
      exact linked_setOnline h hc hused otherGroupnum
  | offline friendconId => exact linked_setConnsTypeConnections h env friendconId
  | removeReason i reason =>
    simp only [step, onSlot]
    cases hc : conf.g.connections[i]? with
    | none => exact h
    | some c =>
      split
      · rename_i hused
        exact linked_removeConnectionReason h hc hused reason
      · exact h
  | removeConnection i => exact linked_removeUsed h i
  | connectToClosest => exact linked_connectToClosest h env
  | cleanConnections => exact linked_cleanConnections h

end Conference

/-! ## All conferences -/

namespace GroupState

open GroupC FriendConnections

def numbers (g : GroupC) : List Nat := g.slots.map (·.number)

structure SlotsInv (s : GroupState) : Prop where
  slots : ∀ g ∈ s.gC.chats, g.SlotsOk desiredClosest
  /-- Conferences that are not in use have no connections. -/
  none : ∀ g ∈ s.gC.chats, g.status = .none → g.slots = []
  /-- Our own key is that of the messenger. -/
  key : ∀ g ∈ s.gC.chats, g.status ≠ .none → g.realPk = s.gC.selfPublicKey
  length : s.gC.chats.length < 2 ^ 16
  held : Held (s.gC.chats.flatMap numbers ++ s.friends) s.gC.frC

variable {s : GroupState}

def others (s : GroupState) (groupnumber : Nat) : List Nat :=
  (s.gC.chats.eraseIdx groupnumber).flatMap numbers ++ s.friends

variable {i : Nat} {g : GroupC}

theorem flatMap_numbers_perm {chats : List GroupC} (h : chats[i]? = some g) :
    (chats.flatMap numbers).Perm (numbers g ++ (chats.eraseIdx i).flatMap numbers) := by
  obtain ⟨hi, rfl⟩ := List.getElem?_eq_some_iff.mp h
  exact ((getElem_cons_eraseIdx_perm hi).symm.flatMap_right numbers)

theorem SlotsInv.linked (h : s.SlotsInv) {groupnumber : Nat} (hg : s.gC.chats[groupnumber]? = some g) :
    Conference.Linked (s.others groupnumber) g.own desiredClosest { g, frC := s.gC.frC } := by
  refine ⟨rfl, h.slots g (mem_of_getElem? hg), h.held.perm ?_⟩
  have hperm := (flatMap_numbers_perm hg).append_right s.friends
  rw [append_assoc] at hperm
  exact hperm

theorem SlotsInv.set (h : s.SlotsInv) {groupnumber : Nat} (hg : s.gC.chats[groupnumber]? = some g)
    {own : GroupchatStatus × PublicKey} {conf : Conference}
    (hlinked : Conference.Linked (s.others groupnumber) own desiredClosest conf)
    (hnone : own.1 = .none → conf.g.slots = []) (hkey : own.1 ≠ .none → own.2 = s.gC.selfPublicKey) :
    SlotsInv { s with gC := { s.gC with
      chats := s.gC.chats.set groupnumber conf.g, frC := conf.frC } } := by
  refine ⟨fun g' hmem => ?_, fun g' hmem => ?_, fun g' hmem => ?_, ?_, ?_⟩
  · rcases mem_or_eq_of_mem_set hmem with hmem | rfl
    · exact h.slots g' hmem
    · exact hlinked.slots
  · rcases mem_or_eq_of_mem_set hmem with hmem | rfl
    · exact h.none g' hmem
    · intro hstatus
      apply hnone
      rw [← hlinked.own]
      exact hstatus
  · rcases mem_or_eq_of_mem_set hmem with hmem | rfl
    · exact h.key g' hmem
    · rw [← hlinked.own] at hkey
      exact hkey
  · rw [length_set]
    exact h.length
  · apply hlinked.held.perm
    have hlt := (List.getElem?_eq_some_iff.mp hg).1
    have hperm := ((set_perm_cons_eraseIdx hlt conf.g).flatMap_right numbers).append_right s.friends
    rw [flatMap_cons, append_assoc] at hperm
    exact hperm.symm

theorem SlotsInv.modify (h : s.SlotsInv) (groupnumber : Nat) (f : GroupC → GroupC)
    (hf : ∀ g : GroupC, (f g).connections = g.connections ∧
      (f g).numIntroducerConnections = g.numIntroducerConnections ∧
      ((f g).status = .none → g.status = .none) ∧ (f g).realPk = s.gC.selfPublicKey) :
    SlotsInv { s with gC := { s.gC with chats := s.gC.chats.modify groupnumber f } } := by
  rw [modify_eq_set_getElem?]
  cases hg : s.gC.chats[groupnumber]? with
  | none => exact h
  | some g =>
    obtain ⟨hconnections, hnum, hstatus, hkey⟩ := hf g
    have hslots : (f g).slots = g.slots := by
      unfold GroupC.slots
      rw [hconnections]
    apply h.set hg ((h.linked hg).congr hslots hnum)
    · intro hnone
      rw [hslots]
      exact h.none g (mem_of_getElem? hg) (hstatus hnone)
    · exact fun _ => hkey

variable {gC : GroupChats}

theorem slotsInv_createGroupChat (h : s.SlotsInv) (hcreate : s.gC.createGroupChat = .ok (i, gC))
    : SlotsInv { s with gC } := by
  unfold GroupChats.createGroupChat at hcreate
  split at hcreate
  · cases hcreate
    exact h
  · split at hcreate
    · cases hcreate
    · cases hcreate
      rename_i hzero
      have hslots : setupConference.slots = [] := by decide +kernel
      refine ⟨fun g hmem => ?_, fun g hmem => ?_, fun g hmem => ?_, ?_, ?_⟩
      · rcases mem_append.mp hmem with hmem | hmem
        · exact h.slots g hmem
        · obtain rfl := mem_singleton.mp hmem
          exact ⟨by rw [hslots]; rfl, by rw [hslots]; exact nodup_nil, by rw [hslots]; exact Nat.zero_le _⟩
      · rcases mem_append.mp hmem with hmem | hmem
        · exact h.none g hmem
        · obtain rfl := mem_singleton.mp hmem
          exact fun _ => hslots
      · rcases mem_append.mp hmem with hmem | hmem
        · exact h.key g hmem
        · obtain rfl := mem_singleton.mp hmem
          exact fun hne => absurd rfl hne
      · have hlength := h.length
        have hne : s.gC.chats.length + 1 ≠ 2 ^ 16 := by
          intro heq
          rw [heq] at hzero
          exact hzero rfl
        rw [length_append, length_singleton]
        omega
      · rw [flatMap_append, flatMap_singleton, numbers, hslots, map_nil, append_nil]
        exact h.held

theorem slotsInv_onConference (h : s.SlotsInv) (groupnumber : Nat) {f : Conference → Conference}
    (hf : ∀ others own conf, Conference.Linked others own desiredClosest conf →
      (∀ id ∈ s.friends, (conf.frC.getConn id).isSome) →
      Conference.Linked others own desiredClosest (f conf)) :
    SlotsInv { s with gC := s.gC.onConference groupnumber f } := by
  unfold GroupChats.onConference
  cases hget : s.gC.getGroupC groupnumber with
  | none => exact h
  | some g =>
    obtain ⟨hg, hstatus⟩ := Option.filter_eq_some_iff.mp hget
    have hfriends : ∀ id ∈ s.friends, (s.gC.frC.getConn id).isSome := by
      intro id hmem
      obtain ⟨friendCon, hconn⟩ := h.held.getConn_of_mem (mem_append_right _ hmem)
      rw [hconn]
      rfl
    apply h.set hg (hf _ _ _ (h.linked hg) hfriends)
    · intro hnone
      rw [show g.status = .none from hnone] at hstatus
      cases hstatus
    · exact h.key g (mem_of_getElem? hg)

theorem slotsInv_addSelf (h : s.SlotsInv) (env : GroupEnv) (groupnumber : Nat)
    (peerNumber : UInt16) : SlotsInv { s with gC := (s.gC.addSelf env groupnumber peerNumber).2 } := by
  unfold GroupChats.addSelf
  cases hget : s.gC.getGroupC groupnumber with
  | none => exact h
  | some g =>
    obtain ⟨hg, hstatus⟩ := Option.filter_eq_some_iff.mp hget
    have hlinked := Conference.linked_addpeer (h.linked hg) env g.realPk s.gC.dhtPublicKey peerNumber true
    have hnone {slots : List GroupchatConnection} : g.own.1 = .none → slots = [] := by
      intro hnone
      rw [show g.status = .none from hnone] at hstatus
      cases hstatus
    dsimp only
    split
    · rename_i conf heq
      rw [heq] at hlinked
      exact h.set hg hlinked hnone (h.key g (mem_of_getElem? hg))
    · rename_i peerIndex conf heq
      rw [heq] at hlinked
      have hnick : Conference.Linked (s.others groupnumber) g.own desiredClosest
          { conf with g := conf.g.setnick peerIndex s.gC.name } := hlinked.of_links rfl
      exact h.set hg hnick hnone (h.key g (mem_of_getElem? hg))

theorem held_foldl_kill {others : List Nat} {frC : FriendConnections} (connections : List GroupchatConnection)
    (h : Held (connections.map (·.number) ++ others) frC) :
    Held others (connections.foldl (fun frC connection => frC.killFriendConnection connection.number) frC) := by
  induction connections generalizing frC with
  | nil => exact h
  | cons c connections ih => exact ih (held_kill h)

theorem flatMap_numbers_rdropWhile {chats : List GroupC}
    (hnone : ∀ g ∈ chats, g.status = .none → g.slots = []) :
    (chats.rdropWhile fun g => g.status == .none).flatMap numbers = chats.flatMap numbers := by
  have hsplit := rdropWhile_append_rtakeWhile (p := fun g : GroupC => g.status == .none) (l := chats)
  have hempty : (chats.rtakeWhile fun g => g.status == .none).flatMap numbers = [] := by
    rw [flatMap_eq_nil_iff]
    intro g hmem
    have hstatus : g.status = .none := by simpa using mem_rtakeWhile_imp hmem
    have hmem : g ∈ chats := (rtakeWhile_suffix _ _).subset hmem
    rw [numbers, hnone g hmem hstatus, map_nil]
  conv_rhs => rw [← hsplit, flatMap_append, hempty, append_nil]

theorem slotsInv_delGroupchat (h : s.SlotsInv) (groupnumber : Nat) :
    SlotsInv { s with gC := s.gC.delGroupchat groupnumber } := by
  unfold GroupChats.delGroupchat GroupChats.wipeGroupChat
  cases hget : s.gC.getGroupC groupnumber with
  | none => exact h
  | some g =>
    obtain ⟨hg, -⟩ := Option.filter_eq_some_iff.mp hget
    have hempty : emptyGroupC.slots = [] := by decide +kernel
    let frC := g.slots.foldl (fun frC connection => frC.killFriendConnection connection.number) s.gC.frC
    have hlinked : Conference.Linked (s.others groupnumber) emptyGroupC.own desiredClosest
        { g := emptyGroupC, frC } := by
      refine ⟨rfl, ⟨by rw [hempty]; rfl, by rw [hempty]; exact nodup_nil,
        by rw [hempty]; exact Nat.zero_le _⟩, ?_⟩
      exact held_foldl_kill g.slots (h.linked hg).held
    have hset := h.set hg hlinked (fun _ => hempty) fun hne => absurd rfl hne
    have hlt := (List.getElem?_eq_some_iff.mp hg).1
    dsimp only
    rw [if_neg (Nat.not_le_of_lt hlt)]
    have hsub : ∀ g' ∈ (s.gC.chats.set groupnumber emptyGroupC).rdropWhile
        (fun g => g.status == .none), g' ∈ s.gC.chats.set groupnumber emptyGroupC :=
      ( rdropWhile_prefix _ _).subset
    refine ⟨fun g' hmem => hset.slots g' (hsub g' hmem), fun g' hmem => hset.none g' (hsub g' hmem),
      fun g' hmem => hset.key g' (hsub g' hmem), ?_, ?_⟩
    · exact Nat.lt_of_le_of_lt ( rdropWhile_prefix _ _).length_le hset.length
    · rw [flatMap_numbers_rdropWhile hset.none]
      exact hset.held

theorem slotsInv_addGroupchat (h : s.SlotsInv) {env : GroupEnv} {type : UInt8} {id : PublicKey}
    (hadd : s.gC.addGroupchat env type id = .ok gC) : SlotsInv { s with gC } := by
  unfold GroupChats.addGroupchat at hadd
  cases hcreate : s.gC.createGroupChat with
  | error => simp [hcreate, bind, Except.bind] at hadd
  | ok r =>
    rw [hcreate] at hadd
    cases hadd
    have hcreated := slotsInv_createGroupChat h hcreate
    have hmodified := hcreated.modify r.1
      (fun g => { g with status := .connected, type, id, peerNumber := 0, realPk := r.2.selfPublicKey })
      fun g => ⟨rfl, rfl, nofun, rfl⟩
    exact slotsInv_addSelf hmodified env r.1 0

theorem slotsInv_joinGroupchat (h : s.SlotsInv) {sent : Bool} {type : UInt8} {id : PublicKey} {otherGroupnum : UInt16}
    (hjoin : s.gC.joinGroupchat s.friends[i]? sent type id otherGroupnum = .ok gC) :
    SlotsInv { s with gC } := by
  unfold GroupChats.joinGroupchat at hjoin
  split at hjoin
  · cases hjoin
    exact h
  · rename_i friendconId hfriend
    split at hjoin
    · cases hjoin
      exact h
    · cases hcreate : s.gC.createGroupChat with
      | error => simp [hcreate, bind, Except.bind] at hjoin
      | ok r =>
        rw [hcreate] at hjoin
        have hcreated := slotsInv_createGroupChat h hcreate
        cases sent with
        | false =>
          cases hjoin
          exact hcreated.modify r.1 (fun g => { g with realPk := r.2.selfPublicKey })
            fun g => ⟨rfl, rfl, fun hnone => hnone, rfl⟩
        | true =>
          cases hjoin
          have hmodified := hcreated.modify r.1
            (fun g => { g with status := .valid, realPk := r.2.selfPublicKey, type, id })
            fun g => ⟨rfl, rfl, nofun, rfl⟩
          refine slotsInv_onConference hmodified r.1 fun others own conf hlinked hfriends => ?_
          exact Conference.linked_addInviteConn hlinked
            (hfriends friendconId (mem_of_getElem? hfriend)) (by decide) (by decide) false
            otherGroupnum

theorem slotsInv_step {s' : GroupState} {env : GroupEnv} {input : GroupInput} (h : s.SlotsInv)
    (hstep : s.step env input = .ok s') : s'.SlotsInv := by
  cases input with
  | addGroupchat type id =>
    simp only [step] at hstep
    cases hadd : s.gC.addGroupchat env type id with
    | error => simp [hadd, bind, Except.bind] at hstep
    | ok gC =>
      rw [hadd] at hstep
      cases hstep
      exact slotsInv_addGroupchat h hadd
  | joinGroupchat i sent type id otherGroupnum =>
    simp only [step] at hstep
    cases hjoin : s.gC.joinGroupchat s.friends[i]? sent type id otherGroupnum with
    | error => simp [hjoin, bind, Except.bind] at hstep
    | ok gC =>
      rw [hjoin] at hstep
      cases hstep
      exact slotsInv_joinGroupchat h hjoin
  | delGroupchat groupnumber =>
    cases hstep
    exact slotsInv_delGroupchat h groupnumber
  | conference groupnumber input =>
    cases hstep
    exact slotsInv_onConference h groupnumber fun others own conf hlinked _ =>
      Conference.linked_step hlinked env input
  | addFriend realPk =>
    simp only [step] at hstep
    split at hstep <;> cases hstep
    · rename_i frC hnew
      exact ⟨h.slots, h.none, h.key, h.length, (held_newFriendConnection_none h.held hnew).1⟩
    · rename_i friendconId frC hnew
      exact ⟨h.slots, h.none, h.key, h.length,
        (held_newFriendConnection h.held hnew).1.perm perm_middle.symm⟩
  | delFriend i =>
    simp only [step] at hstep
    split at hstep <;> cases hstep
    · exact h
    · rename_i friendconId hfriend
      refine ⟨h.slots, h.none, h.key, h.length, held_kill (h.held.perm ?_)⟩
      obtain ⟨hi, rfl⟩ := List.getElem?_eq_some_iff.mp hfriend
      have hperm := (getElem_cons_eraseIdx_perm hi).symm
      exact (hperm.append_left _).trans perm_middle

theorem slotsInv_of_reachable (h : groupSystem.Reachable s) : s.SlotsInv := by
  refine TransitionSystem.Reachable.invariant ?_ ?_ h
  · rintro s ⟨hchats, hconns, hfriends⟩
    have hnil {P : GroupC → Prop} : ∀ g ∈ s.gC.chats, P g := by
      rw [hchats]
      exact fun g hmem => by cases hmem
    refine ⟨hnil, hnil, hnil, by rw [hchats]; decide, ⟨fun c hmem => ?_, fun i j pk hi => ?_, fun id => ?_⟩⟩
    · rw [hconns] at hmem
      cases hmem
    · simp [getFriendconPublicKeys, getConn, hconns] at hi
    · simp [FriendConnections.refs, getConn, hconns, hchats, hfriends]
  · rintro s s' hs ⟨env, input, hstep⟩
    exact slotsInv_step hs hstep

end GroupState

theorem length_filter_range_le {α : Type} {n : Nat} (v : Vector α n) (p q : α → Bool)
    (r : Nat → Bool) (hpq : ∀ a, p a → q a) :
    ((List.range n).filter fun i => v[i]?.any p && r i).length ≤ v.toList.countP q := by
  have hmap : (List.range n).map (v[·]?) = v.toList.map some := by
    apply ext_getElem?
    intro i
    by_cases hi : i < n
    · simp [hi]
    · simp [Nat.le_of_not_lt hi]
  calc ((List.range n).filter fun i => v[i]?.any p && r i).length
      = (List.range n).countP (fun i => v[i]?.any p && r i) := countP_eq_length_filter.symm
    _ ≤ (List.range n).countP ((Option.any q) ∘ (v[·]?)) := by
        apply countP_mono_left
        intro i _ hi
        rw [Bool.and_eq_true] at hi
        cases hv : v[i]? with
        | none => simp [hv] at hi
        | some a =>
          rw [hv] at hi
          simp only [Function.comp_apply, hv]
          exact hpq a hi.1
    _ = v.toList.countP q := by
        rw [← countP_map, hmap, countP_map]
        rfl

/-- In every reachable state: `num_introducer_connections` are there for an introducer, no two have one friend
    connection, and at most `DESIRED_CLOSEST` are to closest peers. -/
theorem slots_of_reachable {s : GroupState} (h : groupSystem.Reachable s) {g : GroupC} (hg : g ∈ s.gC.chats) :
    g.numIntroducerConnections.toNat = g.connections.toList.countP (fun c => c.used && c.has .introducer) ∧
    ((g.connections.toList.filter (·.used)).map (·.number)).Nodup ∧
    g.connections.toList.countP (fun c => c.used && c.has .closest) ≤ desiredClosest ∧
    ∀ frC receiver, (Conference.connectedClosest { g, frC } receiver).length ≤ desiredClosest := by
  have hslots := (GroupState.slotsInv_of_reachable h).slots g hg
  have hcount (reason : Reason) : g.connections.toList.countP (fun c => c.used && c.has reason) =
      g.slots.countP (·.has reason) := by
    unfold GroupC.slots
    rw [countP_filter]
    congr 1
    funext c
    exact Bool.and_comm _ _
  have hclosest : g.connections.toList.countP (fun c => c.used && c.has .closest) ≤
      desiredClosest := by
    rw [hcount]
    exact hslots.closest
  refine ⟨?_, hslots.numbers, hclosest, fun frC receiver => ?_⟩
  · have hle := g.countP_slots_le (·.has .introducer)
    rw [hcount, hslots.introducers, UInt32.toNat_ofNat_of_lt']
    exact Nat.lt_of_le_of_lt hle (by decide)
  · refine Nat.le_trans (length_filter_range_le g.connections _ _ _ fun c hc => ?_) hclosest
    rw [Bool.and_eq_true, beq_iff_eq] at hc
    simp [GroupchatConnection.used, hc.1, hc.2]

def closestRun : GroupState := emptyGroupState.run quietEnv
  [.addGroupchat 0 (Vector.replicate _ 7),
    .conference 0 (.addpeer (Vector.replicate _ 2) (Vector.replicate _ 3) 1 true),
    .conference 0 .connectToClosest]

def closestConference : GroupC := closestRun.gC.chats.headD emptyGroupC

theorem slots_closestRun :
    closestConference.connections.toList.countP (fun c => c.used && c.has .closest) = 1 ∧
    closestConference.numIntroducerConnections.toNat =
      closestConference.connections.toList.countP (fun c => c.used && c.has .introducer) ∧
    ∀ frC receiver, (Conference.connectedClosest { g := closestConference, frC } receiver).length ≤ 4 := by
  have hreach : groupSystem.Reachable closestRun :=
    GroupState.reachable_run quietEnv (.init ⟨rfl, rfl, rfl⟩) _
  obtain ⟨hintroducers, -, -, hlossy⟩ :=
    slots_of_reachable hreach (g := closestConference) (List.headD_mem (by decide +kernel))
  exact ⟨by decide +kernel, hintroducers, hlossy⟩

end Toxcore
