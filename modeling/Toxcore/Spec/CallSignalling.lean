import Toxcore.ForStd.TransitionSystem
import Toxcore.Native.Msi

/-!
# Two friends agree on their call

Two sides that call the functions of `msi.c` in any order, with a reliable channel in each direction. The
messages do not say which call they belong to, so a push or a pop of a call that is over may be taken for one of
a newer call. As long as no invite crosses a push or a pop, the sides agree whenever nothing is in flight: their
views, once all that is on its way has been handled, agree in every state.
-/

namespace Toxcore

open List

def okCallbacks : MSICallbacks := fun _ _ => true

/-- A message on its way and the number of the invitation that the sender's call is about. -/
abbrev MsiPacket := MSIMessage × Nat

/-- One side: its call, the number of its invitation, and what is on its way to it. The numbers are for the
    statements only. -/
structure MsiSide where
  slot : Option MSICall
  invitation : Nat
  inbox : List MsiPacket
deriving DecidableEq

/-- Both sides, the number of the next invitation, the answered ones, and those that crossed. -/
structure MsiPair where
  side : Bool → MsiSide
  invitations : Nat
  answered : List Nat
  crossed : List (Nat × Nat)

inductive MsiAct where
  | invite (x : Bool) (capabilities : UInt8)
  | hangup (x : Bool)
  | answer (x : Bool) (capabilities : UInt8)
  | changeCapabilities (x : Bool) (capabilities : UInt8)
  | deliver (x : Bool)

/-- The call and its invitation after `m` was handled. -/
def hears (view : Option MSICall × Nat) (m : MsiPacket) : Option MSICall × Nat :=
  ((handleMsiPacket okCallbacks view.1 (sendMessage m.1)).1,
    if view.1 = none ∧ m.1.request = .init then m.2 else view.2)

namespace MsiPair

def update (s : MsiPair) (x : Bool) (me : MsiSide) (sent : List MSIMessage) (z : Bool) : MsiSide :=
  if z = x then me
  else { s.side z with inbox := (s.side z).inbox ++ sent.map fun msg => (msg, me.invitation) }

def called (s : MsiPair) (x : Bool) (result : Option (Option MSICall × List MSIMessage)) :
    MsiPair :=
  match result with
  | none => s
  | some (slot, sent) => { s with side := s.update x { s.side x with slot } sent }

def step (s : MsiPair) : MsiAct → MsiPair
  | .invite x capabilities =>
    match msiInvite (s.side x).slot capabilities with
    | none => s
    | some (slot, sent) =>
      { s with
        side := s.update x { s.side x with slot, invitation := s.invitations } sent
        invitations := s.invitations + 1
        crossed := s.crossed ++ ((s.side x).inbox.filter (·.1.request = .init)).map
          fun m => (s.invitations, m.2) }
  | .hangup x => s.called x (msiHangup (s.side x).slot)
  | .answer x capabilities =>
    match msiAnswer (s.side x).slot capabilities with
    | none => s
    | some result =>
      { s.called x (some result) with answered := s.answered ++ [(s.side x).invitation] }
  | .changeCapabilities x capabilities =>
    s.called x (msiChangeCapabilities (s.side x).slot capabilities)
  | .deliver x =>
    match (s.side x).inbox with
    | [] => s
    | m :: inbox =>
      let (slot, sent) := handleMsiPacket okCallbacks (s.side x).slot (sendMessage m.1)
      let invitation := (hears ((s.side x).slot, (s.side x).invitation) m).2
      { s with side := s.update x { slot, invitation, inbox } sent }

def Starts (s : MsiPair) : Prop :=
  (∀ x, (s.side x).slot = none ∧ (s.side x).inbox = []) ∧ s.answered = [] ∧ s.crossed = []

def NoInit (inbox : List MsiPacket) : Prop := ∀ m ∈ inbox, m.1.request ≠ .init

instance (inbox : List MsiPacket) : Decidable (NoInit inbox) :=
  inferInstanceAs (Decidable (∀ m ∈ inbox, m.1.request ≠ .init))

def OnlyInit (inbox : List MsiPacket) : Prop := ∀ m ∈ inbox, m.1.request = .init

/-- No init is sent while a push or a pop is on its way to the sender, nor the other way round. -/
def Careful (s : MsiPair) : MsiAct → Prop
  | .invite x _ => (s.side x).slot = none → OnlyInit (s.side x).inbox
  | .hangup x => (s.side x).slot ≠ none → NoInit (s.side x).inbox
  | .answer x _ => ((s.side x).slot.map MSICall.state) = some .requested → NoInit (s.side x).inbox
  | .changeCapabilities x _ =>
    ((s.side x).slot.map MSICall.state) = some .active → NoInit (s.side x).inbox
  | .deliver x =>
    match (s.side x).inbox with
    | [] => True
    | m :: inbox => (s.side x).slot ≠ none → m.1.request = .init → NoInit inbox

def system : TransitionSystem MsiPair where
  init := Starts
  step s t := ∃ act, s.Careful act ∧ t = s.step act

end MsiPair

/-! ## What a side does with a message -/

theorem handleMsiPacket_sendMessage (slot : Option MSICall) (msg : MSIMessage) :
    handleMsiPacket okCallbacks slot (sendMessage msg) =
      if slot = none ∧ msg.request ≠ .init then (none, [])
      else
        match msg.request with
        | .init => handleInit okCallbacks (slot.getD newCall) msg
        | .push => handlePush okCallbacks (slot.getD newCall) msg
        | .pop => handlePop := by
  have hlen := length_sendMessage msg
  have hparse := msgParseIn_sendMessage msg
  rw [handleMsiPacket]
  generalize msgParseIn ((sendMessage msg).drop 1) = parsed at hparse
  subst hparse
  rfl

abbrev pushMsg (capabilities : UInt8) : MSIMessage := msgCapabilities .push capabilities

abbrev initMsg (capabilities : UInt8) : MSIMessage := msgCapabilities .init capabilities

abbrev popMsg : MSIMessage := msgInit .pop

section hear

variable (slot : Option MSICall) (call : MSICall) (capabilities : UInt8)

theorem handle_pop : handleMsiPacket okCallbacks slot (sendMessage popMsg) = (none, []) := by
  rw [handleMsiPacket_sendMessage]
  split <;> rfl

theorem handle_push_none :
    handleMsiPacket okCallbacks none (sendMessage (pushMsg capabilities)) = (none, []) := by
  rfl

theorem handle_init_none :
    handleMsiPacket okCallbacks none (sendMessage (initMsg capabilities)) =
      (some { newCall with peerCapabilities := capabilities, state := .requested }, []) := by
  rfl

variable {call}

theorem handle_push_active (h : call.state = .active) :
    handleMsiPacket okCallbacks (some call) (sendMessage (pushMsg capabilities)) =
      (some { call with peerCapabilities := capabilities }, []) := by
  rw [handleMsiPacket_sendMessage, if_neg (by simp)]
  simp only [msgCapabilities, msgInit, Option.getD_some, handlePush, h]
  split
  · rfl
  · rename_i heq
    rw [← not_not.mp heq, ← h]

theorem handle_push_requesting (h : call.state = .requesting) :
    handleMsiPacket okCallbacks (some call) (sendMessage (pushMsg capabilities)) =
      (some { call with peerCapabilities := capabilities, state := .active }, []) := by
  rw [handleMsiPacket_sendMessage]
  simp [msgCapabilities, msgInit, handlePush, h, invokeCallback, okCallbacks]

theorem handle_init_requesting (h : call.state = .requesting) :
    handleMsiPacket okCallbacks (some call) (sendMessage (initMsg capabilities)) =
      (some { call with peerCapabilities := capabilities, state := .active },
        [pushMsg call.selfCapabilities]) := by
  rw [handleMsiPacket_sendMessage]
  simp [msgCapabilities, msgInit, handleInit, h, invokeCallback, okCallbacks]

variable (k n : Nat)

theorem hears_pop : hears (slot, k) (popMsg, n) = (none, k) := by
  rw [hears, handle_pop]
  rw [if_neg (fun h => nomatch h.2)]

theorem hears_push_none : hears (none, k) (pushMsg capabilities, n) = (none, k) := by
  rfl

theorem hears_init_none : hears (none, k) (initMsg capabilities, n) =
    (some { newCall with peerCapabilities := capabilities, state := .requested }, n) := by
  rfl

theorem hears_push_active (h : call.state = .active) :
    hears (some call, k) (pushMsg capabilities, n) =
      (some { call with peerCapabilities := capabilities }, k) := by
  rw [hears, handle_push_active capabilities h]
  rfl

theorem hears_push_requesting (h : call.state = .requesting) :
    hears (some call, k) (pushMsg capabilities, n) =
      (some { call with peerCapabilities := capabilities, state := .active }, k) := by
  rw [hears, handle_push_requesting capabilities h]
  rfl

theorem hears_init_requesting (h : call.state = .requesting) :
    hears (some call, k) (initMsg capabilities, n) =
      (some { call with peerCapabilities := capabilities, state := .active }, k) := by
  rw [hears, handle_init_requesting capabilities h]
  rfl

end hear

/-- An init never meets an active or requested call, and a push never a requested one. -/
inductive Expected : Option MSICall → MSIMessage → Prop where
  | pop {slot : Option MSICall} {msg : MSIMessage} (hmsg : msg = popMsg) : Expected slot msg
  | initNone {msg : MSIMessage} (c : UInt8) (hmsg : msg = initMsg c) : Expected none msg
  | initRequesting {call : MSICall} {msg : MSIMessage} (c : UInt8) (hmsg : msg = initMsg c)
    (hstate : call.state = .requesting) : Expected (some call) msg
  | pushNone {msg : MSIMessage} (c : UInt8) (hmsg : msg = pushMsg c) : Expected none msg
  | pushRequesting {call : MSICall} {msg : MSIMessage} (c : UInt8) (hmsg : msg = pushMsg c)
    (hstate : call.state = .requesting) : Expected (some call) msg
  | pushActive {call : MSICall} {msg : MSIMessage} (c : UInt8) (hmsg : msg = pushMsg c)
    (hstate : call.state = .active) : Expected (some call) msg

def Fits (view : Option MSICall × Nat) : List MsiPacket → Prop
  | [] => True
  | m :: inbox => Expected view.1 m.1 ∧ Fits (hears view m) inbox

def viewOf (view : Option MSICall × Nat) (inbox : List MsiPacket) : Option MSICall × Nat :=
  inbox.foldl hears view

theorem viewOf_append (view : Option MSICall × Nat) (inbox : List MsiPacket) (m : MsiPacket) :
    viewOf view (inbox ++ [m]) = hears (viewOf view inbox) m := by
  rw [viewOf, foldl_append]
  rfl

theorem fits_append {view : Option MSICall × Nat} {inbox : List MsiPacket} {m : MsiPacket}
    (h : Fits view inbox) (hm : Expected (viewOf view inbox).1 m.1) :
    Fits view (inbox ++ [m]) := by
  induction inbox generalizing view with
  | nil => exact ⟨hm, trivial⟩
  | cons first inbox ih => exact ⟨h.1, ih h.2 hm⟩

section views

variable {call : MSICall} {k : Nat} {inbox : List MsiPacket}

open MsiPair (NoInit OnlyInit)

theorem NoInit_tail {m : MsiPacket} (h : NoInit (m :: inbox)) : NoInit inbox :=
  fun m' hm' => h m' (mem_cons_of_mem _ hm')

theorem viewOf_none (hno : NoInit inbox) (h : Fits (none, k) inbox) :
    viewOf (none, k) inbox = (none, k) := by
  induction inbox with
  | nil => rfl
  | cons m inbox ih =>
    obtain ⟨msg, n⟩ := m
    obtain ⟨hm, hrest⟩ := h
    have hstep : hears (none, k) (msg, n) = (none, k) := by
      cases hm with
      | pop hmsg =>
        subst hmsg
        exact hears_pop none k n
      | initNone c hmsg =>
        subst hmsg
        exact absurd rfl (hno _ mem_cons_self)
      | pushNone c hmsg =>
        subst hmsg
        exact hears_push_none c k n
    rw [hstep] at hrest
    rw [viewOf, foldl_cons, hstep]
    exact ih (NoInit_tail hno) hrest

theorem viewOf_active (hno : NoInit inbox) (hactive : call.state = .active) (h : Fits (some call, k) inbox) :
    (∀ self, Fits (some { call with selfCapabilities := self }, k) inbox) ∧
    ((∀ self, viewOf (some { call with selfCapabilities := self }, k) inbox = (none, k)) ∨
      ∃ peer, ∀ self, viewOf (some { call with selfCapabilities := self }, k) inbox =
        (some { call with selfCapabilities := self, peerCapabilities := peer }, k)) := by
  induction inbox generalizing call with
  | nil => exact ⟨fun _ => trivial, .inr ⟨call.peerCapabilities, fun _ => rfl⟩⟩
  | cons m inbox ih =>
    obtain ⟨msg, n⟩ := m
    obtain ⟨hm, hrest⟩ := h
    have hno' := NoInit_tail hno
    cases hm with
    | pop hmsg =>
      subst hmsg
      rw [hears_pop] at hrest
      have hstep : ∀ self, hears (some { call with selfCapabilities := self }, k) (popMsg, n) =
          (none, k) := fun self => hears_pop _ k n
      refine ⟨fun self => ⟨.pop rfl, ?_⟩, .inl fun self => ?_⟩
      · rw [hstep self]
        exact hrest
      · exact viewOf_none hno' hrest
    | initRequesting c hmsg hstate => exact nomatch hactive.symm.trans hstate
    | pushRequesting c hmsg hstate => exact nomatch hactive.symm.trans hstate
    | pushActive c hmsg hstate =>
      subst hmsg
      rw [hears_push_active c k n hactive] at hrest
      obtain ⟨hfits, hview⟩ := ih hno' (by exact hactive) hrest
      have hstep : ∀ self, hears (some { call with selfCapabilities := self }, k) (pushMsg c, n) =
          (some { call with selfCapabilities := self, peerCapabilities := c }, k) :=
        fun self => hears_push_active c k n hactive
      refine ⟨fun self => ⟨.pushActive c rfl hactive, ?_⟩, ?_⟩
      · rw [hstep self]
        exact hfits self
      · obtain hnone | ⟨peer, hpeer⟩ := hview
        · refine .inl fun self => ?_
          rw [viewOf, foldl_cons, hstep self]
          exact hnone self
        · refine .inr ⟨peer, fun self => ?_⟩
          rw [viewOf, foldl_cons, hstep self]
          exact hpeer self

theorem fits_requested (hno : NoInit inbox) (hstate : call.state = .requested)
    (h : Fits (some call, k) inbox) :
    inbox = [] ∨ ∃ n rest, inbox = (popMsg, n) :: rest ∧ NoInit rest ∧ Fits (none, k) rest := by
  cases inbox with
  | nil => exact .inl rfl
  | cons m inbox =>
    obtain ⟨msg, n⟩ := m
    obtain ⟨hm, hrest⟩ := h
    cases hm with
    | pop hmsg =>
      subst hmsg
      exact .inr ⟨n, inbox, rfl, NoInit_tail hno, hrest⟩
    | initRequesting c hmsg h => exact nomatch hstate.symm.trans h
    | pushRequesting c hmsg h => exact nomatch hstate.symm.trans h
    | pushActive c hmsg h => exact nomatch hstate.symm.trans h

theorem fits_onlyInit (honly : OnlyInit inbox) (h : Fits (none, k) inbox) :
    inbox = [] ∨ ∃ c n, inbox = [(initMsg c, n)] := by
  cases inbox with
  | nil => exact .inl rfl
  | cons m inbox =>
    obtain ⟨msg, n⟩ := m
    obtain ⟨hm, hrest⟩ := h
    cases hm with
    | pop hmsg =>
      subst hmsg
      exact nomatch honly _ mem_cons_self
    | pushNone c hmsg =>
      subst hmsg
      exact nomatch honly _ mem_cons_self
    | initNone c hmsg =>
      subst hmsg
      rw [hears_init_none] at hrest
      cases inbox with
      | nil => exact .inr ⟨c, n, rfl⟩
      | cons m2 inbox =>
        -- a second init would meet a requested call
        obtain ⟨msg2, n2⟩ := m2
        obtain ⟨hm2, -⟩ := hrest
        have hinit := honly (msg2, n2) (mem_cons_of_mem _ mem_cons_self)
        cases hm2 with
        | pop hmsg =>
          subst hmsg
          exact nomatch hinit
        | initRequesting c hmsg h => exact nomatch h
        | pushRequesting c hmsg h => exact nomatch h
        | pushActive c hmsg h => exact nomatch h

theorem fits_none {view : Option MSICall × Nat} (hno : NoInit inbox) (h : Fits view inbox) :
    Fits (none, k) inbox := by
  induction inbox generalizing view with
  | nil => trivial
  | cons m inbox ih =>
    obtain ⟨msg, n⟩ := m
    obtain ⟨slot, j⟩ := view
    obtain ⟨hm, hrest⟩ := h
    have hm : Expected slot msg := hm
    have hexpected : Expected none msg ∧ hears (none, k) (msg, n) = (none, k) := by
      cases hm with
      | pop hmsg => exact ⟨.pop hmsg, hmsg ▸ hears_pop none k n⟩
      | initNone c hmsg => exact absurd (hmsg ▸ rfl) (hno _ mem_cons_self)
      | initRequesting c hmsg _ => exact absurd (hmsg ▸ rfl) (hno _ mem_cons_self)
      | pushNone c hmsg => exact ⟨.pushNone c hmsg, hmsg ▸ hears_push_none c k n⟩
      | pushRequesting c hmsg _ => exact ⟨.pushNone c hmsg, hmsg ▸ hears_push_none c k n⟩
      | pushActive c hmsg _ => exact ⟨.pushNone c hmsg, hmsg ▸ hears_push_none c k n⟩
    refine ⟨hexpected.1, ?_⟩
    rw [hexpected.2]
    exact ih (NoInit_tail hno) hrest

end views

/-! ## Agreement -/

def Agree (a b : Option MSICall × Nat) : Prop :=
  match a.1, b.1 with
  | none, none => True
  | some x, some y =>
    (x.state = .requesting ∧ y.state = .requested ∧ y.peerCapabilities = x.selfCapabilities ∧ a.2 = b.2) ∨
    (x.state = .requested ∧ y.state = .requesting ∧ x.peerCapabilities = y.selfCapabilities ∧ a.2 = b.2) ∨
    (x.state = .active ∧ y.state = .active ∧ x.peerCapabilities = y.selfCapabilities ∧
      y.peerCapabilities = x.selfCapabilities)
  | _, _ => False

theorem Agree.symm {a b : Option MSICall × Nat} (h : Agree a b) : Agree b a := by
  obtain ⟨x, n⟩ := a
  obtain ⟨y, k⟩ := b
  cases x <;> cases y
  · trivial
  · exact h
  · exact h
  · obtain ⟨hx, hy, hcap, hn⟩ | ⟨hx, hy, hcap, hn⟩ | ⟨hx, hy, hxy, hyx⟩ := h
    · exact .inr (.inl ⟨hy, hx, hcap, hn.symm⟩)
    · exact .inl ⟨hy, hx, hcap, hn.symm⟩
    · exact .inr (.inr ⟨hy, hx, hyx, hxy⟩)

section agree

variable {n k : Nat} {call : MSICall} {b : Option MSICall × Nat}

theorem Agree.of_none (h : Agree (none, n) b) : ∃ k, b = (none, k) := by
  obtain ⟨y, k⟩ := b
  cases y with
  | none => exact ⟨k, rfl⟩
  | some y => exact h.elim

theorem Agree.of_active (h : Agree (some call, n) b) (hstate : call.state = .active) :
    ∃ y k, b = (some y, k) ∧ y.state = .active ∧ call.peerCapabilities = y.selfCapabilities ∧
      y.peerCapabilities = call.selfCapabilities := by
  obtain ⟨y, k⟩ := b
  cases y with
  | none => exact h.elim
  | some y =>
    obtain ⟨hx, -⟩ | ⟨hx, -⟩ | ⟨-, hy, hxy, hyx⟩ := h
    · exact nomatch hstate.symm.trans hx
    · exact nomatch hstate.symm.trans hx
    · exact ⟨y, k, rfl, hy, hxy, hyx⟩

theorem Agree.of_requested (h : Agree (some call, n) b) (hstate : call.state = .requested) :
    ∃ y, b = (some y, n) ∧ y.state = .requesting ∧
      call.peerCapabilities = y.selfCapabilities := by
  obtain ⟨y, k⟩ := b
  cases y with
  | none => exact h.elim
  | some y =>
    obtain ⟨hx, -⟩ | ⟨-, hy, hcap, hn⟩ | ⟨hx, -⟩ := h
    · exact nomatch hstate.symm.trans hx
    · obtain rfl : n = k := hn
      exact ⟨y, rfl, hy, hcap⟩
    · exact nomatch hstate.symm.trans hx

end agree

/-! ## The invariant -/

namespace MsiSide

def view (side : MsiSide) : Option MSICall × Nat := viewOf (side.slot, side.invitation) side.inbox

def receive (side : MsiSide) (m : MsiPacket) : MsiSide := { side with inbox := side.inbox ++ [m] }

theorem view_receive (side : MsiSide) (m : MsiPacket) :
    (side.receive m).view = hears side.view m := viewOf_append _ _ m

/-- A message starts a call only if the invitation was answered, or if both sides invited. -/
def Entry (answered : List Nat) (crossed : List (Nat × Nat)) (side : MsiSide) : Prop :=
  ∀ call m inbox, side.slot = some call → call.state = .requesting → side.inbox = m :: inbox →
    (m.1.request = .init → (side.invitation, m.2) ∈ crossed ∨ (m.2, side.invitation) ∈ crossed) ∧
    (m.1.request = .push → side.invitation ∈ answered)

variable {answered answered' : List Nat} {crossed crossed' : List (Nat × Nat)} {side : MsiSide}

theorem Entry.mono (h : side.Entry answered crossed) (ha : answered ⊆ answered')
    (hc : crossed ⊆ crossed') : side.Entry answered' crossed' := by
  intro call m inbox hslot hstate hinbox
  obtain ⟨hinit, hpush⟩ := h call m inbox hslot hstate hinbox
  refine ⟨fun hm => ?_, fun hm => ha (hpush hm)⟩
  obtain hmem | hmem := hinit hm
  · exact .inl (hc hmem)
  · exact .inr (hc hmem)

theorem Entry.receive (h : side.Entry answered crossed) {m : MsiPacket}
    (hnext : ∀ call, side.view = (some call, side.invitation) → call.state = .requesting →
      (m.1.request = .init → (side.invitation, m.2) ∈ crossed ∨ (m.2, side.invitation) ∈ crossed) ∧
      (m.1.request = .push → side.invitation ∈ answered)) :
    (side.receive m).Entry answered crossed := by
  intro call m' inbox hslot hstate hinbox
  cases hold : side.inbox with
  | nil =>
    have hview : side.view = (some call, side.invitation) := by
      rw [view, hold, show side.slot = some call from hslot]
      rfl
    have hm : m = m' := by
      have h : side.inbox ++ [m] = m' :: inbox := hinbox
      rw [hold] at h
      exact (List.cons.inj h).1
    exact hm ▸ hnext call hview hstate
  | cons first rest =>
    have hm : first = m' := by
      have h : side.inbox ++ [m] = m' :: inbox := hinbox
      rw [hold] at h
      exact (List.cons.inj h).1
    exact h call m' rest hslot hstate (hm ▸ hold)

theorem Entry.of_ne (h : ∀ call, side.slot = some call → call.state ≠ .requesting) :
    side.Entry answered crossed :=
  fun call _ _ hslot hstate _ => absurd hstate (h call hslot)

end MsiSide

open MsiPair (NoInit OnlyInit)

structure MsiInv (answered : List Nat) (crossed : List (Nat × Nat)) (me other : MsiSide) :
    Prop where
  fits : Fits (me.slot, me.invitation) me.inbox
  fits_other : Fits (other.slot, other.invitation) other.inbox
  /-- No init crosses a push or a pop. -/
  cross : NoInit me.inbox ∨ OnlyInit other.inbox
  cross_other : NoInit other.inbox ∨ OnlyInit me.inbox
  agree : Agree me.view other.view
  entry : me.Entry answered crossed
  entry_other : other.Entry answered crossed

namespace MsiInv

variable {answered answered' : List Nat} {crossed : List (Nat × Nat)} {me me' other : MsiSide}

section

variable (h : MsiInv answered crossed me other)
include h

theorem symm : MsiInv answered crossed other me :=
  ⟨h.fits_other, h.fits, h.cross_other, h.cross, h.agree.symm, h.entry_other, h.entry⟩

theorem send (ha : answered ⊆ answered') {m : MsiPacket}
    (hm : m.1.request ≠ .init) (hfits : Fits (me'.slot, me'.invitation) me'.inbox)
    (hstate : ∀ call, me'.slot = some call → call.state ≠ .requesting)
    (hno : NoInit me'.inbox) (hcross : OnlyInit me.inbox → OnlyInit me'.inbox)
    (hexpected : Expected other.view.1 m.1) (hagree : Agree me'.view (hears other.view m))
    (hentry : ∀ call, other.view = (some call, other.invitation) → call.state = .requesting →
      m.1.request = .push → other.invitation ∈ answered') :
    MsiInv answered' crossed me' (other.receive m) where
  fits := hfits
  fits_other := fits_append h.fits_other hexpected
  cross := .inl hno
  cross_other := by
    obtain hother | honly := h.cross_other
    · refine .inl fun m' hm' => ?_
      obtain hm' | hm' := mem_append.mp hm'
      · exact hother m' hm'
      · exact mem_singleton.mp hm' ▸ hm
    · exact .inr (hcross honly)
  agree := by
    rw [MsiSide.view_receive]
    exact hagree
  entry := .of_ne hstate
  entry_other := (h.entry_other.mono ha (List.Subset.refl _)).receive fun call hview hreq =>
    ⟨fun hinit => absurd hinit hm, hentry call hview hreq⟩

theorem hangup (hno : NoInit me.inbox) :
    MsiInv answered crossed { me with slot := none } (other.receive (popMsg, me.invitation)) := by
  have hfits : Fits (none, me.invitation) me.inbox := fits_none hno h.fits
  refine h.send (List.Subset.refl _) (fun h => nomatch h) hfits (fun _ h => nomatch h) hno id
    (.pop rfl) ?_ (fun _ _ _ h => nomatch h)
  have hview : MsiSide.view { me with slot := none } = (none, me.invitation) :=
    viewOf_none hno hfits
  rw [hview]
  generalize other.view = view
  rw [hears_pop]
  trivial

theorem answer {call : MSICall} (hno : NoInit me.inbox)
    (hslot : me.slot = some call) (hstate : call.state = .requested) (c : UInt8) :
    MsiInv (answered ++ [me.invitation]) crossed
      { me with slot := some { call with selfCapabilities := c, state := .active } }
      (other.receive (pushMsg c, me.invitation)) := by
  have hsub : answered ⊆ answered ++ [me.invitation] := subset_append_left _ _
  have hne : ∀ call', some { call with selfCapabilities := c, state := .active } = some call' →
      call'.state ≠ .requesting := by
    intro call' hcall' hreq
    rw [← Option.some.inj hcall'] at hreq
    exact nomatch hreq
  have hfits := h.fits
  have hagree := h.agree
  rw [MsiSide.view] at hagree
  rw [hslot] at hfits hagree
  obtain hinbox | ⟨n, rest, hinbox, hnorest, hrest⟩ := fits_requested hno hstate hfits
  · rw [hinbox] at hagree
    obtain ⟨y, hy, hystate, hcap⟩ := hagree.of_requested hstate
    refine h.send hsub (fun h => nomatch h) ?_ hne hno id ?_ ?_ ?_
    · rw [hinbox]
      trivial
    · rw [hy]
      exact .pushRequesting c rfl hystate
    · rw [hy, hears_push_requesting c _ _ hystate, MsiSide.view]
      rw [hinbox]
      exact .inr (.inr ⟨rfl, rfl, hcap, rfl⟩)
    · -- the invitation that was answered is the one the other side waits for
      intro call' hview' _ _
      rw [hy] at hview'
      rw [← (Prod.mk.inj hview').2]
      exact mem_append_right _ mem_cons_self
  · -- the caller has hung up already
    have hpop : ∀ x, hears (some x, me.invitation) (popMsg, n) = (none, me.invitation) :=
      fun x => hears_pop _ _ _
    rw [hinbox, viewOf, foldl_cons, hpop,
      show List.foldl hears (none, me.invitation) rest = _ from viewOf_none hnorest hrest] at hagree
    obtain ⟨k, hk⟩ := hagree.of_none
    refine h.send hsub (fun h => nomatch h) ?_ hne hno id ?_ ?_ ?_
    · rw [hinbox]
      refine ⟨.pop rfl, ?_⟩
      rw [hpop]
      exact hrest
    · rw [hk]
      exact .pushNone c rfl
    · rw [hk, MsiSide.view]
      rw [hinbox, viewOf, foldl_cons, hpop,
        show List.foldl hears (none, me.invitation) rest = _ from viewOf_none hnorest hrest]
      trivial
    · intro call' hview' _ _
      rw [hk] at hview'
      exact nomatch hview'

end

theorem push {call : MSICall} {n : Nat} {rest : List MsiPacket} (c : UInt8)
    (h : MsiInv answered crossed me other) (hview : me.view = viewOf (some call, n) rest)
    (hstate : call.state = .active) (hfits : Fits (some call, n) rest) (hno : NoInit rest)
    (hcross : OnlyInit me.inbox → OnlyInit rest) :
    MsiInv answered crossed ⟨some { call with selfCapabilities := c }, n, rest⟩
      (other.receive (pushMsg c, n)) := by
  obtain ⟨hfits', hviews⟩ := viewOf_active hno hstate hfits
  have hagree := h.agree
  rw [hview] at hagree
  have hne : ∀ call', some { call with selfCapabilities := c } = some call' →
      call'.state ≠ .requesting := by
    intro call' hcall' hreq
    rw [← Option.some.inj hcall'] at hreq
    exact nomatch hstate.symm.trans hreq
  obtain hnone | ⟨peer, hpeer⟩ := hviews
  · rw [show viewOf (some call, n) rest = _ from hnone call.selfCapabilities] at hagree
    obtain ⟨k, hk⟩ := hagree.of_none
    refine h.send (List.Subset.refl _) (fun h => nomatch h) (hfits' c) hne hno hcross ?_ ?_ ?_
    · rw [hk]
      exact .pushNone c rfl
    · rw [hk, hears_push_none, MsiSide.view]
      rw [hnone c]
      trivial
    · intro call' hview' _ _
      rw [hk] at hview'
      exact nomatch hview'
  · rw [show viewOf (some call, n) rest = _ from hpeer call.selfCapabilities] at hagree
    obtain ⟨y, k, hy, hystate, hxy, hyx⟩ := hagree.of_active hstate
    refine h.send (List.Subset.refl _) (fun h => nomatch h) (hfits' c) hne hno hcross ?_ ?_ ?_
    · rw [hy]
      exact .pushActive c rfl hystate
    · rw [hy, hears_push_active c _ _ hystate, MsiSide.view]
      rw [hpeer c]
      exact .inr (.inr ⟨hstate, hystate, hxy, rfl⟩)
    · intro call' hview' hreq _
      rw [hy] at hview'
      obtain rfl : y = call' := Option.some.inj (Prod.mk.inj hview').1
      exact nomatch hystate.symm.trans hreq

section

variable (h : MsiInv answered crossed me other)
include h

theorem invite (hslot : me.slot = none)
    (honly : OnlyInit me.inbox) (c : UInt8) (n : Nat) :
    MsiInv answered
      (crossed ++ (me.inbox.filter (·.1.request = .init)).map fun m => (n, m.2))
      { me with
        slot := some { newCall with selfCapabilities := c, state := .requesting }, invitation := n }
      (other.receive (initMsg c, n)) := by
  have hfits := h.fits
  have hagree := h.agree
  have hcross := h.cross
  have hother := h.entry_other.mono (List.Subset.refl answered) (subset_append_left crossed
    ((me.inbox.filter (·.1.request = .init)).map fun m => (n, m.2)))
  rw [MsiSide.view] at hagree
  rw [hslot] at hfits hagree
  obtain ⟨slot, invitation, inbox⟩ := me
  obtain rfl | ⟨c0, n0, rfl⟩ := fits_onlyInit honly hfits
  · obtain ⟨k, hk⟩ := hagree.of_none
    have hexpected : Expected other.view.1 (initMsg c) := by
      rw [hk]
      exact .initNone c rfl
    refine ⟨trivial, fits_append h.fits_other hexpected, .inl (forall_mem_nil _),
      .inr (forall_mem_nil _), ?_, fun _ _ _ _ _ h => (nomatch h), hother.receive ?_⟩
    · rw [MsiSide.view_receive, hk]
      exact .inl ⟨rfl, rfl, rfl, rfl⟩
    · intro call hview _
      rw [hk] at hview
      exact nomatch hview
  · -- the other side has invited at the same time
    have hmine : viewOf (none, invitation) [(initMsg c0, n0)] =
        (some { newCall with peerCapabilities := c0, state := .requested }, n0) :=
      hears_init_none c0 invitation n0
    obtain ⟨y, hy, hystate, hcap⟩ := hagree.of_requested rfl
    have honly_other : OnlyInit other.inbox := by
      obtain hno | honly_other := hcross
      · exact absurd rfl (hno _ mem_cons_self)
      · exact honly_other
    have hmem : (n, n0) ∈ crossed ++ ([(initMsg c0, n0)].filter (·.1.request = .init)).map
        fun m => (n, m.2) := mem_append_right _ mem_cons_self
    have hexpected : Expected other.view.1 (initMsg c) := by
      rw [hy]
      exact .initRequesting c rfl hystate
    refine ⟨⟨.initRequesting c0 rfl rfl, trivial⟩, fits_append h.fits_other hexpected, .inr ?_,
      .inr honly, ?_, ?_, hother.receive ?_⟩
    · intro m hm
      obtain hm | hm := mem_append.mp hm
      · exact honly_other m hm
      · exact mem_singleton.mp hm ▸ rfl
    · rw [MsiSide.view_receive, hy, hears_init_requesting c _ _ hystate]
      exact .inr (.inr ⟨rfl, rfl, hcap, rfl⟩)
    · intro call m inbox _ _ hinbox
      obtain rfl : (initMsg c0, n0) = m := (List.cons.inj hinbox).1
      exact ⟨fun _ => .inl hmem, fun h => nomatch h⟩
    · intro call hview _
      rw [hy] at hview
      obtain rfl : n0 = other.invitation := (Prod.mk.inj hview).2
      exact ⟨fun _ => .inr hmem, fun h => nomatch h⟩

theorem handled {m : MsiPacket} {rest : List MsiPacket} {slot : Option MSICall} (hinbox : me.inbox = m :: rest) {n : Nat}
    (hhears : hears (me.slot, me.invitation) m = (slot, n))
    (hstate : ∀ call, slot = some call → call.state ≠ .requesting) :
    MsiInv answered crossed ⟨slot, n, rest⟩ other where
  fits := by
    have hfits := h.fits
    rw [hinbox] at hfits
    exact hhears ▸ hfits.2
  fits_other := h.fits_other
  cross := by
    obtain hno | honly := h.cross
    · exact .inl (NoInit_tail (hinbox ▸ hno))
    · exact .inr honly
  cross_other := by
    obtain hno | honly := h.cross_other
    · exact .inl hno
    · exact .inr fun m' hm' => honly m' (hinbox ▸ mem_cons_of_mem _ hm')
  agree := by
    have hview : me.view = MsiSide.view ⟨slot, n, rest⟩ := by
      rw [MsiSide.view, hinbox, viewOf, foldl_cons, hhears]
      rfl
    exact hview ▸ h.agree
  entry := .of_ne hstate
  entry_other := h.entry_other

theorem deliver {m : MsiPacket} {rest : List MsiPacket}
    (hinbox : me.inbox = m :: rest) (hcareful : me.slot ≠ none → m.1.request = .init → NoInit rest) :
    ∃ slot n sent, handleMsiPacket okCallbacks me.slot (sendMessage m.1) = (slot, sent) ∧
      (hears (me.slot, me.invitation) m) = (slot, n) ∧
      ((sent = [] ∧ MsiInv answered crossed ⟨slot, n, rest⟩ other) ∨
        ∃ msg, sent = [msg] ∧ MsiInv answered crossed ⟨slot, n, rest⟩ (other.receive (msg, n))) := by
  have hexpected : Expected me.slot m.1 := by
    have hfits := h.fits
    rw [hinbox] at hfits
    exact hfits.1
  obtain ⟨msg, k⟩ := m
  generalize hme : me.slot = slot at hexpected hcareful
  cases hexpected with
  | pop hmsg =>
    subst hmsg
    refine ⟨none, me.invitation, [], handle_pop slot, hears_pop _ _ _, .inl ⟨rfl, ?_⟩⟩
    exact h.handled hinbox (hme ▸ hears_pop _ _ _) (fun _ h => nomatch h)
  | initNone c hmsg =>
    subst hmsg
    refine ⟨_, k, [], handle_init_none c, hears_init_none _ _ _, .inl ⟨rfl, ?_⟩⟩
    refine h.handled hinbox (hme ▸ hears_init_none _ _ _) fun call hcall hreq => ?_
    rw [← Option.some.inj hcall] at hreq
    exact nomatch hreq
  | pushNone c hmsg =>
    subst hmsg
    refine ⟨none, me.invitation, [], handle_push_none c, hears_push_none _ _ _, .inl ⟨rfl, ?_⟩⟩
    exact h.handled hinbox (hme ▸ hears_push_none _ _ _) (fun _ h => nomatch h)
  | @pushRequesting call _ c hmsg hstate =>
    subst hmsg
    refine ⟨_, me.invitation, [], handle_push_requesting c hstate,
      hears_push_requesting _ _ _ hstate, .inl ⟨rfl, ?_⟩⟩
    refine h.handled hinbox (hme ▸ hears_push_requesting _ _ _ hstate) fun call hcall hreq => ?_
    rw [← Option.some.inj hcall] at hreq
    exact nomatch hreq
  | @pushActive call _ c hmsg hstate =>
    subst hmsg
    refine ⟨_, me.invitation, [], handle_push_active c hstate, hears_push_active _ _ _ hstate, .inl ⟨rfl, ?_⟩⟩
    refine h.handled hinbox (hme ▸ hears_push_active _ _ _ hstate) fun call hcall hreq => ?_
    rw [← Option.some.inj hcall] at hreq
    exact nomatch hstate.symm.trans hreq
  | @initRequesting call _ c hmsg hstate =>
    subst hmsg
    have hhears := hears_init_requesting c me.invitation k hstate
    have hfits := h.fits
    rw [hinbox, hme] at hfits
    have hrest := hfits.2
    rw [hhears] at hrest
    have hview : me.view = viewOf (some { call with peerCapabilities := c, state := .active },
        me.invitation) rest := by
      rw [MsiSide.view, hinbox, hme, viewOf, foldl_cons, hhears]
      rfl
    refine ⟨_, me.invitation, _, handle_init_requesting c hstate, hhears, .inr ⟨_, rfl, ?_⟩⟩
    exact h.push call.selfCapabilities hview rfl hrest (hcareful (Option.some_ne_none _) rfl)
      fun honly m' hm' => honly m' (hinbox ▸ mem_cons_of_mem _ hm')

end

end MsiInv

/-! ## Runs -/

namespace MsiPair

def Inv (s : MsiPair) : Prop := ∀ x, MsiInv s.answered s.crossed (s.side x) (s.side !x)

theorem inv_of_side {s : MsiPair} {x : Bool}
    (h : MsiInv s.answered s.crossed (s.side x) (s.side !x)) : s.Inv := by
  intro z
  obtain rfl | rfl : z = x ∨ z = !x := by cases x <;> cases z <;> simp
  · exact h
  · rw [Bool.not_not]
    exact h.symm

variable {s : MsiPair}

theorem inv_of_starts (h : s.Starts) : s.Inv := by
  intro x
  obtain ⟨hslot, hinbox⟩ := h.1 x
  obtain ⟨hslot', hinbox'⟩ := h.1 !x
  refine ⟨?_, ?_, .inl ?_, .inl ?_, ?_, .of_ne ?_, .of_ne ?_⟩
  · rw [hinbox]
    trivial
  · rw [hinbox']
    trivial
  · rw [hinbox]
    exact forall_mem_nil _
  · rw [hinbox']
    exact forall_mem_nil _
  · rw [MsiSide.view, MsiSide.view, hinbox, hinbox', hslot, hslot']
    trivial
  · rw [hslot]
    exact fun _ h => nomatch h
  · rw [hslot']
    exact fun _ h => nomatch h

theorem update_self (x : Bool) (me : MsiSide) (sent : List MSIMessage) :
    s.update x me sent x = me := if_pos rfl

theorem update_other (x : Bool) (me : MsiSide) (msg : MSIMessage) :
    s.update x me [msg] (!x) = (s.side !x).receive (msg, me.invitation) := by
  rw [update, if_neg (by cases x <;> simp)]
  rfl

theorem update_other_nil (x : Bool) (me : MsiSide) : s.update x me [] (!x) = s.side !x := by
  rw [update]
  simp

theorem Inv.step {act : MsiAct} (h : s.Inv) (hcareful : s.Careful act) : (s.step act).Inv := by
  cases act with
  | invite x c =>
    have hx := h x
    cases hslot : (s.side x).slot with
    | some call =>
      rw [MsiPair.step, hslot]
      exact h
    | none =>
      rw [MsiPair.step, hslot]
      apply inv_of_side (x := x)
      dsimp only [msiInvite]
      rw [update_self, update_other]
      exact hx.invite hslot (hcareful hslot) c s.invitations
  | hangup x =>
    have hx := h x
    cases hslot : (s.side x).slot with
    | none =>
      rw [MsiPair.step, hslot]
      exact h
    | some call =>
      by_cases hinactive : call.state = .inactive
      · rw [MsiPair.step, hslot, msiHangup, if_pos hinactive]
        exact h
      · rw [MsiPair.step, hslot, msiHangup, if_neg hinactive]
        apply inv_of_side (x := x)
        dsimp only [called]
        rw [update_self, update_other]
        exact hx.hangup (hcareful (by rw [hslot]; exact Option.some_ne_none _))
  | answer x c =>
    have hx := h x
    cases hslot : (s.side x).slot with
    | none =>
      rw [MsiPair.step, hslot]
      exact h
    | some call =>
      by_cases hstate : call.state = .requested
      · rw [MsiPair.step, hslot, msiAnswer, if_neg (not_not.mpr hstate)]
        apply inv_of_side (x := x)
        dsimp only [called]
        rw [update_self, update_other]
        exact hx.answer (hcareful (by rw [hslot, Option.map_some, hstate])) hslot hstate c
      · rw [MsiPair.step, hslot, msiAnswer, if_pos hstate]
        exact h
  | changeCapabilities x c =>
    have hx := h x
    cases hslot : (s.side x).slot with
    | none =>
      rw [MsiPair.step, hslot]
      exact h
    | some call =>
      by_cases hstate : call.state = .active
      · rw [MsiPair.step, hslot, msiChangeCapabilities, if_neg (not_not.mpr hstate)]
        apply inv_of_side (x := x)
        dsimp only [called]
        rw [update_self, update_other]
        refine hx.push c ?_ hstate ?_ (hcareful (by rw [hslot, Option.map_some, hstate])) id
        · rw [MsiSide.view, hslot]
        · exact hslot ▸ hx.fits
      · rw [MsiPair.step, hslot, msiChangeCapabilities, if_pos hstate]
        exact h
  | deliver x =>
    have hx := h x
    cases hinbox : (s.side x).inbox with
    | nil =>
      rw [MsiPair.step, hinbox]
      exact h
    | cons m rest =>
      rw [Careful, hinbox] at hcareful
      obtain ⟨slot, n, sent, hhandle, hhears, hsent⟩ := hx.deliver hinbox hcareful
      rw [MsiPair.step, hinbox]
      dsimp only
      rw [hhandle, hhears]
      apply inv_of_side (x := x)
      dsimp only
      obtain ⟨rfl, hinv⟩ | ⟨msg, rfl, hinv⟩ := hsent
      · rw [update_self, update_other_nil]
        exact hinv
      · rw [update_self, update_other]
        exact hinv

def Agreement (s : MsiPair) : Prop :=
  (∀ x, (s.side x).inbox = []) →
    (∀ x, (s.side x).slot = none) ∨
    (∃ x a b, (s.side x).slot = some a ∧ (s.side !x).slot = some b ∧ a.state = .requesting ∧
      b.state = .requested) ∨
    ∃ a b, (s.side false).slot = some a ∧ (s.side true).slot = some b ∧ a.state = .active ∧
      b.state = .active ∧ a.peerCapabilities = b.selfCapabilities ∧
      b.peerCapabilities = a.selfCapabilities

/-- A call that was invited to becomes active only by an answer or by invitations that crossed. -/
def EntersProperly (s : MsiPair) : Prop :=
  ∀ x call m inbox, (s.side x).slot = some call → call.state = .requesting →
    (s.side x).inbox = m :: inbox →
    (∃ call', (handleMsiPacket okCallbacks (some call) (sendMessage m.1)).1 = some call' ∧
      call'.state = .active) →
    (s.side x).invitation ∈ s.answered ∨
      ∃ n, ((s.side x).invitation, n) ∈ s.crossed ∨ (n, (s.side x).invitation) ∈ s.crossed

theorem Inv.agreement (h : s.Inv) : s.Agreement := by
  intro hquiet
  have hagree := (h false).agree
  rw [MsiSide.view, MsiSide.view, hquiet, hquiet] at hagree
  have hagree : Agree ((s.side false).slot, _) ((s.side true).slot, _) := hagree
  cases ha : (s.side false).slot with
  | none =>
    rw [ha] at hagree
    obtain ⟨k, hk⟩ := hagree.of_none
    refine .inl fun x => ?_
    cases x
    · exact ha
    · exact (Prod.mk.inj hk).1
  | some a =>
    cases hb : (s.side true).slot with
    | none =>
      rw [ha, hb] at hagree
      exact hagree.elim
    | some b =>
      rw [ha, hb] at hagree
      obtain ⟨hx, hy, -⟩ | ⟨hx, hy, -⟩ | ⟨hx, hy, hxy, hyx⟩ := hagree
      · exact .inr (.inl ⟨false, a, b, ha, hb, hx, hy⟩)
      · exact .inr (.inl ⟨true, b, a, hb, ha, hy, hx⟩)
      · exact .inr (.inr ⟨a, b, rfl, rfl, hx, hy, hxy, hyx⟩)

theorem Inv.entersProperly (h : s.Inv) : s.EntersProperly := by
  intro x call m inbox hslot hstate hinbox henters
  have hfits := (h x).fits
  rw [hinbox, hslot] at hfits
  obtain ⟨msg, n⟩ := m
  obtain ⟨hinit, hpush⟩ := (h x).entry call (msg, n) inbox hslot hstate hinbox
  have hexpected : Expected (some call) msg := hfits.1
  cases hexpected with
  | pop hmsg =>
    subst hmsg
    obtain ⟨call', hcall', -⟩ := henters
    rw [handle_pop] at hcall'
    exact nomatch hcall'
  | initRequesting c hmsg _ =>
    subst hmsg
    exact .inr ⟨n, hinit rfl⟩
  | pushRequesting c hmsg _ =>
    subst hmsg
    exact .inl (hpush rfl)
  | pushActive c hmsg hactive => exact nomatch hstate.symm.trans hactive

/-- If no invite crosses a push or a pop, the sides agree when nothing is in flight, and calls start that were
    answered or wanted by both. -/
theorem agreement_of_careful {s : MsiPair} (h : system.Reachable s) :
    s.Agreement ∧ s.EntersProperly := by
  have hinv : s.Inv := h.invariant (fun _ => inv_of_starts) fun s t hs hst => by
    obtain ⟨act, hcareful, rfl⟩ := hst
    exact hs.step hcareful
  exact ⟨hinv.agreement, hinv.entersProperly⟩

def fresh : MsiPair where
  side _ := { slot := none, invitation := 0, inbox := [] }
  invitations := 0
  answered := []
  crossed := []

def run (s : MsiPair) (acts : List MsiAct) : MsiPair := acts.foldl step s

theorem agreement_answered :
    let s := fresh.run [.invite false 4, .deliver true, .answer true 8, .deliver false]
    s.Agreement ∧ s.EntersProperly ∧ (∀ x, (s.side x).inbox = []) ∧
      ((s.side false).slot.map MSICall.state) = some .active := by
  have hstarts : fresh.Starts := ⟨fun _ => ⟨rfl, rfl⟩, rfl, rfl⟩
  have h0 : system.Reachable fresh := .init hstarts
  have h1 : system.Reachable (fresh.run [.invite false 4]) :=
    .step h0 ⟨.invite false 4, fun _ => forall_mem_nil _, rfl⟩
  have h2 : system.Reachable (fresh.run [.invite false 4, .deliver true]) :=
    .step h1 ⟨.deliver true, fun hne => absurd rfl hne, rfl⟩
  have h3 : system.Reachable (fresh.run [.invite false 4, .deliver true, .answer true 8]) :=
    .step h2 ⟨.answer true 8, fun _ => by decide +kernel, rfl⟩
  have h4 : system.Reachable (fresh.run [.invite false 4, .deliver true, .answer true 8, .deliver false]) :=
    .step h3 ⟨.deliver false, fun _ h => absurd h (by decide +kernel), rfl⟩
  obtain ⟨hagree, henters⟩ := agreement_of_careful h4
  exact ⟨hagree, henters, by decide +kernel, by decide +kernel⟩

/-- Both sides invite and one hangs up: the other is left without a call, and then meets an invite and a push. And a
    call that is answered too late starts the next one. -/
theorem not_agreement_crossing :
    ¬(fresh.run [.invite false 4, .invite true 8, .hangup false, .deliver true, .deliver true,
      .deliver false, .deliver false]).Agreement ∧
    ¬(fresh.run [.invite false 4, .deliver true, .hangup false, .invite false 4,
      .answer true 8]).EntersProperly := by
  constructor
  · generalize hs : fresh.run _ = s
    have hquiet : ∀ x, (s.side x).inbox = [] := by
      rw [← hs]
      decide +kernel
    have hmine : ((s.side false).slot.map MSICall.state) = some .requested := by
      rw [← hs]
      decide +kernel
    have hother : (s.side true).slot = none := by
      rw [← hs]
      decide +kernel
    intro h
    obtain hnone | ⟨x, a, b, ha, hb, -⟩ | ⟨a, b, -, hb, -⟩ := h hquiet
    · rw [hnone false] at hmine
      exact nomatch hmine
    · cases x
      · exact nomatch hother.symm.trans hb
      · exact nomatch hother.symm.trans ha
    · exact nomatch hother.symm.trans hb
  · intro h
    obtain hanswered | ⟨n, hcrossed | hcrossed⟩ := h false ⟨.requesting, 0, 4, .none⟩
      (pushMsg 8, 0) [] (by decide +kernel) rfl (by decide +kernel)
      ⟨⟨.active, 8, 4, .none⟩, by decide +kernel, rfl⟩
    · exact absurd hanswered (by decide +kernel)
    · cases hcrossed
    · cases hcrossed

end MsiPair

end Toxcore
