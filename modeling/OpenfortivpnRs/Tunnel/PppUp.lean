import OpenfortivpnRs.Tunnel.PppClosed

/-!
# The events of the PPP engine

When the link is announced.  `liveUp` reads off the events of a run the address announced since the
last `Down`; it is there exactly while the engine is open (`live_reached`).  An `Up` event comes
twice exactly when an address is acknowledged while the link is open.
-/

namespace OpenfortivpnRs.Tunnel

open Lib.History

/-- The events of a history, oldest first. -/
def eventsOf (h : List Entry) : List PppEvent := h.flatMap Entry.events

theorem eventsOf_snoc (h : List Entry) (entry : Entry) :
    eventsOf (h ++ [entry]) = eventsOf h ++ entry.events := by
  simp [eventsOf]

/-- The address after `event`, when `address` was the one before. -/
def nextLive (address : Option Ipv4Addr) : PppEvent → Option Ipv4Addr
  | .up localIp _ _ => some localIp
  | .down => none
  | .ipv4Packet _ => address

/-- The address of the last `Up` event with no `Down` behind it. -/
def liveUp (events : List PppEvent) : Option Ipv4Addr := events.foldl nextLive none

theorem liveUp_snoc (events : List PppEvent) (event : PppEvent) :
    liveUp (events ++ [event]) = nextLive (liveUp events) event := by
  simp [liveUp]

/-- Data packets announce nothing. -/
theorem liveUp_append_data {events more : List PppEvent}
    (h : ∀ event ∈ more, ∃ data, event = .ipv4Packet data) : liveUp (events ++ more) = liveUp events := by
  induction more using List.reverseRecOn with
  | nil => rw [List.append_nil]
  | append_singleton more event ih =>
    obtain ⟨data, rfl⟩ := h event (by simp)
    rw [← List.append_assoc, liveUp_snoc]
    exact ih fun event hevent => h event (by simp [hevent])

/-- **An address is live** exactly behind an `Up` event with no `Down` since. -/
theorem liveUp_isSome_iff (events : List PppEvent) : (liveUp events).isSome ↔
    ∃ l event m, events = l ++ event :: m ∧ (upAddress event).isSome ∧ PppEvent.down ∉ m := by
  induction events using List.reverseRecOn with
  | nil => simp [liveUp]
  | append_singleton events last ih =>
    rw [liveUp_snoc]
    cases last with
    | up localIp peerIp dnsServers =>
      exact iff_of_true rfl ⟨events, _, [], rfl, rfl, by simp⟩
    | down =>
      refine iff_of_false (by simp [nextLive]) ?_
      rintro ⟨l, event, m, heq, hup, hm⟩
      rcases snoc_eq_append_cons heq with ⟨-, -, rfl⟩ | ⟨m', rfl, -⟩
      · cases hup
      · simp at hm
    | ipv4Packet data =>
      rw [show nextLive (liveUp events) (.ipv4Packet data) = liveUp events from rfl, ih]
      constructor
      · rintro ⟨l, event, m, rfl, hup, hm⟩
        exact ⟨l, event, m ++ [.ipv4Packet data], by simp, hup, by simpa using hm⟩
      · rintro ⟨l, event, m, heq, hup, hm⟩
        rcases snoc_eq_append_cons heq with ⟨-, -, rfl⟩ | ⟨m', rfl, rfl⟩
        · cases hup
        · exact ⟨l, event, m', rfl, hup, fun h => hm (List.mem_append_left _ h)⟩

/-! ### The engine and its events -/

/-- **The invariant of the announced address.** -/
structure Live (h : List Entry) (e : PppEngine) : Prop where
  opened : e.state = .opened ↔ (liveUp (eventsOf h)).isSome
  localIp : ∀ a, liveUp (eventsOf h) = some a → e.localIp = some a

/-- A move that announces nothing and stays on its side of `Opened` keeps it. -/
theorem Live.silent {h : List Entry} {e e' : PppEngine} {entry : Entry} (hl : Live h e)
    (hev : ∀ event ∈ entry.events, ∃ data, event = .ipv4Packet data)
    (hstate : e'.state = .opened ↔ e.state = .opened) (hlocal : e'.localIp = e.localIp) :
    Live (h ++ [entry]) e' where
  opened := by rw [eventsOf_snoc, liveUp_append_data hev, hstate, hl.opened]
  localIp := by rw [eventsOf_snoc, liveUp_append_data hev, hlocal]; exact hl.localIp

/-- Every move keeps it; only `up` opens the link, only `terminate` and the first LCP
acknowledgement could take it out of `Opened`, and the latter is not taken there. -/
theorem Move.live {h : List Entry} {e e' : PppEngine} {entry : Entry} (hm : Move e entry e')
    (hl : Live h e) : Live (h ++ [entry]) e' := by
  cases hm with
  | answer _ hev => exact hl.silent hev Iff.rfl rfl
  | rejectProtocol => exact hl.silent (by simp) Iff.rfl rfl
  | openLcp hinit _ => exact hl.silent (by simp) (by simp [hinit]) rfl
  | retryLcp _ => exact hl.silent (by simp) Iff.rfl rfl
  | openIpcp _ _ _ hstate =>
    refine hl.silent (by simp) ?_ rfl
    rcases hstate with hs | hs <;> simp [hs]
  | retryIpcp _ _ => exact hl.silent (by simp) Iff.rfl rfl
  | peerRequest _ _ => exact hl.silent (by simp) Iff.rfl rfl
  | up _ _ _ _ =>
    constructor
    · simp [eventsOf_snoc, liveUp_snoc, nextLive]
    · simp [eventsOf_snoc, liveUp_snoc, nextLive]
  | terminate _ =>
    constructor
    · simp [eventsOf_snoc, liveUp_snoc, nextLive]
    · simp [eventsOf_snoc, liveUp_snoc, nextLive]

theorem live_reached (calls : List Call) :
    Live (PppEngine.historyOf calls) (PppEngine.reached calls) :=
  history_invariant ⟨by decide, by simp [eventsOf, liveUp]⟩ (fun c hl => (call_move _ c).live hl) calls

/-! ### One `Up` before a `Down` -/

/-- Between two `Up` events there is a `Down`. -/
def UpOnce (events : List PppEvent) : Prop :=
  ∀ l first m second r, events = l ++ first :: m ++ second :: r → (upAddress first).isSome →
    (upAddress second).isSome → PppEvent.down ∈ m

theorem upOnce_snoc_iff (events : List PppEvent) (event : PppEvent) : UpOnce (events ++ [event]) ↔
    UpOnce events ∧ ((upAddress event).isSome → liveUp events = none) := by
  constructor
  · intro h
    refine ⟨?_, ?_⟩
    · rintro l first m second r rfl
      exact h l first m second (r ++ [event]) (by simp)
    · intro hup
      by_contra hlive
      obtain ⟨l, first, m, rfl, hfirst, hm⟩ := (liveUp_isSome_iff events).mp (Option.isSome_iff_ne_none.mpr hlive)
      exact hm (h l first m event [] rfl hfirst hup)
  · rintro ⟨hevents, hlive⟩ l first m second r heq hfirst hsecond
    rcases snoc_eq_append_cons heq with ⟨-, rfl, rfl⟩ | ⟨r', -, rfl⟩
    · by_contra hm
      have hsome := (liveUp_isSome_iff (l ++ first :: m)).mpr ⟨l, first, m, rfl, hfirst, hm⟩
      rw [hlive hsecond] at hsome
      cases hsome
    · exact hevents l first m second r' rfl hfirst hsecond

theorem upOnce_append_data {events more : List PppEvent}
    (h : ∀ event ∈ more, ∃ data, event = .ipv4Packet data) :
    UpOnce (events ++ more) ↔ UpOnce events := by
  induction more using List.reverseRecOn with
  | nil => rw [List.append_nil]
  | append_singleton more event ih =>
    obtain ⟨data, rfl⟩ := h event (by simp)
    rw [← List.append_assoc, upOnce_snoc_iff, ih fun event hevent => h event (by simp [hevent])]
    simp [upAddress]

/-- A move repeats an `Up` exactly when it acknowledges an address while the link is open. -/
theorem Move.upOnce_iff {h : List Entry} {e e' : PppEngine} {entry : Entry} (hm : Move e entry e')
    (hl : Live h e) (hcall : ∀ packet, entry.call = .handleIncoming packet → AcksAddress e packet →
      ∃ event ∈ entry.events, (upAddress event).isSome) :
    UpOnce (eventsOf (h ++ [entry])) ↔ UpOnce (eventsOf h) ∧
      (e.state = .opened → ∀ packet, entry.call = .handleIncoming packet → ¬ AcksAddress e packet) := by
  rw [eventsOf_snoc]
  have hsilent : (∀ event ∈ entry.events, upAddress event = none) →
      ∀ packet, entry.call = .handleIncoming packet → ¬ AcksAddress e packet := by
    intro hnone packet hc hacks
    obtain ⟨event, hmem, hup⟩ := hcall packet hc hacks
    rw [hnone event hmem] at hup
    cases hup
  cases hm with
  | answer _ hev =>
    rw [upOnce_append_data hev]
    refine (and_iff_left fun _ => hsilent ?_).symm
    intro event hevent
    obtain ⟨data, rfl⟩ := hev event hevent
    rfl
  | up hc hcode hid hip =>
    rw [upOnce_snoc_iff]
    refine and_congr_right fun _ => ?_
    have hopen : e.state = .opened ↔ liveUp (eventsOf h) ≠ none :=
      hl.opened.trans Option.isSome_iff_ne_none
    constructor
    · intro hnone hs
      exact absurd (hnone rfl) (hopen.mp hs)
    · intro hno _
      by_contra hlive
      exact hno (hopen.mpr hlive) _ rfl ⟨_, hc, hcode, hid, hip⟩
  | terminate _ =>
    rw [upOnce_snoc_iff]
    simp only [upAddress, Option.isSome_none, Bool.false_eq_true, false_implies, and_true]
    exact (and_iff_left fun _ => hsilent (by simp [upAddress])).symm
  | _ =>
    rw [List.append_nil]
    exact (and_iff_left fun _ => hsilent (by simp)).symm

theorem entry_call (e : PppEngine) (c : Call) : (e.call c).1.call = c := by
  cases c <;> rfl

/-- No packet acknowledges an address when it is handled by an open engine. -/
def NeverAcksWhileOpen (calls : List Call) : Prop :=
  ∀ front packet back, calls = front ++ .handleIncoming packet :: back →
    (PppEngine.reached front).isOpen → ¬ AcksAddress (PppEngine.reached front) packet

theorem neverAcksWhileOpen_snoc_iff (calls : List Call) (c : Call) :
    NeverAcksWhileOpen (calls ++ [c]) ↔ NeverAcksWhileOpen calls ∧
      ((PppEngine.reached calls).state = .opened → ∀ packet, c = .handleIncoming packet →
        ¬ AcksAddress (PppEngine.reached calls) packet) := by
  constructor
  · intro h
    refine ⟨?_, ?_⟩
    · rintro front packet back rfl
      exact h front packet (back ++ [c]) (by simp)
    · rintro hs packet rfl
      exact h calls packet [] rfl (decide_eq_true hs)
  · rintro ⟨hcalls, hlast⟩ front packet back heq hopen
    rcases snoc_eq_append_cons heq with ⟨-, rfl, rfl⟩ | ⟨back', -, rfl⟩
    · exact hlast (of_decide_eq_true hopen) packet rfl
    · exact hcalls front packet back' rfl hopen

/-- **When `Up` comes once**: exactly when no address is acknowledged while the link is open. -/
theorem upOnce_iff_neverAcks (calls : List Call) :
    UpOnce (eventsOf (PppEngine.historyOf calls)) ↔ NeverAcksWhileOpen calls := by
  induction calls using List.reverseRecOn with
  | nil =>
    refine iff_of_true ?_ ?_
    · intro l first m second r h
      simp [PppEngine.historyOf, history, eventsOf] at h
    · intro front packet back h
      simp at h
  | append_singleton calls c ih =>
    have hhistory : PppEngine.historyOf (calls ++ [c]) =
        PppEngine.historyOf calls ++ [((PppEngine.reached calls).call c).1] := history_append _ _ _
    have hacks : ∀ packet, ((PppEngine.reached calls).call c).1.call = .handleIncoming packet →
        AcksAddress (PppEngine.reached calls) packet →
        ∃ event ∈ ((PppEngine.reached calls).call c).1.events, (upAddress event).isSome := by
      intro packet hcall hacks
      rw [entry_call] at hcall
      subst hcall
      obtain ⟨localIp, hup, -⟩ := hacks.up
      exact ⟨_, hup, rfl⟩
    rw [hhistory, (call_move _ c).upOnce_iff (live_reached calls) hacks, ih,
      neverAcksWhileOpen_snoc_iff, entry_call]

/-- After an `Up` event, `local_ip()` is the address it reported until a `Down` event. -/
def KeepsAddress (calls : List Call) : Prop :=
  ∀ front back l event m a, calls = front ++ back →
    eventsOf (PppEngine.historyOf front) = l ++ event :: m → upAddress event = some a →
    PppEvent.down ∉ m → (PppEngine.reached front).localIp = some a

theorem upOnce_of_append {events more : List PppEvent} (h : UpOnce (events ++ more)) :
    UpOnce events := by
  rintro l first m second r rfl
  exact h l first m second (r ++ more) (by simp)

/-- An address that is announced once is kept. -/
theorem keepsAddress_of_upOnce {calls : List Call}
    (h : UpOnce (eventsOf (PppEngine.historyOf calls))) : KeepsAddress calls := by
  rintro front back l event m a rfl hevents hup hm
  have honce : UpOnce (eventsOf (PppEngine.historyOf front)) := by
    rw [PppEngine.historyOf, history_append, eventsOf, List.flatMap_append] at h
    exact upOnce_of_append h
  have hdata : ∀ x ∈ m, ∃ data, x = .ipv4Packet data := by
    intro x hx
    cases x with
    | ipv4Packet data => exact ⟨data, rfl⟩
    | down => exact absurd hx hm
    | up localIp peerIp dnsServers =>
      obtain ⟨m1, m2, rfl⟩ := List.append_of_mem hx
      refine absurd ?_ hm
      have hdown := honce l event m1 (.up localIp peerIp dnsServers) m2 (by rw [hevents]; simp)
        (by rw [hup]; rfl) rfl
      exact List.mem_append_left _ hdown
  refine (live_reached front).localIp a ?_
  rw [hevents, ← List.singleton_append, ← List.append_assoc, liveUp_append_data hdata, liveUp_snoc]
  cases event <;> simp_all [upAddress, nextLive]

end OpenfortivpnRs.Tunnel
