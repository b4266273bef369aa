import TaskForceRadio.Extension.RemoteTx
import TaskForceRadio.Relay.Broadcast
import TaskForceRadio.System.Roster
import TaskForceRadio.Wire.Truncation

/-!
# One frequency on two machines

The frequency string is a lookup key on the sender's and on the listener's side, and a bounded
field of two packets in between. The listener's own list never passes the wire.
-/

set_option autoImplicit false

namespace TaskForceRadio

open Voice (Time milliseconds VoiceSession RosterOrders RadioTxInfo Callback)
open VoiceServer Extension

namespace Frequency

/-- The RadioTxUpdate about a pressed tangent. -/
def pressedUpdate (s : State) : Bytes :=
  PacketType.radioTxUpdate.code ::
    radioTxUpdateBody 1 (Voice.truncateUtf8 s.txFrequency maxFreqLength)
      (Globals.clampedRange s.txRange) (Voice.truncateUtf8 s.txSubtype maxSubtypeLength)

section Pressed
variable {g : Globals} (hpressed : g.state.tangentPressed = true)
include hpressed

private theorem tickSends_of_pressed (now : Time) :
    g.tickSends now =
      if (g.announcer.announce now g.state.localTxState
          (Globals.clampedRange g.state.txRange)).2 then
        g.voice.network.sendRaw (pressedUpdate g.state)
      else [] := by
  have hlocal : g.state.localTxState =
      { active := true
        freq := g.state.txFrequency
        range := g.state.txRange
        subtype := g.state.txSubtype } := if_pos hpressed
  have hsettled : g.applySettings.applyIdentity.state.localTxState = g.state.localTxState := rfl
  have hpacket := Voice.radioTxUpdatePacket_eq true g.state.txFrequency
    (Globals.clampedRange g.state.txRange) g.state.txSubtype
  simp only [Globals.tickSends, Globals.announceLocalTx]
  rw [hsettled, hlocal]
  dsimp only
  simp only [Voice.VoiceNetworkClient.sendRadioTx]
  rw [hpacket]
  rfl

/-- A tick sends nothing but the current transmission. -/
theorem eq_pressedUpdate_of_mem {now : Time} {socket : Nat} {data : Bytes}
    (hsent : (socket, data) ∈ g.tickSends now) :
    data = pressedUpdate g.state := by
  rw [tickSends_of_pressed hpressed] at hsent
  split at hsent
  · simp only [Voice.VoiceNetworkClient.sendRaw] at hsent
    split at hsent
    · split at hsent
      · exact (Prod.mk.inj (List.mem_singleton.mp hsent)).2
      · cases hsent
    · cases hsent
  · cases hsent

/-- The first tick after a press sends it, if there is a connection. -/
theorem pressedUpdate_mem_tickSends {socket : Nat}
    (hconnected : g.voice.network.connected = true)
    (hsocket : g.voice.network.socket = some socket) (hfirst : g.announcer.sentActive = false)
    (now : Time) :
    (socket, pressedUpdate g.state) ∈ g.tickSends now := by
  have hactive : g.state.localTxState.active = true := by
    simp only [State.localTxState]
    rw [if_pos hpressed]
  have hchanged : g.announcer.changed g.state.localTxState
      (Globals.clampedRange g.state.txRange) = true := by
    simp only [RadioTxAnnouncer.changed]
    rw [hactive, hfirst]
    rfl
  have hsend : (g.announcer.announce now g.state.localTxState
      (Globals.clampedRange g.state.txRange)).2 = true := by
    unfold RadioTxAnnouncer.announce RadioTxAnnouncer.schedule
    rw [if_pos hchanged]
    rfl
  rw [tickSends_of_pressed hpressed, if_pos hsend]
  simp only [Voice.VoiceNetworkClient.sendRaw]
  rw [hsocket]
  dsimp only
  rw [if_pos hconnected]
  exact List.mem_singleton_self _

end Pressed

/-- The listener after these datagrams and the next tick. -/
def hear (g : Globals) (receivedAt : Time) (rosterOrders : RosterOrders) (delivered : List Bytes)
    (now : Time) (orders : TickOrders) : Globals :=
  let voice := g.voice.receiveAll receivedAt rosterOrders delivered
  { g with voice }.tick now orders

/-- The listener files transmissions of the session under `n`, and nobody else's. -/
structure FilesUnder (g : Globals) (rosterOrders : RosterOrders) (orders : TickOrders)
    (sessionId : UInt32) (n : Bytes) : Prop where
  listed : g.voice.uidOf rosterOrders sessionId ≠ []
  attributed :
    g.state.attributed orders.nameToUid (g.voice.uidOf rosterOrders sessionId) = some n
  alone : ∀ k entry, k ≠ sessionId → g.voice.txCache.lookup k = some entry →
    g.state.attributed orders.nameToUid entry.info.uid ≠ some n

/-- A listener that knows one player files that player's transmissions. -/
theorem exists_filesUnder (sessionId : UInt32) :
    ∃ (g : Globals) (n : Bytes), FilesUnder g {} {} sessionId n ∧ g.voice.txCache = ∅ ∧
      g.state.remoteTx = ∅ := by
  let voice : VoiceSession :=
    { uidToSession := (∅ : Dictionary Bytes UInt32).insert [1] sessionId }
  let state : State := { nameToUid := (∅ : Dictionary Bytes Bytes).insert [1] [1] }
  let g : Globals := { voice, state }
  have hone : g.Identified :=
    @Globals.identified_single g [1] [1] sessionId (by decide) (by decide) rfl rfl
  have hroster : g.voice.uidToSession.lookup [1] = some sessionId := AList.lookup_insert _
  have huid := hone.uidOf hroster {}
  refine ⟨g, [1], ⟨?_, ?_, ?_⟩, rfl, rfl⟩
  · rw [huid]
    decide
  · rw [huid]
    exact hone.attributed hroster (AList.lookup_insert _) _
  · intro k entry _ hentry
    cases hentry

private theorem receiveAll_of_quiet (v : VoiceSession) (now : Time) (orders : RosterOrders)
    {datagrams : List Bytes}
    (h : ∀ data ∈ datagrams, ∀ callback, Voice.handlePacket data ≠ .ok (some callback)) :
    v.receiveAll now orders datagrams = v := by
  induction datagrams with
  | nil => rfl
  | cons data rest ih =>
    have hdata : v.receive now orders data = v := by
      simp only [VoiceSession.receive]
      split
      · rename_i callback hfired
        exact absurd hfired (h data List.mem_cons_self callback)
      · rfl
    show (v.receive now orders data).receiveAll now orders rest = v
    rw [hdata]
    exact ih (fun d hd => h d (List.mem_cons_of_mem _ hd))

section Received
variable {sessionId : UInt32} {freq : Bytes} {range : UInt16} {sub : Bytes}

private theorem lookup_receiveAll_of_broadcast (v : VoiceSession) (now : Time)
    (orders : RosterOrders)
    {datagrams : List Bytes} (hsome : datagrams ≠ [])
    (h : ∀ data ∈ datagrams,
      Voice.handlePacket data = .ok (some (.radioTx sessionId true freq range sub)))
    (hlisted : v.uidOf orders sessionId ≠ []) (k : UInt32) :
    (v.receiveAll now orders datagrams).txCache.lookup k =
      if k = sessionId then
        let uid := v.uidOf orders sessionId
        some { info := { uid, active := true, freq, range, subtype := sub }, receivedAt := now }
      else v.txCache.lookup k := by
  induction datagrams generalizing v with
  | nil => exact absurd rfl hsome
  | cons data rest ih =>
    have hdata : v.receive now orders data =
        v.onRadioTx now orders sessionId true freq range sub := by
      simp only [VoiceSession.receive]
      rw [h data List.mem_cons_self]
      rfl
    have hcached := lookup_onRadioTx v now orders sessionId true freq range sub k
    have huid : (v.onRadioTx now orders sessionId true freq range sub).uidOf orders sessionId =
        v.uidOf orders sessionId := by
      simp only [VoiceSession.uidOf]
      rw [onRadioTx_roster]
    show ((v.receive now orders data).receiveAll now orders rest).txCache.lookup k = _
    rw [hdata]
    by_cases hrest : rest = []
    · rw [hrest]
      apply hcached.trans
      by_cases hk : k = sessionId
      · rw [if_pos ⟨hk, hlisted⟩, if_pos hk, if_pos rfl]
      · rw [if_neg hk, if_neg (fun hand => hk hand.1)]
    · have hlater := ih (v.onRadioTx now orders sessionId true freq range sub) hrest
        (fun d hd => h d (List.mem_cons_of_mem _ hd)) (by rw [huid]; exact hlisted)
      rw [hlater, huid]
      by_cases hk : k = sessionId
      · rw [if_pos hk, if_pos hk]
      · rw [if_neg hk, if_neg hk, hcached, if_neg (fun hand => hk hand.1)]

variable {g : Globals} {receivedAt now : Time} {rosterOrders : RosterOrders}
  {orders : TickOrders} {delivered : List Bytes} {n : Bytes}

private theorem lookup_hear_of_broadcast (hfiles : FilesUnder g rosterOrders orders sessionId n)
    (hsome : delivered ≠ [])
    (h : ∀ data ∈ delivered,
      Voice.handlePacket data = .ok (some (.radioTx sessionId true freq range sub)))
    (hfresh : now - receivedAt < milliseconds 1500) :
    (hear g receivedAt rosterOrders delivered now orders).state.remoteTx.lookup n =
      State.filed now n
        { uid := g.voice.uidOf rosterOrders sessionId
          active := true
          freq
          range
          subtype := sub } := by
  have hcached := lookup_receiveAll_of_broadcast g.voice receivedAt rosterOrders hsome h
    hfiles.listed
  have hentry := hcached sessionId
  rw [if_pos rfl] at hentry
  apply Globals.lookup_tick_of_attributed
  · exact mem_currentRadioTx.mpr ⟨sessionId, _, hentry, hfresh, rfl⟩
  · exact hfiles.attributed
  · intro tx htx hattr
    obtain ⟨k, entry, hlookup, _, rfl⟩ := mem_currentRadioTx.mp htx
    have hk := hlookup
    dsimp only at hk
    rw [hcached k] at hk
    by_cases heq : k = sessionId
    · rw [if_pos heq] at hk
      rw [← Option.some.inj hk]
    · rw [if_neg heq] at hk
      exact absurd hattr (hfiles.alone k entry heq hk)

private theorem lookup_hear_of_quiet (hcache : g.voice.txCache = ∅)
    (h : ∀ data ∈ delivered, ∀ callback, Voice.handlePacket data ≠ .ok (some callback)) :
    (hear g receivedAt rosterOrders delivered now orders).state.remoteTx.lookup n =
      g.state.remoteTx.lookup n := by
  simp only [hear]
  rw [receiveAll_of_quiet g.voice receivedAt rosterOrders h]
  apply Globals.lookup_tick_of_not_attributed
  intro tx htx
  obtain ⟨k, entry, hlookup, _⟩ := mem_currentRadioTx.mp htx
  dsimp only at hlookup
  rw [hcache] at hlookup
  cases hlookup

end Received

/-- The solver sees the transmission of `n` on `f`: the frequency is found in exactly those lists
of radios and speakers that contain `f`, and is no other one. -/
structure Matches (s : State) (f : Bytes) (tx : RemoteTx) : Prop where
  frequency : tx.frequency = f
  sw : (s.swFrequencies.lookup tx.frequency).isSome ↔ f ∈ s.swFrequencies
  lr : (s.lrFrequencies.lookup tx.frequency).isSome ↔ f ∈ s.lrFrequencies
  speakers : ∀ speaker ∈ s.speakers, tx.frequency ∈ speaker.frequencies ↔ f ∈ speaker.frequencies
  distinct : ∀ f', f' ≠ f → tx.frequency ≠ f'

private theorem matches_of_frequency (s : State) {f : Bytes} {tx : RemoteTx}
    (h : tx.frequency = f) :
    Matches s f tx where
  frequency := h
  sw := by
    rw [h]
    exact AList.lookup_isSome
  lr := by
    rw [h]
    exact AList.lookup_isSome
  speakers := by
    intro speaker _
    rw [h]
  distinct := by
    intro f' hne
    rw [h]
    exact hne.symm

/-- Every listener to whom everything is delivered, and who ticks in time, has the transmission
live under the sender's nickname and on the sender's frequency. -/
def Agreed (sent : List Datagram) (sender target : ClientSession) (f : Bytes) : Prop :=
  ∀ (g : Globals) (receivedAt now : Time) (rosterOrders : RosterOrders) (orders : TickOrders)
    (delivered : List Bytes) (n : Bytes),
    (∀ data, data ∈ delivered ↔ ⟨target.endPoint, data⟩ ∈ sent) →
    FilesUnder g rosterOrders orders sender.sessionId n →
    now - receivedAt < milliseconds 1500 →
    let s := (hear g receivedAt rosterOrders delivered now orders).state
    ∃ tx, s.liveTx now n = some tx ∧ Matches s f tx

section Sent
variable {sent : List Datagram} {sender target : ClientSession}

private theorem lookup_hear_of_sent {packet freq : Bytes} {range : UInt16} {sub : Bytes}
    (hsent : ∀ data, ⟨target.endPoint, data⟩ ∈ sent ↔ data = packet)
    (hfired : Voice.handlePacket packet =
      .ok (some (.radioTx sender.sessionId true freq range sub)))
    {g : Globals} {receivedAt now : Time} {rosterOrders : RosterOrders} {orders : TickOrders}
    {delivered : List Bytes} {n : Bytes}
    (hdelivered : ∀ data, data ∈ delivered ↔ ⟨target.endPoint, data⟩ ∈ sent)
    (hfiles : FilesUnder g rosterOrders orders sender.sessionId n)
    (hfresh : now - receivedAt < milliseconds 1500) :
    (hear g receivedAt rosterOrders delivered now orders).state.remoteTx.lookup n =
      if freq = [] then none
      else
        some
          { nickname := n
            frequency := freq
            range := Float32.ofNat range.toNat
            subtype := sub
            received := now } := by
  have hsome : delivered ≠ [] :=
    List.ne_nil_of_mem ((hdelivered packet).mpr ((hsent packet).mpr rfl))
  have hall : ∀ data ∈ delivered, Voice.handlePacket data =
      .ok (some (.radioTx sender.sessionId true freq range sub)) := by
    intro data hdata
    rw [(hsent data).mp ((hdelivered data).mp hdata), hfired]
  rw [lookup_hear_of_broadcast hfiles hsome hall hfresh]
  simp [State.filed]

/-- A nonempty frequency is live at once. -/
theorem liveTx_hear_of_sent {packet freq : Bytes} {range : UInt16} {sub : Bytes}
    (hsent : ∀ data, ⟨target.endPoint, data⟩ ∈ sent ↔ data = packet)
    (hfired : Voice.handlePacket packet =
      .ok (some (.radioTx sender.sessionId true freq range sub)))
    {g : Globals} {receivedAt now : Time} {rosterOrders : RosterOrders} {orders : TickOrders}
    {delivered : List Bytes} {n : Bytes}
    (hdelivered : ∀ data, data ∈ delivered ↔ ⟨target.endPoint, data⟩ ∈ sent)
    (hfiles : FilesUnder g rosterOrders orders sender.sessionId n)
    (hfresh : now - receivedAt < milliseconds 1500) (hne : freq ≠ []) :
    (hear g receivedAt rosterOrders delivered now orders).state.liveTx now n =
      some
        { nickname := n
          frequency := freq
          range := Float32.ofNat range.toNat
          subtype := sub
          received := now } := by
  have hlookup := lookup_hear_of_sent hsent hfired hdelivered hfiles hfresh
  rw [if_neg hne] at hlookup
  refine State.liveTx_eq_some.mpr ⟨hlookup, ?_⟩
  show now - now < kTxExpiry
  rw [Int.sub_self]
  decide

private theorem agreed_iff_of_broadcast {packet freq : Bytes} {range : UInt16} {sub : Bytes}
    (f : Bytes)
    (hsent : ∀ data, ⟨target.endPoint, data⟩ ∈ sent ↔ data = packet)
    (hfired : Voice.handlePacket packet =
      .ok (some (.radioTx sender.sessionId true freq range sub))) :
    Agreed sent sender target f ↔ freq ≠ [] ∧ freq = f := by
  constructor
  · intro hagreed
    -- ask a listener that knows nobody but the sender
    obtain ⟨g, n, hfiles, _, _⟩ := exists_filesUnder sender.sessionId
    have hdelivered : ∀ data, data ∈ [packet] ↔ ⟨target.endPoint, data⟩ ∈ sent := by
      intro data
      rw [hsent, List.mem_singleton]
    obtain ⟨tx, htx, hmatch⟩ := hagreed g 0 0 {} {} [packet] n hdelivered hfiles (by decide)
    have hlookup := (State.liveTx_eq_some.mp htx).1
    rw [lookup_hear_of_sent hsent hfired hdelivered hfiles (by decide)] at hlookup
    split at hlookup
    · cases hlookup
    · rename_i hne
      refine ⟨hne, ?_⟩
      rw [← hmatch.frequency, ← Option.some.inj hlookup]
  · intro h g receivedAt now rosterOrders orders delivered n hdelivered hfiles hfresh
    obtain ⟨hne, heq⟩ := h
    exact ⟨_, liveTx_hear_of_sent hsent hfired hdelivered hfiles hfresh hne,
      matches_of_frequency _ heq⟩

private theorem not_agreed_of_quiet (f : Bytes) (delivered : List Bytes)
    (hdelivered : ∀ data, data ∈ delivered ↔ ⟨target.endPoint, data⟩ ∈ sent)
    (hquiet : ∀ data ∈ delivered, ∀ callback, Voice.handlePacket data ≠ .ok (some callback)) :
    ¬ Agreed sent sender target f := by
  intro hagreed
  obtain ⟨g, n, hfiles, hcache, hnone⟩ := exists_filesUnder sender.sessionId
  obtain ⟨tx, htx, _⟩ := hagreed g 0 0 {} {} delivered n hdelivered hfiles (by decide)
  have hlookup := (State.liveTx_eq_some.mp htx).1
  rw [lookup_hear_of_quiet hcache hquiet, hnone] at hlookup
  cases hlookup

end Sent

/-- The frequency passes every limit on the way, and so does the subtype. -/
structure Fits (f sub : Bytes) : Prop where
  nonempty : f ≠ []
  short : f.length ≤ maxFreqLength
  wellFormed : ValidUtf8 f
  subtype : (recoded (Voice.truncateUtf8 sub maxSubtypeLength)).length ≤ maxSubtypeLength

section Relayed
variable {server : RelayServer} {remote : IPEndPoint} {sender target : ClientSession}
  {serverNow : Int} {order : SessionOrder} {f : Bytes} {range : UInt16} {sub : Bytes}

/-- What reaches another session: one broadcast with the recoded strings, or nothing. -/
theorem mem_delivered (hsender : server.tables.sessionsByEndPoint.lookup remote = some sender)
    (htarget : target ∈ server.others sender)
    (hf : f.length ≤ maxFreqLength) (hsub : sub.length ≤ maxSubtypeLength) (data : Bytes) :
    ⟨target.endPoint, data⟩ ∈ (server.handlePacket serverNow order
        (PacketType.radioTxUpdate.code :: radioTxUpdateBody 1 f range sub) remote).sent ↔
      (recoded f).length + (recoded sub).length ≤ maxFreqLength + maxSubtypeLength ∧
        data = radioTxBroadcastBytes sender.sessionId 1 (recoded f) range (recoded sub) := by
  have hrelayed := RelayServer.mem_relayed hsender serverNow order 1 range hf hsub
    ⟨target.endPoint, data⟩
  obtain ⟨hmem, hother⟩ := RelayServer.mem_others.mp htarget
  rw [hrelayed]
  constructor
  · intro h
    obtain ⟨hfits, _, _, _, hd⟩ := h
    injection hd with _ hdata
    exact ⟨hfits, hdata⟩
  · intro h
    obtain ⟨hfits, rfl⟩ := h
    exact ⟨hfits, target, hmem, hother, rfl⟩

theorem handlePacket_broadcast {sessionId : UInt32}
    (hsum : (recoded f).length + (recoded sub).length ≤ maxFreqLength + maxSubtypeLength) :
    Voice.handlePacket (radioTxBroadcastBytes sessionId 1 (recoded f) range (recoded sub)) =
      if (recoded f).length ≤ maxFreqLength ∧ (recoded sub).length ≤ maxSubtypeLength then
        .ok (some (.radioTx sessionId true (recoded f) range (recoded sub)))
      else .error .runtimeError := by
  simp only [maxFreqLength, maxSubtypeLength] at hsum
  exact handlePacket_radioTxBroadcastBytes sessionId 1 range (by omega) (by omega)

end Relayed

private theorem recoded_truncated_iff {f : Bytes} {maxLength : Nat} :
    recoded (Voice.truncateUtf8 f maxLength) = f ∧
        (recoded (Voice.truncateUtf8 f maxLength)).length ≤ maxLength ↔
      f.length ≤ maxLength ∧ ValidUtf8 f := by
  constructor
  · intro h
    exact Voice.encode_decode_truncateUtf8.mp h.1
  · intro h
    have heq : recoded (Voice.truncateUtf8 f maxLength) = f :=
      Voice.encode_decode_truncateUtf8.mpr h
    rw [heq]
    exact ⟨rfl, h.1⟩

/-- A datagram that a sender with a pressed tangent sends brings a listener to the sender's
frequency exactly if the frequency is a nonempty well-formed string of at most 16 bytes and the
subtype still fits after the relay has recoded it. -/
theorem agreed_iff_fits {g : Globals} (hpressed : g.state.tangentPressed = true) {now : Time}
    {socket : Nat} {data : Bytes} (hsent : (socket, data) ∈ g.tickSends now)
    {server : RelayServer} {remote : IPEndPoint} {sender target : ClientSession}
    (hsender : server.tables.sessionsByEndPoint.lookup remote = some sender)
    (htarget : target ∈ server.others sender) (serverNow : Int) (order : SessionOrder) :
    Agreed (server.handlePacket serverNow order data remote).sent sender target
        g.state.txFrequency ↔
      Fits g.state.txFrequency g.state.txSubtype := by
  have hdata := eq_pressedUpdate_of_mem hpressed hsent
  have hexact := @recoded_truncated_iff g.state.txFrequency maxFreqLength
  have hfits : Fits g.state.txFrequency g.state.txSubtype ↔ g.state.txFrequency ≠ [] ∧
      (g.state.txFrequency.length ≤ maxFreqLength ∧ ValidUtf8 g.state.txFrequency) ∧
        (recoded (Voice.truncateUtf8 g.state.txSubtype maxSubtypeLength)).length ≤
          maxSubtypeLength := by
    constructor
    · intro h
      exact ⟨h.nonempty, ⟨h.short, h.wellFormed⟩, h.subtype⟩
    · intro h
      exact ⟨h.1, h.2.1.1, h.2.1.2, h.2.2⟩
  rw [hfits, ← hexact, hdata]
  simp only [pressedUpdate]
  have hreaches := @mem_delivered server remote sender target serverNow order
    (Voice.truncateUtf8 g.state.txFrequency maxFreqLength) (Globals.clampedRange g.state.txRange)
    (Voice.truncateUtf8 g.state.txSubtype maxSubtypeLength) hsender htarget
    (Voice.truncateUtf8_length _ _) (Voice.truncateUtf8_length _ _)
  generalize Voice.truncateUtf8 g.state.txFrequency maxFreqLength = f at hreaches
  generalize Voice.truncateUtf8 g.state.txSubtype maxSubtypeLength = sub at hreaches
  generalize Globals.clampedRange g.state.txRange = range at hreaches
  by_cases hread : (recoded f).length ≤ maxFreqLength ∧ (recoded sub).length ≤ maxSubtypeLength
  · have hsum := Nat.add_le_add hread.1 hread.2
    have hfired := @handlePacket_broadcast f range sub sender.sessionId hsum
    rw [if_pos hread] at hfired
    rw [agreed_iff_of_broadcast g.state.txFrequency
      (fun d => (hreaches d).trans (and_iff_right hsum)) hfired]
    constructor
    · intro h
      obtain ⟨hne, heq⟩ := h
      exact ⟨heq ▸ hne, ⟨heq, hread.1⟩, hread.2⟩
    · intro h
      obtain ⟨hne, ⟨heq, _⟩, _⟩ := h
      exact ⟨heq ▸ hne, heq⟩
  · constructor
    · intro hagreed
      by_cases hsum : (recoded f).length + (recoded sub).length ≤ maxFreqLength + maxSubtypeLength
      · have hfired := @handlePacket_broadcast f range sub sender.sessionId hsum
        rw [if_neg hread] at hfired
        refine absurd hagreed (not_agreed_of_quiet _ [radioTxBroadcastBytes sender.sessionId 1
          (recoded f) range (recoded sub)] ?_ ?_)
        · intro d
          rw [hreaches, List.mem_singleton, and_iff_right hsum]
        · intro d hd callback hcallback
          rw [List.mem_singleton.mp hd, hfired] at hcallback
          cases hcallback
      · refine absurd hagreed (not_agreed_of_quiet _ [] ?_ ?_)
        · intro d
          rw [hreaches]
          simp [hsum]
        · intro d hd
          cases hd
    · intro h
      exact absurd ⟨h.2.1.2, h.2.2⟩ hread

/-- Ann and Bob are connected to the relay. -/
def annAndBob : RelayServer :=
  (runHistory Relay.step (Relay.start {} emptyPasswordHash ['1'])
    [.datagram 10 .stored (connectRequest emptyPasswordHash "B" "Bob") ⟨2, 5000⟩,
      .datagram 0 .stored (connectRequest emptyPasswordHash "A" "Ann") ⟨1, 5000⟩]).server

def ann : ClientSession := ⟨0, 1, ⟨1, 5000⟩, ['A'], "Ann".toList⟩

def bob : ClientSession := ⟨1, 2, ⟨2, 5000⟩, ['B'], "Bob".toList⟩

/-- A connected client after a TANGENT command. -/
def transmitting (command : Bytes) : Globals :=
  let g : Globals := { voice := { network := { connected := true, socket := some 0 } } }
  (g.process 0 [] command).1

/-- The shipped code of the independent side makes 17 bytes with a channel of five digits. The
last byte is cut off, and Bob stores another frequency than the one in his own list. -/
theorem independent_code_not_agreed :
    let g := transmitting (ascii
      "TANGENT\tPRESSED\t311.5_independent\t5000\tdigital\tTFAR_anprc148jem~")
    g.state.tangentPressed = true ∧ g.state.txFrequency = ascii "311.5_independent" ∧
      (0, pressedUpdate g.state) ∈ g.tickSends 0 ∧
      ¬ Agreed (annAndBob.handlePacket 30 .stored (pressedUpdate g.state) ⟨1, 5000⟩).sent ann bob
        (ascii "311.5_independent") := by
  intro g
  have hpressed : g.state.tangentPressed = true := by decide
  have hf : g.state.txFrequency = ascii "311.5_independent" := by decide
  have hsub : g.state.txSubtype = ascii "digital" := by decide
  refine ⟨hpressed, hf, pressedUpdate_mem_tickSends hpressed (by decide) (by decide) (by decide) 0,
    ?_⟩
  intro hagreed
  have hreaches := @mem_delivered annAndBob ⟨1, 5000⟩ ann bob 30 .stored
    (Voice.truncateUtf8 g.state.txFrequency maxFreqLength) (Globals.clampedRange g.state.txRange)
    (Voice.truncateUtf8 g.state.txSubtype maxSubtypeLength) (by decide) (by decide)
    (Voice.truncateUtf8_length _ _) (Voice.truncateUtf8_length _ _)
  rw [hf, hsub] at hreaches
  simp only [pressedUpdate] at hagreed
  rw [hf, hsub] at hagreed
  generalize Globals.clampedRange g.state.txRange = range at hreaches hagreed
  have hfired := @handlePacket_broadcast
    (Voice.truncateUtf8 (ascii "311.5_independent") maxFreqLength) range
    (Voice.truncateUtf8 (ascii "digital") maxSubtypeLength) ann.sessionId (by decide)
  rw [if_pos (by decide)] at hfired
  have heq := (agreed_iff_of_broadcast _
    (fun d => (hreaches d).trans (and_iff_right (by decide))) hfired).mp hagreed
  exact absurd heq.2 (by decide)

/-- With the shorter code of the west side the two ends agree. -/
theorem bluefor_code_agrees :
    let g := transmitting (ascii
      "TANGENT\tPRESSED\t311.5_bluefor\t5000\tdigital\tTFAR_anprc152~")
    Agreed (annAndBob.handlePacket 30 .stored (pressedUpdate g.state) ⟨1, 5000⟩).sent ann bob
      g.state.txFrequency ↔ Fits g.state.txFrequency g.state.txSubtype := by
  intro g
  have hpressed : g.state.tangentPressed = true := by decide
  have hsent : (0, pressedUpdate g.state) ∈ g.tickSends 0 :=
    pressedUpdate_mem_tickSends hpressed (by decide) (by decide) (by decide) 0
  exact agreed_iff_fits hpressed hsent (by decide) (by decide) 30 .stored

end Frequency

end TaskForceRadio
