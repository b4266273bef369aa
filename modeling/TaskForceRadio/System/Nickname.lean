import TaskForceRadio.System.Codec
import TaskForceRadio.System.Identity
import TaskForceRadio.System.Roster

/-!
# The nickname as an identity

A player without a known uid goes by the nickname, on its own machine and on the listener's. The
wire shortens the uid to 40 bytes and the name to 32, the listener looks up the strings at full
length.
-/

set_option autoImplicit false

namespace TaskForceRadio

open Voice (Time VoiceSession RosterOrders PasswordHash)
open VoiceServer Extension

namespace Nickname

/-- The uid of the player `n` for somebody who knows the real uid `U` for `n`, or does not. -/
def identityUid (knows : Bool) (n U : Bytes) : Bytes := if knows then U else n

/-- What the other clients get to see of a uid. -/
def onWire (uid : Bytes) : Bytes := recoded (Voice.truncateUtf8 uid maxUidLength)

/-- Well-formed, and within a limit of the wire. -/
def Short (maxLength : Nat) (s : Bytes) : Prop := s.length ≤ maxLength ∧ ValidUtf8 s

/-- When the row of a listener leads to the session of the player, by what the player's own client
and the listener know. -/
def Resolvable (n U : Bytes) : Bool → Bool → Prop
  | true, true => Short maxUidLength U ∨ Short maxNameLength n
  | false, false => Short maxUidLength n
  | true, false => Short maxNameLength n ∨ onWire U = n
  | false, true => Short maxNameLength n ∨ onWire n = U

private theorem recoded_truncate_eq_iff {s : Bytes} {maxLength : Nat} :
    recoded (Voice.truncateUtf8 s maxLength) = s ↔ Short maxLength s :=
  Voice.encode_decode_truncateUtf8

private theorem decode_truncate_ne_nil {s : Bytes} (hs : s ≠ []) (hvalid : ValidUtf8 s)
    {maxLength : Nat}
    (hmax : 4 ≤ maxLength) : decodeUtf8 (Voice.truncateUtf8 s maxLength) ≠ [] := by
  obtain ⟨text, rfl⟩ := hvalid
  cases text with
  | nil => exact absurd rfl hs
  | cons c text =>
    obtain ⟨kept, heq, hkept⟩ := Voice.truncateUtf8_encode (c :: text) maxLength
    have hone : [c] <+: kept := by
      apply hkept.longest
      · exact ⟨text, rfl⟩
      · have hsize := c.utf8Size_le_four
        simp
        omega
    rw [heq, decodeUtf8_encodeUtf8]
    intro hnil
    rw [hnil] at hone
    exact absurd hone.length_le (by simp)

/-- A handshake of the player under `myUid()` and `myNickname()`. -/
structure Handshake (own : Bool) (n U : Bytes) where
  player : State
  nickname : player.myNickname = n
  knows : player.nameToUid.lookup n = if own then some U else none
  passwordHash : PasswordHash
  request : Bytes
  written : Voice.connectRequestPacket passwordHash
    { uid := player.myUid, name := player.myNickname } = .ok request
  server : RelayServer
  remote : IPEndPoint
  session : ClientSession
  accepted : server.accepted request remote = some session

private theorem admitted_body {server : RelayServer} {passwordHash uid name : Bytes}
    (hhash : passwordHash.length = 32) (huid : uid.length ≤ maxUidLength)
    (hname : name.length ≤ maxNameLength) {identity : Text × Text}
    (h : server.admitted (PacketType.connectRequest.code ::
      RelayServer.connectRequestBody passwordHash uid name) = some identity) :
    identity = (decodeUtf8 uid, decodeUtf8 name) := by
  have hverdict := server.connectVerdict_body hhash huid hname
  simp only [RelayServer.admitted, PacketType.ofCode_code, if_true, hverdict] at h
  by_cases hempty : decodeUtf8 uid = []
  · rw [if_pos hempty] at h
    cases h
  · rw [if_neg hempty] at h
    by_cases hpassword : passwordHash = server.expectedPasswordHash
    · rw [if_neg (not_not.mpr hpassword)] at h
      exact (Option.some.inj h).symm
    · rw [if_pos hpassword] at h
      cases h

section Session
variable {own : Bool} {n U : Bytes} (hn : n ≠ [])
include hn

private theorem myUid_eq (hU : U ≠ []) (h : Handshake own n U) :
    h.player.myUid = identityUid own n U := by
  have hknows := h.knows
  rw [State.myUid, h.nickname, if_neg hn, hknows]
  cases own with
  | true => exact if_neg hU
  | false => rfl

private theorem sessionName_eq_iff (uid : Text) :
    let name := decodeUtf8 (Voice.truncateUtf8 n maxNameLength)
    encodeUtf8 (if name = [] then uid else name) = n ↔ Short maxNameLength n := by
  intro name
  have hname : ValidUtf8 n → name ≠ [] := fun hvalid => decode_truncate_ne_nil hn hvalid (by decide)
  by_cases hempty : name = []
  · -- a uid takes the place of the name, and it is well formed while the nickname is not
    have hinvalid : ¬ ValidUtf8 n := fun hvalid => hname hvalid hempty
    rw [if_pos hempty]
    constructor
    · intro h
      exact absurd ⟨uid, h⟩ hinvalid
    · intro h
      exact absurd h.2 hinvalid
  · rw [if_neg hempty]
    exact recoded_truncate_eq_iff

private theorem session_strings (hU : U ≠ []) (h : Handshake own n U) :
    encodeUtf8 h.session.uid = onWire (identityUid own n U) ∧
      (encodeUtf8 h.session.name = n ↔ Short maxNameLength n) := by
  have hwritten := h.written
  have haccepted := h.accepted
  rw [myUid_eq hn hU h, h.nickname, Voice.connectRequestPacket_eq] at hwritten
  rw [← Except.ok.inj hwritten, RelayServer.accepted] at haccepted
  split at haccepted
  · cases haccepted
  · rename_i uid name hadmitted
    have hidentity := admitted_body h.passwordHash.2
      (Voice.truncateUtf8_length (identityUid own n U) maxUidLength)
      (Voice.truncateUtf8_length n maxNameLength) hadmitted
    obtain ⟨rfl, rfl⟩ := Prod.mk.inj hidentity
    split at haccepted
    · cases haccepted
    · rw [← Option.some.inj haccepted]
      exact ⟨rfl, sessionName_eq_iff hn _⟩

end Session

section Roster
variable {keys : List Bytes} {sessionId : UInt32} {key : Bytes} {m : Dictionary Bytes UInt32}

/-- Of these keys, a map has at most the session's own, for the session. -/
def OnlyAt (keys : List Bytes) (sessionId : UInt32) (key : Bytes) (m : Dictionary Bytes UInt32) :
    Prop :=
  ∀ k ∈ keys, ∀ s, m.lookup k = some s → s = sessionId ∧ k = key

private theorem onlyAt_empty : OnlyAt keys sessionId key ∅ := by
  intro k _ s h
  cases h

private theorem OnlyAt.insert_own (h : OnlyAt keys sessionId key m) :
    OnlyAt keys sessionId key (m.insert key sessionId) := by
  intro k hk s hs
  rw [Dictionary.lookup_insert_ite] at hs
  split at hs
  · rename_i heq
    exact ⟨(Option.some.inj hs).symm, heq⟩
  · exact h k hk s hs

private theorem OnlyAt.insert_other (h : OnlyAt keys sessionId key m) {k' : Bytes} (hk' : k' ∉ keys)
    (s' : UInt32) : OnlyAt keys sessionId key (m.insert k' s') := by
  intro k hk s hs
  have hne : k ≠ k' := fun heq => hk' (heq ▸ hk)
  rw [Dictionary.lookup_insert_ite, if_neg hne] at hs
  exact h k hk s hs

theorem OnlyAt.eraseFirstOf (h : OnlyAt keys sessionId key m) (order : IterationOrder _)
    (s' : UInt32) : OnlyAt keys sessionId key (Dictionary.eraseFirstOf order m s') := by
  intro k hk s hs
  simp only [Dictionary.eraseFirstOf] at hs
  split at hs
  · exact h k hk s (Dictionary.lookup_of_lookup_erase hs).2
  · exact h k hk s hs

private theorem lookup_eraseFirstOf_of_ne (order : IterationOrder (Bytes × UInt32)) {s' : UInt32}
    (hs' : s' ≠ sessionId) (h : m.lookup key = some sessionId) :
    (Dictionary.eraseFirstOf order m s').lookup key = some sessionId := by
  simp only [Dictionary.eraseFirstOf]
  split
  · rename_i k hfirst
    have hk := Dictionary.firstKeyOf_lookup hfirst
    have hne : key ≠ k := by
      intro heq
      rw [← heq, h] at hk
      exact hs' (Option.some.inj hk).symm
    rw [Dictionary.lookup_erase_ite, if_neg hne, h]
  · exact h

end Roster

/-- The ClientJoined of a session, as the listener's client hands it on. -/
def Announces (session : ClientSession) (e : ListenerEvent) : Prop :=
  ∃ packet sessionId uid name, RelayServer.clientJoinedPacket session = .ok packet ∧
    Voice.handlePacket packet = .ok (some (.remoteJoined sessionId uid name)) ∧
    e = .joined sessionId uid name

/-- No other session uses the nickname or the uid. -/
def Alone (session : ClientSession) (n U : Bytes) : ListenerEvent → Prop
  | .joined sessionId uid name =>
      Announces session (.joined sessionId uid name) ∨
        sessionId ≠ session.sessionId ∧ uid ∉ [n, U] ∧ name ∉ [n, U]
  | _ => True

/-- The session does not leave, and the connection does not go down. -/
def Stays (session : ClientSession) : ListenerEvent → Prop
  | .left _ sessionId => sessionId ≠ session.sessionId
  | .connection connected => connected = true
  | _ => True

private theorem announces_eq {session : ClientSession} {e : ListenerEvent}
    (h : Announces session e) :
    e = .joined session.sessionId (encodeUtf8 session.uid) (encodeUtf8 session.name) := by
  obtain ⟨packet, sessionId, uid, name, hpacket, hfired, rfl⟩ := h
  rw [RosterWorld.handlePacket_clientJoined hpacket] at hfired
  split at hfired
  · injection hfired with hfired
    injection hfired with hfired
    injection hfired with hid huid hname
    rw [hid, huid, hname]
  · cases hfired

section Events
variable (g : Globals) (now : Time)

private theorem beforeSolver_roster (orders : TickOrders) :
    (g.beforeSolver now orders).voice.uidToSession = g.voice.uidToSession ∧
      (g.beforeSolver now orders).voice.nameToSession = g.voice.nameToSession := by
  simp only [Globals.beforeSolver, Globals.applyOverride, State.takeTransmitOverride]
  split <;> exact ⟨rfl, rfl⟩

private theorem tick_roster (orders : TickOrders) :
    (g.tick now orders).voice.uidToSession = g.voice.uidToSession ∧
      (g.tick now orders).voice.nameToSession = g.voice.nameToSession := by
  obtain ⟨huids, hnames⟩ := beforeSolver_roster g now orders
  simp only [Globals.tick, Globals.applySolver, VoiceSession.applyAudibility]
  split <;> exact ⟨huids, hnames⟩

private theorem process_roster (opusVersion input : Bytes) :
    (g.process now opusVersion input).1.voice.uidToSession = g.voice.uidToSession ∧
      (g.process now opusVersion input).1.voice.nameToSession = g.voice.nameToSession := by
  obtain ⟨since, requestedAt, heq⟩ := g.process_eq now opusVersion input
  rw [heq]
  cases inputCommand input with
  | none => exact ⟨rfl, rfl⟩
  | some c => cases c <;> exact ⟨rfl, rfl⟩

end Events

section Listener
variable {session : ClientSession} {n U : Bytes}

/-- At the nickname and the uid, the roster of the listener has the session or nothing. -/
structure Reserved (session : ClientSession) (n U : Bytes) (g : Globals) : Prop where
  uids : OnlyAt [n, U] session.sessionId (encodeUtf8 session.uid) g.voice.uidToSession
  names : OnlyAt [n, U] session.sessionId (encodeUtf8 session.name) g.voice.nameToSession

/-- The listener finds the session under its strings, where they are the nickname or the uid. -/
structure Listed (session : ClientSession) (n U : Bytes) (g : Globals) : Prop where
  uid : encodeUtf8 session.uid ∈ [n, U] →
    g.voice.uidToSession.lookup (encodeUtf8 session.uid) = some session.sessionId
  name : encodeUtf8 session.name ∈ [n, U] → encodeUtf8 session.name ≠ [] →
    g.voice.nameToSession.lookup (encodeUtf8 session.name) = some session.sessionId

private theorem Reserved.of_roster {g g' : Globals} (h : Reserved session n U g)
    (hroster : g'.voice.uidToSession = g.voice.uidToSession ∧
      g'.voice.nameToSession = g.voice.nameToSession) : Reserved session n U g' := by
  constructor
  · rw [hroster.1]
    exact h.uids
  · rw [hroster.2]
    exact h.names

private theorem Listed.of_roster {g g' : Globals} (h : Listed session n U g)
    (hroster : g'.voice.uidToSession = g.voice.uidToSession ∧
      g'.voice.nameToSession = g.voice.nameToSession) : Listed session n U g' := by
  constructor
  · rw [hroster.1]
    exact h.uid
  · rw [hroster.2]
    exact h.name

private theorem step_reserved {g : Globals} (h : Reserved session n U g) {e : ListenerEvent}
    (halone : Alone session n U e) : Reserved session n U (ListenerEvent.step g e) := by
  cases e with
  | call now opusVersion input => exact h.of_roster (process_roster g now opusVersion input)
  | tick now orders => exact h.of_roster (tick_roster g now orders)
  | left orders sessionId =>
    exact ⟨h.uids.eraseFirstOf orders.uids sessionId, h.names.eraseFirstOf orders.names sessionId⟩
  | connection connected =>
    cases connected with
    | true => exact h.of_roster ⟨rfl, rfl⟩
    | false => exact ⟨onlyAt_empty, onlyAt_empty⟩
  | joined sessionId uid name =>
    rcases halone with hown | hother
    · injection announces_eq hown with hid huid hname
      rw [hid, huid, hname]
      refine ⟨h.uids.insert_own, ?_⟩
      simp only [ListenerEvent.step, VoiceSession.onRemoteJoined]
      split
      · exact h.names
      · exact h.names.insert_own
    · obtain ⟨_, huid, hname⟩ := hother
      refine ⟨h.uids.insert_other huid sessionId, ?_⟩
      simp only [ListenerEvent.step, VoiceSession.onRemoteJoined]
      split
      · exact h.names
      · exact h.names.insert_other hname sessionId

private theorem announced_listed (g : Globals) {e : ListenerEvent} (h : Announces session e) :
    Listed session n U (ListenerEvent.step g e) := by
  rw [announces_eq h]
  constructor
  · intro _
    exact AList.lookup_insert _
  · intro _ hname
    simp only [ListenerEvent.step, VoiceSession.onRemoteJoined]
    rw [if_neg hname]
    exact AList.lookup_insert _

private theorem step_listed {g : Globals} (h : Listed session n U g) {e : ListenerEvent}
    (halone : Alone session n U e) (hstays : Stays session e) :
    Listed session n U (ListenerEvent.step g e) := by
  cases e with
  | call now opusVersion input => exact h.of_roster (process_roster g now opusVersion input)
  | tick now orders => exact h.of_roster (tick_roster g now orders)
  | left orders sessionId =>
    constructor
    · intro hmem
      exact lookup_eraseFirstOf_of_ne orders.uids hstays (h.uid hmem)
    · intro hmem hname
      exact lookup_eraseFirstOf_of_ne orders.names hstays (h.name hmem hname)
  | connection connected =>
    rw [show connected = true from hstays]
    exact h.of_roster ⟨rfl, rfl⟩
  | joined sessionId uid name =>
    rcases halone with hown | hother
    · exact announced_listed g hown
    · obtain ⟨_, huid, hname⟩ := hother
      constructor
      · intro hmem
        have hne : encodeUtf8 session.uid ≠ uid := fun heq => huid (heq ▸ hmem)
        exact (AList.lookup_insert_ne hne).trans (h.uid hmem)
      · intro hmem hnonempty
        have hne : encodeUtf8 session.name ≠ name := fun heq => hname (heq ▸ hmem)
        simp only [ListenerEvent.step, VoiceSession.onRemoteJoined]
        split
        · exact h.name hmem hnonempty
        · exact (AList.lookup_insert_ne hne).trans (h.name hmem hnonempty)

private theorem run_listed {earlier later : List ListenerEvent} {joined : ListenerEvent}
    (hjoined : Announces session joined)
    (halone : ∀ e ∈ later ++ joined :: earlier, Alone session n U e)
    (hstays : ∀ e ∈ later, Stays session e) :
    let g := runHistory ListenerEvent.step {} (later ++ joined :: earlier)
    Reserved session n U g ∧ Listed session n U g := by
  have hreserved : ∀ history : List ListenerEvent, (∀ e ∈ history, Alone session n U e) →
      Reserved session n U (runHistory ListenerEvent.step {} history) := by
    intro history hall
    induction history with
    | nil => exact ⟨onlyAt_empty, onlyAt_empty⟩
    | cons e history ih =>
      have hbefore := ih (fun e' he' => hall e' (List.mem_cons_of_mem _ he'))
      exact step_reserved hbefore (hall e List.mem_cons_self)
  refine ⟨hreserved _ halone, ?_⟩
  clear hreserved
  induction later with
  | nil => exact announced_listed _ hjoined
  | cons e later ih =>
    have hbefore := ih (fun e' he' => halone e' (List.mem_cons_of_mem _ he'))
      (fun e' he' => hstays e' (List.mem_cons_of_mem _ he'))
    exact step_listed hbefore (halone e List.mem_cons_self) (hstays e List.mem_cons_self)

private theorem resolve_iff {g : Globals} (hreserved : Reserved session n U g)
    (hlisted : Listed session n U g)
    (hn : n ≠ []) {uid : Bytes} (huid : uid ∈ [n, U]) :
    g.voice.resolve uid n = some session.sessionId ↔
      encodeUtf8 session.uid = uid ∨ encodeUtf8 session.name = n := by
  have hnmem : n ∈ [n, U] := List.mem_cons_self
  constructor
  · intro h
    simp only [VoiceSession.resolve] at h
    split at h
    · rename_i s hs
      exact Or.inl (hreserved.uids uid huid s hs).2.symm
    · rw [if_neg hn] at h
      exact Or.inr (hreserved.names n hnmem _ h).2.symm
  · intro h
    simp only [VoiceSession.resolve]
    split
    · rename_i s hs
      rw [(hreserved.uids uid huid s hs).1]
    · rename_i hnone
      rcases h with h | h
      · have hfound := hlisted.uid (h ▸ huid)
        rw [h, hnone] at hfound
        cases hfound
      · have hfound := hlisted.name (h ▸ hnmem) (h ▸ hn)
        rw [h] at hfound
        rw [if_neg hn, hfound]

end Listener

private theorem uid_of_row {s : State} {now : Time} {orders : State.SolverOrders}
    {unit : AudibleUnit}
    (h : unit ∈ (s.computeAudibleUnits now orders).2) : unit.uid = s.uidFor unit.nickname := by
  obtain ⟨row, _, rfl⟩ := List.mem_map.mp h
  rfl

private theorem uidFor_eq {s : State} {knows : Bool} {n U : Bytes}
    (h : s.nameToUid.lookup n = if knows then some U else none) :
    s.uidFor n = identityUid knows n U := by
  rw [State.uidFor, h]
  cases knows <;> rfl

private theorem resolvable_iff {n U : Bytes} (own listener : Bool) :
    onWire (identityUid own n U) = identityUid listener n U ∨ Short maxNameLength n ↔
      Resolvable n U own listener := by
  have hlimits : Short maxNameLength n → Short maxUidLength n :=
    fun h => ⟨h.1.trans (by decide), h.2⟩
  cases own with
  | true =>
    cases listener with
    | true => exact or_congr_left recoded_truncate_eq_iff
    | false => exact or_comm
  | false =>
    cases listener with
    | true => exact or_comm
    | false =>
      constructor
      · intro h
        exact h.elim recoded_truncate_eq_iff.mp hlimits
      · intro h
        exact Or.inl (recoded_truncate_eq_iff.mpr h)

/-- A row for the nickname is resolved to the player's session exactly if the nickname is short, or
the uid that the player sent is, after the wire, the one the listener looks up. -/
theorem row_resolved_iff {own listener : Bool} {n U : Bytes} (hn : n ≠ []) (hU : U ≠ [])
    (h : Handshake own n U) {earlier later : List ListenerEvent} {joined : ListenerEvent}
    (hjoined : Announces h.session joined)
    (halone : ∀ e ∈ later ++ joined :: earlier, Alone h.session n U e)
    (hstays : ∀ e ∈ later, Stays h.session e)
    (hknows : (runHistory ListenerEvent.step {} (later ++ joined :: earlier)).state.nameToUid.lookup
      n = if listener then some U else none)
    (now : Time) (orders : TickOrders) {unit : AudibleUnit} :
    let g := (runHistory ListenerEvent.step {} (later ++ joined :: earlier)).beforeSolver now orders
    unit ∈ (g.state.computeAudibleUnits now orders.solver).2 → unit.nickname = n →
      (g.voice.resolve (toUpdate unit).uid (toUpdate unit).nickname = some h.session.sessionId ↔
        Resolvable n U own listener) := by
  intro g hunit hrow
  obtain ⟨hreserved, hlisted⟩ := run_listed hjoined halone hstays
  have hroster := beforeSolver_roster (runHistory ListenerEvent.step {}
    (later ++ joined :: earlier)) now orders
  have hnames : g.state.nameToUid.lookup n = if listener then some U else none := by
    rw [Globals.beforeSolver_state]
    exact hknows
  have huid : (toUpdate unit).uid = identityUid listener n U := by
    have hrowUid := uid_of_row hunit
    rw [hrow, uidFor_eq hnames] at hrowUid
    exact hrowUid
  have hkey : identityUid listener n U ∈ [n, U] := by
    cases listener <;> simp [identityUid]
  obtain ⟨hsessionUid, hsessionName⟩ := session_strings hn hU h
  have hnickname : (toUpdate unit).nickname = n := hrow
  rw [huid, hnickname,
    resolve_iff (hreserved.of_roster hroster) (hlisted.of_roster hroster) hn hkey,
    hsessionUid, hsessionName]
  exact resolvable_iff own listener

section Examples

/-- A player whose own client knows the uid, at an empty relay. -/
def uidKnown (n U : Bytes) : State :=
  { myNickname := n
    nameToUid := (∅ : Dictionary Bytes Bytes).insert n U }

def steamId : Bytes := ascii "76561198000000000"

/-- A nickname of 36 bytes. -/
def longName : Bytes := ascii "Sergeant Alexander Vandenberg-Miller"

def longHandshake : Handshake true longName steamId where
  player := uidKnown longName steamId
  nickname := rfl
  knows := by decide
  passwordHash := ⟨emptyPasswordHash, length_emptyPasswordHash⟩
  request := PacketType.connectRequest.code :: RelayServer.connectRequestBody emptyPasswordHash
    steamId (ascii "Sergeant Alexander Vandenberg-Mi")
  written := by decide +kernel
  server := (Relay.start {} emptyPasswordHash ['1']).server
  remote := ⟨1, 5000⟩
  session := ⟨0, 1, ⟨1, 5000⟩, "76561198000000000".toList,
    "Sergeant Alexander Vandenberg-Mi".toList⟩
  accepted := by decide +kernel

def bobHandshake : Handshake true (ascii "Bob") steamId where
  player := uidKnown (ascii "Bob") steamId
  nickname := rfl
  knows := by decide
  passwordHash := ⟨emptyPasswordHash, length_emptyPasswordHash⟩
  request := PacketType.connectRequest.code :: RelayServer.connectRequestBody emptyPasswordHash
    steamId (ascii "Bob")
  written := by decide +kernel
  server := (Relay.start {} emptyPasswordHash ['1']).server
  remote := ⟨1, 5000⟩
  session := ⟨0, 1, ⟨1, 5000⟩, "76561198000000000".toList, "Bob".toList⟩
  accepted := by decide +kernel

/-- A spectator's POS, and the FREQ of the listener. -/
def spectatorPos (n : Bytes) : ListenerEvent :=
  .call 0 [] (ascii "POS\t" ++ n ++ ascii
    "\t[0,0,0]\t[0,0,0]\ttrue\tfalse\tfalse\tfalse\tno\t0\t1\t0\ttrue\tfalse\t20~")

def annFreq : ListenerEvent :=
  .call 0 [] (ascii "FREQ\t[]\t[]\ttrue\t20\tAnn\t0\t7\t1\t1\t20~")

/-- Ann spectates next to another spectator, whose uid she does not know. -/
def annSpectates (n : Bytes) : List ListenerEvent :=
  [spectatorPos n, spectatorPos (ascii "Ann"), annFreq]

/-- What the relay sends about a session that can be announced. -/
def joinedEvent (session : ClientSession) : ListenerEvent :=
  .joined session.sessionId (encodeUtf8 session.uid) (encodeUtf8 session.name)

private theorem announces_joinedEvent {session : ClientSession} (h : Announced session) :
    Announces session (joinedEvent session) := by
  obtain ⟨packet, hpacket, hfired⟩ := h
  exact ⟨packet, _, _, _, hpacket, hfired, rfl⟩

private theorem annSpectates_harmless (n U : Bytes) {session : ClientSession}
    (h : Announced session) :
    (∀ e ∈ annSpectates n ++ [joinedEvent session], Alone session n U e) ∧
      ∀ e ∈ annSpectates n, Stays session e := by
  constructor
  · intro e he
    simp only [annSpectates, List.cons_append, List.nil_append, List.mem_cons, List.not_mem_nil,
      or_false] at he
    rcases he with rfl | rfl | rfl | rfl
    · trivial
    · trivial
    · trivial
    · exact Or.inl (announces_joinedEvent h)
  · intro e he
    simp only [annSpectates, List.mem_cons, List.not_mem_nil, or_false] at he
    rcases he with rfl | rfl | rfl <;> trivial

/-- What Ann's tick hands to playback. -/
def annTick {n U : Bytes} (h : Handshake true n U) : Globals :=
  (runHistory ListenerEvent.step {} (annSpectates n ++ [joinedEvent h.session])).beforeSolver 0 {}

/-- The own client of the player knows the uid and hands on 32 bytes of the nickname, Ann's state
does not know the uid and looks for all 36 bytes. -/
theorem long_nickname_not_resolved :
    let g := annTick longHandshake
    Announces longHandshake.session (joinedEvent longHandshake.session) ∧
      (∀ e ∈ annSpectates longName ++ [joinedEvent longHandshake.session],
        Alone longHandshake.session longName steamId e) ∧
      (∀ e ∈ annSpectates longName, Stays longHandshake.session e) ∧
      g.state.nameToUid.lookup longName = none ∧
      ∃ unit ∈ (g.state.computeAudibleUnits 0 {}).2, unit.nickname = longName ∧
        g.voice.resolve (toUpdate unit).uid (toUpdate unit).nickname = none := by
  have hannounced : Announced longHandshake.session :=
    (announced_iff_lengths _).mpr (by decide +kernel)
  obtain ⟨halone, hstays⟩ := annSpectates_harmless longName steamId hannounced
  refine ⟨announces_joinedEvent hannounced, halone, hstays, by decide +kernel, ?_⟩
  have hrow : ∃ unit ∈ ((annTick longHandshake).state.computeAudibleUnits 0 {}).2,
      unit.nickname = longName ∧ unit.uid = longName := by
    decide +kernel
  obtain ⟨unit, hunit, hnickname, huid⟩ := hrow
  refine ⟨unit, hunit, hnickname, ?_⟩
  have hresolve : (annTick longHandshake).voice.resolve longName longName = none := by
    decide +kernel
  simp only [toUpdate, hnickname, huid, hresolve]

/-- A short nickname resolves although only one of the two knows the uid. -/
theorem bob_resolved :
    let g := annTick bobHandshake
    ∃ unit ∈ (g.state.computeAudibleUnits 0 {}).2, unit.nickname = ascii "Bob" ∧
      (g.voice.resolve (toUpdate unit).uid (toUpdate unit).nickname =
        some bobHandshake.session.sessionId ↔ Resolvable (ascii "Bob") steamId true false) := by
  have hannounced : Announced bobHandshake.session :=
    (announced_iff_lengths _).mpr (by decide +kernel)
  obtain ⟨halone, hstays⟩ := annSpectates_harmless (ascii "Bob") steamId hannounced
  have hrow : ∃ unit ∈ ((annTick bobHandshake).state.computeAudibleUnits 0 {}).2,
      unit.nickname = ascii "Bob" := by
    decide +kernel
  obtain ⟨unit, hunit, hnickname⟩ := hrow
  exact ⟨unit, hunit, hnickname, @row_resolved_iff true false (ascii "Bob") steamId (by decide)
    (by decide) bobHandshake [] (annSpectates (ascii "Bob")) (joinedEvent bobHandshake.session)
    (announces_joinedEvent hannounced) halone hstays (by decide +kernel) 0 {} unit hunit hnickname⟩

end Examples

end Nickname

end TaskForceRadio
