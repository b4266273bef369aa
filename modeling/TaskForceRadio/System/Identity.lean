import TaskForceRadio.Extension.Command
import TaskForceRadio.Extension.RemoteTx
import TaskForceRadio.Foundation.Execution

/-!
# Whose radio it is

Playback finds the session of a nickname, the radio relay the nickname of a session. The first
goes along the maps of the roster and of the uids, the second against both of them, so the two
agree only where both maps can be inverted.
-/

set_option autoImplicit false

namespace TaskForceRadio

open Voice (Time milliseconds VoiceSession RosterOrders RadioTxInfo)
open Extension

/-- What can happen to a listener before somebody transmits. -/
inductive ListenerEvent where
  | call (now : Time) (opusVersion input : Bytes)
  | joined (sessionId : UInt32) (uid name : Bytes)
  | left (orders : RosterOrders) (sessionId : UInt32)
  | connection (connected : Bool)
  | tick (now : Time) (orders : TickOrders)

namespace ListenerEvent

def step (g : Globals) : ListenerEvent → Globals
  | .call now opusVersion input => (g.process now opusVersion input).1
  | .joined sessionId uid name => { g with voice := g.voice.onRemoteJoined sessionId uid name }
  | .left orders sessionId => { g with voice := g.voice.onRemoteLeft orders sessionId }
  | .connection connected => { g with voice := g.voice.onConnectionStateChanged connected }
  | .tick now orders => g.tick now orders

/-- Nothing is cached or filed, and only real nicknames are known. -/
structure Silent (g : Globals) : Prop where
  cache : g.voice.txCache = ∅
  filed : g.state.remoteTx = ∅
  uidNames : ∀ n u, g.state.nameToUid.lookup n = some u → n ≠ []
  clientNames : ∀ n client, g.state.clients.lookup n = some client → n ≠ []

/-- What a command does to the maps of the state. -/
structure KeepsNames (s s' : State) : Prop where
  filed : s.remoteTx = ∅ → s'.remoteTx = ∅
  uidNames : (∀ n u, s.nameToUid.lookup n = some u → n ≠ []) →
    ∀ n u, s'.nameToUid.lookup n = some u → n ≠ []
  clientNames : (∀ n client, s.clients.lookup n = some client → n ≠ []) →
    ∀ n client, s'.clients.lookup n = some client → n ≠ []

private theorem keepsNames_of_same {s s' : State} (hfiled : s'.remoteTx = s.remoteTx)
    (huids : s'.nameToUid = s.nameToUid) (hclients : s'.clients = s.clients) :
    KeepsNames s s' where
  filed := by
    intro h
    rw [hfiled, h]
  uidNames := by
    intro h
    rw [huids]
    exact h
  clientNames := by
    intro h
    rw [hclients]
    exact h

private theorem nonempty_insert {V : Type} {m : Dictionary Bytes V} {k : Bytes} {v : V}
    (hk : k ≠ [])
    (h : ∀ n w, m.lookup n = some w → n ≠ []) :
    ∀ n w, (m.insert k v).lookup n = some w → n ≠ [] := by
  intro n w hn
  rw [Dictionary.lookup_insert_ite] at hn
  split at hn
  · rename_i heq
    rw [heq]
    exact hk
  · exact h n w hn

private theorem keepsNames_markDead (s : State) (name : Bytes) : KeepsNames s
    (s.markDead name) := by
  simp only [State.markDead]
  split
  · exact keepsNames_of_same rfl rfl rfl
  · rename_i client hlookup
    refine ⟨id, id, ?_⟩
    intro h
    exact nonempty_insert (h name client hlookup) h

private theorem keepsNames_execute (s : State) (now : Time) (c : Command) :
    KeepsNames s (s.execute now c) := by
  cases c with
  | pos tokens =>
    show KeepsNames s (s.handlePos now tokens)
    unfold State.handlePos
    split
    · exact keepsNames_of_same rfl rfl rfl
    · dsimp only
      split
      · exact keepsNames_of_same rfl rfl rfl
      · rename_i hname
        exact ⟨id, id, nonempty_insert hname⟩
  | freq tokens =>
    show KeepsNames s (s.handleFreq tokens)
    rw [State.handleFreq_frame]
    exact keepsNames_of_same rfl rfl rfl
  | tangent tokens =>
    show KeepsNames s (s.handleTangent tokens)
    rw [State.handleTangent_frame]
    exact keepsNames_of_same rfl rfl rfl
  | speakers tokens =>
    show KeepsNames s (s.handleSpeakers tokens)
    rw [State.handleSpeakers_frame]
    exact keepsNames_of_same rfl rfl rfl
  | setCfg tokens =>
    show KeepsNames s (s.handleSetCfg tokens)
    rw [State.handleSetCfg_frame]
    exact keepsNames_of_same rfl rfl rfl
  | killed nickname =>
    have hdead := keepsNames_markDead s (convertNickname nickname)
    show KeepsNames s (s.handleKilled nickname)
    simp only [State.handleKilled]
    split
    · exact ⟨hdead.filed, hdead.uidNames, hdead.clientNames⟩
    · exact hdead
  | uid nickname uid =>
    show KeepsNames s (s.handleUid nickname uid)
    simp only [State.handleUid]
    split
    · exact keepsNames_of_same rfl rfl rfl
    · rename_i hname
      exact ⟨id, nonempty_insert (fun h => hname (Or.inl h)), id⟩
  | releaseAllTangents nickname =>
    show KeepsNames s (s.handleReleaseAllTangents nickname)
    rw [State.handleReleaseAllTangents_frame]
    exact keepsNames_of_same rfl rfl rfl
  | addRadioTowers payload =>
    show KeepsNames s (s.handleAddRadioTowers payload)
    rw [State.handleAddRadioTowers_frame]
    exact keepsNames_of_same rfl rfl rfl
  | delRadioTowers payload =>
    show KeepsNames s (s.handleDelRadioTowers payload)
    rw [State.handleDelRadioTowers_frame]
    exact keepsNames_of_same rfl rfl rfl
  | dataFrame => exact keepsNames_of_same rfl rfl rfl
  | missionEnd =>
    refine ⟨fun _ => rfl, id, ?_⟩
    intro _ n client h
    cases h
  | micPtt held => exact keepsNames_of_same rfl rfl rfl
  | micMute => exact keepsNames_of_same rfl rfl rfl
  | speakerMute => exact keepsNames_of_same rfl rfl rfl
  | ignored => exact keepsNames_of_same rfl rfl rfl

private theorem executeVoice_cache (v : VoiceSession) (c : Command) :
    (executeVoice v c).txCache = v.txCache := by
  cases c <;> rfl

private theorem currentRadioTx_of_empty {v : VoiceSession} (h : v.txCache = ∅) (now : Time)
    (order : IterationOrder _) :
    v.currentRadioTx now order = [] := by
  rw [List.eq_nil_iff_forall_not_mem]
  intro tx htx
  obtain ⟨_, _, hlookup, _⟩ := mem_currentRadioTx.mp htx
  rw [h] at hlookup
  cases hlookup

theorem silent_step (g : Globals) (e : ListenerEvent) (h : Silent g) : Silent (step g e) := by
  cases e with
  | call now opusVersion input =>
    obtain ⟨since, requestedAt, heq⟩ := g.process_eq now opusVersion input
    have hstep : step g (.call now opusVersion input) = (g.process now opusVersion input).1 := rfl
    rw [hstep, heq]
    cases inputCommand input with
    | none => exact h
    | some c =>
      have hkeeps := keepsNames_execute g.state now c
      exact ⟨(executeVoice_cache g.voice c).trans h.cache, hkeeps.filed h.filed,
        hkeeps.uidNames h.uidNames, hkeeps.clientNames h.clientNames⟩
  | joined sessionId uid name => exact ⟨h.cache, h.filed, h.uidNames, h.clientNames⟩
  | left orders sessionId => exact ⟨h.cache, h.filed, h.uidNames, h.clientNames⟩
  | connection connected =>
    refine ⟨?_, h.filed, h.uidNames, h.clientNames⟩
    show (g.voice.onConnectionStateChanged connected).txCache = ∅
    cases connected with
    | true => exact h.cache
    | false => rfl
  | tick now orders =>
    obtain ⟨hnames, hclients, hcache, _⟩ := g.tick_frame now orders
    refine ⟨hcache.trans h.cache, ?_, ?_, ?_⟩
    · show (g.tick now orders).state.remoteTx = ∅
      rw [Globals.tick_remoteTx, Globals.beforeSolver_remoteTx, currentRadioTx_of_empty h.cache]
      exact h.filed
    · show ∀ n u, (g.tick now orders).state.nameToUid.lookup n = some u → n ≠ []
      rw [hnames]
      exact h.uidNames
    · show ∀ n client, (g.tick now orders).state.clients.lookup n = some client → n ≠ []
      rw [hclients]
      exact h.clientNames

private theorem silent_start : Silent {} where
  cache := rfl
  filed := rfl
  uidNames := by
    intro n u h
    cases h
  clientNames := by
    intro n client h
    cases h

/-- The unit has sent a POS within the last 6 s. -/
def LiveNickname (s : State) (now : Time) (n : Bytes) : Prop :=
  ∃ client, s.clients.lookup n = some client ∧ now - client.lastUpdate < kClientExpiry

/-- A broadcast as the listener receives it. -/
structure Incoming where
  receivedAt : Time
  freq : Bytes
  range : UInt16 := 0
  sub : Bytes := []

/-- The listener after an active broadcast of the session and the next tick. -/
def afterBroadcast (g : Globals) (sessionId : UInt32) (b : Incoming) (rosterOrders : RosterOrders)
    (now : Time) (orders : TickOrders) : Globals :=
  let voice := g.voice.onRadioTx b.receivedAt rosterOrders sessionId true b.freq b.range b.sub
  { g with voice }.tick now orders

/-- Whatever the orders of the maps, the broadcast is filed under `n` and nobody else. -/
def FiledUnder (g : Globals) (sessionId : UInt32) (b : Incoming) (now : Time) (n : Bytes) :
    Prop :=
  ∀ (rosterOrders : RosterOrders) (orders : TickOrders),
    ((afterBroadcast g sessionId b rosterOrders now orders).state.remoteTx.lookup n).isSome ∧
      ∀ m, m ≠ n →
        (afterBroadcast g sessionId b rosterOrders now orders).state.remoteTx.lookup m = none

/-- The uid leads back to `n`: every nickname that maps to it is `n`, and there is one or the uid
is the nickname itself. -/
def LeadsBackTo (s : State) (u n : Bytes) : Prop :=
  (∀ m, s.nameToUid.lookup m = some u → m = n) ∧ (s.nameToUid.lookup n = some u ∨ u = n)

/-- The roster lists the session, and only under uids that lead back to `n`. -/
structure Invertible (g : Globals) (sessionId : UInt32) (n : Bytes) : Prop where
  listed : ∃ u, g.voice.uidToSession.lookup u = some sessionId
  leadsBack : ∀ u, g.voice.uidToSession.lookup u = some sessionId →
    u ≠ [] ∧ LeadsBackTo g.state u n

private theorem nameOf_iff {s : State} (hnames : ∀ n u, s.nameToUid.lookup n = some u → n ≠ [])
    {u n : Bytes} (hn : n ≠ []) (hclient : (s.clients.lookup n).isSome) :
    (∀ order, s.nameOf order u = n) ↔ LeadsBackTo s u n := by
  constructor
  · intro h
    have hfirst : ∀ m, s.nameToUid.lookup m = some u → m = n := by
      intro m hm
      obtain ⟨order, horder⟩ := Dictionary.exists_order_firstKeyOf hm
      have hname := h order
      simp only [State.nameOf] at hname
      rw [horder] at hname
      dsimp only [Option.getD_some] at hname
      rw [if_neg (fun hand => hnames m u hm hand.1)] at hname
      exact hname
    refine ⟨hfirst, ?_⟩
    have hname := h .stored
    simp only [State.nameOf] at hname
    cases hkey : Dictionary.firstKeyOf .stored s.nameToUid u with
    | some m =>
      have hm := Dictionary.firstKeyOf_lookup hkey
      rw [hfirst m hm] at hm
      exact Or.inl hm
    | none =>
      rw [hkey] at hname
      dsimp only [Option.getD_none] at hname
      split at hname
      · exact Or.inr hname
      · exact absurd hname.symm hn
  · intro h order
    simp only [State.nameOf]
    cases hkey : Dictionary.firstKeyOf order s.nameToUid u with
    | some m =>
      have hm := h.1 m (Dictionary.firstKeyOf_lookup hkey)
      dsimp only [Option.getD_some]
      rw [hm, if_neg (fun hand => hn hand.1)]
    | none =>
      have hu : u = n := by
        rcases h.2 with hlookup | hu
        · exact absurd hlookup (Dictionary.firstKeyOf_eq_none.mp hkey n)
        · exact hu
      dsimp only [Option.getD_none]
      rw [hu, if_pos ⟨rfl, hclient⟩]

private theorem lookup_afterBroadcast {g : Globals} (h : Silent g) (sessionId : UInt32)
    (b : Incoming)
    (rosterOrders : RosterOrders) (now : Time) (orders : TickOrders) (m : Bytes) :
    ((afterBroadcast g sessionId b rosterOrders now orders).state.remoteTx.lookup m).isSome ↔
      b.freq ≠ [] ∧ now - b.receivedAt < milliseconds 1500 ∧
        g.voice.uidOf rosterOrders sessionId ≠ [] ∧
          g.state.attributed orders.nameToUid (g.voice.uidOf rosterOrders sessionId) = some m := by
  have hcached : ∀ k, (g.voice.onRadioTx b.receivedAt rosterOrders sessionId true b.freq b.range
      b.sub).txCache.lookup k = _ :=
    lookup_onRadioTx g.voice b.receivedAt rosterOrders sessionId true b.freq b.range b.sub
  have hunfiled : ∀ {g' : Globals}, g'.state = g.state → g'.state.remoteTx.lookup m = none := by
    intro g' hg'
    rw [hg', h.filed]
    rfl
  simp only [afterBroadcast]
  by_cases hall : now - b.receivedAt < milliseconds 1500 ∧
      g.voice.uidOf rosterOrders sessionId ≠ [] ∧
        g.state.attributed orders.nameToUid (g.voice.uidOf rosterOrders sessionId) = some m
  · obtain ⟨hfresh, huid, hattr⟩ := hall
    have hentry := hcached sessionId
    rw [if_pos ⟨rfl, huid⟩, if_pos rfl] at hentry
    rw [Globals.lookup_tick_of_attributed (mem_currentRadioTx.mpr ⟨_, _, hentry, hfresh, rfl⟩)
      hattr]
    · simp only [State.filed]
      by_cases hfreq : b.freq = []
      · simp [hfreq]
      · simp [hfreq, hfresh, huid, hattr]
    · intro tx htx _
      obtain ⟨k, entry, hlookup, _, rfl⟩ := mem_currentRadioTx.mp htx
      rw [hcached k] at hlookup
      split at hlookup
      · rename_i hk
        rw [if_pos rfl] at hlookup
        rw [← Option.some.inj hlookup]
      · rw [h.cache] at hlookup
        cases hlookup
  · rw [Globals.lookup_tick_of_not_attributed, hunfiled rfl]
    · constructor
      · intro hsome
        cases hsome
      · intro hand
        exact absurd hand.2 hall
    · intro tx htx hattr
      obtain ⟨k, entry, hlookup, hfresh, rfl⟩ := mem_currentRadioTx.mp htx
      rw [hcached k] at hlookup
      split at hlookup
      · rename_i hk
        rw [if_pos rfl] at hlookup
        rw [← Option.some.inj hlookup] at hfresh hattr
        exact hall ⟨hfresh, hk.2, hattr⟩
      · rw [h.cache] at hlookup
        cases hlookup

private theorem attributed_iff {s : State} {order : IterationOrder (Bytes × Bytes)} {u n : Bytes}
    (hu : u ≠ []) (hn : n ≠ []) :
    s.attributed order u = some n ↔ s.nameOf order u = n := by
  simp only [State.attributed]
  by_cases hname : s.nameOf order u = []
  · rw [if_pos (Or.inr hname), hname]
    simp [Ne.symm hn]
  · rw [if_neg (not_or.mpr ⟨hu, hname⟩), Option.some.injEq]

private theorem filedUnder_iff {g : Globals} (h : Silent g) {now : Time} {n : Bytes}
    {sessionId : UInt32}
    (hlive : LiveNickname g.state now n) (b : Incoming) :
    FiledUnder g sessionId b now n ↔
      b.freq ≠ [] ∧ now - b.receivedAt < milliseconds 1500 ∧ Invertible g sessionId n := by
  obtain ⟨client, hclient, _⟩ := hlive
  have hn := h.clientNames n client hclient
  have hsome : (g.state.clients.lookup n).isSome := by
    rw [hclient]
    rfl
  constructor
  · intro hfiled
    have hheld : ∀ rosterOrders orders, _ := fun rosterOrders orders =>
      (lookup_afterBroadcast h sessionId b rosterOrders now orders n).mp
        (hfiled rosterOrders orders).1
    obtain ⟨hfreq, hfresh, hlisted, _⟩ := hheld {} {}
    refine ⟨hfreq, hfresh, ?_, ?_⟩
    · cases hkey :
          Dictionary.firstKeyOf ({} : RosterOrders).uids g.voice.uidToSession sessionId with
      | some u => exact ⟨u, Dictionary.firstKeyOf_lookup hkey⟩
      | none =>
        simp only [VoiceSession.uidOf] at hlisted
        rw [hkey] at hlisted
        exact absurd rfl hlisted
    · intro u hu
      -- some order visits this uid first
      obtain ⟨uids, huids⟩ := Dictionary.exists_order_firstKeyOf hu
      have huid : g.voice.uidOf { uids } sessionId = u := by
        simp only [VoiceSession.uidOf]
        rw [huids]
        rfl
      have hforce : ∀ orders : TickOrders, u ≠ [] ∧
          g.state.attributed orders.nameToUid u = some n := by
        intro orders
        obtain ⟨_, _, hne, hattr⟩ := hheld { uids } orders
        rw [huid] at hne hattr
        exact ⟨hne, hattr⟩
      have hne := (hforce {}).1
      refine ⟨hne, (nameOf_iff h.uidNames hn hsome).mp ?_⟩
      intro order
      exact (attributed_iff hne hn).mp (hforce { nameToUid := order }).2
  · intro hcond rosterOrders orders
    obtain ⟨hfreq, hfresh, ⟨u₀, hu₀⟩, hback⟩ := hcond
    obtain ⟨u, hkey⟩ : ∃ u, Dictionary.firstKeyOf rosterOrders.uids g.voice.uidToSession sessionId =
        some u := by
      cases hkey : Dictionary.firstKeyOf rosterOrders.uids g.voice.uidToSession sessionId with
      | some u => exact ⟨u, rfl⟩
      | none => exact absurd hu₀ (Dictionary.firstKeyOf_eq_none.mp hkey u₀)
    have huid : g.voice.uidOf rosterOrders sessionId = u := by
      simp only [VoiceSession.uidOf]
      rw [hkey]
      rfl
    obtain ⟨hne, hleads⟩ := hback u (Dictionary.firstKeyOf_lookup hkey)
    have hattr := (attributed_iff hne hn).mpr
      ((nameOf_iff h.uidNames hn hsome).mpr hleads orders.nameToUid)
    refine ⟨?_, ?_⟩
    · rw [lookup_afterBroadcast h, huid]
      exact ⟨hfreq, hfresh, hne, hattr⟩
    · intro m hm
      rw [← Option.not_isSome_iff_eq_none, lookup_afterBroadcast h, huid, hattr]
      intro hand
      exact hm (Option.some.inj hand.2.2.2).symm

/-- After any history, when playback resolves a live nickname to a session, an active broadcast
of the session is filed under that nickname alone exactly if it names a frequency, the next tick
comes in time, and the roster lists the session only under uids that lead back to the nickname. -/
theorem filedUnder_resolved_iff (history : List ListenerEvent) {g : Globals}
    (hg : runHistory step {} history = g) {now : Time} {n : Bytes} {sessionId : UInt32}
    (hlive : LiveNickname g.state now n)
    (_hresolved : g.voice.resolve (g.state.uidFor n) n = some sessionId) (b : Incoming) :
    FiledUnder g sessionId b now n ↔
      b.freq ≠ [] ∧ now - b.receivedAt < milliseconds 1500 ∧ Invertible g sessionId n := by
  have hsilent := invariant_runHistory silent_start silent_step history
  rw [hg] at hsilent
  exact filedUnder_iff hsilent hlive b

/-- A player connects as Ann and comes back as Annie. Both names were reported with the uid. -/
def renamed : List ListenerEvent :=
  [.call 3 [] (ascii "POS\tAnnie\t[0,0,0]\t[0,1,0]\t1\t1\t1\t1\tno\t0\t1\t0\t0\t0~"),
    .joined 2 (ascii "7656") (ascii "Annie"),
    .call 2 [] (ascii "UID\tAnnie\t7656~"),
    .left {} 1,
    .joined 1 (ascii "7656") (ascii "Ann"),
    .call 1 [] (ascii "UID\tAnn\t7656~")]

/-- Playback finds Annie's session, but her radio can be filed under Ann. -/
theorem renamed_player_filed_under_old_name :
    let g := runHistory step {} renamed
    LiveNickname g.state 4 (ascii "Annie") ∧
      g.voice.resolve (g.state.uidFor (ascii "Annie")) (ascii "Annie") = some 2 ∧
      ¬ FiledUnder g 2 { receivedAt := 4, freq := ascii "50" } 4 (ascii "Annie") := by
  intro g
  refine ⟨⟨_, rfl, by decide⟩, by decide, ?_⟩
  intro h
  have hfiled := (h {} { nameToUid := .front (ascii "Ann", ascii "7656") }).1
  exact absurd hfiled (by decide)

/-- Under her first name her radio is filed correctly. -/
theorem first_name_filed :
    let g := runHistory step {}
      [.call 3 [] (ascii "POS\tAnn\t[0,0,0]\t[0,1,0]\t1\t1\t1\t1\tno\t0\t1\t0\t0\t0~"),
        .joined 1 (ascii "7656") (ascii "Ann"),
        .call 1 [] (ascii "UID\tAnn\t7656~")]
    g.voice.resolve (g.state.uidFor (ascii "Ann")) (ascii "Ann") = some 1 ∧
      (FiledUnder g 1 { receivedAt := 4, freq := ascii "50" } 4 (ascii "Ann") ↔
        ascii "50" ≠ [] ∧ (4 : Time) - 4 < milliseconds 1500 ∧ Invertible g 1 (ascii "Ann")) := by
  intro g
  have hresolved : g.voice.resolve (g.state.uidFor (ascii "Ann")) (ascii "Ann") = some 1 := by
    decide
  exact ⟨hresolved, filedUnder_resolved_iff _ rfl ⟨_, rfl, by decide⟩ hresolved
    { receivedAt := 4, freq := ascii "50" }⟩

end ListenerEvent

end TaskForceRadio
