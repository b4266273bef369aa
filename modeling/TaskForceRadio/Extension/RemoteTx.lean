import TaskForceRadio.Extension.Tick

/-!
# From a broadcast to the solver

A broadcast goes into the cache of the voice session under the sender's session, and a tick
files what the cache holds under nicknames. Both lookups run against the direction of their map,
so both depend on its iteration order.
-/

set_option autoImplicit false

namespace TaskForceRadio.Extension

open Voice (Time milliseconds seconds VoiceSession RadioTxInfo TxCacheEntry RosterOrders)

namespace State

/-- The nickname under which a transmission is filed, if there is one. -/
def attributed (s : State) (order : IterationOrder (Bytes × Bytes)) (uid : Bytes) :
    Option Bytes :=
  if uid = [] ∨ s.nameOf order uid = [] then none else some (s.nameOf order uid)

/-- What filing a transmission leaves under its nickname. -/
def filed (now : Time) (name : Bytes) (tx : RadioTxInfo) : Option RemoteTx :=
  if tx.active = false ∨ tx.freq = [] then none
  else
    some
      { nickname := name
        frequency := tx.freq
        range := Float32.ofNat tx.range.toNat
        subtype := tx.subtype
        received := now }

section Push
variable (s : State) (now : Time) (order : IterationOrder (Bytes × Bytes))

private theorem attributed_push (tx : RadioTxInfo) (uid : Bytes) :
    (Globals.pushRemoteTx now order s tx).attributed order uid = s.attributed order uid := by
  simp only [Globals.pushRemoteTx]
  rw [setRemoteTx_frame]
  rfl

private theorem lookup_push (tx : RadioTxInfo) (n : Bytes) :
    (Globals.pushRemoteTx now order s tx).remoteTx.lookup n =
      if s.attributed order tx.uid = some n then filed now n tx else s.remoteTx.lookup n := by
  unfold Globals.pushRemoteTx setRemoteTx
  by_cases huid : tx.uid = []
  · have hnone : s.attributed order tx.uid = none := if_pos (Or.inl huid)
    rw [if_pos huid, hnone, if_neg (by simp)]
  · rw [if_neg huid]
    dsimp only
    by_cases hname : s.nameOf order tx.uid = []
    · have hnone : s.attributed order tx.uid = none := if_pos (Or.inr hname)
      rw [if_pos hname, hnone, if_neg (by simp)]
    · have hsome : s.attributed order tx.uid = some (s.nameOf order tx.uid) :=
        if_neg (not_or.mpr ⟨huid, hname⟩)
      rw [if_neg hname, hsome]
      by_cases hn : s.nameOf order tx.uid = n
      · rw [if_pos (congrArg some hn), hn]
        simp only [filed]
        split
        · exact AList.lookup_erase _ _
        · exact AList.lookup_insert _
      · rw [if_neg (fun h => hn (Option.some.inj h))]
        split
        · exact AList.lookup_erase_ne (Ne.symm hn)
        · exact AList.lookup_insert_ne (Ne.symm hn)

private theorem lookup_pushAll_of_not_attributed {txs : List RadioTxInfo} {n : Bytes}
    (h : ∀ tx ∈ txs, s.attributed order tx.uid ≠ some n) :
    (txs.foldl (Globals.pushRemoteTx now order) s).remoteTx.lookup n = s.remoteTx.lookup n := by
  induction txs generalizing s with
  | nil => rfl
  | cons tx rest ih =>
    rw [List.foldl_cons, ih]
    · rw [lookup_push, if_neg (h tx List.mem_cons_self)]
    · intro later hlater
      rw [attributed_push]
      exact h later (List.mem_cons_of_mem _ hlater)

private theorem lookup_pushAll_of_attributed {txs : List RadioTxInfo} {n : Bytes} {tx : RadioTxInfo}
    (hmem : tx ∈ txs) (hattributed : s.attributed order tx.uid = some n)
    (honly : ∀ tx' ∈ txs, s.attributed order tx'.uid = some n → tx' = tx) :
    (txs.foldl (Globals.pushRemoteTx now order) s).remoteTx.lookup n = filed now n tx := by
  induction txs generalizing s with
  | nil => cases hmem
  | cons head rest ih =>
    have hattributed' : (Globals.pushRemoteTx now order s head).attributed order tx.uid =
        some n := (s.attributed_push now order head tx.uid).trans hattributed
    have honly' : ∀ tx' ∈ rest,
        (Globals.pushRemoteTx now order s head).attributed order tx'.uid = some n → tx' = tx := by
      intro tx' htx' hattr
      rw [attributed_push] at hattr
      exact honly tx' (List.mem_cons_of_mem _ htx') hattr
    rw [List.foldl_cons]
    by_cases hlater : tx ∈ rest
    · exact ih _ hlater hattributed' honly'
    · have hhead : head = tx := by
        rcases List.mem_cons.mp hmem with heq | hrest
        · exact heq.symm
        · exact absurd hrest hlater
      rw [lookup_pushAll_of_not_attributed]
      · rw [lookup_push, hhead, if_pos hattributed]
      · intro tx' htx' hattr
        have heq := honly' tx' htx' hattr
        rw [heq] at htx'
        exact hlater htx'

end Push

end State

theorem mem_currentRadioTx {v : VoiceSession} {now : Time}
    {order : IterationOrder (UInt32 × TxCacheEntry)} {tx : RadioTxInfo} :
    tx ∈ v.currentRadioTx now order ↔ ∃ sessionId entry,
      v.txCache.lookup sessionId = some entry ∧ now - entry.receivedAt < VoiceSession.kTxExpiry ∧
        entry.info = tx := by
  simp only [VoiceSession.currentRadioTx]
  rw [List.mem_filterMap]
  constructor
  · intro h
    obtain ⟨⟨sessionId, entry⟩, hmem, hsome⟩ := h
    dsimp only at hsome
    split at hsome
    · rename_i hfresh
      have hlookup := (Dictionary.mem_pairs _ _ _).mp ((order.mem_arrange _ _).mp hmem)
      exact ⟨sessionId, entry, hlookup, hfresh, Option.some.inj hsome⟩
    · cases hsome
  · intro h
    obtain ⟨sessionId, entry, hlookup, hfresh, rfl⟩ := h
    refine ⟨(sessionId, entry), ?_, if_pos hfresh⟩
    exact (order.mem_arrange _ _).mpr ((Dictionary.mem_pairs _ _ _).mpr hlookup)

/-- What `onRadioTx` does to the cache entry of a session. -/
theorem lookup_onRadioTx (v : VoiceSession) (now : Time) (orders : RosterOrders)
    (sender : UInt32) (active : Bool) (freq : Bytes) (range : UInt16) (sub : Bytes)
    (k : UInt32) :
    (v.onRadioTx now orders sender active freq range sub).txCache.lookup k =
      if k = sender ∧ v.uidOf orders sender ≠ [] then
        if active then
          let uid := v.uidOf orders sender
          some { info := { uid, active := true, freq, range, subtype := sub }, receivedAt := now }
        else none
      else v.txCache.lookup k := by
  simp only [VoiceSession.onRadioTx]
  by_cases huid : v.uidOf orders sender = []
  · rw [if_pos huid, if_neg (by simp [huid])]
  · rw [if_neg huid]
    cases active with
    | true =>
      show (v.txCache.insert sender _).lookup k = _
      rw [Dictionary.lookup_insert_ite]
      by_cases hk : k = sender
      · rw [if_pos hk, if_pos ⟨hk, huid⟩, if_pos rfl]
      · rw [if_neg hk, if_neg (fun h => hk h.1)]
    | false =>
      show (v.txCache.erase sender).lookup k = _
      rw [Dictionary.lookup_erase_ite]
      by_cases hk : k = sender
      · rw [if_pos hk, if_pos ⟨hk, huid⟩, if_neg Bool.false_ne_true]
      · rw [if_neg hk, if_neg (fun h => hk h.1)]

theorem onRadioTx_roster (v : VoiceSession) (now : Time) (orders : RosterOrders)
    (sender : UInt32) (active : Bool) (freq : Bytes) (range : UInt16) (sub : Bytes) :
    (v.onRadioTx now orders sender active freq range sub).uidToSession = v.uidToSession := by
  simp only [VoiceSession.onRadioTx]
  split
  · rfl
  · split <;> rfl

namespace Globals

private theorem applyAudibility_cache (v : VoiceSession) (order : IterationOrder _)
    (units : List Voice.AudibilityUpdate) :
    (v.applyAudibility order units).txCache = v.txCache ∧
      (v.applyAudibility order units).uidToSession = v.uidToSession := by
  simp only [VoiceSession.applyAudibility]
  split <;> exact ⟨rfl, rfl⟩

private theorem applyOverride_state (g : Globals) :
    g.applyOverride.state = { g.state with pendingTransmitOverride := none } := by
  simp only [applyOverride, State.takeTransmitOverride]
  split <;> rfl

private theorem applyOverride_roster (g : Globals) :
    g.applyOverride.voice.txCache = g.voice.txCache ∧
      g.applyOverride.voice.uidToSession = g.voice.uidToSession := by
  simp only [applyOverride, State.takeTransmitOverride]
  split <;> exact ⟨rfl, rfl⟩

theorem pushAll_frame (now : Time) (order : IterationOrder (Bytes × Bytes)) (s : State)
    (txs : List RadioTxInfo) :
    txs.foldl (pushRemoteTx now order) s =
      { s with remoteTx := (txs.foldl (pushRemoteTx now order) s).remoteTx } := by
  induction txs generalizing s with
  | nil => rfl
  | cons tx rest ih =>
    have hpush : pushRemoteTx now order s tx =
        { s with remoteTx := (pushRemoteTx now order s tx).remoteTx } := s.setRemoteTx_frame ..
    rw [List.foldl_cons, ih, hpush]

/-- The state that a tick hands to the solver. -/
theorem beforeSolver_state (g : Globals) (now : Time) (orders : TickOrders) :
    (g.beforeSolver now orders).state =
      { g.applySettings.applyIdentity.state with
        remoteTx := (g.beforeSolver now orders).state.remoteTx
        pendingTransmitOverride := none } := by
  simp only [beforeSolver]
  rw [applyOverride_state]
  show { (((g.voice.currentRadioTx now orders.txCache).foldl (pushRemoteTx now orders.nameToUid)
    g.applySettings.applyIdentity.state)) with pendingTransmitOverride := none } = _
  rw [pushAll_frame]
  rfl

/-- The part of a tick before the solver files the current transmissions. -/
theorem beforeSolver_remoteTx (g : Globals) (now : Time) (orders : TickOrders) :
    (g.beforeSolver now orders).state.remoteTx =
      ((g.voice.currentRadioTx now orders.txCache).foldl (pushRemoteTx now orders.nameToUid)
        g.applySettings.applyIdentity.state).remoteTx := by
  simp only [beforeSolver]
  rw [applyOverride_state]
  rfl

/-- What a tick leaves alone: names, clients, the cache and the roster. -/
theorem tick_frame (g : Globals) (now : Time) (orders : TickOrders) :
    (g.tick now orders).state.nameToUid = g.state.nameToUid ∧
      (g.tick now orders).state.clients = g.state.clients ∧
      (g.tick now orders).voice.txCache = g.voice.txCache ∧
      (g.tick now orders).voice.uidToSession = g.voice.uidToSession := by
  have hstate : ∀ s, (g.beforeSolver now orders).state = s →
      (g.tick now orders).state.nameToUid = s.nameToUid ∧
        (g.tick now orders).state.clients = s.clients := by
    intro s hs
    rw [← hs]
    exact ⟨rfl, rfl⟩
  obtain ⟨hnames, hclients⟩ := hstate _ (g.beforeSolver_state now orders)
  obtain ⟨hcache, hroster⟩ := applyOverride_roster
    (((g.applySettings.applyIdentity.announceLocalTx now).1.relayRemoteTx now orders).localBeep.1)
  obtain ⟨hcache', hroster'⟩ := applyAudibility_cache (g.beforeSolver now orders).voice
    orders.paths (((g.beforeSolver now orders).state.computeAudibleUnits now orders.solver).2.map
      toUpdate)
  exact ⟨hnames, hclients, hcache'.trans hcache, hroster'.trans hroster⟩

theorem tick_remoteTx (g : Globals) (now : Time) (orders : TickOrders) :
    (g.tick now orders).state.remoteTx = (g.beforeSolver now orders).state.remoteTx := rfl

section Filing
variable {g : Globals} {now : Time} {orders : TickOrders} {n : Bytes}

/-- Without a current transmission attributed to it, a nickname keeps its entry. -/
theorem lookup_tick_of_not_attributed
    (h : ∀ tx ∈ g.voice.currentRadioTx now orders.txCache,
      g.state.attributed orders.nameToUid tx.uid ≠ some n) :
    (g.tick now orders).state.remoteTx.lookup n = g.state.remoteTx.lookup n := by
  rw [tick_remoteTx, beforeSolver_remoteTx]
  exact State.lookup_pushAll_of_not_attributed g.applySettings.applyIdentity.state now
    orders.nameToUid h

/-- The only current transmission attributed to a nickname is filed under it. -/
theorem lookup_tick_of_attributed {tx : RadioTxInfo}
    (hmem : tx ∈ g.voice.currentRadioTx now orders.txCache)
    (hattributed : g.state.attributed orders.nameToUid tx.uid = some n)
    (honly : ∀ tx' ∈ g.voice.currentRadioTx now orders.txCache,
      g.state.attributed orders.nameToUid tx'.uid = some n → tx' = tx) :
    (g.tick now orders).state.remoteTx.lookup n = State.filed now n tx := by
  rw [tick_remoteTx, beforeSolver_remoteTx]
  exact State.lookup_pushAll_of_attributed g.applySettings.applyIdentity.state now
    orders.nameToUid hmem hattributed honly

end Filing

/-- Sessions, uids and nicknames correspond one to one, as far as the roster goes. -/
structure Identified (g : Globals) : Prop where
  uidNonempty : ∀ u k, g.voice.uidToSession.lookup u = some k → u ≠ []
  oneUid : ∀ u u' k, g.voice.uidToSession.lookup u = some k →
    g.voice.uidToSession.lookup u' = some k → u = u'
  named : ∀ u k, g.voice.uidToSession.lookup u = some k →
    ∃ n, n ≠ [] ∧ g.state.nameToUid.lookup n = some u
  oneName : ∀ n n' u, g.state.nameToUid.lookup n = some u →
    g.state.nameToUid.lookup n' = some u → n = n'

/-- A listener that knows one player. -/
theorem identified_single {g : Globals} {u n : Bytes} {k : UInt32} (hu : u ≠ []) (hn : n ≠ [])
    (hroster : g.voice.uidToSession = (∅ : Dictionary Bytes UInt32).insert u k)
    (hnames : g.state.nameToUid = (∅ : Dictionary Bytes Bytes).insert n u) :
    g.Identified := by
  have huid : ∀ u' k', g.voice.uidToSession.lookup u' = some k' → u' = u := by
    intro u' k' h
    rw [hroster, Dictionary.lookup_insert_ite] at h
    split at h
    · assumption
    · cases h
  have hname : ∀ n' u', g.state.nameToUid.lookup n' = some u' → n' = n := by
    intro n' u' h
    rw [hnames, Dictionary.lookup_insert_ite] at h
    split at h
    · assumption
    · cases h
  refine ⟨?_, ?_, ?_, ?_⟩
  · intro u' k' h
    rw [huid u' k' h]
    exact hu
  · intro u' u'' k' h h'
    rw [huid u' k' h, huid u'' k' h']
  · intro u' k' h
    rw [huid u' k' h]
    refine ⟨n, hn, ?_⟩
    rw [hnames, AList.lookup_insert]
  · intro n' n'' u' h h'
    rw [hname n' u' h, hname n'' u' h']

theorem Identified.uidOf {g : Globals} (h : Identified g) {u : Bytes} {k : UInt32}
    (hu : g.voice.uidToSession.lookup u = some k) (orders : RosterOrders) :
    g.voice.uidOf orders k = u := by
  have hfirst : Dictionary.firstKeyOf orders.uids g.voice.uidToSession k = some u :=
    Dictionary.firstKeyOf_unique hu (fun u' hu' => h.oneUid u' u k hu' hu)
  simp only [VoiceSession.uidOf]
  rw [hfirst]
  rfl

theorem Identified.attributed {g : Globals} (h : Identified g) {u n : Bytes} {k : UInt32}
    (hu : g.voice.uidToSession.lookup u = some k) (hn : g.state.nameToUid.lookup n = some u)
    (order : IterationOrder (Bytes × Bytes)) :
    g.state.attributed order u = some n := by
  obtain ⟨n', hn', hlookup⟩ := h.named u k hu
  have heq := h.oneName n n' u hn hlookup
  have hfirst : Dictionary.firstKeyOf order g.state.nameToUid u = some n :=
    Dictionary.firstKeyOf_unique hn (fun m hm => h.oneName m n u hm hn)
  have hname : g.state.nameOf order u = n := by
    simp only [State.nameOf]
    rw [hfirst]
    show (if n = [] ∧ (g.state.clients.lookup u).isSome then u else n) = n
    rw [if_neg (fun hand => hn' (heq ▸ hand.1))]
  simp only [State.attributed]
  rw [hname, if_neg]
  intro hor
  rcases hor with hempty | hempty
  · exact h.uidNonempty u k hu hempty
  · exact hn' (heq ▸ hempty)

end Globals

end TaskForceRadio.Extension
