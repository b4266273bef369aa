import TaskForceRadio.Client.VoiceSession
import TaskForceRadio.Foundation.Execution
import Mathlib.Algebra.BigOperators.Group.List.Basic

/-!
# Full replacement of audibility

A snapshot of the solver decides the paths of every playback source, although only the sources of
the previous snapshot are visited to be silenced.
-/

set_option autoImplicit false

namespace TaskForceRadio.Voice

namespace PlaybackMixer

private theorem lookup_setSourceStates (p : PlaybackMixer) (k s : UInt32)
    (states : RemoteSourcePaths) :
    (p.setSourceStates k states).sources.lookup s =
      if s = k then (p.sources.lookup s).map (fun source => { source with states })
      else p.sources.lookup s := by
  simp only [setSourceStates]
  cases hk : p.sources.lookup k with
  | none =>
    by_cases hs : s = k
    · rw [if_pos hs, hs, hk]
      rfl
    · rw [if_neg hs]
  | some source =>
    by_cases hs : s = k
    · rw [if_pos hs, hs, hk, AList.lookup_insert]
      rfl
    · rw [if_neg hs, AList.lookup_insert_ne hs]

/-- Set the states of several sources one after another. -/
def assign (p : PlaybackMixer) (entries : List (UInt32 × RemoteSourcePaths)) : PlaybackMixer :=
  entries.foldl (fun p entry => p.setSourceStates entry.1 entry.2) p

private theorem assign_cons (p : PlaybackMixer) (entry : UInt32 × RemoteSourcePaths)
    (rest : List (UInt32 × RemoteSourcePaths)) :
    p.assign (entry :: rest) = (p.setSourceStates entry.1 entry.2).assign rest := rfl

private theorem lookup_assign_of_not_mem {p : PlaybackMixer}
    {entries : List (UInt32 × RemoteSourcePaths)} {s : UInt32} (h : s ∉ entries.map Prod.fst) :
    (p.assign entries).sources.lookup s = p.sources.lookup s := by
  induction entries generalizing p with
  | nil => rfl
  | cons entry rest ih =>
    obtain ⟨hne, hrest⟩ := not_or.mp (fun hmem => h (List.mem_cons.mpr hmem))
    rw [assign_cons, ih hrest, lookup_setSourceStates, if_neg hne]

private theorem lookup_assign_of_mem {p : PlaybackMixer}
    {entries : List (UInt32 × RemoteSourcePaths)}
    {s : UInt32} {states : RemoteSourcePaths} (h : s ∈ entries.map Prod.fst)
    (hone : ∀ states', (s, states') ∈ entries → states' = states) :
    (p.assign entries).sources.lookup s =
      (p.sources.lookup s).map (fun source => { source with states }) := by
  induction entries generalizing p with
  | nil => exact absurd h List.not_mem_nil
  | cons entry rest ih =>
    have hrest := fun states' hmem => hone states' (List.mem_cons_of_mem _ hmem)
    rw [assign_cons]
    by_cases hlater : s ∈ rest.map Prod.fst
    · rw [ih hlater hrest, lookup_setSourceStates]
      split
      · rw [Option.map_map]
        rfl
      · rfl
    · have hs : s = entry.1 := (List.mem_cons.mp h).resolve_right hlater
      have hstates : entry.2 = states := by
        refine hone entry.2 (List.mem_cons.mpr (Or.inl ?_))
        rw [hs]
      rw [lookup_assign_of_not_mem hlater, lookup_setSourceStates, if_pos hs, hstates]

end PlaybackMixer

namespace VoiceSession

/-- The states of the units that resolve to a session, in order. -/
def pathsOf (v : VoiceSession) (units : List AudibilityUpdate) (sessionId : UInt32) :
    RemoteSourcePaths :=
  (units.filter (fun unit => v.resolve unit.uid unit.nickname = some sessionId)).map
    AudibilityUpdate.state

private theorem lookup_groupRow (v : VoiceSession) (paths : Dictionary UInt32 RemoteSourcePaths)
    (unit : AudibilityUpdate) (s : UInt32) :
    (v.groupRow paths unit).lookup s =
      if v.resolve unit.uid unit.nickname = some s then
        some ((paths.lookup s).getD [] ++ [AudibilityUpdate.state unit])
      else paths.lookup s := by
  simp only [groupRow]
  cases v.resolve unit.uid unit.nickname with
  | none => rw [if_neg (fun h => nomatch h)]
  | some k =>
    by_cases hs : s = k
    · rw [hs, if_pos rfl, AList.lookup_insert]
    · rw [if_neg (fun h => hs (Option.some.inj h).symm), AList.lookup_insert_ne hs]

private theorem lookup_foldl_groupRow (v : VoiceSession) (units : List AudibilityUpdate)
    (paths : Dictionary UInt32 RemoteSourcePaths) (s : UInt32) :
    (units.foldl v.groupRow paths).lookup s =
      if v.pathsOf units s = [] then paths.lookup s
      else some ((paths.lookup s).getD [] ++ v.pathsOf units s) := by
  induction units generalizing paths with
  | nil => rfl
  | cons unit rest ih =>
    rw [List.foldl_cons, ih, lookup_groupRow]
    by_cases hunit : v.resolve unit.uid unit.nickname = some s
    · have hcons :
          v.pathsOf (unit :: rest) s = AudibilityUpdate.state unit :: v.pathsOf rest s := by
        simp [pathsOf, hunit]
      rw [if_pos hunit, hcons, if_neg (List.cons_ne_nil _ _)]
      split
      · rename_i hnil
        rw [hnil]
      · rw [Option.getD_some, List.append_assoc, List.singleton_append]
    · have hskip : v.pathsOf (unit :: rest) s = v.pathsOf rest s := by
        simp [pathsOf, hunit]
      rw [if_neg hunit, hskip]

private theorem lookup_pathsBySession (v : VoiceSession) (units : List AudibilityUpdate)
    (s : UInt32) :
    (v.pathsBySession units).lookup s =
      if v.pathsOf units s = [] then none else some (v.pathsOf units s) :=
  lookup_foldl_groupRow v units ∅ s

/-- A source with paths is among those the last snapshot set. -/
structure Tracked (v : VoiceSession) : Prop where
  keyed : ∀ s source, v.playback.sources.lookup s = some source → source.sessionId = s
  listed : ∀ s source, v.playback.sources.lookup s = some source → source.states ≠ [] →
    s ∈ v.lastActiveSessionIds

/-- `debugForceAudible` is off, and a new connection would leave it off. -/
def ForceAudibleOff (v : VoiceSession) : Prop :=
  v.playback.debugForceAudible = false ∧ v.network.debugForceAudible = false

section Snapshot
variable {v : VoiceSession} {order : IterationOrder (UInt32 × RemoteSourcePaths)}
  {units : List AudibilityUpdate}

private theorem mem_seen (s : UInt32) :
    s ∈ (order.arrange (v.pathsBySession units).pairs).map Prod.fst ↔ v.pathsOf units s ≠ [] := by
  constructor
  · intro h
    obtain ⟨⟨k, states⟩, hmem, rfl⟩ := List.mem_map.mp h
    rw [IterationOrder.mem_arrange, Dictionary.mem_pairs, lookup_pathsBySession] at hmem
    intro hnil
    rw [if_pos hnil] at hmem
    cases hmem
  · intro h
    refine List.mem_map.mpr ⟨(s, v.pathsOf units s), ?_, rfl⟩
    rw [IterationOrder.mem_arrange, Dictionary.mem_pairs, lookup_pathsBySession, if_neg h]

private theorem applyAudibility_eq (hoff : v.ForceAudibleOff) :
    v.applyAudibility order units =
      let entries := order.arrange (v.pathsBySession units).pairs
      let seen := entries.map Prod.fst
      let silenced := v.lastActiveSessionIds.filter (fun sessionId => sessionId ∉ seen)
      { v with
        playback := (v.playback.assign entries).assign (silenced.map (fun s => (s, [])))
        lastActiveSessionIds := seen } := by
  simp only [applyAudibility, hoff.1, PlaybackMixer.assign, List.foldl_map]
  rfl

private theorem lookup_applyAudibility (h : v.Tracked) (hoff : v.ForceAudibleOff) (s : UInt32) :
    (v.applyAudibility order units).playback.sources.lookup s =
      (v.playback.sources.lookup s).map
        (fun source => { source with states := v.pathsOf units s }) := by
  rw [applyAudibility_eq hoff]
  simp only
  have hsilenced : s ∈ ((v.lastActiveSessionIds.filter (fun sessionId => sessionId ∉
      (order.arrange (v.pathsBySession units).pairs).map Prod.fst)).map
        (fun s => (s, ([] : RemoteSourcePaths)))).map Prod.fst ↔
      s ∈ v.lastActiveSessionIds ∧ v.pathsOf units s = [] := by
    rw [List.map_map]
    simp only [Function.comp_def, List.map_id', List.mem_filter, decide_eq_true_eq, mem_seen,
      not_not]
  by_cases hpaths : v.pathsOf units s = []
  · have hunseen : s ∉ (order.arrange (v.pathsBySession units).pairs).map Prod.fst :=
      fun hmem => (mem_seen s).mp hmem hpaths
    by_cases hactive : s ∈ v.lastActiveSessionIds
    · have hempty : ∀ states', (s, states') ∈ (v.lastActiveSessionIds.filter (fun sessionId =>
          sessionId ∉ (order.arrange (v.pathsBySession units).pairs).map Prod.fst)).map
            (fun s => (s, ([] : RemoteSourcePaths))) → states' = [] := by
        intro states' hmem
        obtain ⟨k, -, heq⟩ := List.mem_map.mp hmem
        exact (Prod.mk.inj heq).2.symm
      rw [PlaybackMixer.lookup_assign_of_mem (hsilenced.mpr ⟨hactive, hpaths⟩) hempty,
        PlaybackMixer.lookup_assign_of_not_mem hunseen, hpaths]
    · rw [PlaybackMixer.lookup_assign_of_not_mem (fun hmem => hactive (hsilenced.mp hmem).1),
        PlaybackMixer.lookup_assign_of_not_mem hunseen]
      cases hs : v.playback.sources.lookup s with
      | none => rfl
      | some source =>
        have hstates : source.states = [] := by
          by_contra hne
          exact hactive (h.listed s source hs hne)
        rw [Option.map_some, hpaths, ← hstates]
  · rw [PlaybackMixer.lookup_assign_of_not_mem (fun hmem => hpaths (hsilenced.mp hmem).2),
      PlaybackMixer.lookup_assign_of_mem ((mem_seen s).mpr hpaths)]
    intro states' hmem
    rw [IterationOrder.mem_arrange, Dictionary.mem_pairs, lookup_pathsBySession,
      if_neg hpaths] at hmem
    exact (Option.some.inj hmem).symm

end Snapshot

private theorem applyAudibility_tracked {v : VoiceSession}
    (order : IterationOrder (UInt32 × RemoteSourcePaths))
    (units : List AudibilityUpdate) (h : v.Tracked) (hoff : v.ForceAudibleOff) :
    (v.applyAudibility order units).Tracked where
  keyed := by
    intro s source hs
    rw [lookup_applyAudibility h hoff] at hs
    obtain ⟨old, hold, rfl⟩ := Option.map_eq_some_iff.mp hs
    exact h.keyed s old hold
  listed := by
    intro s source hs hne
    rw [lookup_applyAudibility h hoff] at hs
    obtain ⟨old, -, rfl⟩ := Option.map_eq_some_iff.mp hs
    rw [applyAudibility_eq hoff]
    exact (mem_seen s).mpr hne

private theorem onRemoteJoined_tracked {v : VoiceSession} (sessionId : UInt32) (uid name : Bytes)
    (h : v.Tracked) (hoff : v.ForceAudibleOff) : (v.onRemoteJoined sessionId uid name).Tracked := by
  have hsource : ∀ s source, (v.playback.addSource sessionId uid).sources.lookup s = some source →
      v.playback.sources.lookup s = some source ∨ source.sessionId = s ∧ source.states = [] := by
    intro s source hs
    simp only [PlaybackMixer.addSource, hoff.1] at hs
    split at hs
    · exact Or.inl hs
    · rw [Dictionary.lookup_insert_ite] at hs
      split at hs
      · rename_i heq
        cases hs
        exact Or.inr ⟨heq.symm, rfl⟩
      · exact Or.inl hs
  constructor
  · intro s source hs
    rcases hsource s source hs with hold | ⟨hid, -⟩
    · exact h.keyed s source hold
    · exact hid
  · intro s source hs hne
    rcases hsource s source hs with hold | ⟨-, hempty⟩
    · exact h.listed s source hold hne
    · exact absurd hempty hne

private theorem onRemoteLeft_tracked {v : VoiceSession} (orders : RosterOrders) (sessionId : UInt32)
    (h : v.Tracked) : (v.onRemoteLeft orders sessionId).Tracked where
  keyed := fun s source hs => h.keyed s source (Dictionary.lookup_of_lookup_erase hs).2
  listed := fun s source hs => h.listed s source (Dictionary.lookup_of_lookup_erase hs).2

private theorem onRadioTx_frame (v : VoiceSession) (now : Time) (orders : RosterOrders)
    (senderSessionId : UInt32) (active : Bool) (freq : Bytes) (range : UInt16) (sub : Bytes) :
    (v.onRadioTx now orders senderSessionId active freq range sub).playback = v.playback ∧
      (v.onRadioTx now orders senderSessionId active freq range sub).lastActiveSessionIds =
        v.lastActiveSessionIds := by
  simp only [onRadioTx]
  split
  · exact ⟨rfl, rfl⟩
  · split <;> exact ⟨rfl, rfl⟩

private theorem onConnectionStateChanged_tracked {v : VoiceSession} (connected : Bool)
    (h : v.Tracked) :
    (v.onConnectionStateChanged connected).Tracked := by
  cases connected with
  | true => exact ⟨h.keyed, h.listed⟩
  | false =>
    constructor
    · intro s source hs
      cases hs
    · intro s source hs
      cases hs

private theorem handle_tracked {v : VoiceSession} (now : Time) (orders : RosterOrders)
    (callback : Callback)
    (h : v.Tracked) (hoff : v.ForceAudibleOff) : (v.handle now orders callback).Tracked := by
  cases callback with
  | voiceFrame => exact h
  | remoteJoined sessionId uid name => exact onRemoteJoined_tracked sessionId uid name h hoff
  | remoteLeft sessionId => exact onRemoteLeft_tracked orders sessionId h
  | radioTx sender active freq range sub =>
    obtain ⟨hplayback, hactive⟩ := onRadioTx_frame v now orders sender active freq range sub
    constructor
    · simp only [handle, hplayback]
      exact h.keyed
    · simp only [handle, hplayback, hactive]
      exact h.listed
  | connectionStateChanged connected => exact onConnectionStateChanged_tracked connected h

end VoiceSession

/-- What reaches a session that matters for audibility. The network client goes its own way. -/
inductive SessionEvent where
  | callback (now : Time) (orders : RosterOrders) (fired : Callback)
  | applyAudibility (order : IterationOrder (UInt32 × RemoteSourcePaths))
      (units : List AudibilityUpdate)
  | networkChanged (network : VoiceNetworkClient)

namespace SessionEvent

def step (v : VoiceSession) : SessionEvent → VoiceSession
  | .callback now orders fired => v.handle now orders fired
  | .applyAudibility order units => v.applyAudibility order units
  | .networkChanged network => { v with network }

private theorem step_tracked {v : VoiceSession} (e : SessionEvent) (h : v.Tracked)
    (hoff : v.ForceAudibleOff) : (step v e).Tracked := by
  cases e with
  | callback now orders fired => exact VoiceSession.handle_tracked now orders fired h hoff
  | applyAudibility order units => exact VoiceSession.applyAudibility_tracked order units h hoff
  | networkChanged network => exact ⟨h.keyed, h.listed⟩

private theorem runHistory_tracked (network : VoiceNetworkClient) {history : List SessionEvent}
    (hoff : Throughout step VoiceSession.ForceAudibleOff { network } history) :
    (runHistory step { network } history).Tracked := by
  induction history with
  | nil =>
    constructor
    · intro s source hs
      cases hs
    · intro s source hs
      cases hs
  | cons e earlier ih => exact step_tracked e (ih hoff.1) hoff.1.last

end SessionEvent

private theorem sum_countP_keys {K U : Type} [DecidableEq K] (f : U → Option K) (units : List U)
    {keys : List K} (hkeys : keys.Nodup) :
    (keys.map (fun k => units.countP (fun unit => f unit = some k))).sum =
      units.countP (fun unit => ∃ k ∈ keys, f unit = some k) := by
  induction keys with
  | nil => simp
  | cons k rest ih =>
    obtain ⟨hk, hrest⟩ := List.nodup_cons.mp hkeys
    rw [List.map_cons, List.sum_cons, ih hrest]
    clear ih
    induction units with
    | nil => rfl
    | cons unit units ih =>
      simp only [List.exists_mem_cons_iff] at ih ⊢
      simp only [List.countP_cons]
      by_cases hunit : f unit = some k
      · have hother : ¬ ∃ k' ∈ rest, f unit = some k' := by
          rintro ⟨k', hmem, hk'⟩
          rw [hunit] at hk'
          exact hk (Option.some.inj hk' ▸ hmem)
        simp only [hunit, true_or, decide_true, if_true]
        rw [hunit] at hother
        simp only [hother, decide_false, Bool.false_eq_true, if_false]
        omega
      · simp only [hunit, false_or, decide_false, Bool.false_eq_true, if_false]
        omega

namespace VoiceSession

private theorem length_pathsOf (v : VoiceSession) (units : List AudibilityUpdate) (s : UInt32) :
    (v.pathsOf units s).length =
      units.countP (fun unit => v.resolve unit.uid unit.nickname = some s) := by
  rw [pathsOf, List.length_map, List.countP_eq_length_filter]

private theorem sum_paths {v : VoiceSession} {units : List AudibilityUpdate}
    (hstates : ∀ s source, v.playback.sources.lookup s = some source →
      source.states = v.pathsOf units s) :
    (v.playback.sources.values.map (fun source => source.states.length)).sum =
      units.countP (fun unit => ∃ s ∈ v.playback.sources.keys,
        v.resolve unit.uid unit.nickname = some s) := by
  have hkeys : v.playback.sources.keys.Nodup := v.playback.sources.nodupKeys
  rw [← sum_countP_keys (fun unit : AudibilityUpdate => v.resolve unit.uid unit.nickname) units
    hkeys]
  congr 1
  simp only [Dictionary.values, AList.keys, List.keys, List.map_map]
  refine List.map_congr_left (fun entry hentry => ?_)
  have hlookup := AList.mem_lookup_iff.mpr hentry
  simp only [Function.comp_apply]
  rw [hstates entry.1 entry.2 (Option.mem_def.mp hlookup), length_pathsOf]

private theorem applyAudibility_roster (v : VoiceSession)
    (order : IterationOrder (UInt32 × RemoteSourcePaths))
    (units : List AudibilityUpdate) (uid nickname : Bytes) :
    (v.applyAudibility order units).resolve uid nickname = v.resolve uid nickname := by
  simp only [applyAudibility]
  split <;> rfl

/-- After a snapshot every source holds the states of exactly the units that resolve to its
session, in order, and no unit is applied twice. -/
theorem applyAudibility_fullReplace (network : VoiceNetworkClient) (history : List SessionEvent)
    (order : IterationOrder (UInt32 × RemoteSourcePaths)) (units : List AudibilityUpdate)
    (hoff : Throughout SessionEvent.step ForceAudibleOff { network } history) :
    let v := (runHistory SessionEvent.step { network } history).applyAudibility order units
    (∀ s source, v.playback.sources.lookup s = some source →
      source.sessionId = s ∧ source.states = v.pathsOf units s) ∧
    (v.playback.sources.values.map (fun source => source.states.length)).sum =
      units.countP (fun unit => ∃ s ∈ v.playback.sources.keys,
        v.resolve unit.uid unit.nickname = some s) := by
  intro v
  have htracked := SessionEvent.runHistory_tracked network hoff
  have hafter := applyAudibility_tracked order units htracked hoff.last
  have hstates : ∀ s source, v.playback.sources.lookup s = some source →
      source.states = v.pathsOf units s := by
    intro s source hs
    rw [lookup_applyAudibility htracked hoff.last] at hs
    obtain ⟨old, -, rfl⟩ := Option.map_eq_some_iff.mp hs
    simp only [pathsOf, v, applyAudibility_roster]
  exact ⟨fun s source hs => ⟨hafter.keyed s source hs, hstates s source hs⟩, sum_paths hstates⟩

/-- Two players join, one leaves, and one is heard in a first snapshot. -/
def annAfterBobLeft : List SessionEvent :=
  [.callback 3 {} (.remoteLeft 8),
    .applyAudibility .stored [{ uid := ascii "A", nickname := ascii "Ann", gain := 1 }],
    .callback 2 {} (.remoteJoined 8 (ascii "B") (ascii "Bob")),
    .callback 1 {} (.remoteJoined 7 (ascii "A") (ascii "Ann"))]

/-- A second snapshot in which Ann is listed by her nickname only, and twice. -/
theorem ann_heard_twice :
    let units : List AudibilityUpdate :=
      [{ uid := ascii "?", nickname := ascii "Ann", effect := .sw },
        { uid := ascii "B", nickname := ascii "Bob" },
        { uid := ascii "?", nickname := ascii "Ann", effect := .speaker }]
    let v := (runHistory SessionEvent.step {} annAfterBobLeft).applyAudibility .stored units
    ∃ source, v.playback.sources.lookup 7 = some source ∧
      source.states = v.pathsOf units 7 ∧ source.states.map (fun path => path.effect) =
        [.sw, .speaker] := by
  intro units v
  have hoff : Throughout SessionEvent.step ForceAudibleOff {} annAfterBobLeft :=
    ⟨⟨⟨⟨⟨rfl, rfl⟩, rfl, rfl⟩, rfl, rfl⟩, rfl, rfl⟩, rfl, rfl⟩
  obtain ⟨hsources, -⟩ := applyAudibility_fullReplace {} annAfterBobLeft .stored units hoff
  have hann : (v.playback.sources.lookup 7).isSome = true := by decide
  obtain ⟨source, hsource⟩ := Option.isSome_iff_exists.mp hann
  have hstates := (hsources 7 source hsource).2
  refine ⟨source, hsource, hstates, ?_⟩
  rw [hstates]
  decide

end VoiceSession

end TaskForceRadio.Voice
