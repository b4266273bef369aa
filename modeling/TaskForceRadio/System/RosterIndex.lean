import TaskForceRadio.Foundation.Execution
import TaskForceRadio.System.Roster

/-!
# The two indexes of the local roster

The sources of the mixer are the sessions that are present; one index finds them by uid, the
other by display name. Both remember the session that was announced last for a key. A session
that leaves takes its key along, and with the key the other sessions of the same name.
-/

set_option autoImplicit false

namespace TaskForceRadio.Voice

/-- The callbacks that change the roster. What a session is announced with never changes. -/
inductive RosterEvent where
  | joined (sessionId : UInt32)
  | left (orders : RosterOrders) (sessionId : UInt32)

section Index
variable (uid name : UInt32 → Bytes)

namespace VoiceSession

def rosterStep (v : VoiceSession) : RosterEvent → VoiceSession
  | .joined s => v.onRemoteJoined s (uid s) (name s)
  | .left orders s => v.onRemoteLeft orders s

def Present (v : VoiceSession) (s : UInt32) : Prop := s ∈ v.playback.sources

instance (v : VoiceSession) (s : UInt32) : Decidable (v.Present s) := by
  unfold Present
  infer_instance

/-- The indexes lead to sessions that are present, and every name that is present is found. -/
structure IndexConsistent (v : VoiceSession) : Prop where
  uids : ∀ u s, v.uidToSession.lookup u = some s → v.Present s
  names : ∀ n s, v.nameToSession.lookup n = some s → v.Present s
  found : ∀ s, v.Present s → name s ≠ [] →
    ∃ s', v.nameToSession.lookup (name s) = some s' ∧ v.Present s' ∧ name s' = name s

/-- The session that leaves is not the one its name leads to, or nobody else has its name. -/
def KeepsNames (v : VoiceSession) : RosterEvent → Prop
  | .joined _ => True
  | .left _ s => name s ≠ [] → v.nameToSession.lookup (name s) = some s →
      ∀ s', v.Present s' → name s' = name s → s' = s

/-- Every entry is of a present session and stands under that session's own key. -/
structure OwnKeys (v : VoiceSession) : Prop where
  uids : ∀ u s, v.uidToSession.lookup u = some s → u = uid s ∧ v.Present s
  names : ∀ n s, v.nameToSession.lookup n = some s → n = name s ∧ v.Present s

variable {uid name} {v : VoiceSession} {s k : UInt32}

private theorem present_joined : (v.onRemoteJoined s (uid s) (name s)).Present k ↔
    k = s ∨ v.Present k := mem_addSource

private theorem present_left {orders : RosterOrders} :
    (v.onRemoteLeft orders s).Present k ↔ k ≠ s ∧ v.Present k := AList.mem_erase

private theorem lookup_names_joined (n : Bytes) :
    (v.onRemoteJoined s (uid s) (name s)).nameToSession.lookup n =
      if n = name s ∧ name s ≠ [] then some s else v.nameToSession.lookup n := by
  simp only [onRemoteJoined]
  by_cases hempty : name s = []
  · simp [hempty]
  · rw [if_neg hempty, Dictionary.lookup_insert_ite]
    simp [hempty]

end VoiceSession

end Index

namespace VoiceSession

variable {uid name : UInt32 → Bytes} {v : VoiceSession} {s : UInt32}

private theorem OwnKeys.lookup_names_left (h : v.OwnKeys uid name) (orders : RosterOrders)
    (n : Bytes) :
    (v.onRemoteLeft orders s).nameToSession.lookup n =
      if v.nameToSession.lookup n = some s then none else v.nameToSession.lookup n :=
  Dictionary.lookup_eraseFirstOf (fun k s hk => (h.names k s hk).1) s n

private theorem OwnKeys.lookup_uids_left (h : v.OwnKeys uid name) (orders : RosterOrders)
    (u : Bytes) :
    (v.onRemoteLeft orders s).uidToSession.lookup u =
      if v.uidToSession.lookup u = some s then none else v.uidToSession.lookup u :=
  Dictionary.lookup_eraseFirstOf (fun k s hk => (h.uids k s hk).1) s u

private theorem ownKeys_disconnected (uid name : UInt32 → Bytes) (v : VoiceSession) :
    (v.onConnectionStateChanged false).OwnKeys uid name := by
  constructor
  · intro u s h
    simp [onConnectionStateChanged] at h
  · intro n s h
    simp [onConnectionStateChanged] at h

theorem OwnKeys.joined (h : v.OwnKeys uid name) (s : UInt32) :
    (v.onRemoteJoined s (uid s) (name s)).OwnKeys uid name := by
  constructor
  · intro u k hk
    have hinsert : (v.onRemoteJoined s (uid s) (name s)).uidToSession.lookup u =
        if u = uid s then some s else v.uidToSession.lookup u :=
      Dictionary.lookup_insert_ite _ _ _ _
    rw [hinsert] at hk
    split at hk
    · rename_i hu
      obtain rfl : s = k := Option.some.inj hk
      exact ⟨hu, present_joined.mpr (Or.inl rfl)⟩
    · obtain ⟨hkey, hpresent⟩ := h.uids u k hk
      exact ⟨hkey, present_joined.mpr (Or.inr hpresent)⟩
  · intro n k hk
    rw [lookup_names_joined] at hk
    split at hk
    · rename_i hn
      obtain rfl : s = k := Option.some.inj hk
      exact ⟨hn.1, present_joined.mpr (Or.inl rfl)⟩
    · obtain ⟨hkey, hpresent⟩ := h.names n k hk
      exact ⟨hkey, present_joined.mpr (Or.inr hpresent)⟩

theorem OwnKeys.left (h : v.OwnKeys uid name) (orders : RosterOrders) (s : UInt32) :
    (v.onRemoteLeft orders s).OwnKeys uid name := by
  constructor
  · intro u k hk
    rw [h.lookup_uids_left] at hk
    split at hk
    · cases hk
    · rename_i hother
      obtain ⟨hkey, hpresent⟩ := h.uids u k hk
      refine ⟨hkey, present_left.mpr ⟨?_, hpresent⟩⟩
      rintro rfl
      exact hother hk
  · intro n k hk
    rw [h.lookup_names_left] at hk
    split at hk
    · cases hk
    · rename_i hother
      obtain ⟨hkey, hpresent⟩ := h.names n k hk
      refine ⟨hkey, present_left.mpr ⟨?_, hpresent⟩⟩
      rintro rfl
      exact hother hk

theorem OwnKeys.step (h : v.OwnKeys uid name) (e : RosterEvent) :
    (v.rosterStep uid name e).OwnKeys uid name := by
  cases e with
  | joined s => exact h.joined s
  | left orders s => exact h.left orders s

private theorem OwnKeys.consistent_iff (h : v.OwnKeys uid name) :
    v.IndexConsistent name ↔
      ∀ s, v.Present s → name s ≠ [] → (v.nameToSession.lookup (name s)).isSome := by
  constructor
  · intro hc s hpresent hne
    obtain ⟨s', hs', -⟩ := hc.found s hpresent hne
    rw [hs']
    rfl
  · intro hfound
    refine ⟨fun u s hu => (h.uids u s hu).2, fun n s hn => (h.names n s hn).2, ?_⟩
    intro s hpresent hne
    obtain ⟨s', hs'⟩ := Option.isSome_iff_exists.mp (hfound s hpresent hne)
    obtain ⟨hname, hpresent'⟩ := h.names _ _ hs'
    exact ⟨s', hs', hpresent', hname.symm⟩

/-- An announcement keeps the indexes consistent. -/
theorem IndexConsistent.joined (h : v.OwnKeys uid name) (hc : v.IndexConsistent name)
    (s : UInt32) :
    (v.onRemoteJoined s (uid s) (name s)).IndexConsistent name := by
  rw [(h.joined s).consistent_iff]
  intro k hk hne
  rw [lookup_names_joined]
  split
  · rfl
  · rename_i hother
    rcases present_joined.mp hk with rfl | hpresent
    · exact absurd ⟨rfl, hne⟩ hother
    · exact h.consistent_iff.mp hc k hpresent hne

private theorem consistent_left_iff (h : v.OwnKeys uid name) (hc : v.IndexConsistent name)
    (orders : RosterOrders) (s : UInt32) :
    (v.onRemoteLeft orders s).IndexConsistent name ↔ v.KeepsNames name (.left orders s) := by
  rw [(h.left orders s).consistent_iff]
  constructor
  · intro hfound hne hlookup s' hpresent hname
    by_contra hother
    have hsome := hfound s' (present_left.mpr ⟨hother, hpresent⟩) (by rw [hname]; exact hne)
    rw [h.lookup_names_left, hname, if_pos hlookup] at hsome
    cases hsome
  · intro hkeeps k hk hne
    obtain ⟨hother, hpresent⟩ := present_left.mp hk
    rw [h.lookup_names_left]
    split
    · rename_i hlookup
      have hname : name k = name s := (h.names _ _ hlookup).1
      rw [hname] at hne hlookup
      exact absurd (hkeeps hne hlookup k hpresent hname) hother
    · exact h.consistent_iff.mp hc k hpresent hne

/-- The indexes stay consistent exactly in the runs in which no session leaves that its name
leads to while another one of that name is present. -/
theorem indexConsistent_throughout_iff (uid name : UInt32 → Bytes) (v : VoiceSession)
    (history : List RosterEvent) :
    Throughout (rosterStep uid name) (IndexConsistent name) (v.onConnectionStateChanged false)
        history ↔
      Guarded (rosterStep uid name) (KeepsNames name) (v.onConnectionStateChanged false)
        history := by
  have hkeys := ownKeys_disconnected uid name v
  have hstart : (v.onConnectionStateChanged false).IndexConsistent name := by
    rw [hkeys.consistent_iff]
    intro s hpresent
    exact absurd hpresent (AList.notMem_empty s)
  apply throughout_iff_guarded hkeys hstart
  · intro v e h
    exact h.step e
  · intro v e h hc
    cases e with
    | joined s => exact ⟨fun _ => trivial, fun _ => hc.joined h s⟩
    | left orders s => exact consistent_left_iff h hc orders s

/-- Two players of one name: the one announced last leaves, and the other is found no more. -/
theorem namesake_lost :
    ¬∀ (uid name : UInt32 → Bytes) (v : VoiceSession) (history : List RosterEvent),
      Throughout (rosterStep uid name) (IndexConsistent name) (v.onConnectionStateChanged false)
        history := by
  intro h
  have hrun := h (fun s => [s.toUInt8]) (fun _ => ascii "Ida") {}
    [.left {} 2, .joined 2, .joined 1]
  have hpresent : (runHistory (rosterStep (fun s => [s.toUInt8]) (fun _ => ascii "Ida"))
      (({} : VoiceSession).onConnectionStateChanged false)
      [.left {} 2, .joined 2, .joined 1]).Present 1 := by decide
  have hlost : (runHistory (rosterStep (fun s => [s.toUInt8]) (fun _ => ascii "Ida"))
      (({} : VoiceSession).onConnectionStateChanged false)
      [.left {} 2, .joined 2, .joined 1]).nameToSession.lookup (ascii "Ida") = none := by decide
  obtain ⟨s, hs, -⟩ := hrun.last.found 1 hpresent (by decide)
  rw [hlost] at hs
  cases hs

end VoiceSession

end TaskForceRadio.Voice
