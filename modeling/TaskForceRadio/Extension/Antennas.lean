import TaskForceRadio.Extension.Arithmetic
import TaskForceRadio.Extension.Command
import TaskForceRadio.Extension.Tokens
import TaskForceRadio.Foundation.Execution
import TaskForceRadio.Foundation.KeyedList

/-!
# Radio towers

The towers that RadioTwrAdd and RadioTwrDel leave, as a map from netIds, and the loss over the
best of them in exact arithmetic.
-/

set_option autoImplicit false

namespace TaskForceRadio.Extension

open Voice (Time)

def semicolon : UInt8 := 0x3B

private theorem parseAntenna_eq_some_iff {entry : Bytes} {antenna : AntennaData} :
    parseAntenna entry = some antenna ↔
      ∃ range pos, split entry semicolon = [antenna.netId, range, pos] ∧ antenna.netId ≠ [] ∧
        antenna.range = parseArmaNumber range ∧ antenna.pos = parseVec3 pos := by
  constructor
  · intro h
    unfold parseAntenna at h
    split at h
    · cases h
    · split at h
      · rename_i netId range pos hfields
        split at h
        · cases h
        · rename_i hnetId
          cases h
          exact ⟨range, pos, hfields, hnetId, rfl, rfl⟩
      · cases h
  · rintro ⟨range, pos, hfields, hnetId, hrange, hpos⟩
    obtain ⟨netId, position, reach⟩ := antenna
    have hsome : entry ≠ [] := by
      rintro rfl
      have hnone : split [] semicolon = [[]] := rfl
      rw [hnone] at hfields
      simp at hfields
    simp only at hfields hnetId hrange hpos
    rw [parseAntenna, if_neg hsome, show split entry 0x3B = [netId, range, pos] from hfields]
    simp only [hnetId, if_false, hrange, hpos]

/-- The well-formed lines as texts, and what they give. -/
theorem parseAntenna_joinTokens {netId range pos : Bytes} (hnetId : netId ≠ [])
    (hfields : ∀ field ∈ [netId, range, pos], semicolon ∉ field) :
    parseAntenna (joinTokens semicolon [netId, range, pos]) =
      some { netId, range := parseArmaNumber range, pos := parseVec3 pos } :=
  parseAntenna_eq_some_iff.mpr
    ⟨range, pos, split_joinTokens (List.cons_ne_nil _ _) hfields, hnetId, rfl, rfl⟩

/-- Exactly these lines are well formed. -/
theorem isSome_parseAntenna_iff {entry : Bytes} :
    (parseAntenna entry).isSome ↔
      ∃ netId range pos, entry = joinTokens semicolon [netId, range, pos] ∧ netId ≠ [] ∧
        ∀ field ∈ [netId, range, pos], semicolon ∉ field := by
  constructor
  · intro h
    obtain ⟨antenna, hantenna⟩ := Option.isSome_iff_exists.mp h
    obtain ⟨range, pos, hfields, hnetId, -⟩ := parseAntenna_eq_some_iff.mp hantenna
    refine ⟨antenna.netId, range, pos, ?_, hnetId, ?_⟩
    · rw [← hfields, joinTokens_split]
    · intro field hfield
      rw [← hfields] at hfield
      exact notMem_of_mem_split hfield
  · rintro ⟨netId, range, pos, rfl, hnetId, hfields⟩
    rw [parseAntenna_joinTokens hnetId hfields]
    rfl

/-- What is known about the tower of a netId: its range and its position. -/
abbrev Registry : Type := Bytes → Option (Float32 × Vec3)

namespace Registry

def empty : Registry := fun _ => none

def add (registry : Registry) (antenna : AntennaData) : Registry :=
  Function.update registry antenna.netId (some (antenna.range, antenna.pos))

def delete (registry : Registry) (netId : Bytes) : Registry :=
  Function.update registry netId none

/-- The well-formed lines of a payload, one after the other. -/
def execute (registry : Registry) : Command → Registry
  | .addRadioTowers payload => ((split payload 0x0A).filterMap parseAntenna).foldl add registry
  | .delRadioTowers payload =>
      ((split payload 0x0A).filter (fun netId => netId ≠ [])).foldl delete registry
  | .missionEnd => empty
  | _ => registry

end Registry

/-- The list as a map. -/
def registered (antennas : List AntennaData) : Registry := fun netId =>
  (KeyedList.find AntennaData.netId antennas netId).map (fun a => (a.range, a.pos))

private theorem registered_addAntenna (antennas : List AntennaData) (antenna : AntennaData) :
    registered (State.addAntenna antennas antenna) = (registered antennas).add antenna := by
  funext netId
  have hfind := congrFun (KeyedList.find_put AntennaData.netId antennas antenna) netId
  show (KeyedList.find AntennaData.netId (KeyedList.put AntennaData.netId antennas antenna)
    netId).map _ = _
  rw [hfind, Registry.add, Function.update_apply, Function.update_apply]
  split <;> rfl

structure Keyed (antennas : List AntennaData) (registry : Registry) : Prop where
  nodup : (antennas.map AntennaData.netId).Nodup
  registered : registered antennas = registry

private theorem Keyed.addAll {antennas : List AntennaData} {registry : Registry}
    (h : Keyed antennas registry) (added : List AntennaData) :
    Keyed (added.foldl State.addAntenna antennas) (added.foldl Registry.add registry) := by
  induction added generalizing antennas registry with
  | nil => exact h
  | cons antenna added ih =>
    apply ih
    refine ⟨KeyedList.nodup_put AntennaData.netId h.nodup antenna, ?_⟩
    rw [registered_addAntenna, h.registered]

private theorem Keyed.deleteAll {antennas : List AntennaData} {registry : Registry}
    (h : Keyed antennas registry) (entries : List Bytes) :
    Keyed (entries.foldl State.deleteAntenna antennas)
      ((entries.filter (fun netId => netId ≠ [])).foldl Registry.delete registry) := by
  induction entries generalizing antennas registry with
  | nil => exact h
  | cons entry entries ih =>
    rw [List.foldl_cons, List.filter_cons]
    by_cases hempty : entry = []
    · have hsame : State.deleteAntenna antennas entry = antennas := if_pos hempty
      rw [hsame, if_neg (by simp [hempty])]
      exact ih h
    · have herase : State.deleteAntenna antennas entry =
          KeyedList.remove AntennaData.netId antennas entry := if_neg hempty
      rw [herase, if_pos (by simp [hempty]), List.foldl_cons]
      apply ih
      refine ⟨KeyedList.nodup_remove AntennaData.netId h.nodup entry, ?_⟩
      funext netId
      have hfind := congrFun (KeyedList.find_remove AntennaData.netId h.nodup entry) netId
      simp only [Extension.registered]
      rw [hfind, ← h.registered, Registry.delete, Function.update_apply, Function.update_apply]
      split <;> rfl

namespace State

/-- Every command keeps the list a map, and does to the map what its lines say. -/
theorem keyed_execute {s : State} {registry : Registry} (h : Keyed s.antennas registry)
    (now : Time) (c : Command) :
    Keyed (s.execute now c).antennas (registry.execute c) := by
  cases c with
  | pos tokens =>
    simp only [execute]
    rw [handlePos_frame]
    exact h
  | freq tokens =>
    simp only [execute]
    rw [handleFreq_frame]
    exact h
  | tangent tokens =>
    simp only [execute]
    rw [handleTangent_frame]
    exact h
  | speakers tokens =>
    simp only [execute]
    rw [handleSpeakers_frame]
    exact h
  | setCfg tokens =>
    simp only [execute]
    rw [handleSetCfg_frame]
    exact h
  | killed nickname =>
    simp only [execute]
    rw [handleKilled_frame]
    exact h
  | uid nickname uid =>
    simp only [execute]
    rw [handleUid_frame]
    exact h
  | releaseAllTangents nickname =>
    simp only [execute]
    rw [handleReleaseAllTangents_frame]
    exact h
  | addRadioTowers payload =>
    simp only [execute, handleAddRadioTowers, Registry.execute]
    split
    · rename_i hempty
      rw [hempty]
      exact h
    · exact h.addAll _
  | delRadioTowers payload =>
    simp only [execute, handleDelRadioTowers, Registry.execute]
    split
    · rename_i hempty
      rw [hempty]
      exact h
    · exact h.deleteAll _
  | missionEnd => exact ⟨List.nodup_nil, rfl⟩
  | dataFrame => exact h
  | micPtt held => exact h
  | micMute => exact h
  | speakerMute => exact h
  | ignored => exact h

/-- One command at its time. -/
def executeAt (s : State) (event : Time × Command) : State := s.execute event.1 event.2

end State

/-- What the lines of a history leave, newest command first. -/
def registryAfter (history : List (Time × Command)) : Registry :=
  runHistory (fun registry event => registry.execute event.2) Registry.empty history

def antennasAfter (history : List (Time × Command)) : List AntennaData :=
  (runHistory State.executeAt {} history).antennas

private theorem keyed_after (history : List (Time × Command)) :
    Keyed (antennasAfter history) (registryAfter history) := by
  induction history with
  | nil => exact ⟨List.nodup_nil, rfl⟩
  | cons event earlier ih => exact State.keyed_execute ih event.1 event.2

/-- An antenna with the numbers of the calculation. -/
structure Tower (K : Type) where
  netId : Bytes
  pos : Point K
  range : K

namespace Tower

section Operations
variable {K : Type} [OfNat K 0] [OfNat K 1] [Add K] [Sub K] [Mul K] [Div K] [LE K] [LT K]
variable [DecidableLE K] [DecidableLT K] [SquareRoot K]

def connectionLoss (fromPos : Point K) (maxDistanceToAnt : K) (toPos : Point K)
    (antenna : Tower K) : Option K :=
  let distToSender := antenna.pos.distanceTo fromPos
  let distToReceiver := antenna.pos.distanceTo toPos
  if antenna.range ≤ 0 then none
  else if ¬ distToSender < maxDistanceToAnt then none
  else if ¬ distToReceiver < antenna.range then none
  else some (distToReceiver / antenna.range + distToSender / maxDistanceToAnt)

def antennaLoss (noAntennaLoss : K) (antennas : List (Tower K)) (fromPos : Point K)
    (maxDistanceToAnt : K) (toPos : Point K) : K :=
  if antennas = [] ∨ maxDistanceToAnt ≤ 0 then noAntennaLoss
  else
    let lowest := (antennas.filterMap (connectionLoss fromPos maxDistanceToAnt toPos)).foldl
      (fun lowest loss => if loss < lowest.getD 1 then some loss else lowest) none
    lowest.getD noAntennaLoss

end Operations

def ofAntenna (antenna : AntennaData) : Tower Float32 :=
  ⟨antenna.netId, .ofVec3 antenna.pos, antenna.range⟩

/-- Over singles this is the loss of the extension. -/
theorem antennaLoss_ofAntenna (s : State) (fromPos : Vec3) (maxDistanceToAnt : Float32)
    (toPos : Vec3) :
    s.antennaLoss fromPos maxDistanceToAnt toPos =
      antennaLoss kNoAntennaLoss (s.antennas.map ofAntenna) (.ofVec3 fromPos) maxDistanceToAnt
        (.ofVec3 toPos) := by
  simp only [State.antennaLoss, antennaLoss, List.filterMap_map, List.map_eq_nil_iff]
  rfl

end Tower

section Exact

-- `v` says which reals the numbers of the extension stand for
variable (v : Float32 → ℝ)

def exactPos (pos : Vec3) : Point ℝ := ⟨v pos.x, v pos.y, v pos.z⟩

def exactTower (antenna : AntennaData) : Tower ℝ :=
  ⟨antenna.netId, exactPos v antenna.pos, v antenna.range⟩

variable (fromPos : Point ℝ) (maxDistanceToAnt : ℝ) (toPos : Point ℝ)

noncomputable def exactLoss (antennas : List AntennaData) : ℝ :=
  Tower.antennaLoss 7 (antennas.map (exactTower v)) fromPos maxDistanceToAnt toPos

/-- The tower is reached by the sender, and reaches the receiver. -/
structure Reachable (range : ℝ) (pos : Point ℝ) : Prop where
  working : 0 < range
  sender : pos.distanceTo fromPos < maxDistanceToAnt
  receiver : pos.distanceTo toPos < range

/-- The losses over the towers of a registry that are reachable from both sides. -/
def losses (registry : Registry) : Set ℝ :=
  {loss | ∃ netId range pos, registry netId = some (range, pos) ∧
    Reachable fromPos maxDistanceToAnt toPos (v range) (exactPos v pos) ∧
    loss = (exactPos v pos).distanceTo toPos / v range +
      (exactPos v pos).distanceTo fromPos / maxDistanceToAnt}

variable {v fromPos maxDistanceToAnt toPos}

private theorem connectionLoss_eq_some {antenna : Tower ℝ} {loss : ℝ} :
    antenna.connectionLoss fromPos maxDistanceToAnt toPos = some loss ↔
      Reachable fromPos maxDistanceToAnt toPos antenna.range antenna.pos ∧
        loss = antenna.pos.distanceTo toPos / antenna.range +
          antenna.pos.distanceTo fromPos / maxDistanceToAnt := by
  simp only [Tower.connectionLoss]
  constructor
  · intro h
    split at h
    · cases h
    · rename_i hworking
      split at h
      · cases h
      · rename_i hsender
        split at h
        · cases h
        · rename_i hreceiver
          exact ⟨⟨not_le.mp hworking, not_not.mp hsender, not_not.mp hreceiver⟩,
            (Option.some.inj h).symm⟩
  · intro hall
    obtain ⟨⟨hworking, hsender, hreceiver⟩, rfl⟩ := hall
    rw [if_neg (not_le.mpr hworking), if_neg (not_not.mpr hsender),
      if_neg (not_not.mpr hreceiver)]

private theorem registered_eq_some {antennas : List AntennaData}
    (h : (antennas.map AntennaData.netId).Nodup) {netId : Bytes} {range : Float32} {pos : Vec3} :
    registered antennas netId = some (range, pos) ↔ ⟨netId, pos, range⟩ ∈ antennas := by
  simp only [registered, Option.map_eq_some_iff, KeyedList.find_eq_some_iff AntennaData.netId h]
  constructor
  · intro hall
    obtain ⟨antenna, ⟨hmem, rfl⟩, hpair⟩ := hall
    obtain ⟨rfl, rfl⟩ := Prod.mk.inj hpair
    exact hmem
  · intro hmem
    exact ⟨_, ⟨hmem, rfl⟩, rfl⟩

private theorem mem_losses {antennas : List AntennaData}
    (h : (antennas.map AntennaData.netId).Nodup)
    {loss : ℝ} :
    loss ∈ losses v fromPos maxDistanceToAnt toPos (registered antennas) ↔
      loss ∈ (antennas.map (exactTower v)).filterMap
        (Tower.connectionLoss fromPos maxDistanceToAnt toPos) := by
  simp only [List.mem_filterMap, List.mem_map]
  constructor
  · intro hall
    obtain ⟨netId, range, pos, hregistered, hloss⟩ := hall
    refine ⟨_, ⟨_, (registered_eq_some h).mp hregistered, rfl⟩, ?_⟩
    exact connectionLoss_eq_some.mpr hloss
  · intro hall
    obtain ⟨_, ⟨antenna, hmem, rfl⟩, hsome⟩ := hall
    exact ⟨antenna.netId, antenna.range, antenna.pos, (registered_eq_some h).mpr hmem,
      connectionLoss_eq_some.mp hsome⟩

private theorem exactLoss_spec {antennas : List AntennaData}
    (h : (antennas.map AntennaData.netId).Nodup) :
    exactLoss v fromPos maxDistanceToAnt toPos antennas = 7 ∧
        (∀ loss ∈ losses v fromPos maxDistanceToAnt toPos (registered antennas), 1 ≤ loss) ∨
      IsLeast (losses v fromPos maxDistanceToAnt toPos (registered antennas))
          (exactLoss v fromPos maxDistanceToAnt toPos antennas) ∧
        exactLoss v fromPos maxDistanceToAnt toPos antennas < 1 := by
  simp only [exactLoss, Tower.antennaLoss]
  by_cases hnone : antennas.map (exactTower v) = [] ∨ maxDistanceToAnt ≤ 0
  · refine Or.inl ⟨if_pos hnone, ?_⟩
    rintro loss ⟨netId, range, pos, hregistered, hreachable, _⟩
    exfalso
    rcases hnone with hempty | hshort
    · rw [List.map_eq_nil_iff] at hempty
      subst hempty
      cases hregistered
    · have hdist := Point.distanceTo_nonneg (exactPos v pos) fromPos
      linarith [hreachable.sender]
  · rw [if_neg hnone]
    rcases KeyedList.leastBelow_spec 1 none ((antennas.map (exactTower v)).filterMap
        (Tower.connectionLoss fromPos maxDistanceToAnt toPos)) with
      ⟨hsame, hbound⟩ | ⟨least, hmem, hsome, hbelow, hleast⟩
    · refine Or.inl ⟨?_, fun loss hloss => hbound loss ((mem_losses h).mp hloss)⟩
      show (KeyedList.leastBelow 1 none _).getD 7 = 7
      rw [hsame]
      rfl
    · apply Or.inr
      show IsLeast _ ((KeyedList.leastBelow 1 none _).getD 7) ∧
        (KeyedList.leastBelow 1 none _).getD 7 < 1
      rw [hsome]
      exact ⟨⟨(mem_losses h).mpr hmem, fun loss hloss => hleast loss ((mem_losses h).mp hloss)⟩,
        hbelow⟩

private theorem exactLoss_anti {antennas antennas' : List AntennaData}
    (h : (antennas.map AntennaData.netId).Nodup) (h' : (antennas'.map AntennaData.netId).Nodup)
    (hsub : losses v fromPos maxDistanceToAnt toPos (registered antennas) ⊆
      losses v fromPos maxDistanceToAnt toPos (registered antennas')) :
    exactLoss v fromPos maxDistanceToAnt toPos antennas' ≤
      exactLoss v fromPos maxDistanceToAnt toPos antennas := by
  rcases @exactLoss_spec v fromPos maxDistanceToAnt toPos _ h with ⟨heq, hbound⟩ | ⟨hleast, hbelow⟩
  · rcases @exactLoss_spec v fromPos maxDistanceToAnt toPos _ h' with ⟨heq', _⟩ | ⟨_, hbelow'⟩
    · rw [heq, heq']
    · rw [heq]
      linarith
  · rcases @exactLoss_spec v fromPos maxDistanceToAnt toPos _ h' with ⟨_, hbound'⟩ | ⟨hleast', _⟩
    · exact absurd (hbound' _ (hsub hleast.1)) (not_le.mpr hbelow)
    · exact hleast'.2 (hsub hleast.1)

private theorem losses_addAntenna {antennas : List AntennaData} {antenna : AntennaData}
    (hnew : registered antennas antenna.netId = none) :
    losses v fromPos maxDistanceToAnt toPos (registered antennas) ⊆
      losses v fromPos maxDistanceToAnt toPos
        (registered (State.addAntenna antennas antenna)) := by
  rintro loss ⟨netId, range, pos, hregistered, hloss⟩
  refine ⟨netId, range, pos, ?_, hloss⟩
  have hother : netId ≠ antenna.netId := by
    rintro rfl
    rw [hnew] at hregistered
    cases hregistered
  rw [registered_addAntenna, Registry.add, Function.update_apply, if_neg hother, hregistered]

end Exact

/-- The towers are a map: the one that the well-formed lines make. The loss over them is a matter
of that map, is the least one over its reachable towers if that is below 1 and the sentinel
otherwise, and a new tower does not raise it. -/
theorem antenna_laws (history : List (Time × Command)) (v : Float32 → ℝ) (fromPos toPos : Point ℝ)
    (maxDistanceToAnt : ℝ) :
    let antennas := antennasAfter history
    let loss := exactLoss v fromPos maxDistanceToAnt toPos
    let losses := losses v fromPos maxDistanceToAnt toPos (registryAfter history)
    (antennas.map AntennaData.netId).Nodup ∧ registered antennas = registryAfter history ∧
      (∀ history', registryAfter history' = registryAfter history →
        loss (antennasAfter history') = loss antennas) ∧
      (loss antennas = 7 ∧ (∀ l ∈ losses, 1 ≤ l) ∨
        IsLeast losses (loss antennas) ∧ loss antennas < 1) ∧
      ∀ antenna : AntennaData, registryAfter history antenna.netId = none →
        loss (State.addAntenna antennas antenna) ≤ loss antennas := by
  obtain ⟨hnodup, hregistered⟩ := keyed_after history
  refine ⟨hnodup, hregistered, ?_, ?_, ?_⟩
  · intro history' hsame
    obtain ⟨hnodup', hregistered'⟩ := keyed_after history'
    have hequal := hregistered'.trans (hsame.trans hregistered.symm)
    apply le_antisymm
    · exact exactLoss_anti hnodup hnodup' (by rw [hequal])
    · exact exactLoss_anti hnodup' hnodup (by rw [hequal])
  · have hspec := @exactLoss_spec v fromPos maxDistanceToAnt toPos _ hnodup
    rw [hregistered] at hspec
    exact hspec
  · intro antenna hnew
    rw [← hregistered] at hnew
    exact exactLoss_anti hnodup (KeyedList.nodup_put AntennaData.netId hnodup antenna)
      (losses_addAntenna hnew)

end TaskForceRadio.Extension
