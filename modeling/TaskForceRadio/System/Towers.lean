import TaskForceRadio.Addon.Towers
import TaskForceRadio.System.Mute
import TaskForceRadio.System.Records

/-!
# The extension knows the towers

The towers of the addon and the antennas of the extension over whole runs: an antenna for every
tower that has been sent, with its range and the position it was sent with, and none for a tower
that is gone.
-/

set_option autoImplicit false

namespace TaskForceRadio

open Voice (Time milliseconds)
open Extension Addon

private theorem registered_process {g : Globals} {registry : Registry}
    (h : Keyed g.state.antennas registry) (now : Time) (opusVersion input : Bytes) :
    Keyed (g.process now opusVersion input).1.state.antennas
      (((inputCommand input).map registry.execute).getD registry) := by
  obtain ⟨requestedAt, heq⟩ := Records.state_process g now opusVersion input
  rw [heq, Records.callExtension]
  cases inputCommand input with
  | none => exact h
  | some c => exact State.keyed_execute h now c

section Messages
variable {Tower : Type} [DecidableEq Tower] (netID : Tower → NetId)

/-- The antenna of a tower that is in the list. -/
def antennaOf (radioTowerList : TowerList Tower) (r : TowerReading Tower) (tower : Tower) :
    Option AntennaData :=
  (radioTowerList.lookup tower).map fun range =>
    { netId := (netID tower).text
      pos := Records.vec3 (r.position tower).vector
      range := range.value }

variable {netID} {radioTowerList : TowerList Tower} {r : TowerReading Tower} {tower : Tower}

theorem notMem_vector {b : UInt8} (hbracket : b ≠ 0x5B) (hclose : b ≠ 0x5D) (hcomma : b ≠ comma)
    {v : SqfVector} (hx : b ∉ v.x.text) (hy : b ∉ v.y.text) (hz : b ∉ v.z.text) :
    b ∉ v.text := by
  have hinner : b ∉ joinTokens comma [v.x.text, v.y.text, v.z.text] := by
    apply notMem_joinTokens hcomma
    intro token htoken
    simp only [List.mem_cons, List.not_mem_nil, or_false] at htoken
    rcases htoken with rfl | rfl | rfl
    · exact hx
    · exact hy
    · exact hz
  simp only [SqfVector.text, arrayText, List.mem_cons, List.mem_append, List.not_mem_nil, or_false]
  rintro (h | h | h)
  · exact hbracket h
  · exact hinner h
  · exact hclose h

private theorem parseAntenna_towerLine (hlisted : (radioTowerList.lookup tower).isSome) :
    parseAntenna (towerLine netID radioTowerList r tower) =
      antennaOf netID radioTowerList r tower := by
  obtain ⟨range, hrange⟩ := Option.isSome_iff_exists.mp hlisted
  have hpos : semicolon ∉ (r.position tower).vector.text :=
    notMem_vector (by decide) (by decide) (by decide) (r.position tower).x.joinable
      (r.position tower).y.joinable (r.position tower).z.joinable
  have hfields : ∀ field ∈ [(netID tower).text, range.text, (r.position tower).vector.text],
      semicolon ∉ field := by
    intro field hfield
    simp only [List.mem_cons, List.not_mem_nil, or_false] at hfield
    rcases hfield with rfl | rfl | rfl
    · exact (netID tower).joinable
    · exact range.joinable
    · exact hpos
  rw [towerLine, antennaOf, hrange]
  simp only [Option.map_some]
  rw [parseAntenna_joinTokens (netID tower).nonempty hfields, Records.parseArmaNumber_text,
    Records.parseVec3_text]

private theorem notMem_towerLine (hlisted : (radioTowerList.lookup tower).isSome) {b : UInt8}
    (hb : b = tab ∨ b = newLine) :
    b ∉ towerLine netID radioTowerList r tower := by
  obtain ⟨range, hrange⟩ := Option.isSome_iff_exists.mp hlisted
  have hdelimiter : b ∈ delimiters := by
    rcases hb with rfl | rfl <;> decide
  have hpos : b ∉ (r.position tower).vector.text := by
    refine notMem_vector ?_ ?_ ?_ ((r.position tower).x.plain b hdelimiter)
      ((r.position tower).y.plain b hdelimiter) ((r.position tower).z.plain b hdelimiter) <;>
    rcases hb with rfl | rfl <;> decide
  rw [towerLine, hrange]
  apply notMem_joinTokens
  · rcases hb with rfl | rfl <;> decide
  · intro field hfield
    simp only [List.mem_cons, List.not_mem_nil, or_false] at hfield
    rcases hfield with rfl | rfl | rfl
    · exact (netID tower).plain b hdelimiter
    · exact range.plain b hdelimiter
    · exact hpos

private theorem splitLimit_lines {command : Bytes} (hcommand : tab ∉ command) {lines : List Bytes}
    (htab : ∀ line ∈ lines, tab ∉ line) :
    splitLimit (joinTokens tab [command, joinTokens newLine lines]) tab 2 =
      [command, joinTokens newLine lines] := by
  apply splitLimit_joinTokens 2 (List.cons_ne_nil _ _)
  intro token htoken
  simp only [List.mem_cons, List.not_mem_nil, or_false] at htoken
  rcases htoken with rfl | rfl
  · exact hcommand
  · exact notMem_joinTokens (by decide) htab

private theorem inputCommand_lines {command : String} {read : Bytes → Command}
    (hcommand : tab ∉ ascii command)
    (hparse : ∀ payload, parseCommand (ascii command) payload =
      match splitLimit payload tab 2 with
      | _ :: towers :: _ => read towers
      | _ => .ignored)
    {lines : List Bytes} (htab : ∀ line ∈ lines, tab ∉ line) :
    inputCommand (request command [joinTokens newLine lines]) =
      some (read (joinTokens newLine lines)) := by
  rw [request, inputCommand_append, firstToken_joinTokens hcommand, hparse,
    splitLimit_lines hcommand htab]

private theorem execute_add {towers : List Tower} (hlisted : ∀ tower ∈ towers,
      (radioTowerList.lookup tower).isSome) (registry : Registry) :
    ((inputCommand (request "RadioTwrAdd" [joinTokens newLine
        (towers.map (towerLine netID radioTowerList r))])).map registry.execute).getD registry =
      (towers.filterMap (antennaOf netID radioTowerList r)).foldl Registry.add registry := by
  have hlines : ∀ b, b = tab ∨ b = newLine →
      ∀ line ∈ towers.map (towerLine netID radioTowerList r), b ∉ line := by
    intro b hb line hline
    obtain ⟨tower, htower, rfl⟩ := List.mem_map.mp hline
    exact notMem_towerLine (hlisted tower htower) hb
  rw [inputCommand_lines (by decide) (fun _ => rfl) (hlines tab (Or.inl rfl))]
  simp only [Option.map_some, Option.getD_some, Registry.execute]
  cases towers with
  | nil => rfl
  | cons first rest =>
    have hsome : (first :: rest).map (towerLine netID radioTowerList r) ≠ [] :=
      List.cons_ne_nil _ _
    rw [show (0x0A : UInt8) = newLine from rfl,
      split_joinTokens hsome (hlines newLine (Or.inr rfl)), List.filterMap_map]
    congr 1
    apply List.filterMap_congr
    intro tower htower
    exact parseAntenna_towerLine (hlisted tower htower)

/-- The messages of an event, in order. -/
def deliver (now : Time) (opusVersion : Bytes) (messages : List Bytes) (g : Globals) : Globals :=
  messages.foldl (fun g text => (g.process now opusVersion text).1) g

private theorem keyed_batches {g : Globals} {registry : Registry}
    (h : Keyed g.state.antennas registry)
    (now : Time) (opusVersion : Bytes) {parts : List (List Tower)}
    (hlisted : ∀ tower ∈ parts.flatten, (radioTowerList.lookup tower).isSome) :
    Keyed (deliver now opusVersion (parts.map fun towers => request "RadioTwrAdd"
        [joinTokens newLine (towers.map (towerLine netID radioTowerList r))]) g).state.antennas
      ((parts.flatten.filterMap (antennaOf netID radioTowerList r)).foldl
        Registry.add registry) := by
  induction parts generalizing g registry with
  | nil => exact h
  | cons towers later ih =>
    rw [List.flatten_cons] at hlisted ⊢
    rw [List.filterMap_append, List.foldl_append]
    refine ih ?_ fun tower htower => hlisted tower (List.mem_append_right _ htower)
    have hnext := registered_process h now opusVersion (request "RadioTwrAdd"
      [joinTokens newLine (towers.map (towerLine netID radioTowerList r))])
    rwa [execute_add fun tower htower => hlisted tower (List.mem_append_left _ htower)] at hnext

private theorem keyed_pluginAdd {g : Globals} {registry : Registry}
    (h : Keyed g.state.antennas registry)
    (now : Time) (opusVersion : Bytes) {towers : List Tower}
    (hlisted : ∀ tower ∈ towers, (radioTowerList.lookup tower).isSome) :
    Keyed (deliver now opusVersion (pluginAddRadioTower netID radioTowerList r towers)
        g).state.antennas
      ((towers.filterMap (antennaOf netID radioTowerList r)).foldl Registry.add registry) := by
  have hflatten : (batches towersPerCall towers).flatten = towers :=
    flatten_batches (by decide) towers
  have hkeyed : Keyed (deliver now opusVersion (pluginAddRadioTower netID radioTowerList r towers)
      g).state.antennas (((batches towersPerCall towers).flatten.filterMap
        (antennaOf netID radioTowerList r)).foldl Registry.add registry) :=
    keyed_batches h now opusVersion (by rw [hflatten]; exact hlisted)
  rw [hflatten] at hkeyed
  exact hkeyed

private theorem keyed_nextFrame {g : Globals} {registry : Registry}
    (h : Keyed g.state.antennas registry)
    (now : Time) (opusVersion : Bytes) {towers : List Tower}
    (hlisted : ∀ tower ∈ towers, (radioTowerList.lookup tower).isSome) :
    Keyed (deliver now opusVersion (towers.flatMap fun tower =>
        pluginAddRadioTower netID radioTowerList r [tower]) g).state.antennas
      ((towers.filterMap (antennaOf netID radioTowerList r)).foldl Registry.add registry) := by
  have hflatten : (towers.map fun tower => [tower]).flatten = towers := by
    rw [← List.flatMap_def, List.flatMap_singleton']
  have hone : ∀ tower, pluginAddRadioTower netID radioTowerList r [tower] =
      [request "RadioTwrAdd" [joinTokens newLine ([tower].map
        (towerLine netID radioTowerList r))]] := by
    intro tower
    rw [pluginAddRadioTower, batches_singleton]
    rfl
  have hkeyed : Keyed (deliver now opusVersion ((towers.map fun tower => [tower]).map fun towers =>
      request "RadioTwrAdd" [joinTokens newLine (towers.map (towerLine netID radioTowerList r))])
        g).state.antennas (((towers.map fun tower => [tower]).flatten.filterMap
          (antennaOf netID radioTowerList r)).foldl Registry.add registry) :=
    keyed_batches h now opusVersion (by rw [hflatten]; exact hlisted)
  rw [hflatten, List.map_map, List.map_eq_flatMap] at hkeyed
  simp only [hone]
  exact hkeyed

omit [DecidableEq Tower] in
private theorem keyed_pluginRemove {g : Globals} {registry : Registry}
    (h : Keyed g.state.antennas registry) (now : Time) (opusVersion : Bytes) (tower : Tower) :
    Keyed (deliver now opusVersion (pluginRemoveRadioTower netID [tower]) g).state.antennas
      (registry.delete (netID tower).text) := by
  have hlines : ∀ b ∈ delimiters, ∀ line ∈ [(netID tower).text], b ∉ line := by
    intro b hb line hline
    rw [List.mem_singleton.mp hline]
    exact (netID tower).plain b hb
  have hnext := registered_process h now opusVersion
    (request "RadioTwrDel" [joinTokens newLine [(netID tower).text]])
  rw [inputCommand_lines (by decide) (fun _ => rfl) (hlines tab (by decide))] at hnext
  simp only [Option.map_some, Option.getD_some, Registry.execute] at hnext
  rw [show (0x0A : UInt8) = newLine from rfl,
    split_joinTokens (List.cons_ne_nil _ _) (hlines newLine (by decide))] at hnext
  have hkeep : [(netID tower).text].filter (fun netId => decide (netId ≠ [])) =
      [(netID tower).text] := by
    simp [(netID tower).nonempty]
  rw [hkeep] at hnext
  rw [pluginRemoveRadioTower, batches_singleton]
  exact hnext

private theorem foldl_add_other {towers : List Tower} {registry : Registry} {netId : Bytes}
    (hother : ∀ tower ∈ towers, (netID tower).text ≠ netId) :
    ((towers.filterMap (antennaOf netID radioTowerList r)).foldl Registry.add registry) netId =
      registry netId := by
  induction towers generalizing registry with
  | nil => rfl
  | cons first rest ih =>
    have hrest : ∀ tower ∈ rest, (netID tower).text ≠ netId :=
      fun tower htower => hother tower (List.mem_cons_of_mem first htower)
    cases hlookup : radioTowerList.lookup first with
    | none =>
      have hnone : antennaOf netID radioTowerList r first = none := by rw [antennaOf, hlookup]; rfl
      rw [List.filterMap_cons_none hnone, ih hrest]
    | some range =>
      have hsome : antennaOf netID radioTowerList r first = some
          { netId := (netID first).text
            pos := Records.vec3 (r.position first).vector
            range := range.value } := by rw [antennaOf, hlookup]; rfl
      rw [List.filterMap_cons_some hsome, List.foldl_cons, ih hrest, Registry.add,
        Function.update_apply, if_neg (hother first List.mem_cons_self).symm]

private theorem foldl_add_of_mem
    (hunique : ∀ tower tower', (netID tower).text = (netID tower').text →
      tower = tower') {towers : List Tower} (registry : Registry) {range : TowerNumber}
    (htower : tower ∈ towers) (hlookup : radioTowerList.lookup tower = some range) :
    ((towers.filterMap (antennaOf netID radioTowerList r)).foldl Registry.add registry)
        (netID tower).text =
      some (range.value, Records.vec3 (r.position tower).vector) := by
  induction towers generalizing registry with
  | nil => exact (List.not_mem_nil htower).elim
  | cons first rest ih =>
    by_cases hlater : tower ∈ rest
    · cases hfirst : antennaOf netID radioTowerList r first with
      | none =>
        rw [List.filterMap_cons_none hfirst]
        exact ih registry hlater
      | some antenna =>
        rw [List.filterMap_cons_some hfirst, List.foldl_cons]
        exact ih _ hlater
    · have hhere : tower = first := (List.mem_cons.mp htower).resolve_right hlater
      subst hhere
      have hsome : antennaOf netID radioTowerList r tower = some
          { netId := (netID tower).text
            pos := Records.vec3 (r.position tower).vector
            range := range.value } := by rw [antennaOf, hlookup]; rfl
      have hother : ∀ other ∈ rest, (netID other).text ≠ (netID tower).text := by
        intro other hmem hsame
        rw [hunique other tower hsame] at hmem
        exact hlater hmem
      rw [List.filterMap_cons_some hsome, List.foldl_cons, foldl_add_other hother, Registry.add,
        Function.update_apply, if_pos rfl]

end Messages

private theorem antennas_tick (g : Globals) (now : Time) (orders : TickOrders) :
    (g.tick now orders).state.antennas = g.state.antennas := by
  show (g.beforeSolver now orders).state.antennas = g.state.antennas
  rw [g.beforeSolver_state now orders]
  rfl

private theorem AddonEvent.keyed_step {g : Globals} {registry : Registry}
    (h : Keyed g.state.antennas registry) (e : AddonEvent) :
    Keyed (e.step g).state.antennas ((e.command.map registry.execute).getD registry) := by
  cases e with
  | call now opusVersion input => exact registered_process h now opusVersion input
  | tick now orders =>
    show Keyed (g.tick now orders).state.antennas registry
    rw [antennas_tick]
    exact h

/-- The command is not about towers. -/
def Extension.Command.SparesTowers : Command → Prop
  | .addRadioTowers _ => False
  | .delRadioTowers _ => False
  | _ => True

instance (c : Command) : Decidable c.SparesTowers := by
  unfold Command.SparesTowers
  split <;> infer_instance

/-- The event is a tick, or a call that is not about towers. -/
def AddonEvent.SparesTowers (e : AddonEvent) : Prop := ∀ c ∈ e.command, c.SparesTowers

instance (e : AddonEvent) : Decidable e.SparesTowers := Option.decidableForallMem e.command

section World
variable {Tower : Type} [DecidableEq Tower]

/-- The addon and its extension; which towers have not been sent since they were set or the mission
ended, and where the others stood when they were. -/
structure TowerWorld (Tower : Type) [DecidableEq Tower] where
  towers : Towers Tower := {}
  globals : Globals := {}
  unsent : List Tower := []
  sentFrom : Tower → Vec3 := fun _ => {}

inductive TowerWorldEvent (Tower : Type) where
  | tower (e : TowerEvent Tower) (now : Time) (opusVersion : Bytes)
  | addon (e : AddonEvent)

namespace TowerWorld

def unsentAfter (w : TowerWorld Tower) : TowerEvent Tower → List Tower
  | .initRadioTower tower _ => tower :: w.unsent
  | .nextFrame _ => w.unsent.filter fun tower => tower ∉ w.towers.nextFrame
  | .deleteRadioTower _ => w.unsent
  | .configRefresh _ _ => []

def sentFromAfter (w : TowerWorld Tower) : TowerEvent Tower → Tower → Vec3
  | .nextFrame r => fun tower =>
      if tower ∈ w.towers.nextFrame then Records.vec3 (r.position tower).vector
      else w.sentFrom tower
  | .configRefresh _ r => fun tower => Records.vec3 (r.position tower).vector
  | _ => w.sentFrom

variable (netID : Tower → NetId)

def step (w : TowerWorld Tower) : TowerWorldEvent Tower → TowerWorld Tower
  | .tower e now opusVersion =>
      { towers := (w.towers.step netID e).1
        globals := deliver now opusVersion (w.towers.step netID e).2 w.globals
        unsent := w.unsentAfter e
        sentFrom := w.sentFromAfter e }
  | .addon e =>
      { w with
        globals := e.step w.globals
        unsent :=
          if e.command = some .missionEnd then w.towers.radioTowerList.keys else w.unsent }

/-- No tower disappears in the frame in which it appeared, and nobody else speaks of towers. -/
def Proper (w : TowerWorld Tower) : TowerWorldEvent Tower → Prop
  | .tower (.deleteRadioTower tower) _ _ => tower ∉ w.towers.nextFrame
  | .tower _ _ _ => True
  | .addon e => e.SparesTowers

instance (w : TowerWorld Tower) (e : TowerWorldEvent Tower) : Decidable (w.Proper e) := by
  unfold Proper
  split <;> infer_instance

/-- Every antenna is that of a tower, and every tower that has been sent has its antenna. -/
structure Agrees (w : TowerWorld Tower) : Prop where
  nodup : (w.globals.state.antennas.map AntennaData.netId).Nodup
  scheduled : ∀ tower ∈ w.towers.nextFrame, (w.towers.radioTowerList.lookup tower).isSome
  listed : ∀ tower range, w.towers.radioTowerList.lookup tower = some range →
    tower ∉ w.unsent →
      registered w.globals.state.antennas (netID tower).text = some (range.value, w.sentFrom tower)
  known : ∀ netId, registered w.globals.state.antennas netId ≠ none →
    ∃ tower, (w.towers.radioTowerList.lookup tower).isSome ∧ (netID tower).text = netId

private theorem agrees_start : ({} : TowerWorld Tower).Agrees netID := by
  refine ⟨List.nodup_nil, ?_, ?_, ?_⟩
  · intro tower htower
    exact (List.not_mem_nil htower).elim
  · intro tower range hlookup
    exact (Option.some_ne_none range hlookup.symm).elim
  · intro netId hknown
    exact (hknown rfl).elim

variable {netID} {w w' : TowerWorld Tower}

/-- Towers of the list are sent. -/
theorem Agrees.send (hunique : ∀ tower tower', (netID tower).text = (netID tower').text →
      tower = tower') (h : w.Agrees netID) {r : TowerReading Tower} {sent : List Tower}
    (hkeyed : Keyed w'.globals.state.antennas ((sent.filterMap
      (antennaOf netID w.towers.radioTowerList r)).foldl Registry.add
        (registered w.globals.state.antennas)))
    (hsent : ∀ tower ∈ sent, (w.towers.radioTowerList.lookup tower).isSome)
    (hlist : w'.towers.radioTowerList = w.towers.radioTowerList)
    (hscheduled : ∀ tower ∈ w'.towers.nextFrame, tower ∈ w.towers.nextFrame)
    (hunsent : ∀ tower, (w.towers.radioTowerList.lookup tower).isSome → tower ∈ w.unsent →
      tower ∈ w'.unsent ∨ tower ∈ sent)
    (hfrom : ∀ tower, (w.towers.radioTowerList.lookup tower).isSome → w'.sentFrom tower =
      if tower ∈ sent then Records.vec3 (r.position tower).vector else w.sentFrom tower) :
    w'.Agrees netID := by
  refine ⟨hkeyed.nodup, ?_, ?_, ?_⟩
  · intro tower htower
    rw [hlist]
    exact h.scheduled tower (hscheduled tower htower)
  · intro tower range hlookup hdone
    rw [hlist] at hlookup
    have hlisted : (w.towers.radioTowerList.lookup tower).isSome := by rw [hlookup]; rfl
    rw [hkeyed.registered, hfrom tower hlisted]
    by_cases hnow : tower ∈ sent
    · rw [if_pos hnow, foldl_add_of_mem hunique _ hnow hlookup]
    · have hother : ∀ other ∈ sent, (netID other).text ≠ (netID tower).text := by
        intro other hmem hsame
        rw [hunique other tower hsame] at hmem
        exact hnow hmem
      have hbefore : tower ∉ w.unsent := by
        intro hopen
        rcases hunsent tower hlisted hopen with hstill | hsent
        · exact hdone hstill
        · exact hnow hsent
      rw [if_neg hnow, foldl_add_other hother]
      exact h.listed tower range hlookup hbefore
  · intro netId hknown
    rw [hkeyed.registered] at hknown
    rw [hlist]
    by_cases hnow : ∃ tower ∈ sent, (netID tower).text = netId
    · obtain ⟨tower, hmem, hnetId⟩ := hnow
      exact ⟨tower, hsent tower hmem, hnetId⟩
    · push Not at hnow
      rw [foldl_add_other hnow] at hknown
      exact h.known netId hknown

theorem Agrees.tower (hunique : ∀ tower tower', (netID tower).text = (netID tower').text →
      tower = tower') (h : w.Agrees netID) {e : TowerEvent Tower} {now : Time}
    {opusVersion : Bytes} (hproper : w.Proper (.tower e now opusVersion)) :
    (w.step netID (.tower e now opusVersion)).Agrees netID := by
  have hkeyed : Keyed w.globals.state.antennas (registered w.globals.state.antennas) :=
    ⟨h.nodup, rfl⟩
  cases e with
  | initRadioTower tower range =>
    refine ⟨h.nodup, ?_, ?_, ?_⟩
    · intro other hother
      show ((w.towers.radioTowerList.insert tower range).lookup other).isSome
      rw [Dictionary.lookup_insert_ite]
      split
      · rfl
      · rename_i hne
        refine h.scheduled other ((List.mem_append.mp hother).resolve_right ?_)
        exact fun hnew => hne (List.mem_singleton.mp hnew)
    · intro other range' hlookup hdone
      have hne : other ≠ tower := fun heq => hdone (heq ▸ List.mem_cons_self)
      have hlookup' : (w.towers.radioTowerList.insert tower range).lookup other =
          some range' := hlookup
      rw [Dictionary.lookup_insert_ite, if_neg hne] at hlookup'
      exact h.listed other range' hlookup' fun hopen => hdone (List.mem_cons_of_mem tower hopen)
    · intro netId hknown
      obtain ⟨other, hlisted, hnetId⟩ := h.known netId hknown
      refine ⟨other, ?_, hnetId⟩
      show ((w.towers.radioTowerList.insert tower range).lookup other).isSome
      rw [Dictionary.lookup_insert_ite]
      split
      · rfl
      · exact hlisted
  | nextFrame r =>
    refine h.send hunique (keyed_nextFrame hkeyed now opusVersion h.scheduled) h.scheduled rfl ?_ ?_
      fun _ _ => rfl
    · exact fun tower htower => (List.not_mem_nil htower).elim
    · intro tower hlisted hopen
      by_cases hnow : tower ∈ w.towers.nextFrame
      · exact Or.inr hnow
      · exact Or.inl (List.mem_filter.mpr ⟨hopen, by simpa using hnow⟩)
  | configRefresh order r =>
    have hkeys : ∀ tower, tower ∈ order.arrange w.towers.radioTowerList.keys ↔
        (w.towers.radioTowerList.lookup tower).isSome := by
      intro tower
      rw [IterationOrder.mem_arrange, AList.lookup_isSome]
      rfl
    refine h.send hunique (keyed_pluginAdd hkeyed now opusVersion fun tower => (hkeys tower).mp)
      (fun tower => (hkeys tower).mp) rfl (fun tower htower => htower) ?_ ?_
    · exact fun tower hlisted _ => Or.inr ((hkeys tower).mpr hlisted)
    · intro tower hlisted
      rw [if_pos ((hkeys tower).mpr hlisted)]
      rfl
  | deleteRadioTower tower =>
    have hgone := @keyed_pluginRemove _ netID _ _ hkeyed now opusVersion tower
    have hregistered : ∀ netId, registered (w.step netID
        (.tower (.deleteRadioTower tower) now opusVersion)).globals.state.antennas netId =
          if netId = (netID tower).text then none
          else registered w.globals.state.antennas netId := by
      intro netId
      exact (congrFun hgone.registered netId).trans (Function.update_apply _ _ _ _)
    refine ⟨hgone.nodup, ?_, ?_, ?_⟩
    · intro other hother
      have hne : other ≠ tower := by
        rintro rfl
        exact hproper hother
      show ((w.towers.radioTowerList.erase tower).lookup other).isSome
      rw [Dictionary.lookup_erase_ite, if_neg hne]
      exact h.scheduled other hother
    · intro other range hlookup hdone
      obtain ⟨hne, hbefore⟩ := Dictionary.lookup_of_lookup_erase hlookup
      rw [hregistered, if_neg fun heq => hne (hunique _ _ heq)]
      exact h.listed other range hbefore hdone
    · intro netId hknown
      rw [hregistered] at hknown
      split at hknown
      · exact (hknown rfl).elim
      · rename_i hother
        obtain ⟨other, hlisted, rfl⟩ := h.known netId hknown
        refine ⟨other, ?_, rfl⟩
        have hne : other ≠ tower := by
          rintro rfl
          exact hother rfl
        show ((w.towers.radioTowerList.erase tower).lookup other).isSome
        rw [Dictionary.lookup_erase_ite, if_neg hne]
        exact hlisted

theorem Agrees.addon (h : w.Agrees netID) {e : AddonEvent} (hproper : w.Proper (.addon e)) :
    (w.step netID (.addon e)).Agrees netID := by
  have hkeyed := e.keyed_step ⟨h.nodup, rfl⟩
  have hspares : e.SparesTowers := hproper
  by_cases hend : e.command = some .missionEnd
  · rw [hend] at hkeyed
    refine ⟨hkeyed.nodup, h.scheduled, ?_, ?_⟩
    · intro tower range hlookup hdone
      refine absurd ?_ hdone
      show tower ∈ if e.command = some .missionEnd then w.towers.radioTowerList.keys else w.unsent
      rw [if_pos hend]
      have hbefore : w.towers.radioTowerList.lookup tower = some range := hlookup
      exact AList.lookup_isSome.mp (by rw [hbefore]; rfl)
    · intro netId hknown
      exact (hknown (congrFun hkeyed.registered netId)).elim
  · have hsame : registered (e.step w.globals).state.antennas =
        registered w.globals.state.antennas := by
      rw [hkeyed.registered]
      cases hcommand : e.command with
      | none => rfl
      | some c =>
        have hspared : c.SparesTowers := hspares c hcommand
        rw [hcommand] at hend
        cases c with
        | addRadioTowers payload => exact hspared.elim
        | delRadioTowers payload => exact hspared.elim
        | missionEnd => exact (hend rfl).elim
        | _ => rfl
    have hunsent : (w.step netID (.addon e)).unsent = w.unsent := if_neg hend
    refine ⟨hkeyed.nodup, h.scheduled, ?_, ?_⟩
    · intro tower range hlookup hdone
      rw [hunsent] at hdone
      exact (congrFun hsame _).trans (h.listed tower range hlookup hdone)
    · intro netId hknown
      have hbefore : registered w.globals.state.antennas netId ≠ none := by
        rw [← congrFun hsame netId]
        exact hknown
      exact h.known netId hbefore

/-- In every run, whatever else the extension is told, every tower of the list that has been sent
has its antenna, every antenna belongs to a tower of the list, and a refresh leaves an antenna for
each of them. -/
theorem antennas_follow_towers
    (hunique : ∀ tower tower', (netID tower).text = (netID tower').text → tower = tower')
    (history : List (TowerWorldEvent Tower))
    (hproper : Guarded (step netID) Proper {} history) :
    let w := runHistory (step netID) {} history
    (∀ tower range, w.towers.radioTowerList.lookup tower = some range → tower ∉ w.unsent →
      registered w.globals.state.antennas (netID tower).text =
        some (range.value, w.sentFrom tower)) ∧
    (∀ netId, registered w.globals.state.antennas netId ≠ none →
      ∃ tower, (w.towers.radioTowerList.lookup tower).isSome ∧ (netID tower).text = netId) ∧
    ∀ order r now opusVersion tower range,
      w.towers.radioTowerList.lookup tower = some range →
      registered (w.step netID (.tower (.configRefresh order r) now
          opusVersion)).globals.state.antennas (netID tower).text =
        some (range.value, Records.vec3 (r.position tower).vector) := by
  intro w
  have hagrees : w.Agrees netID := by
    refine (throughout_of_guarded (agrees_start netID) ?_ hproper).last
    intro w e h hguard
    cases e with
    | tower e now opusVersion => exact h.tower hunique hguard
    | addon e => exact h.addon hguard
  refine ⟨hagrees.listed, hagrees.known, ?_⟩
  intro order r now opusVersion tower range hlookup
  have hafter : (w.step netID (.tower (.configRefresh order r) now opusVersion)).Agrees netID :=
    hagrees.tower hunique trivial
  exact hafter.listed tower range hlookup List.not_mem_nil

end TowerWorld

end World

namespace TowerWorld

/-- Two towers next to each other. -/
def twoTowers : Bool → NetId
  | true => ⟨ascii "2:10", by decide, by decide, by decide⟩
  | false => ⟨ascii "2:11", by decide, by decide, by decide⟩

def reach : TowerNumber where
  text := ascii "50000"
  plain := by decide
  value := 50000
  reads := by decide +kernel
  joinable := by decide

def origin : TowerNumber where
  toSqfNumber := .zero
  joinable := by decide

def atOrigin : TowerReading Bool where
  position := fun _ => ⟨origin, origin, origin⟩
  unlisted := fun _ => []

/-- Both towers appear, the mission ends, the addon refreshes, and one tower disappears. -/
def rebuilt : List (TowerWorldEvent Bool) :=
  [.addon (.tick (milliseconds 400) {}), .tower (.deleteRadioTower false) (milliseconds 300) [],
    .tower (.configRefresh .stored atOrigin) (milliseconds 200) [],
    .addon (.call (milliseconds 100) [] (ascii "MISSIONEND~")),
    .tower (.nextFrame atOrigin) 0 [], .tower (.initRadioTower false reach) 0 [],
    .tower (.initRadioTower true reach) 0 []]

theorem rebuilt_tower_is_known :
    registered (runHistory (step twoTowers) {} rebuilt).globals.state.antennas (ascii "2:10") =
      some (50000, { x := 0, y := 0, z := 0 }) :=
  (antennas_follow_towers (by decide) rebuilt (by decide)).1 true reach rfl (by decide)

end TowerWorld

end TaskForceRadio
