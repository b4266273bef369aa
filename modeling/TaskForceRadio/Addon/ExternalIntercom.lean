import Mathlib.Data.List.Nodup
import TaskForceRadio.Foundation.Execution
import TaskForceRadio.Foundation.Replication

/-!
# The external intercom

Who is on the external intercom of a vehicle is one replicated array: the player on the phone, and
the list of the wireless players. Connecting and disconnecting read the array, change it and write
it back as a whole, and nothing keeps two players from doing that at once.
-/

set_option autoImplicit false

namespace TaskForceRadio.Addon

section Arrays
variable {α : Type} [DecidableEq α]

/-- `find`, with -1 for nothing found. -/
def find (xs : List α) (x : α) : Int :=
  match xs.idxOf? x with
  | some i => i
  | none => -1

/-- `deleteAt`. It depends on the engine whether a negative index counts from the end or is out of
range. -/
def deleteAt (fromEnd : Bool) (xs : List α) (index : Int) : List α :=
  if 0 ≤ index then xs.eraseIdx index.toNat
  else if fromEnd ∧ index.natAbs ≤ xs.length then xs.eraseIdx (xs.length - index.natAbs)
  else xs

/-- `xs arrayIntersect xs`. -/
def arrayIntersectSelf (xs : List α) : List α := xs.eraseDups

private theorem arrayIntersectSelf_of_nodup {xs : List α} (h : xs.Nodup) :
    arrayIntersectSelf xs = xs := by
  induction xs with
  | nil => rfl
  | cons x rest ih =>
    obtain ⟨hx, hrest⟩ := List.nodup_cons.mp h
    have hfilter : rest.filter (fun y => !y == x) = rest := by
      rw [List.filter_eq_self]
      intro y hy
      have hne : y ≠ x := fun heq => hx (heq ▸ hy)
      simpa using hne
    rw [arrayIntersectSelf, List.eraseDups_cons, hfilter]
    exact congrArg (x :: ·) (ih hrest)

private theorem deleteAt_find {fromEnd : Bool} {xs : List α} {x : α}
    (h : x ∈ xs ∨ fromEnd = false ∨ xs = []) : deleteAt fromEnd xs (find xs x) = xs.erase x := by
  rw [List.erase_eq_eraseIdx, find]
  cases hi : xs.idxOf? x with
  | some i => simp [deleteAt]
  | none =>
    have hx : x ∉ xs := List.idxOf?_eq_none_iff.mp hi
    rcases h with h | h | h
    · exact absurd h hx
    · simp [deleteAt, h]
    · simp [deleteAt, h]

end Arrays

/-- `TFAR_ExternalIntercomSpeakers`: the player on the phone, and the wireless players. -/
structure Speakers (P : Type) where
  phone : Option P := none
  wireless : List P := []
  deriving DecidableEq, Repr

def Speakers.Lists {P : Type} (s : Speakers P) (player : P) : Prop :=
  s.phone = some player ∨ player ∈ s.wireless

instance {P : Type} [DecidableEq P] (s : Speakers P) (player : P) : Decidable (s.Lists player) :=
  inferInstanceAs (Decidable (_ ∨ _))

/-- What the guards of `connect` go by. -/
structure ConnectContext where
  vehicleAlive : Bool := true
  externalIntercomEnable : Nat := 0
  sideIsEnemy : Bool := false
  hasWirelessHeadgear : Bool := true

/-- The players' own variables and the replicas of the vehicles' arrays. Every player has a machine,
which alone reads and writes the player's variables. `phoneOf` is the vehicle whose phone a
player was given and still holds. -/
structure IntercomWorld (P V : Type) where
  vehicleOf : P → Option V
  phoneOf : P → Option V
  speakers : Replicated P V (Speakers P)

inductive IntercomEvent (P V : Type) where
  | connect (context : ConnectContext) (player : P) (vehicle : V) (wireless : Bool)
  | disconnect (player : P) (vehicle : V)
  | deliver (writer reader : P)

/-- Whose machine acts first. -/
def IntercomEvent.player {P V : Type} : IntercomEvent P V → P
  | .connect _ player _ _ => player
  | .disconnect player _ => player
  | .deliver writer _ => writer

namespace IntercomWorld
variable {P V : Type}

/-- Nobody is on an intercom, and nothing is under way. -/
def start : IntercomWorld P V where
  vehicleOf := fun _ => none
  phoneOf := fun _ => none
  speakers := { replica := fun _ _ => {}, channel := fun _ _ => [] }

variable [DecidableEq P] [DecidableEq V]

def disconnect (fromEnd : Bool) (w : IntercomWorld P V) (player : P) (vehicle : V) :
    IntercomWorld P V :=
  let speakers := w.speakers.replica player vehicle
  let phone := if speakers.phone = some player then none else speakers.phone
  let wireless := arrayIntersectSelf speakers.wireless
  let wireless := deleteAt fromEnd wireless (find wireless player)
  { vehicleOf := Function.update w.vehicleOf player none
    phoneOf :=
      if w.phoneOf player = some vehicle then Function.update w.phoneOf player none else w.phoneOf
    speakers := w.speakers.publish player vehicle { phone, wireless } }

/-- The guards of `connect` up to the one on the phone. -/
def connectRefused (c : ConnectContext) (wireless : Bool) : Bool :=
  !c.vehicleAlive || c.externalIntercomEnable == 2 ||
    (c.externalIntercomEnable == 1 && c.sideIsEnemy) || (wireless && !c.hasWirelessHeadgear)

/-- Leave the old vehicle, if there is one. -/
def leaveOld (fromEnd : Bool) (w : IntercomWorld P V) (player : P) : IntercomWorld P V :=
  match w.vehicleOf player with
  | none => w
  | some oldVehicle => w.disconnect fromEnd player oldVehicle

/-- The part of `connect` behind the guards: read the array again, and sign on. -/
def signOn (w : IntercomWorld P V) (player : P) (vehicle : V) (wireless : Bool) :
    IntercomWorld P V :=
  let speakers := w.speakers.replica player vehicle
  let speakers :=
    if wireless then { speakers with wireless := speakers.wireless ++ [player] }
    else { speakers with phone := some player }
  { vehicleOf := Function.update w.vehicleOf player (some vehicle)
    phoneOf := if wireless then w.phoneOf else Function.update w.phoneOf player (some vehicle)
    speakers := w.speakers.publish player vehicle speakers }

def connect (fromEnd : Bool) (w : IntercomWorld P V) (c : ConnectContext) (player : P)
    (vehicle : V) (wireless : Bool) : IntercomWorld P V :=
  if connectRefused c wireless then w
  else if (w.speakers.replica player vehicle).phone.isSome && !wireless then w
  else (w.leaveOld fromEnd player).signOn player vehicle wireless

def step (fromEnd : Bool) (w : IntercomWorld P V) : IntercomEvent P V → IntercomWorld P V
  | .connect c player vehicle wireless => w.connect fromEnd c player vehicle wireless
  | .disconnect player vehicle => w.disconnect fromEnd player vehicle
  | .deliver writer reader => { w with speakers := w.speakers.deliver writer reader }

/-- Nothing is under way. -/
def Delivered (w : IntercomWorld P V) : Prop :=
  ∀ writer reader, w.speakers.channel writer reader = []

/-- Once everything is delivered, every machine lists on a vehicle exactly the players who are on
it; and no phone is ever with two players. -/
structure Agreed (w : IntercomWorld P V) : Prop where
  listed : w.Delivered → ∀ machine player vehicle,
    (w.speakers.replica machine vehicle).Lists player ↔ w.vehicleOf player = some vehicle
  phone : ∀ player other vehicle, w.phoneOf player = some vehicle →
    w.phoneOf other = some vehicle → player = other

/-- Taking the player off the wireless list takes nobody else off it. -/
def Harmless (fromEnd : Bool) (w : IntercomWorld P V) (player : P) (vehicle : V) : Prop :=
  player ∈ (w.speakers.replica player vehicle).wireless ∨ fromEnd = false ∨
    (w.speakers.replica player vehicle).wireless = []

/-- No write of another player is under way when the arrays are read, and a player disconnects from
the vehicle the player is on. -/
def Undisturbed (fromEnd : Bool) (w : IntercomWorld P V) : IntercomEvent P V → Prop
  | .connect c player vehicle wireless =>
      connectRefused c wireless = false →
        (w.speakers.replica player vehicle).phone = none ∨ wireless = true →
        w.speakers.FreeFor vehicle player ∧ ∀ oldVehicle, w.vehicleOf player = some oldVehicle →
          w.speakers.FreeFor oldVehicle player ∧ w.Harmless fromEnd player oldVehicle
  | .disconnect player vehicle =>
      w.speakers.FreeFor vehicle player ∧ w.Harmless fromEnd player vehicle ∧
        (w.vehicleOf player = some vehicle ∨ w.vehicleOf player = none)
  | .deliver _ _ => True

end IntercomWorld

section Membership
variable {P V : Type}

/-- The arrays say what the players' own variables say. -/
structure Membership (speakers : V → Speakers P) (vehicleOf phoneOf : P → Option V) : Prop where
  phone : ∀ vehicle player,
    (speakers vehicle).phone = some player ↔ phoneOf player = some vehicle
  wireless : ∀ vehicle player, player ∈ (speakers vehicle).wireless ↔
    vehicleOf player = some vehicle ∧ phoneOf player ≠ some vehicle
  holder : ∀ player vehicle, phoneOf player = some vehicle → vehicleOf player = some vehicle
  nodup : ∀ vehicle, (speakers vehicle).wireless.Nodup

variable {speakers : V → Speakers P} {vehicleOf phoneOf : P → Option V}

private theorem Membership.lists_iff (h : Membership speakers vehicleOf phoneOf) (player : P)
    (vehicle : V) : (speakers vehicle).Lists player ↔ vehicleOf player = some vehicle := by
  constructor
  · intro hlists
    rcases hlists with hphone | hwireless
    · exact h.holder player vehicle ((h.phone vehicle player).mp hphone)
    · exact ((h.wireless vehicle player).mp hwireless).1
  · intro hon
    by_cases hphone : phoneOf player = some vehicle
    · exact Or.inl ((h.phone vehicle player).mpr hphone)
    · exact Or.inr ((h.wireless vehicle player).mpr ⟨hon, hphone⟩)

private theorem Membership.phone_none (h : Membership speakers vehicleOf phoneOf) {player : P}
    (hon : vehicleOf player = none) : phoneOf player = none := by
  cases hphone : phoneOf player with
  | none => rfl
  | some vehicle =>
    have hvehicle := h.holder player vehicle hphone
    rw [hon] at hvehicle
    cases hvehicle

variable [DecidableEq P] [DecidableEq V]

/-- The array without the player. -/
def Speakers.without (s : Speakers P) (player : P) : Speakers P where
  phone := if s.phone = some player then none else s.phone
  wireless := s.wireless.erase player

theorem Membership.leave (h : Membership speakers vehicleOf phoneOf) {player : P} {vehicle : V}
    (hon : vehicleOf player = some vehicle ∨ vehicleOf player = none) :
    Membership (Function.update speakers vehicle ((speakers vehicle).without player))
      (Function.update vehicleOf player none) (Function.update phoneOf player none) := by
  have helsewhere : ∀ vehicle', vehicle' ≠ vehicle → vehicleOf player ≠ some vehicle' := by
    intro vehicle' hne heq
    rcases hon with hon | hon <;> rw [hon] at heq
    · exact hne (Option.some.inj heq).symm
    · cases heq
  constructor
  · intro vehicle' player'
    by_cases hp : player' = player
    · rw [hp, Function.update_self]
      refine ⟨fun hphone => ?_, fun hnone => nomatch hnone⟩
      by_cases hv : vehicle' = vehicle
      · rw [hv, Function.update_self, Speakers.without] at hphone
        dsimp only at hphone
        split at hphone
        · cases hphone
        · rename_i hother
          exact absurd hphone hother
      · rw [Function.update_of_ne hv] at hphone
        have hholds := h.holder player vehicle' ((h.phone vehicle' player).mp hphone)
        exact absurd hholds (helsewhere vehicle' hv)
    · rw [Function.update_of_ne hp]
      by_cases hv : vehicle' = vehicle
      · rw [hv, Function.update_self, ← h.phone vehicle player', Speakers.without]
        dsimp only
        split
        · rename_i hphone
          rw [hphone]
          exact ⟨(fun hnone => nomatch hnone), fun heq => absurd (Option.some.inj heq).symm hp⟩
        · exact Iff.rfl
      · rw [Function.update_of_ne hv]
        exact h.phone vehicle' player'
  · intro vehicle' player'
    by_cases hp : player' = player
    · rw [hp, Function.update_self]
      refine ⟨fun hwireless => ?_, fun hnone => nomatch hnone.1⟩
      by_cases hv : vehicle' = vehicle
      · rw [hv, Function.update_self] at hwireless
        exact absurd hwireless (h.nodup vehicle).not_mem_erase
      · rw [Function.update_of_ne hv] at hwireless
        exact absurd ((h.wireless vehicle' player).mp hwireless).1 (helsewhere vehicle' hv)
    · rw [Function.update_of_ne hp, Function.update_of_ne hp, ← h.wireless vehicle' player']
      by_cases hv : vehicle' = vehicle
      · rw [hv, Function.update_self]
        exact List.mem_erase_of_ne hp
      · rw [Function.update_of_ne hv]
  · intro player' vehicle' hphone
    by_cases hp : player' = player
    · rw [hp, Function.update_self] at hphone
      cases hphone
    · rw [Function.update_of_ne hp] at hphone ⊢
      exact h.holder player' vehicle' hphone
  · intro vehicle'
    by_cases hv : vehicle' = vehicle
    · rw [hv, Function.update_self]
      exact (h.nodup vehicle).erase player
    · rw [Function.update_of_ne hv]
      exact h.nodup vehicle'

section Joining
variable (h : Membership speakers vehicleOf phoneOf) {player : P} {vehicle : V}
  (hon : vehicleOf player = none)
include h hon

private theorem Membership.join_wireless :
    Membership (Function.update speakers vehicle
        { speakers vehicle with wireless := (speakers vehicle).wireless ++ [player] })
      (Function.update vehicleOf player (some vehicle)) phoneOf := by
  have hfree := h.phone_none hon
  have hunlisted : player ∉ (speakers vehicle).wireless := by
    intro hmem
    have hlisted := ((h.wireless vehicle player).mp hmem).1
    rw [hon] at hlisted
    cases hlisted
  constructor
  · intro vehicle' player'
    by_cases hv : vehicle' = vehicle
    · rw [hv, Function.update_self]
      exact h.phone vehicle player'
    · rw [Function.update_of_ne hv]
      exact h.phone vehicle' player'
  · intro vehicle' player'
    by_cases hp : player' = player
    · rw [hp, Function.update_self, hfree]
      by_cases hv : vehicle' = vehicle
      · rw [hv, Function.update_self]
        simp
      · rw [Function.update_of_ne hv, h.wireless vehicle' player, hon]
        simp [Ne.symm hv]
    · rw [Function.update_of_ne hp, ← h.wireless vehicle' player']
      by_cases hv : vehicle' = vehicle
      · rw [hv, Function.update_self]
        simp [hp]
      · rw [Function.update_of_ne hv]
  · intro player' vehicle' hphone
    by_cases hp : player' = player
    · rw [hp, hfree] at hphone
      cases hphone
    · rw [Function.update_of_ne hp]
      exact h.holder player' vehicle' hphone
  · intro vehicle'
    by_cases hv : vehicle' = vehicle
    · rw [hv, Function.update_self]
      exact List.nodup_append.mpr ⟨h.nodup vehicle, List.nodup_singleton player, by
        intro x hx y hy heq
        rw [heq, List.mem_singleton.mp hy] at hx
        exact hunlisted hx⟩
    · rw [Function.update_of_ne hv]
      exact h.nodup vehicle'

private theorem Membership.join_phone (hidle : (speakers vehicle).phone = none) :
    Membership (Function.update speakers vehicle { speakers vehicle with phone := some player })
      (Function.update vehicleOf player (some vehicle))
      (Function.update phoneOf player (some vehicle)) := by
  constructor
  · intro vehicle' player'
    by_cases hv : vehicle' = vehicle
    · rw [hv, Function.update_self]
      by_cases hp : player' = player
      · rw [hp, Function.update_self]
        exact ⟨fun _ => rfl, fun _ => rfl⟩
      · rw [Function.update_of_ne hp, ← h.phone vehicle player', hidle]
        simp [Ne.symm hp]
    · rw [Function.update_of_ne hv]
      by_cases hp : player' = player
      · rw [hp, Function.update_self, h.phone vehicle' player, h.phone_none hon]
        simp [Ne.symm hv]
      · rw [Function.update_of_ne hp]
        exact h.phone vehicle' player'
  · intro vehicle' player'
    have hsame : (Function.update speakers vehicle
        { speakers vehicle with phone := some player } vehicle').wireless =
        (speakers vehicle').wireless := by
      by_cases hv : vehicle' = vehicle
      · rw [hv, Function.update_self]
      · rw [Function.update_of_ne hv]
    rw [hsame, h.wireless vehicle' player']
    by_cases hp : player' = player
    · rw [hp, Function.update_self, Function.update_self, hon]
      simp
    · rw [Function.update_of_ne hp, Function.update_of_ne hp]
  · intro player' vehicle' hphone
    by_cases hp : player' = player
    · rw [hp, Function.update_self] at hphone ⊢
      exact hphone
    · rw [Function.update_of_ne hp] at hphone ⊢
      exact h.holder player' vehicle' hphone
  · intro vehicle'
    by_cases hv : vehicle' = vehicle
    · rw [hv, Function.update_self]
      exact h.nodup vehicle
    · rw [Function.update_of_ne hv]
      exact h.nodup vehicle'

end Joining

end Membership

namespace IntercomWorld
variable {P V : Type} [DecidableEq V]

/-- These are the arrays that all replicas are coming to, and they are right. -/
structure SettlesOn (w : IntercomWorld P V) (speakers : V → Speakers P) : Prop where
  converging : w.speakers.Converging speakers
  membership : Membership speakers w.vehicleOf w.phoneOf

/-- Some arrays are right. -/
def Consistent (w : IntercomWorld P V) : Prop := ∃ speakers, w.SettlesOn speakers

private theorem start_settlesOn (player : P) : (start : IntercomWorld P V).SettlesOn
    (fun _ => {}) where
  converging := by
    intro vehicle
    refine ⟨player, ?_, ?_, fun _ => rfl⟩
    · intro _ _ _ message hmessage
      cases hmessage
    · intro message hmessage
      cases hmessage
  membership := by
    constructor
    · intro _ _
      exact ⟨(fun h => nomatch h), fun h => nomatch h⟩
    · intro _ _
      exact ⟨(fun h => nomatch h), fun h => nomatch h.1⟩
    · intro _ _ h
      cases h
    · exact fun _ => List.nodup_nil

section Settled
variable {w : IntercomWorld P V} {speakers : V → Speakers P} (h : w.SettlesOn speakers)
include h

private theorem ready_of_freeFor {vehicle : V} {player : P}
    (hfree : w.speakers.FreeFor vehicle player) :
    w.speakers.Settling vehicle player (speakers vehicle) := by
  obtain ⟨writer, hwriter⟩ := h.converging vehicle
  exact hwriter.of_freeFor hfree

private theorem SettlesOn.agreed : w.Agreed := by
  constructor
  · intro hdelivered machine player vehicle
    obtain ⟨writer, hwriter⟩ := h.converging vehicle
    have hquiet : w.speakers.Quiet vehicle := by
      intro s m message hmessage
      rw [hdelivered s m] at hmessage
      cases hmessage
    rw [hwriter.replica_of_quiet hquiet machine]
    exact h.membership.lists_iff player vehicle
  · intro player other vehicle hplayer hother
    have hslot := (h.membership.phone vehicle player).mpr hplayer
    rw [(h.membership.phone vehicle other).mpr hother] at hslot
    exact (Option.some.inj hslot).symm

end Settled

section Steps
variable [DecidableEq P] {fromEnd : Bool} {w : IntercomWorld P V} {speakers : V → Speakers P}
  (h : w.SettlesOn speakers) {player : P} {vehicle : V}
include h

section Disconnect
variable (hready : w.speakers.Settling vehicle player (speakers vehicle))
  (hharmless : w.Harmless fromEnd player vehicle)
  (hon : w.vehicleOf player = some vehicle ∨ w.vehicleOf player = none)
include hready hharmless

private theorem disconnect_speakers :
    (w.disconnect fromEnd player vehicle).speakers =
      w.speakers.publish player vehicle ((speakers vehicle).without player) := by
  have hread := hready.own_replica
  rw [Harmless, hread] at hharmless
  have hdeleted := deleteAt_find hharmless
  have hnodup := arrayIntersectSelf_of_nodup (h.membership.nodup vehicle)
  simp only [disconnect, hread, hnodup, hdeleted]
  rfl

include hon

private theorem disconnect_settlesOn :
    (w.disconnect fromEnd player vehicle).SettlesOn
        (Function.update speakers vehicle ((speakers vehicle).without player)) ∧
      ∀ vehicle', w.speakers.Settling vehicle' player (speakers vehicle') →
        (w.disconnect fromEnd player vehicle).speakers.Settling vehicle' player
          (Function.update speakers vehicle ((speakers vehicle).without player) vehicle') := by
  have hwritten := disconnect_speakers h hready hharmless
  obtain ⟨hconverging, hkeeps⟩ :=
    h.converging.publish hready ((speakers vehicle).without player)
  have hphone : (w.disconnect fromEnd player vehicle).phoneOf =
      Function.update w.phoneOf player none := by
    simp only [disconnect]
    split
    · rfl
    · rename_i hother
      have hnone : w.phoneOf player = none := by
        cases hphone : w.phoneOf player with
        | none => rfl
        | some held =>
          have hheld := h.membership.holder player held hphone
          rcases hon with hon | hon <;> rw [hon] at hheld
          · rw [hphone, ← Option.some.inj hheld] at hother
            exact absurd rfl hother
          · cases hheld
      rw [← hnone, Function.update_eq_self]
  constructor
  · constructor
    · rw [hwritten]
      exact hconverging
    · rw [hphone]
      exact h.membership.leave hon
  · rw [hwritten]
    exact hkeeps

end Disconnect

private theorem leaveOld_settlesOn (hfree : w.speakers.FreeFor vehicle player)
    (hold : ∀ oldVehicle, w.vehicleOf player = some oldVehicle →
      w.speakers.FreeFor oldVehicle player ∧ w.Harmless fromEnd player oldVehicle) :
    ∃ speakers', (w.leaveOld fromEnd player).SettlesOn speakers' ∧
      (w.leaveOld fromEnd player).speakers.Settling vehicle player (speakers' vehicle) ∧
      (w.leaveOld fromEnd player).vehicleOf player = none ∧
      ((speakers vehicle).phone = none → (speakers' vehicle).phone = none) := by
  have hready := ready_of_freeFor h hfree
  cases hvehicle : w.vehicleOf player with
  | none =>
    simp only [leaveOld, hvehicle]
    exact ⟨speakers, h, hready, trivial, id⟩
  | some oldVehicle =>
    obtain ⟨hfreeOld, hharmless⟩ := hold oldVehicle hvehicle
    obtain ⟨hsettles, hkeeps⟩ := disconnect_settlesOn h (ready_of_freeFor h hfreeOld) hharmless
      (Or.inl hvehicle)
    simp only [leaveOld, hvehicle]
    refine ⟨_, hsettles, hkeeps vehicle hready, Function.update_self _ _ _, ?_⟩
    intro hidle
    by_cases hsame : vehicle = oldVehicle
    · rw [← hsame, Function.update_self, Speakers.without, hidle]
      simp
    · rw [Function.update_of_ne hsame]
      exact hidle

private theorem signOn_settlesOn (hready : w.speakers.Settling vehicle player (speakers vehicle))
    (hon : w.vehicleOf player = none) (wireless : Bool)
    (hidle : (speakers vehicle).phone = none ∨ wireless = true) :
    ∃ speakers', (w.signOn player vehicle wireless).SettlesOn speakers' := by
  have hread := hready.own_replica
  cases wireless with
  | true =>
    obtain ⟨hconverging, _⟩ := h.converging.publish hready
      { speakers vehicle with wireless := (speakers vehicle).wireless ++ [player] }
    refine ⟨_, ?_, h.membership.join_wireless hon⟩
    simp only [signOn, hread, if_true]
    exact hconverging
  | false =>
    obtain ⟨hconverging, _⟩ := h.converging.publish hready
      { speakers vehicle with phone := some player }
    have hphone := hidle.resolve_right (fun hand => nomatch hand)
    refine ⟨_, ?_, h.membership.join_phone hon hphone⟩
    simp only [signOn, hread, Bool.false_eq_true, if_false]
    exact hconverging

/-- A step that nothing disturbs leaves arrays that are right. -/
theorem step_consistent {e : IntercomEvent P V} (hguard : w.Undisturbed fromEnd e) :
    (w.step fromEnd e).Consistent := by
  cases e with
  | deliver writer reader => exact ⟨speakers, h.converging.deliver writer reader, h.membership⟩
  | disconnect player vehicle =>
    obtain ⟨hfree, hharmless, hon⟩ := hguard
    have hready := ready_of_freeFor h hfree
    exact ⟨_, (disconnect_settlesOn h hready hharmless hon).1⟩
  | connect c player vehicle wireless =>
    simp only [step, connect]
    split
    · exact ⟨speakers, h⟩
    · rename_i hrefused
      split
      · exact ⟨speakers, h⟩
      · rename_i hbusy
        have hidle : (w.speakers.replica player vehicle).phone = none ∨ wireless = true := by
          cases hphone : (w.speakers.replica player vehicle).phone with
          | none => exact Or.inl rfl
          | some _ =>
            rw [hphone] at hbusy
            simpa using hbusy
        obtain ⟨hfree, hold⟩ := hguard (by simpa using hrefused) hidle
        have hread := (ready_of_freeFor h hfree).own_replica
        rw [hread] at hidle
        obtain ⟨speakers', hsettles, hready, hnone, hphone⟩ := leaveOld_settlesOn h hfree hold
        exact signOn_settlesOn hsettles hready hnone wireless (hidle.imp_left hphone)

end Steps

/-- In a run without disturbed steps everybody agrees in every state. -/
theorem throughout_agreed [DecidableEq P] (fromEnd : Bool) (history : List (IntercomEvent P V))
    (hguarded : Guarded (step fromEnd) (Undisturbed fromEnd) start history) :
    Throughout (step fromEnd) Agreed start history := by
  have hstep : ∀ (w : IntercomWorld P V) (e : IntercomEvent P V), w.Consistent →
      w.Undisturbed fromEnd e → (w.step fromEnd e).Consistent := by
    intro w e hw hguard
    obtain ⟨speakers, hspeakers⟩ := hw
    exact step_consistent hspeakers hguard
  cases history with
  | nil =>
    constructor
    · intro _ _ _ _
      exact ⟨(fun h => h.elim (fun h => nomatch h) (fun h => nomatch h)), fun h => nomatch h⟩
    · intro _ _ _ h
      cases h
  | cons e earlier =>
    have hstart : (start : IntercomWorld P V).Consistent := ⟨_, start_settlesOn e.player⟩
    refine (throughout_of_guarded hstart hstep hguarded).imp (fun w hw => ?_)
    obtain ⟨speakers, hspeakers⟩ := hw
    exact hspeakers.agreed

section Examples

/-- Two players next to one vehicle. -/
abbrev Crew := IntercomWorld Bool Unit

def ann : Bool := true
def bob : Bool := false

/-- Both act before the other one's write has arrived, then both writes arrive. -/
def atOnce (wireless : Bool) : List (IntercomEvent Bool Unit) :=
  [.deliver bob ann, .deliver ann bob, .connect {} bob () wireless, .connect {} ann () wireless]

/-- Both are given the phone; and of two wireless players each is lost on the own machine. -/
theorem at_once_not_agreed :
    ¬ Throughout (step false) Agreed (start : Crew) (atOnce false) ∧
      ¬ Throughout (step false) Agreed (start : Crew) (atOnce true) := by
  constructor
  · intro h
    have hsame := h.last.phone ann bob () (by decide) (by decide)
    cases hsame
  · intro h
    have hdelivered : (runHistory (step false) (start : Crew) (atOnce true)).Delivered := by
      intro s m
      revert s m
      decide
    have hlisted := (h.last.listed hdelivered ann ann ()).mpr (by decide)
    revert hlisted
    decide

/-- One after the other, they agree, however the engine counts. -/
theorem in_turn_agreed :
    Throughout (step true) Agreed (start : Crew)
      [.deliver bob ann, .connect {} bob () true, .deliver ann bob, .connect {} ann () false] := by
  refine throughout_agreed true _ ⟨⟨⟨⟨trivial, ?_⟩, trivial⟩, ?_⟩, trivial⟩
  · intro _ _
    exact ⟨(fun _ _ _ _ hmessage => nomatch hmessage), fun _ hold => nomatch hold⟩
  · intro _ _
    have hempty : ∀ s m, (runHistory (step true) (start : Crew)
        [.deliver ann bob, .connect {} ann () false]).speakers.channel s m = [] := by
      decide
    refine ⟨?_, fun _ hold => nomatch hold⟩
    intro s m _ message hmessage
    rw [hempty s m] at hmessage
    cases hmessage

end Examples

end IntercomWorld

end TaskForceRadio.Addon
