import TaskForceRadio.Addon.Records
import TaskForceRadio.Extension.Antennas
import TaskForceRadio.Foundation.Dictionary

/-!
# Towers of the addon

`radioTowerList` and the messages about it: RadioTwrAdd in the frame after a tower appears and at
every refresh of the configuration, RadioTwrDel when it disappears, at most 50 towers a message.
-/

set_option autoImplicit false

namespace TaskForceRadio.Addon

open Extension

/-- A number whose text holds no semicolon. -/
structure TowerNumber extends SqfNumber where
  joinable : semicolon ∉ text

structure TowerPosition where
  x : TowerNumber
  y : TowerNumber
  z : TowerNumber

def TowerPosition.vector (pos : TowerPosition) : SqfVector :=
  ⟨pos.x.toSqfNumber, pos.y.toSqfNumber, pos.z.toSqfNumber⟩

/-- What `netID` answers for an object that is on the network. -/
structure NetId where
  text : Bytes
  plain : DelimiterFree text
  joinable : semicolon ∉ text
  nonempty : text ≠ []

/-- `for "_y" from 0 to count - 1 step size`, with `select [_y, size]`. -/
def batches {α : Type} (size : Nat) (xs : List α) : List (List α) :=
  (List.range ((xs.length + (size - 1)) / size)).map fun y => (xs.drop (y * size)).take size

def towersPerCall : Nat := 50

section Messages
variable {Tower : Type} [DecidableEq Tower]

/-- The towers with their ranges, a hash of the addon. -/
abbrev TowerList (Tower : Type) [DecidableEq Tower] := Dictionary Tower TowerNumber

/-- What the game answers while the lines are written. The range of a tower that is not in the list
is nil, and its line whatever the game makes of that. -/
structure TowerReading (Tower : Type) where
  position : Tower → TowerPosition
  unlisted : Tower → Bytes

variable (netID : Tower → NetId) (radioTowerList : TowerList Tower)

def towerLine (r : TowerReading Tower) (tower : Tower) : Bytes :=
  match radioTowerList.lookup tower with
  | some range =>
      joinTokens semicolon [(netID tower).text, range.text, (r.position tower).vector.text]
  | none => r.unlisted tower

def pluginAddRadioTower (r : TowerReading Tower) (towers : List Tower) : List Bytes :=
  (batches towersPerCall towers).map fun towersToProcess =>
    let towerData := towersToProcess.map (towerLine netID radioTowerList r)
    request "RadioTwrAdd" [joinTokens newLine towerData]

def pluginRemoveRadioTower (towers : List Tower) : List Bytes :=
  (batches towersPerCall towers).map fun towersToProcess =>
    let towerData := towersToProcess.map fun tower => (netID tower).text
    request "RadioTwrDel" [joinTokens newLine towerData]

/-- The list, and the towers that `execNextFrame` holds back. -/
structure Towers (Tower : Type) [DecidableEq Tower] where
  radioTowerList : TowerList Tower := ∅
  nextFrame : List Tower := []

inductive TowerEvent (Tower : Type) where
  | initRadioTower (tower : Tower) (range : TowerNumber)
  | nextFrame (r : TowerReading Tower)
  | deleteRadioTower (tower : Tower)
  | configRefresh (order : IterationOrder Tower) (r : TowerReading Tower)

/-- The towers after an event, and what the event says to the extension. -/
def Towers.step (t : Towers Tower) : TowerEvent Tower → Towers Tower × List Bytes
  | .initRadioTower tower range =>
      ({ radioTowerList := t.radioTowerList.insert tower range
         nextFrame := t.nextFrame ++ [tower] }, [])
  | .nextFrame r =>
      ({ t with nextFrame := [] },
        t.nextFrame.flatMap fun tower => pluginAddRadioTower netID t.radioTowerList r [tower])
  | .deleteRadioTower tower =>
      ({ t with radioTowerList := t.radioTowerList.erase tower },
        pluginRemoveRadioTower netID [tower])
  | .configRefresh order r =>
      (t, pluginAddRadioTower netID t.radioTowerList r (order.arrange t.radioTowerList.keys))

end Messages

theorem batches_singleton {α : Type} (x : α) : batches towersPerCall [x] = [[x]] := by
  have hone : (1 + (towersPerCall - 1)) / towersPerCall = 1 := by decide
  rw [batches, List.length_singleton, hone]
  rfl

theorem flatten_batches {α : Type} {size : Nat} (hsize : 0 < size) (xs : List α) :
    (batches size xs).flatten = xs := by
  have htake : ∀ count, ((List.range count).map fun y => (xs.drop (y * size)).take size).flatten =
      xs.take (count * size) := by
    intro count
    induction count with
    | zero => simp
    | succ count ih =>
      rw [List.range_succ, List.map_append, List.flatten_append, ih, Nat.succ_mul, List.take_add]
      simp
  rw [batches, htake]
  apply List.take_of_length_le
  have hround := Nat.div_add_mod (xs.length + (size - 1)) size
  have hrest := Nat.mod_lt (xs.length + (size - 1)) hsize
  rw [mul_comm] at hround
  omega

end TaskForceRadio.Addon
