import TaskForceRadio.Extension.Util
import TaskForceRadio.Foundation.Dictionary
import TaskForceRadio.Foundation.Execution

/-!
# The ids of radio instances

The server answers a request for a radio with a number, the client equips the radio of that
number. The numbers of a class count up to `MAX_RADIO_COUNT` and start again at 1, whichever of
them are in use; a default radio is counted under the class that the settings name and equipped as
an instance of its parent.
-/

set_option autoImplicit false

namespace TaskForceRadio.Addon

open Extension (toLower)

/-- `MAX_RADIO_COUNT` -/
def kMaxRadioCount : Nat := 1000

/-- What the server and the clients look up: the configs of the radios, the default radios and the
rank of a unit. -/
structure Mission (U : Type) where
  /-- The property `tf_parent`, empty where a class has none. -/
  radioParent : Bytes → Bytes
  defaultRadioClasses : U → List Bytes
  givePersonalRadioToRegularSoldier : Bool
  isLeader : U → Bool
  rankId : U → Int

/-- Strings are compared and variables are named without regard to case. -/
def variableName (name : Bytes) : Bytes := name.map toLower

namespace Mission
variable {U : Type}

/-- The default radio in the classes of one unit, by the rank of another. -/
def defaultRadioClass (m : Mission U) (classesOf unit : U) : Bytes :=
  let personal :=
    m.givePersonalRadioToRegularSoldier || m.isLeader unit || decide (m.rankId unit ≥ 2)
  (m.defaultRadioClasses classesOf).getD (if personal then 1 else 2) []

def isItemRadio (className : Bytes) : Bool := variableName className == ascii "itemradio"

/-- The class under which the server counts a requested radio. `ItemRadio` stands for the default
radio of the unit. -/
def radioBaseClass (m : Mission U) (unit : U) (className : Bytes) : Bytes :=
  if isItemRadio className then m.defaultRadioClass unit unit else m.radioParent className

/-- The class of which the client equips an instance. Unlike the server it asks for the parent of
a default radio, too. -/
def equippedClass (m : Mission U) (currentUnit requestedUnit : U) (className : Bytes) : Bytes :=
  m.radioParent
    (if isItemRadio className then m.defaultRadioClass currentUnit requestedUnit else className)

end Mission

/-- `TFAR_RadioCountNamespace` -/
abbrev RadioCounts := Dictionary Bytes Nat

def nextRadioIndex (counts : RadioCounts) (base : Bytes) : Nat :=
  let next := (counts.lookup (variableName base)).getD 0 + 1
  if next > kMaxRadioCount then 1 else next

/-- The answer to one request: an id for every class, 0 for one without a base class. -/
def instanciateRadios {U : Type} (m : Mission U) (unit : U) :
    RadioCounts → List Bytes → RadioCounts × List Nat
  | counts, [] => (counts, [])
  | counts, className :: request =>
      let base := m.radioBaseClass unit className
      if base = [] then
        let (counts, response) := instanciateRadios m unit counts request
        (counts, 0 :: response)
      else
        let next := nextRadioIndex counts base
        let (counts, response) :=
          instanciateRadios m unit (counts.insert (variableName base) next) request
        (counts, next :: response)

/-- A radio that was handed out: the `ordinal`-th that the server counted under a class, equipped
as an instance of its base class. -/
structure RadioInstance where
  base : Bytes
  counter : Bytes
  ordinal : Nat
  id : Nat
  deriving DecidableEq, Repr

/-- A unit requests radios, or a radio is thrown away: by its owner, or at once because the answer
is outdated or the unit cannot carry it. -/
inductive RadioEvent (U : Type) where
  | request (unit currentUnit : U) (classes : List Bytes)
  | discard (counter : Bytes) (ordinal : Nat)

/-- The counters of the server with the radios in the field, and how many were counted under each
class so far. -/
structure RadioWorld where
  radioCount : RadioCounts := ∅
  handedOut : Dictionary Bytes Nat := ∅
  inUse : List RadioInstance := []

/-- A requested radio between the server and the unit. -/
structure Delivery where
  counter : Bytes
  equipped : Bytes

def Mission.delivery {U : Type} (m : Mission U) (unit currentUnit : U) (className : Bytes) :
    Delivery where
  counter := m.radioBaseClass unit className
  equipped := m.equippedClass currentUnit unit className

namespace RadioWorld

/-- How many were counted under a class. -/
def ordinals (w : RadioWorld) (counter : Bytes) : Nat := (w.handedOut.lookup counter).getD 0

/-- A radio of the request comes back with its id. -/
def receive (w : RadioWorld) (answer : Delivery × Nat) : RadioWorld :=
  if answer.1.counter = [] then w
  else
    let counter := variableName answer.1.counter
    let ordinal := w.ordinals counter + 1
    let w := { w with handedOut := w.handedOut.insert counter ordinal }
    if answer.1.equipped = [] then w
    else
      let radio : RadioInstance :=
        { base := variableName answer.1.equipped
          counter
          ordinal
          id := answer.2 }
      { w with inUse := radio :: w.inUse }

def step {U : Type} (m : Mission U) (w : RadioWorld) : RadioEvent U → RadioWorld
  | .request unit currentUnit classes =>
      let (radioCount, response) := instanciateRadios m unit w.radioCount classes
      ((classes.map (m.delivery unit currentUnit)).zip response).foldl receive
        { w with radioCount }
  | .discard counter ordinal =>
      { w with inUse := w.inUse.filter (fun i => i.counter ≠ counter ∨ i.ordinal ≠ ordinal) }

/-- No two radios of one base class in use share an id. -/
def UniqueIds (w : RadioWorld) : Prop :=
  ∀ i ∈ w.inUse, ∀ j ∈ w.inUse, i.base = j.base → i.id = j.id →
    i.counter = j.counter ∧ i.ordinal = j.ordinal

def WithinCapacity (w : RadioWorld) : Prop :=
  ∀ base, w.inUse.countP (fun i => i.base = base) ≤ kMaxRadioCount

/-- No two radios of one base class in use were counted a multiple of `MAX_RADIO_COUNT` apart,
neither under one class nor under two. -/
def Spaced (w : RadioWorld) : Prop :=
  ∀ i ∈ w.inUse, ∀ j ∈ w.inUse, i.base = j.base →
    i.ordinal % kMaxRadioCount = j.ordinal % kMaxRadioCount →
      i.counter = j.counter ∧ i.ordinal = j.ordinal

private theorem receive_radioCount (w : RadioWorld) (radioCount : RadioCounts)
    (answer : Delivery × Nat) :
    receive { w with radioCount } answer = { receive w answer with radioCount } := by
  simp only [receive]
  split
  · rfl
  · split <;> rfl

/-- The id of the `ordinal`-th radio of a class, and the counter after it. -/
def idOf : Nat → Nat
  | 0 => 0
  | earlier + 1 => earlier % kMaxRadioCount + 1

structure Numbered (w : RadioWorld) : Prop where
  count : ∀ counter, (w.radioCount.lookup counter).getD 0 = idOf (w.ordinals counter)
  used : ∀ i ∈ w.inUse, 0 < i.ordinal ∧ i.ordinal ≤ w.ordinals i.counter ∧ i.id = idOf i.ordinal

/-- One radio of a request: the id and the radio at once. -/
def handOut (w : RadioWorld) (d : Delivery) : RadioWorld :=
  if d.counter = [] then w
  else
    let next := nextRadioIndex w.radioCount d.counter
    receive { w with radioCount := w.radioCount.insert (variableName d.counter) next } (d, next)

private theorem step_request {U : Type} (m : Mission U) (w : RadioWorld) (unit currentUnit : U)
    (classes : List Bytes) :
    step m w (.request unit currentUnit classes) =
      (classes.map (m.delivery unit currentUnit)).foldl handOut w := by
  induction classes generalizing w with
  | nil => rfl
  | cons className classes ih =>
    rw [List.map_cons, List.foldl_cons, ← ih]
    simp only [step, instanciateRadios, List.map_cons]
    have hcounter : (m.delivery unit currentUnit className).counter =
        m.radioBaseClass unit className := rfl
    by_cases hbase : m.radioBaseClass unit className = []
    · have hnone := hcounter.trans hbase
      simp only [handOut, if_pos hnone, if_pos hbase, List.zip_cons_cons, List.foldl_cons]
      simp only [receive, if_pos hnone]
    · have hsome : (m.delivery unit currentUnit className).counter ≠ [] := hbase
      simp only [handOut, if_neg hsome, if_neg hbase, List.zip_cons_cons, List.foldl_cons]
      simp only [receive_radioCount, hcounter]

private theorem nextRadioIndex_eq {w : RadioWorld} (h : Numbered w) (counter : Bytes) :
    nextRadioIndex w.radioCount counter = idOf (w.ordinals (variableName counter) + 1) := by
  rw [nextRadioIndex, h.count]
  cases w.ordinals (variableName counter) with
  | zero => rfl
  | succ earlier =>
    split
    · rename_i hwrap
      simp only [idOf, kMaxRadioCount] at hwrap ⊢
      omega
    · rename_i hwrap
      simp only [idOf, kMaxRadioCount] at hwrap ⊢
      omega

/-- The radio that a delivery puts into the field. -/
def equip (d : Delivery) (ordinal : Nat) : List RadioInstance :=
  if d.equipped = [] then []
  else
    [{ base := variableName d.equipped
       counter := variableName d.counter
       ordinal
       id := idOf ordinal }]

private theorem handOut_of_counter {w : RadioWorld} (h : Numbered w) {d : Delivery}
    (hd : d.counter ≠ []) :
    w.handOut d =
      let counter := variableName d.counter
      let ordinal := w.ordinals counter + 1
      { radioCount := w.radioCount.insert counter (idOf ordinal)
        handedOut := w.handedOut.insert counter ordinal
        inUse := equip d ordinal ++ w.inUse } := by
  rw [handOut, if_neg hd, nextRadioIndex_eq h]
  simp only [receive, if_neg hd, equip]
  split <;> rfl

private theorem lookup_insert_getD (counts : Dictionary Bytes Nat) (key k : Bytes) (n : Nat) :
    ((counts.insert key n).lookup k).getD 0 = if k = key then n else (counts.lookup k).getD 0 := by
  rw [Dictionary.lookup_insert_ite]
  split <;> rfl

private theorem numbered_handOut {w : RadioWorld} (h : Numbered w) (d : Delivery) :
    Numbered (w.handOut d) := by
  by_cases hd : d.counter = []
  · rw [handOut, if_pos hd]
    exact h
  · rw [handOut_of_counter h hd]
    refine ⟨?_, ?_⟩
    · intro k
      simp only [ordinals]
      rw [lookup_insert_getD, lookup_insert_getD]
      split
      · rfl
      · exact h.count k
    · intro i hi
      simp only [ordinals]
      rw [lookup_insert_getD]
      rcases List.mem_append.mp hi with hnew | hi
      · rw [equip] at hnew
        split at hnew
        · cases hnew
        · rw [List.mem_singleton.mp hnew, if_pos rfl]
          exact ⟨Nat.succ_pos _, Nat.le_refl _, rfl⟩
      · obtain ⟨hpos, hle, hid⟩ := h.used i hi
        refine ⟨hpos, ?_, hid⟩
        split
        · rename_i hsame
          rw [hsame] at hle
          exact Nat.le_succ_of_le hle
        · exact hle

theorem numbered_step {U : Type} (m : Mission U) (w : RadioWorld) (e : RadioEvent U)
    (h : Numbered w) : Numbered (step m w e) := by
  cases e with
  | request unit currentUnit classes =>
    rw [step_request]
    generalize classes.map (m.delivery unit currentUnit) = deliveries
    induction deliveries generalizing w with
    | nil => exact h
    | cons d deliveries ih => exact ih _ (numbered_handOut h d)
  | discard counter ordinal =>
    refine ⟨h.count, ?_⟩
    intro i hi
    exact h.used i (List.mem_filter.mp hi).1

private theorem numbered_start : Numbered {} := by
  refine ⟨fun base => rfl, ?_⟩
  intro i hi
  cases hi

private theorem idOf_eq_iff {a b : Nat} (ha : 0 < a) (hb : 0 < b) :
    idOf a = idOf b ↔ a % kMaxRadioCount = b % kMaxRadioCount := by
  obtain ⟨a, rfl⟩ := Nat.exists_eq_add_of_lt ha
  obtain ⟨b, rfl⟩ := Nat.exists_eq_add_of_lt hb
  simp only [idOf, kMaxRadioCount]
  omega

private theorem uniqueIds_iff_spaced {w : RadioWorld} (h : Numbered w) :
    UniqueIds w ↔ Spaced w := by
  have hids : ∀ i ∈ w.inUse, ∀ j ∈ w.inUse,
      (i.id = j.id ↔ i.ordinal % kMaxRadioCount = j.ordinal % kMaxRadioCount) := by
    intro i hi j hj
    obtain ⟨hipos, _, hid⟩ := h.used i hi
    obtain ⟨hjpos, _, hjd⟩ := h.used j hj
    rw [hid, hjd]
    exact idOf_eq_iff hipos hjpos
  constructor
  · intro hunique i hi j hj hbase hmod
    exact hunique i hi j hj hbase ((hids i hi j hj).mpr hmod)
  · intro hspaced i hi j hj hbase hid
    exact hspaced i hi j hj hbase ((hids i hi j hj).mp hid)

/-- Ids stay unique exactly as long as no radio in use meets one of its class that was counted a
multiple of `MAX_RADIO_COUNT` apart. -/
theorem throughout_uniqueIds_iff {U : Type} (m : Mission U) (history : List (RadioEvent U)) :
    Throughout (step m) UniqueIds {} history ↔ Throughout (step m) Spaced {} history := by
  induction history with
  | nil => exact uniqueIds_iff_spaced numbered_start
  | cons e earlier ih =>
    have hnumbered := invariant_runHistory numbered_start (numbered_step m) earlier
    exact and_congr ih (uniqueIds_iff_spaced (numbered_step m _ e hnumbered))

/-- A mission whose units are their own leaders and carry the personal radio of their side. -/
def personalRadios : Mission Unit where
  radioParent := id
  defaultRadioClasses := fun _ => ["TFAR_rt1523g", "TFAR_anprc152", "TFAR_rf7800str"].map ascii
  givePersonalRadioToRegularSoldier := false
  isLeader := fun _ => true
  rankId := fun _ => 0

def personalRadio : Bytes := variableName (ascii "TFAR_anprc152")

/-- The default radio is a class that inherits the parent of another one. -/
def aliasedDefault : Mission Unit :=
  { personalRadios with
    radioParent := fun _ => ascii "TFAR_anprc152"
    defaultRadioClasses := fun _ => [ascii "TFAR_rt1523g", ascii "tf_anprc152"] }

/-- The default radio and one asked for by its name are counted apart and equipped alike. -/
example : ¬ UniqueIds (step aliasedDefault {}
    (.request () () [ascii "ItemRadio", ascii "TFAR_anprc152"])) := by
  rw [UniqueIds]
  decide

def askForRadio : RadioEvent Unit := .request () () [ascii "ItemRadio"]

/-- Radios that are thrown away before the next one is asked for. -/
def churn : Nat → List (RadioEvent Unit)
  | 0 => [askForRadio]
  | n + 1 => .discard personalRadio (n + 2) :: askForRadio :: churn n

/-- Somebody keeps the first radio while 999 others come and go. -/
def longGame : List (RadioEvent Unit) := askForRadio :: churn 999

private theorem step_askForRadio {w : RadioWorld} (h : Numbered w) {n : Nat}
    (hn : w.ordinals personalRadio = n) :
    (step personalRadios w askForRadio).inUse =
        ⟨personalRadio, personalRadio, n + 1, idOf (n + 1)⟩ :: w.inUse ∧
      (step personalRadios w askForRadio).ordinals personalRadio = n + 1 := by
  have hdelivery : personalRadios.delivery () () (ascii "ItemRadio") =
      ⟨ascii "TFAR_anprc152", ascii "TFAR_anprc152"⟩ := by
    simp only [Mission.delivery]
    rfl
  have hcounter : ascii "TFAR_anprc152" ≠ [] := by decide
  rw [askForRadio, step_request, List.map_cons, hdelivery, List.map_nil, List.foldl_cons,
    List.foldl_nil, handOut_of_counter h hcounter]
  change _ = _ ∧ ((w.handedOut.insert personalRadio (w.ordinals personalRadio + 1)).lookup
    personalRadio).getD 0 = n + 1
  rw [lookup_insert_getD, if_pos rfl, hn]
  refine ⟨?_, rfl⟩
  change ⟨personalRadio, personalRadio, w.ordinals personalRadio + 1,
    idOf (w.ordinals personalRadio + 1)⟩ :: w.inUse = _
  rw [hn]

def TwoAtMost (w : RadioWorld) : Prop := w.inUse.length ≤ 2

private theorem TwoAtMost.withinCapacity {w : RadioWorld} (h : TwoAtMost w) : WithinCapacity w := by
  intro base
  have hcount : w.inUse.countP (fun i => i.base = base) ≤ w.inUse.length := List.countP_le_length
  have htwo : 2 ≤ kMaxRadioCount := by decide
  exact hcount.trans (Nat.le_trans h htwo)

private theorem twoAtMost_of_inUse {w : RadioWorld} {radios : List RadioInstance}
    (h : w.inUse = radios)
    (hlength : radios.length ≤ 2) : TwoAtMost w := by
  rw [TwoAtMost, h]
  exact hlength

/-- The radios that come and go move the counter on, and only the first one stays. -/
structure Churned (n : Nat) (history : List (RadioEvent Unit)) : Prop where
  few : Throughout (step personalRadios) TwoAtMost {} history
  inUse :
    (runHistory (step personalRadios) {} history).inUse = [⟨personalRadio, personalRadio, 1, 1⟩]
  ordinals : (runHistory (step personalRadios) {} history).ordinals personalRadio = n + 1

private theorem numbered_run (history : List (RadioEvent Unit)) :
    Numbered (runHistory (step personalRadios) {} history) :=
  invariant_runHistory numbered_start (numbered_step personalRadios) history

private theorem churned (n : Nat) : Churned n (churn n) := by
  induction n with
  | zero =>
    obtain ⟨hinUse, hordinals⟩ := step_askForRadio numbered_start (n := 0) rfl
    exact ⟨⟨Nat.zero_le _, twoAtMost_of_inUse hinUse (by decide)⟩, hinUse, hordinals⟩
  | succ n ih =>
    obtain ⟨hasked, hordinals⟩ := step_askForRadio (numbered_run (churn n)) ih.ordinals
    rw [ih.inUse] at hasked
    have hkept : (runHistory (step personalRadios) {} (churn (n + 1))).inUse =
        [⟨personalRadio, personalRadio, 1, 1⟩] := by
      rw [churn, runHistory_cons, runHistory_cons, step, hasked]
      simp
    exact ⟨⟨⟨ih.few, twoAtMost_of_inUse hasked (Nat.le_refl 2)⟩,
      twoAtMost_of_inUse hkept (by decide)⟩, hkept, hordinals⟩

/-- With two radios in use, the last one shares the id of the first. -/
theorem long_game_shares_id :
    ¬ ∀ history : List (RadioEvent Unit),
      Throughout (step personalRadios) WithinCapacity {} history →
        Throughout (step personalRadios) UniqueIds {} history := by
  intro hclaim
  obtain ⟨hfew, hkept, hordinals⟩ := churned 999
  obtain ⟨hinUse, _⟩ := step_askForRadio (numbered_run (churn 999)) hordinals
  rw [hkept] at hinUse
  have hshort : Throughout (step personalRadios) TwoAtMost {} longGame :=
    ⟨hfew, twoAtMost_of_inUse hinUse (Nat.le_refl 2)⟩
  have hcapacity := hshort.imp (fun _ => TwoAtMost.withinCapacity)
  have hunique := (hclaim longGame hcapacity).last
  rw [longGame, runHistory_cons, UniqueIds, hinUse] at hunique
  have hsame := hunique ⟨personalRadio, personalRadio, 1001, idOf 1001⟩ List.mem_cons_self
    ⟨personalRadio, personalRadio, 1, 1⟩ (List.mem_cons_of_mem _ List.mem_cons_self) rfl rfl
  exact absurd hsame.2 (by decide)

end RadioWorld

end TaskForceRadio.Addon
