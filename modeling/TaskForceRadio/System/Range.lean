import TaskForceRadio.Foundation.Single
import TaskForceRadio.System.Frequency

/-!
# One range on two machines

The range of a transmission is clamped when TANGENT sets it, to 200 km, and when it is announced,
to what 16 bits can say.
-/

set_option autoImplicit false

namespace TaskForceRadio

open Voice (Time milliseconds VoiceSession RosterOrders)
open VoiceServer Extension Single

namespace Range

open Frequency

private theorem finite_200000 : (200000 : Float32).isFinite = true := @isFinite_ofNat 200000
    (by norm_num)

private theorem value_200000 : value 200000 = 200000 := by
  exact_mod_cast @value_ofNat 200000 (by norm_num)

private theorem finite_65535 : (65535 : Float32).isFinite = true := @isFinite_ofNat 65535
    (by norm_num)

private theorem value_65535 : value 65535 = 65535 := by
  exact_mod_cast @value_ofNat 65535 (by norm_num)

private theorem finite_65536 : (65536 : Float32).isFinite = true := @isFinite_ofNat 65536
    (by norm_num)

private theorem value_65536 : value 65536 = 65536 := by
  exact_mod_cast @value_ofNat 65536 (by norm_num)

private theorem finite_zero : (0 : Float32).isFinite = true := rfl

theorem value_zero : value 0 = 0 := rfl

private theorem clampRange_cases (x : Float32) :
    ¬ 0 ≤ x ∧ State.clampRange x = 0 ∨
      200000 < x ∧ State.clampRange x = 200000 ∨
        0 ≤ x ∧ ¬ 200000 < x ∧ State.clampRange x = x := by
  simp only [State.clampRange]
  by_cases hlow : x ≥ 0
  · rw [if_pos hlow]
    by_cases hhigh : x > 200000
    · exact Or.inr (Or.inl ⟨hhigh, if_pos hhigh⟩)
    · exact Or.inr (Or.inr ⟨hlow, hhigh, if_neg hhigh⟩)
  · have hnot : ¬ (0 : Float32) > 200000 := by
      intro h
      have hvalue := (lt_iff finite_200000 finite_zero).mp h
      rw [value_200000, value_zero] at hvalue
      linarith
    rw [if_neg hlow, if_neg hnot]
    exact Or.inl ⟨hlow, rfl⟩

private theorem clampRange_bounds (x : Float32) :
    (State.clampRange x).isFinite = true ∧ 0 ≤ value (State.clampRange x) ∧
      value (State.clampRange x) ≤ 200000 := by
  rcases clampRange_cases x with ⟨_, heq⟩ | ⟨_, heq⟩ | ⟨hlow, hhigh, heq⟩
  · rw [heq, value_zero]
    exact ⟨rfl, le_refl _, by norm_num⟩
  · rw [heq, value_200000]
    exact ⟨finite_200000, by norm_num, le_refl _⟩
  · have hfinite := isFinite_of_between hlow hhigh finite_200000
    rw [lt_iff finite_200000 hfinite, value_200000, not_lt] at hhigh
    rw [le_iff finite_zero hfinite, value_zero] at hlow
    rw [heq]
    exact ⟨hfinite, hlow, hhigh⟩

private theorem clampRange_le_iff (x : Float32) :
    value (State.clampRange x) ≤ 65536 ↔ ¬ 65536 < x := by
  rcases clampRange_cases x with ⟨hnot, heq⟩ | ⟨hover, heq⟩ | ⟨hlow, hhigh, heq⟩
  · rw [heq, value_zero]
    apply iff_of_true (by norm_num)
    intro h
    refine hnot (le_of_lt (lt_of_value_le finite_zero finite_65536 ?_ h))
    rw [value_zero, value_65536]
    norm_num
  · rw [heq, value_200000]
    refine iff_of_false (by norm_num) (not_not.mpr ?_)
    refine lt_of_value_le finite_65536 finite_200000 ?_ hover
    rw [value_65536, value_200000]
    norm_num
  · have hfinite := isFinite_of_between hlow hhigh finite_200000
    rw [heq, lt_iff finite_65536 hfinite, value_65536, not_lt]

private theorem clampedRange_toNat {x : Float32} (hfinite : x.isFinite = true)
    (hlow : 0 ≤ value x) :
    (Globals.clampedRange x).toNat = ⌊min (value x) 65535⌋₊ := by
  have hnotbelow : ¬ x < 0 := by
    rw [lt_iff hfinite finite_zero, value_zero, not_lt]
    exact hlow
  simp only [Globals.clampedRange, clampf]
  rw [if_neg hnotbelow]
  by_cases hover : x > 65535
  · have hvalue := (lt_iff finite_65535 hfinite).mp hover
    rw [if_pos hover, toUInt16_toNat finite_65535, value_65535]
    · rw [value_65535] at hvalue
      rw [min_eq_right hvalue.le]
    · rw [value_65535]
      norm_num
    · rw [value_65535]
      norm_num
  · have hvalue := not_lt.mp (mt (lt_iff finite_65535 hfinite).mpr hover)
    rw [value_65535] at hvalue
    rw [if_neg hover, toUInt16_toNat hfinite hlow (by linarith), min_eq_left hvalue]

private theorem within_metre_iff {x : Float32} (hfinite : x.isFinite = true) (hlow : 0 ≤ value x) :
    |value (Float32.ofNat (Globals.clampedRange x).toNat) - value x| ≤ 1 ↔ value x ≤ 65536 := by
  have hword : (Globals.clampedRange x).toNat < 2 ^ 23 :=
    lt_trans (Globals.clampedRange x).toNat_lt (by norm_num)
  rw [value_ofNat hword, clampedRange_toNat hfinite hlow]
  rcases le_or_gt (value x) 65535 with hsmall | hlarge
  · have hfloor := Nat.floor_le hlow
    have hnext := Nat.lt_floor_add_one (value x)
    rw [min_eq_left hsmall, abs_le]
    refine iff_of_true ⟨by linarith, by linarith⟩ (by linarith)
  · have htop : ⌊(65535 : ℚ)⌋₊ = 65535 := Nat.floor_ofNat 65535
    rw [min_eq_right hlarge.le, htop, abs_le]
    push_cast
    constructor
    · intro h
      linarith [h.1]
    · intro h
      exact ⟨by linarith, by linarith⟩

/-- The transmission reaches a listener: a broadcast about an active one with a frequency. -/
def Heard (delivered : List Bytes) : Prop :=
  ∃ data ∈ delivered, ∃ sessionId freq range sub, freq ≠ [] ∧
    Voice.handlePacket data = .ok (some (.radioTx sessionId true freq range sub))

/-- Every listener whom the transmission reaches, and who ticks in time, computes with a range
within a metre of this one. -/
def RangeAgrees (sent : List Datagram) (sender target : ClientSession) (range : Float32) : Prop :=
  ∀ (g : Globals) (receivedAt now : Time) (rosterOrders : RosterOrders) (orders : TickOrders)
    (delivered : List Bytes) (n : Bytes),
    (∀ data, data ∈ delivered ↔ ⟨target.endPoint, data⟩ ∈ sent) →
    FilesUnder g rosterOrders orders sender.sessionId n →
    now - receivedAt < milliseconds 1500 →
    Heard delivered →
    ∃ tx, (hear g receivedAt rosterOrders delivered now orders).state.liveTx now n = some tx ∧
      |value tx.range - value range| ≤ 1

/-- The broadcast can be read, and has a frequency. -/
structure Readable (f sub : Bytes) : Prop where
  nonempty : recoded (Voice.truncateUtf8 f maxFreqLength) ≠ []
  frequency : (recoded (Voice.truncateUtf8 f maxFreqLength)).length ≤ maxFreqLength
  subtype : (recoded (Voice.truncateUtf8 sub maxSubtypeLength)).length ≤ maxSubtypeLength

private theorem rangeAgrees_iff {g : Globals} (hpressed : g.state.tangentPressed = true)
    (hfinite : g.state.txRange.isFinite = true) (hlow : 0 ≤ value g.state.txRange) {now : Time}
    {socket : Nat} {data : Bytes} (hsent : (socket, data) ∈ g.tickSends now)
    {server : RelayServer} {remote : IPEndPoint} {sender target : ClientSession}
    (hsender : server.tables.sessionsByEndPoint.lookup remote = some sender)
    (htarget : target ∈ server.others sender) (serverNow : Int) (order : SessionOrder) :
    RangeAgrees (server.handlePacket serverNow order data remote).sent sender target
        g.state.txRange ↔
      (Readable g.state.txFrequency g.state.txSubtype → value g.state.txRange ≤ 65536) := by
  have hreaches := @mem_delivered server remote sender target serverNow order
    (Voice.truncateUtf8 g.state.txFrequency maxFreqLength) (Globals.clampedRange g.state.txRange)
    (Voice.truncateUtf8 g.state.txSubtype maxSubtypeLength) hsender htarget
    (Voice.truncateUtf8_length _ _) (Voice.truncateUtf8_length _ _)
  have hmetre := within_metre_iff hfinite hlow
  rw [eq_pressedUpdate_of_mem hpressed hsent]
  simp only [pressedUpdate]
  constructor
  · intro hagrees hreadable
    have hsum := Nat.add_le_add hreadable.frequency hreadable.subtype
    have hfired := @handlePacket_broadcast _ (Globals.clampedRange g.state.txRange) _
      sender.sessionId hsum
    rw [if_pos ⟨hreadable.frequency, hreadable.subtype⟩] at hfired
    have hsingle := fun d => (hreaches d).trans (and_iff_right hsum)
    -- ask a listener that knows nobody but the sender
    obtain ⟨listener, n, hfiles, _, _⟩ := exists_filesUnder sender.sessionId
    have hdelivered := fun d => List.mem_singleton.trans (hsingle d).symm
    obtain ⟨tx, htx, hwithin⟩ := hagrees listener 0 0 {} {} [_] n hdelivered hfiles (by decide)
      ⟨_, List.mem_singleton_self _, _, _, _, _, hreadable.nonempty, hfired⟩
    rw [liveTx_hear_of_sent hsingle hfired hdelivered hfiles (by decide) hreadable.nonempty]
      at htx
    rw [← Option.some.inj htx] at hwithin
    exact hmetre.mp hwithin
  · intro hrange listener receivedAt now' rosterOrders orders delivered n hdelivered hfiles hfresh
      hheard
    obtain ⟨d, hd, sessionId, freq, range, sub, hne, hcallback⟩ := hheard
    obtain ⟨hsum, rfl⟩ := (hreaches d).mp ((hdelivered d).mp hd)
    have hfired := @handlePacket_broadcast _ (Globals.clampedRange g.state.txRange) _
      sender.sessionId hsum
    rw [hfired] at hcallback
    split at hcallback
    · rename_i hlengths
      have hsame := Option.some.inj (Except.ok.inj hcallback)
      injection hsame with _ _ hfreq _ _
      have hreadable : Readable g.state.txFrequency g.state.txSubtype :=
        ⟨by rw [hfreq]; exact hne, hlengths.1, hlengths.2⟩
      rw [if_pos hlengths] at hfired
      have hsingle := fun d => (hreaches d).trans (and_iff_right hsum)
      exact ⟨_, liveTx_hear_of_sent hsingle hfired hdelivered hfiles hfresh hreadable.nonempty,
        hmetre.mpr (hrange hreadable)⟩
    · cases hcallback

/-- TANGENT PRESSED has all its fields and is no repetition. -/
structure Accepted (s : State) (tokens : List Bytes) : Prop where
  long : 5 ≤ tokens.length
  pressed : tokens.getD 1 [] = ascii "PRESSED"
  fresh : ¬ (s.tangentPressed = true ∧ s.txFrequency = tokens.getD 2 [])

private theorem handleTangent_accepted {s : State} {tokens : List Bytes} (h : Accepted s tokens) :
    s.handleTangent tokens =
      { s with
        tangentPressed := true
        tangentIsLr := tokens.getD 0 [] == ascii "TANGENT_LR"
        txFrequency := tokens.getD 2 []
        txSubtype := tokens.getD 4 []
        txRange := State.clampRange (parseArmaNumber (tokens.getD 3 []))
        txRadioClassname := tokens.getD 5 []
        pendingTransmitOverride := some (some true) } := by
  have hpressed : (tokens.getD 1 [] == ascii "PRESSED") = true := beq_iff_eq.mpr h.pressed
  have hfresh : ¬ ((tokens.getD 1 [] == ascii "PRESSED") = s.tangentPressed ∧
      s.txFrequency = tokens.getD 2 []) := by
    rw [hpressed]
    exact fun hsame => h.fresh ⟨hsame.1.symm, hsame.2⟩
  simp only [State.handleTangent]
  rw [if_neg (Nat.not_lt.mpr h.long), if_neg hfresh, hpressed]
  rfl

/-- While an accepted TANGENT PRESSED is held, everybody who hears the transmission has its range
within a metre exactly if the range text does not say more than 65536. -/
theorem range_agrees_iff {s : State} {tokens : List Bytes} (haccepted : Accepted s tokens)
    {g : Globals} (hheld : g.state.localTxState = (s.handleTangent tokens).localTxState)
    {now : Time} {socket : Nat} {data : Bytes} (hsent : (socket, data) ∈ g.tickSends now)
    {server : RelayServer} {remote : IPEndPoint} {sender target : ClientSession}
    (hsender : server.tables.sessionsByEndPoint.lookup remote = some sender)
    (htarget : target ∈ server.others sender) (serverNow : Int) (order : SessionOrder) :
    let range := (s.handleTangent tokens).txRange
    0 ≤ value range ∧ value range ≤ 200000 ∧
      (RangeAgrees (server.handlePacket serverNow order data remote).sent sender target range ↔
        (Readable (tokens.getD 2 []) (tokens.getD 4 []) →
          ¬ 65536 < parseArmaNumber (tokens.getD 3 []))) := by
  rw [handleTangent_accepted haccepted] at hheld ⊢
  obtain ⟨hfinite, hlow, hhigh⟩ := clampRange_bounds (parseArmaNumber (tokens.getD 3 []))
  refine ⟨hlow, hhigh, ?_⟩
  dsimp only
  simp only [State.localTxState] at hheld
  by_cases hpressed : g.state.tangentPressed = true
  · rw [if_pos hpressed, if_pos trivial] at hheld
    injection hheld with _ hfreq hrange hsub
    have hagrees := rangeAgrees_iff hpressed (by rw [hrange]; exact hfinite)
      (by rw [hrange]; exact hlow) hsent hsender htarget serverNow order
    rw [hfreq, hrange, hsub, clampRange_le_iff] at hagrees
    exact hagrees
  · rw [if_neg hpressed, if_pos trivial] at hheld
    cases hheld

/-- A long range radio of 40 km in a mission that doubles the ranges: Bob computes with 65535 m
instead of 80 km. -/
theorem eighty_kilometres_not_agreed :
    let g := transmitting (ascii
      "TANGENT_LR\tPRESSED\t31.05_bluefor\t80000\tdigital_lr\tTFAR_rt1523g~")
    value g.state.txRange = 80000 ∧ (0, pressedUpdate g.state) ∈ g.tickSends 0 ∧
      ¬ RangeAgrees (annAndBob.handlePacket 30 .stored (pressedUpdate g.state) ⟨1, 5000⟩).sent
        ann bob g.state.txRange := by
  intro g
  have hpressed : g.state.tangentPressed = true := by decide
  have hf : g.state.txFrequency = ascii "31.05_bluefor" := by decide
  have hsub : g.state.txSubtype = ascii "digital_lr" := by decide
  have hrange : g.state.txRange = Float32.ofNat 80000 := by decide +kernel
  have hvalue : value g.state.txRange = 80000 := by
    rw [hrange]
    exact_mod_cast @value_ofNat 80000 (by norm_num)
  have hsent : (0, pressedUpdate g.state) ∈ g.tickSends 0 :=
    pressedUpdate_mem_tickSends hpressed (by decide) (by decide) (by decide) 0
  refine ⟨hvalue, hsent, ?_⟩
  rw [rangeAgrees_iff hpressed (by rw [hrange]; exact isFinite_ofNat (by norm_num))
    (by rw [hvalue]; norm_num) hsent (by decide) (by decide) 30 .stored, hf, hsub, hvalue]
  intro hsmall
  have := hsmall ⟨by decide, by decide, by decide⟩
  norm_num at this

/-- A long range radio of 40 km. -/
def fortyKilometres : List Bytes :=
  ["TANGENT_LR", "PRESSED", "31.05_bluefor", "40000", "digital_lr", "TFAR_rt1523g"].map ascii

/-- Without the multiplier Bob computes with the range of the radio. -/
theorem forty_kilometres_agreed :
    let g := transmitting (ascii
      "TANGENT_LR\tPRESSED\t31.05_bluefor\t40000\tdigital_lr\tTFAR_rt1523g~")
    RangeAgrees (annAndBob.handlePacket 30 .stored (pressedUpdate g.state) ⟨1, 5000⟩).sent
      ann bob (State.handleTangent {} fortyKilometres).txRange := by
  intro g
  have hpressed : g.state.tangentPressed = true := by decide
  have hsent : (0, pressedUpdate g.state) ∈ g.tickSends 0 :=
    pressedUpdate_mem_tickSends hpressed (by decide) (by decide) (by decide) 0
  have haccepted : Accepted {} fortyKilometres := ⟨by decide, by decide, by decide⟩
  have hheld : g.state.localTxState = (State.handleTangent {} fortyKilometres).localTxState := by
    decide +kernel
  have hsender : annAndBob.tables.sessionsByEndPoint.lookup ⟨1, 5000⟩ = some ann := by decide
  have htarget : bob ∈ annAndBob.others ann := by decide
  have hagrees := (range_agrees_iff haccepted hheld hsent hsender htarget 30 .stored).2.2
  exact hagrees.mpr (fun _ => by decide +kernel)

end Range

end TaskForceRadio
