import TaskForceRadio.Extension.Command
import TaskForceRadio.Extension.Tokens
import TaskForceRadio.Foundation.Execution

/-!
# The tangent keys

The SQF handlers of the tangent keys and of the voice modifier share two flags, the extension has
one slot for what is being transmitted. The handlers answer their own key only on the press; the
release of the voice modifier empties the slot whoever fills it.
-/

set_option autoImplicit false

namespace TaskForceRadio.Addon

open Voice (Time milliseconds)
open Extension

/-- The frequency that stands for direct speech in a TANGENT command. -/
def directSpeechFreq : Bytes := ascii "directSpeechFreq"

/-- What `format` puts into a TANGENT command about one channel of a radio. -/
structure RadioText where
  frequency : Bytes
  code : Bytes
  range : Bytes
  subtype : Bytes
  radio : Bytes
  noTab : ∀ text ∈ [frequency, code, range, subtype, radio], tab ∉ text
  notSpeech : frequency ++ code ≠ directSpeechFreq

/-- What a handler finds when its key goes down or up. -/
structure KeyContext where
  time : Time
  alive : Bool := true
  isMultiplayer : Bool := true
  haveRadio : Bool := true
  isAbleToUseRadio : Bool := true
  radioOn : Bool := true
  canUseRadio : Bool := true
  radio : RadioText
  /-- The additional channel, if one is set. -/
  additional : Option RadioText := none
  /-- The record of `sendFrequencyInfo`, behind its command. -/
  frequencyInfo : Bytes := []

/-- The variables of the SQF side with the state of the extension, and the radio channel of the
last TANGENT PRESSED. -/
structure KeyWorld where
  tangentSwPressed : Bool := false
  tangentLrPressed : Bool := false
  lastLrTangentPress : Time := 0
  state : State := {}
  onAir : Option RadioText := none

namespace KeyWorld

/-- What a call leaves of the state. -/
def callExtension (w : KeyWorld) (c : KeyContext) (text : Bytes) : KeyWorld :=
  match inputCommand text with
  | none => w
  | some command => { w with state := w.state.execute c.time command }

def processTangent (w : KeyWorld) (c : KeyContext) (request : Bytes) : KeyWorld :=
  if c.isMultiplayer then w.callExtension c (request ++ [tilde]) else w

def sendFrequencyInfo (w : KeyWorld) (c : KeyContext) : KeyWorld :=
  w.callExtension c (ascii "FREQ" ++ tab :: c.frequencyInfo ++ [tilde])

/-- The body that the short range and the long range share. -/
def doTransmit (command : String) (w : KeyWorld) (c : KeyContext) (radio : RadioText) : KeyWorld :=
  if !c.radioOn then w
  else if !c.canUseRadio then w
  else
    let request := joinTokens tab
      [ascii command, ascii "PRESSED", radio.frequency ++ radio.code, radio.range, radio.subtype,
        radio.radio]
    { w.processTangent c request with onAir := some radio }

def doTransmitEnd (command : String) (w : KeyWorld) (c : KeyContext) (radio : RadioText) :
    KeyWorld :=
  w.processTangent c (joinTokens tab
    [ascii command, ascii "RELEASED", radio.frequency ++ radio.code, radio.range, radio.subtype])

def doSRTransmit : KeyWorld → KeyContext → RadioText → KeyWorld := doTransmit "TANGENT"
def doLRTransmit : KeyWorld → KeyContext → RadioText → KeyWorld := doTransmit "TANGENT_LR"
def doSRTransmitEnd : KeyWorld → KeyContext → RadioText → KeyWorld := doTransmitEnd "TANGENT"
def doLRTransmitEnd : KeyWorld → KeyContext → RadioText → KeyWorld := doTransmitEnd "TANGENT_LR"

/-- The guards on every press. -/
def pressIgnored (w : KeyWorld) (c : KeyContext) : Bool :=
  (w.tangentLrPressed || w.tangentSwPressed) || !c.alive || !c.haveRadio || !c.isMultiplayer ||
    !c.isAbleToUseRadio

def onSwTangentPressed (w : KeyWorld) (c : KeyContext) : KeyWorld :=
  if c.time - w.lastLrTangentPress < milliseconds 500 then w
  else if w.pressIgnored c then w
  else { w.doSRTransmit c c.radio with tangentSwPressed := true }

def onAdditionalSwTangentPressed (w : KeyWorld) (c : KeyContext) : KeyWorld :=
  if w.pressIgnored c then w
  else
    match c.additional with
    | none => w
    | some radio => { w.doSRTransmit c radio with tangentSwPressed := true }

def onLRTangentPressed (w : KeyWorld) (c : KeyContext) : KeyWorld :=
  if c.time - w.lastLrTangentPress < milliseconds 100 then { w with lastLrTangentPress := c.time }
  else
    let w := { w with lastLrTangentPress := c.time }
    if w.pressIgnored c then w
    else { w.doLRTransmit c c.radio with tangentLrPressed := true }

def onAdditionalLRTangentPressed (w : KeyWorld) (c : KeyContext) : KeyWorld :=
  if w.pressIgnored c then w
  else
    match c.additional with
    | none => w
    | some radio => { w.doLRTransmit c radio with tangentLrPressed := true }

def onSwTangentReleased (w : KeyWorld) (c : KeyContext) : KeyWorld :=
  if !w.tangentSwPressed then w
  else { w.doSRTransmitEnd c c.radio with tangentSwPressed := false }

def onAdditionalSwTangentReleased (w : KeyWorld) (c : KeyContext) : KeyWorld :=
  if !w.tangentSwPressed then w
  else
    match c.additional with
    | none => w
    | some radio => { w.doSRTransmitEnd c radio with tangentSwPressed := false }

def onLRTangentReleased (w : KeyWorld) (c : KeyContext) : KeyWorld :=
  if !w.tangentLrPressed then w
  else { w.doLRTransmitEnd c c.radio with tangentLrPressed := false }

def onAdditionalLRTangentReleased (w : KeyWorld) (c : KeyContext) : KeyWorld :=
  if !w.tangentLrPressed then w
  else
    match c.additional with
    | none => w
    | some radio => { w.doLRTransmitEnd c radio with tangentLrPressed := false }

/-- The request of the voice modifier, with `TFAR_volumeModifier_forceSpeech` on. -/
def speechRequest (key : String) : Bytes :=
  joinTokens tab
    [ascii "TANGENT", ascii key, directSpeechFreq, ascii "0", ascii "directSpeech"]

def onSpeakVolumeModifierPressed (w : KeyWorld) (c : KeyContext) (modifierMode : String) :
    KeyWorld :=
  if !c.alive || w.tangentSwPressed || w.tangentLrPressed then w
  else if modifierMode ∉ ["yelling", "whispering"] then w
  else (w.sendFrequencyInfo c).processTangent c (speechRequest "PRESSED")

/-- Unlike the press, the release does not look at the tangents. -/
def onSpeakVolumeModifierReleased (w : KeyWorld) (c : KeyContext) : KeyWorld :=
  (w.sendFrequencyInfo c).processTangent c (speechRequest "RELEASED")

end KeyWorld

inductive Key where
  | swPressed
  | swReleased
  | additionalSwPressed
  | additionalSwReleased
  | lrPressed
  | lrReleased
  | additionalLrPressed
  | additionalLrReleased
  | modifierPressed (modifierMode : String)
  | modifierReleased
  deriving DecidableEq, Repr

structure KeyEvent where
  key : Key
  context : KeyContext

namespace KeyWorld

def step (w : KeyWorld) (e : KeyEvent) : KeyWorld :=
  match e.key with
  | .swPressed => w.onSwTangentPressed e.context
  | .swReleased => w.onSwTangentReleased e.context
  | .additionalSwPressed => w.onAdditionalSwTangentPressed e.context
  | .additionalSwReleased => w.onAdditionalSwTangentReleased e.context
  | .lrPressed => w.onLRTangentPressed e.context
  | .lrReleased => w.onLRTangentReleased e.context
  | .additionalLrPressed => w.onAdditionalLRTangentPressed e.context
  | .additionalLrReleased => w.onAdditionalLRTangentReleased e.context
  | .modifierPressed modifierMode => w.onSpeakVolumeModifierPressed e.context modifierMode
  | .modifierReleased => w.onSpeakVolumeModifierReleased e.context

end KeyWorld

private theorem handleTangent_released (s : State) (command frequency : Bytes) (rest : List Bytes)
    (hlength : 2 ≤ rest.length) :
    (s.handleTangent (command :: ascii "RELEASED" :: frequency :: rest)).tangentPressed =
      false := by
  have hpressed : (ascii "RELEASED" == ascii "PRESSED") = false := by decide
  have hcount : ¬ (command :: ascii "RELEASED" :: frequency :: rest).length < 5 := by
    simp only [List.length_cons]
    omega
  simp only [State.handleTangent, if_neg hcount, List.getD_cons_succ, List.getD_cons_zero, hpressed]
  split
  · rename_i hsame
    exact hsame.1.symm
  · rfl

private theorem handleTangent_pressed (s : State) (command frequency range subtype : Bytes)
    (more : List Bytes) (hnew : ¬ (s.tangentPressed = true ∧ s.txFrequency = frequency)) :
    let s' := s.handleTangent (command :: ascii "PRESSED" :: frequency :: range :: subtype :: more)
    s'.tangentPressed = true ∧ s'.txFrequency = frequency ∧ s'.txSubtype = subtype := by
  have hpressed : (ascii "PRESSED" == ascii "PRESSED") = true := by decide
  have hcount :
      ¬ (command :: ascii "PRESSED" :: frequency :: range :: subtype :: more).length < 5 := by
    simp only [List.length_cons]
    omega
  have hchanged : ¬ (true = s.tangentPressed ∧ s.txFrequency = frequency) :=
    fun h => hnew ⟨h.1.symm, h.2⟩
  simp only [State.handleTangent, if_neg hcount, List.getD_cons_succ, List.getD_cons_zero, hpressed,
    if_neg hchanged]
  exact ⟨rfl, rfl, rfl⟩

private theorem handleTangent_repeated (s : State) (command frequency range subtype : Bytes)
    (more : List Bytes) (hsame : s.tangentPressed = true ∧ s.txFrequency = frequency) :
    s.handleTangent (command :: ascii "PRESSED" :: frequency :: range :: subtype :: more) = s := by
  have hpressed : (ascii "PRESSED" == ascii "PRESSED") = true := by decide
  have hcount :
      ¬ (command :: ascii "PRESSED" :: frequency :: range :: subtype :: more).length < 5 := by
    simp only [List.length_cons]
    omega
  have hunchanged : true = s.tangentPressed ∧ s.txFrequency = frequency := ⟨hsame.1.symm, hsame.2⟩
  simp only [State.handleTangent, if_neg hcount, List.getD_cons_succ, List.getD_cons_zero, hpressed,
    if_pos hunchanged]

namespace KeyWorld

private theorem callExtension_eq (w : KeyWorld) (c : KeyContext) (payload : Bytes) :
    w.callExtension c (payload ++ [tilde]) =
      { w with state := w.state.execute c.time (parseCommand (firstToken payload) payload) } := by
  rw [callExtension, inputCommand_append]

private theorem processTangent_eq (w : KeyWorld) {c : KeyContext}
    (hmultiplayer : c.isMultiplayer = true)
    {command : String} (hcommand : command = "TANGENT" ∨ command = "TANGENT_LR")
    {fields : List Bytes} (hsome : fields ≠ []) (hfields : ∀ field ∈ fields, tab ∉ field) :
    w.processTangent c (joinTokens tab (ascii command :: fields)) =
      { w with state := w.state.handleTangent (ascii command :: fields) } := by
  have htab : tab ∉ ascii command := by
    rcases hcommand with rfl | rfl <;> decide
  have htokens := split_command htab hfields
  have hfirst : firstToken (joinTokens tab (ascii command :: fields)) = ascii command := by
    cases fields with
    | nil => exact absurd rfl hsome
    | cons field rest => exact firstToken_joinTokens htab rest
  have hparse : ∀ payload, parseCommand (ascii command) payload = .tangent (split payload tab) := by
    intro payload
    rcases hcommand with rfl | rfl <;> rfl
  rw [processTangent, if_pos hmultiplayer, callExtension_eq, hfirst, hparse, htokens]
  rfl

end KeyWorld

private theorem RadioText.noTab_fields (radio : RadioText) :
    ∀ field ∈ [radio.frequency ++ radio.code, radio.range, radio.subtype, radio.radio],
      tab ∉ field := by
  intro field hfield
  have htexts := radio.noTab
  rcases List.mem_cons.mp hfield with rfl | hfield
  · rw [List.mem_append]
    exact not_or.mpr ⟨htexts _ List.mem_cons_self,
      htexts _ (List.mem_cons_of_mem _ List.mem_cons_self)⟩
  · exact htexts field (List.mem_cons_of_mem _ (List.mem_cons_of_mem _ hfield))

namespace KeyWorld

/-- The flags and the extension agree on what is being transmitted. -/
structure InStep (w : KeyWorld) : Prop where
  transmitting : w.tangentSwPressed = true ∨ w.tangentLrPressed = true →
    ∃ radio, w.onAir = some radio ∧ w.state.localTxState.active = true ∧
      w.state.localTxState.freq = radio.frequency ++ radio.code ∧
      w.state.localTxState.subtype = radio.subtype
  silent : w.tangentSwPressed = false → w.tangentLrPressed = false →
    w.state.localTxState.active = true → w.state.localTxState.freq = directSpeechFreq

/-- The voice modifier is not released while a tangent is pressed. -/
def ModifierAlone (w : KeyWorld) (e : KeyEvent) : Prop :=
  e.key = .modifierReleased → w.tangentSwPressed = false ∧ w.tangentLrPressed = false

/-- A living unit in multiplayer, able to use its switched-on radios. -/
structure Usable (c : KeyContext) : Prop where
  alive : c.alive = true
  isMultiplayer : c.isMultiplayer = true
  isAbleToUseRadio : c.isAbleToUseRadio = true
  radioOn : c.radioOn = true
  canUseRadio : c.canUseRadio = true

private theorem localTxState_of_pressed {s : State} {frequency subtype : Bytes}
    (h : s.tangentPressed = true ∧ s.txFrequency = frequency ∧ s.txSubtype = subtype) :
    s.localTxState.active = true ∧ s.localTxState.freq = frequency ∧
      s.localTxState.subtype = subtype := by
  obtain ⟨hpressed, rfl, rfl⟩ := h
  rw [State.localTxState, if_pos hpressed]
  exact ⟨rfl, rfl, rfl⟩

private theorem localTxState_of_released {s : State} (h : s.tangentPressed = false) :
    s.localTxState.active = false := by
  rw [State.localTxState, if_neg (by rw [h]; exact Bool.false_ne_true)]

private theorem active_iff {s : State} :
    s.localTxState.active = true ↔ s.tangentPressed = true := by
  cases h : s.tangentPressed with
  | true => simp [(localTxState_of_pressed ⟨h, rfl, rfl⟩).1]
  | false => simp [localTxState_of_released h]

private theorem InStep.slot_free {w : KeyWorld} (h : w.InStep) (hsw : w.tangentSwPressed = false)
    (hlr : w.tangentLrPressed = false) (hpressed : w.state.tangentPressed = true) :
    w.state.txFrequency = directSpeechFreq := by
  have hfreq := h.silent hsw hlr (active_iff.mpr hpressed)
  rwa [(localTxState_of_pressed ⟨hpressed, rfl, rfl⟩).2.1] at hfreq

private theorem notIgnored_flags {w : KeyWorld} {c : KeyContext} (h : w.pressIgnored c = false) :
    w.tangentSwPressed = false ∧ w.tangentLrPressed = false := by
  simp only [pressIgnored, Bool.or_eq_false_iff] at h
  exact ⟨h.1.1.1.1.2, h.1.1.1.1.1⟩

private theorem doTransmit_fills {w : KeyWorld} (h : w.InStep) (hsw : w.tangentSwPressed = false)
    (hlr : w.tangentLrPressed = false) {c : KeyContext} (hc : Usable c) {command : String}
    (hcommand : command = "TANGENT" ∨ command = "TANGENT_LR") (radio : RadioText) :
    ∃ s', doTransmit command w c radio = { w with state := s', onAir := some radio } ∧
      s'.localTxState.active = true ∧ s'.localTxState.freq = radio.frequency ++ radio.code ∧
      s'.localTxState.subtype = radio.subtype := by
  have hfields : ∀ field ∈ [ascii "PRESSED", radio.frequency ++ radio.code, radio.range,
      radio.subtype, radio.radio], tab ∉ field := by
    intro field hfield
    rcases List.mem_cons.mp hfield with rfl | hfield
    · decide
    · exact radio.noTab_fields field hfield
  have hnew : ¬ (w.state.tangentPressed = true ∧
      w.state.txFrequency = radio.frequency ++ radio.code) := by
    rintro ⟨hpressed, hfrequency⟩
    rw [h.slot_free hsw hlr hpressed] at hfrequency
    exact radio.notSpeech hfrequency.symm
  refine ⟨_, ?_, localTxState_of_pressed (handleTangent_pressed w.state (ascii command)
    (radio.frequency ++ radio.code) radio.range radio.subtype [radio.radio] hnew)⟩
  simp only [doTransmit, hc.radioOn, hc.canUseRadio, Bool.not_true, Bool.false_eq_true, if_false]
  rw [processTangent_eq w hc.isMultiplayer hcommand (List.cons_ne_nil _ _) hfields]

private theorem doTransmitEnd_empties (w : KeyWorld) {c : KeyContext} (hc : Usable c)
    {command : String}
    (hcommand : command = "TANGENT" ∨ command = "TANGENT_LR") (radio : RadioText) :
    ∃ s', doTransmitEnd command w c radio = { w with state := s' } ∧
      s'.localTxState.active = false := by
  have hfields : ∀ field ∈ [ascii "RELEASED", radio.frequency ++ radio.code, radio.range,
      radio.subtype], tab ∉ field := by
    intro field hfield
    rcases List.mem_cons.mp hfield with rfl | hfield
    · decide
    · exact radio.noTab_fields field (List.mem_append_left [radio.radio] hfield)
  refine ⟨_, ?_, localTxState_of_released (handleTangent_released w.state (ascii command)
    (radio.frequency ++ radio.code) [radio.range, radio.subtype] (Nat.le_refl _))⟩
  rw [doTransmitEnd, processTangent_eq w hc.isMultiplayer hcommand (List.cons_ne_nil _ _) hfields]

private theorem speech_fills (w : KeyWorld) {c : KeyContext}
    (hmultiplayer : c.isMultiplayer = true) :
    ∃ s', w.processTangent c (speechRequest "PRESSED") = { w with state := s' } ∧
      s'.localTxState.freq = directSpeechFreq := by
  have hrequest := @processTangent_eq w c hmultiplayer "TANGENT" (Or.inl rfl)
    [ascii "PRESSED", directSpeechFreq, ascii "0", ascii "directSpeech"] (List.cons_ne_nil _ _)
    (by decide)
  refine ⟨_, hrequest, ?_⟩
  by_cases hsame : w.state.tangentPressed = true ∧ w.state.txFrequency = directSpeechFreq
  · rw [handleTangent_repeated _ _ _ _ _ _ hsame]
    exact (localTxState_of_pressed ⟨hsame.1, hsame.2, rfl⟩).2.1
  · exact (localTxState_of_pressed
      (handleTangent_pressed _ _ _ (ascii "0") (ascii "directSpeech") [] hsame)).2.1

private theorem speech_empties (w : KeyWorld) {c : KeyContext}
    (hmultiplayer : c.isMultiplayer = true) :
    ∃ s', w.processTangent c (speechRequest "RELEASED") = { w with state := s' } ∧
      s'.localTxState.active = false := by
  have hrequest := @processTangent_eq w c hmultiplayer "TANGENT" (Or.inl rfl)
    [ascii "RELEASED", directSpeechFreq, ascii "0", ascii "directSpeech"] (List.cons_ne_nil _ _)
    (by decide)
  exact ⟨_, hrequest, localTxState_of_released (handleTangent_released _ _ _ _ (Nat.le_refl _))⟩

section Handlers
variable {w w' : KeyWorld} {c : KeyContext} {command : String} {radio : RadioText}

private theorem InStep.onPress (h : w.InStep) (hc : Usable c) (hignored : ¬ w.pressIgnored c = true)
    (hcommand : command = "TANGENT" ∨ command = "TANGENT_LR")
    (hstate : w'.state = (doTransmit command w c radio).state)
    (honAir : w'.onAir = (doTransmit command w c radio).onAir)
    (hflag : w'.tangentSwPressed = true ∨ w'.tangentLrPressed = true) : w'.InStep := by
  obtain ⟨hsw, hlr⟩ := notIgnored_flags (Bool.not_eq_true _ ▸ hignored)
  obtain ⟨s', heq, hactive, hfreq, hsubtype⟩ := doTransmit_fills h hsw hlr hc hcommand radio
  rw [heq] at hstate honAir
  constructor
  · intro _
    rw [hstate]
    exact ⟨radio, honAir, hactive, hfreq, hsubtype⟩
  · intro hsw' hlr'
    rcases hflag with hflag | hflag
    · rw [hflag] at hsw'
      cases hsw'
    · rw [hflag] at hlr'
      cases hlr'

private theorem InStep.onRelease (hc : Usable c)
    (hcommand : command = "TANGENT" ∨ command = "TANGENT_LR")
    (hstate : w'.state = (doTransmitEnd command w c radio).state)
    (hsw : w'.tangentSwPressed = false) (hlr : w'.tangentLrPressed = false) : w'.InStep := by
  obtain ⟨s', heq, hinactive⟩ := doTransmitEnd_empties w hc hcommand radio
  rw [heq] at hstate
  constructor
  · intro hflag
    rcases hflag with hflag | hflag
    · rw [hsw] at hflag
      cases hflag
    · rw [hlr] at hflag
      cases hflag
  · intro _ _ hactive
    rw [hstate, hinactive] at hactive
    cases hactive

/-- The tangents exclude each other. -/
def Exclusive (w : KeyWorld) : Prop := w.tangentSwPressed = false ∨ w.tangentLrPressed = false

private theorem processTangent_flags (w : KeyWorld) (c : KeyContext) (request : Bytes) :
    (w.processTangent c request).tangentSwPressed = w.tangentSwPressed ∧
      (w.processTangent c request).tangentLrPressed = w.tangentLrPressed := by
  simp only [processTangent, callExtension]
  split
  · split <;> exact ⟨rfl, rfl⟩
  · exact ⟨rfl, rfl⟩

private theorem doTransmit_flags (command : String) (w : KeyWorld) (c : KeyContext)
    (radio : RadioText) :
    (doTransmit command w c radio).tangentSwPressed = w.tangentSwPressed ∧
      (doTransmit command w c radio).tangentLrPressed = w.tangentLrPressed := by
  simp only [doTransmit]
  split
  · exact ⟨rfl, rfl⟩
  · split
    · exact ⟨rfl, rfl⟩
    · exact processTangent_flags w c _

end Handlers

private theorem callExtension_flags (w : KeyWorld) (c : KeyContext) (text : Bytes) :
    (w.callExtension c text).tangentSwPressed = w.tangentSwPressed ∧
      (w.callExtension c text).tangentLrPressed = w.tangentLrPressed := by
  simp only [callExtension]
  split <;> exact ⟨rfl, rfl⟩

private theorem speech_flags (w : KeyWorld) (c : KeyContext) (key : String) :
    ((w.sendFrequencyInfo c).processTangent c (speechRequest key)).tangentSwPressed =
        w.tangentSwPressed ∧
      ((w.sendFrequencyInfo c).processTangent c (speechRequest key)).tangentLrPressed =
        w.tangentLrPressed := by
  obtain ⟨hsw, hlr⟩ := processTangent_flags (w.sendFrequencyInfo c) c (speechRequest key)
  obtain ⟨hsw', hlr'⟩ := callExtension_flags w c (ascii "FREQ" ++ tab :: c.frequencyInfo ++ [tilde])
  exact ⟨hsw.trans hsw', hlr.trans hlr'⟩

private theorem notIgnored_exclusive {w : KeyWorld} {c : KeyContext} (h : ¬ w.pressIgnored c = true)
    (command : String) (radio : RadioText) :
    (doTransmit command w c radio).tangentSwPressed = false ∧
      (doTransmit command w c radio).tangentLrPressed = false := by
  obtain ⟨hsw, hlr⟩ := notIgnored_flags (Bool.not_eq_true _ ▸ h)
  obtain ⟨hsw', hlr'⟩ := doTransmit_flags command w c radio
  exact ⟨hsw'.trans hsw, hlr'.trans hlr⟩

private theorem step_exclusive {w : KeyWorld} (h : w.Exclusive) (e : KeyEvent) :
    (w.step e).Exclusive := by
  obtain ⟨key, c⟩ := e
  cases key with
  | swPressed =>
    simp only [step, onSwTangentPressed]
    split
    · exact h
    · split
      · exact h
      · rename_i hignored
        exact Or.inr (notIgnored_exclusive hignored _ _).2
  | swReleased =>
    simp only [step, onSwTangentReleased]
    split
    · exact h
    · exact Or.inl rfl
  | additionalSwPressed =>
    simp only [step, onAdditionalSwTangentPressed]
    split
    · exact h
    · rename_i hignored
      split
      · exact h
      · exact Or.inr (notIgnored_exclusive hignored _ _).2
  | additionalSwReleased =>
    simp only [step, onAdditionalSwTangentReleased]
    split
    · exact h
    · split
      · exact h
      · exact Or.inl rfl
  | lrPressed =>
    simp only [step, onLRTangentPressed]
    split
    · exact h
    · split
      · exact h
      · rename_i hignored
        exact Or.inl (notIgnored_exclusive hignored _ _).1
  | lrReleased =>
    simp only [step, onLRTangentReleased]
    split
    · exact h
    · exact Or.inr rfl
  | additionalLrPressed =>
    simp only [step, onAdditionalLRTangentPressed]
    split
    · exact h
    · rename_i hignored
      split
      · exact h
      · exact Or.inl (notIgnored_exclusive hignored _ _).1
  | additionalLrReleased =>
    simp only [step, onAdditionalLRTangentReleased]
    split
    · exact h
    · split
      · exact h
      · exact Or.inr rfl
  | modifierPressed modifierMode =>
    simp only [step, onSpeakVolumeModifierPressed]
    split
    · exact h
    · split
      · exact h
      · obtain ⟨hsw, hlr⟩ := speech_flags w c "PRESSED"
        rw [Exclusive, hsw, hlr]
        exact h
  | modifierReleased =>
    obtain ⟨hsw, hlr⟩ := speech_flags w c "RELEASED"
    simp only [step, onSpeakVolumeModifierReleased, Exclusive, hsw, hlr]
    exact h

private theorem step_inStep {w : KeyWorld} (h : w.InStep) (hexclusive : w.Exclusive) {e : KeyEvent}
    (hc : Usable e.context) (hkey : e.key ≠ .modifierReleased) : (w.step e).InStep := by
  obtain ⟨key, c⟩ := e
  cases key with
  | swPressed =>
    simp only [step, onSwTangentPressed]
    split
    · exact h
    · split
      · exact h
      · rename_i hignored
        exact h.onPress hc hignored (Or.inl rfl) rfl rfl (Or.inl rfl)
  | swReleased =>
    simp only [step, onSwTangentReleased]
    split
    · exact h
    · rename_i hsw
      have hlr := hexclusive.resolve_left (by simpa using hsw)
      exact InStep.onRelease hc (Or.inl rfl) rfl rfl
        ((processTangent_flags w c _).2.trans hlr)
  | additionalSwPressed =>
    simp only [step, onAdditionalSwTangentPressed]
    split
    · exact h
    · rename_i hignored
      split
      · exact h
      · exact h.onPress hc hignored (Or.inl rfl) rfl rfl (Or.inl rfl)
  | additionalSwReleased =>
    simp only [step, onAdditionalSwTangentReleased]
    split
    · exact h
    · rename_i hsw
      have hlr := hexclusive.resolve_left (by simpa using hsw)
      split
      · exact h
      · exact InStep.onRelease hc (Or.inl rfl) rfl rfl
          ((processTangent_flags w c _).2.trans hlr)
  | lrPressed =>
    simp only [step, onLRTangentPressed]
    have hmarked : ({ w with lastLrTangentPress := c.time } : KeyWorld).InStep :=
      ⟨h.transmitting, h.silent⟩
    split
    · exact hmarked
    · split
      · exact hmarked
      · rename_i hignored
        exact hmarked.onPress hc hignored (Or.inr rfl) rfl rfl (Or.inr rfl)
  | lrReleased =>
    simp only [step, onLRTangentReleased]
    split
    · exact h
    · rename_i hlr
      have hsw := hexclusive.resolve_right (by simpa using hlr)
      exact InStep.onRelease hc (Or.inr rfl) rfl ((processTangent_flags w c _).1.trans hsw) rfl
  | additionalLrPressed =>
    simp only [step, onAdditionalLRTangentPressed]
    split
    · exact h
    · rename_i hignored
      split
      · exact h
      · exact h.onPress hc hignored (Or.inr rfl) rfl rfl (Or.inr rfl)
  | additionalLrReleased =>
    simp only [step, onAdditionalLRTangentReleased]
    split
    · exact h
    · rename_i hlr
      have hsw := hexclusive.resolve_right (by simpa using hlr)
      split
      · exact h
      · exact InStep.onRelease hc (Or.inr rfl) rfl ((processTangent_flags w c _).1.trans hsw) rfl
  | modifierPressed modifierMode =>
    simp only [step, onSpeakVolumeModifierPressed]
    split
    · exact h
    · rename_i hflags
      split
      · exact h
      · obtain ⟨hsw, hlr⟩ := speech_flags w c "PRESSED"
        obtain ⟨s', heq, hfreq⟩ := speech_fills (w.sendFrequencyInfo c) hc.isMultiplayer
        have hflags' : (c.alive = true ∧ w.tangentSwPressed = false) ∧
            w.tangentLrPressed = false := by
          simpa using hflags
        have hfree : w.tangentSwPressed = false ∧ w.tangentLrPressed = false :=
          ⟨hflags'.1.2, hflags'.2⟩
        constructor
        · intro hflag
          rw [hsw, hlr, hfree.1, hfree.2] at hflag
          rcases hflag with hflag | hflag <;> cases hflag
        · intro _ _ _
          rw [heq]
          exact hfreq
  | modifierReleased => exact absurd rfl hkey

private theorem modifierReleased_inStep_iff (w : KeyWorld) {c : KeyContext} (hc : Usable c) :
    (w.onSpeakVolumeModifierReleased c).InStep ↔
      w.tangentSwPressed = false ∧ w.tangentLrPressed = false := by
  obtain ⟨hsw, hlr⟩ := speech_flags w c "RELEASED"
  obtain ⟨s', heq, hinactive⟩ := speech_empties (w.sendFrequencyInfo c) hc.isMultiplayer
  have hstate : (w.onSpeakVolumeModifierReleased c).state = s' := congrArg KeyWorld.state heq
  constructor
  · intro h
    have hnone : ¬ (w.tangentSwPressed = true ∨ w.tangentLrPressed = true) := by
      intro hflag
      rw [← hsw, ← hlr] at hflag
      obtain ⟨radio, -, hactive, -⟩ := h.transmitting hflag
      rw [hstate, hinactive] at hactive
      cases hactive
    obtain ⟨hsw', hlr'⟩ := not_or.mp hnone
    exact ⟨Bool.eq_false_of_not_eq_true hsw', Bool.eq_false_of_not_eq_true hlr'⟩
  · intro hfree
    constructor
    · intro hflag
      rw [onSpeakVolumeModifierReleased, hsw, hlr, hfree.1, hfree.2] at hflag
      rcases hflag with hflag | hflag <;> cases hflag
    · intro _ _ hactive
      rw [hstate, hinactive] at hactive
      cases hactive

private theorem step_inStep_iff {w : KeyWorld} (h : w.InStep) (hexclusive : w.Exclusive)
    {e : KeyEvent}
    (hc : Usable e.context) : (w.step e).InStep ↔ w.ModifierAlone e := by
  by_cases hkey : e.key = .modifierReleased
  · have hstep : w.step e = w.onSpeakVolumeModifierReleased e.context := by
      simp only [step, hkey]
    rw [hstep, modifierReleased_inStep_iff w hc]
    exact ⟨fun hfree _ => hfree, fun halone => halone hkey⟩
  · exact ⟨fun _ hreleased => absurd hreleased hkey, fun _ => step_inStep h hexclusive hc hkey⟩

/-- All keys up, nothing in the slot. -/
structure AllUp (w : KeyWorld) : Prop where
  sw : w.tangentSwPressed = false
  lr : w.tangentLrPressed = false
  slot : w.state.tangentPressed = false

private theorem AllUp.inStep {w : KeyWorld} (h : w.AllUp) : w.InStep := by
  constructor
  · intro hflag
    rw [h.sw, h.lr] at hflag
    rcases hflag with hflag | hflag <;> cases hflag
  · intro _ _ hactive
    rw [localTxState_of_released h.slot] at hactive
    cases hactive

/-- From all keys up, flags and extension agree throughout a run exactly when the voice modifier is
never released under a pressed tangent. -/
theorem throughout_inStep_iff (w : KeyWorld) (hup : w.AllUp) (history : List KeyEvent)
    (hc : ∀ e ∈ history, Usable e.context) :
    Throughout step InStep w history ↔ Guarded step ModifierAlone w history := by
  have hkeep : ∀ (w : KeyWorld) (e : KeyEvent), w.Exclusive → (w.step e).Exclusive :=
    fun _ e h => step_exclusive h e
  have hnone : w.Exclusive := Or.inl hup.sw
  induction history with
  | nil => exact ⟨fun _ => trivial, fun _ => hup.inStep⟩
  | cons e earlier ih =>
    have ih' := ih (fun e' he' => hc e' (List.mem_cons_of_mem _ he'))
    have hexclusive := invariant_runHistory hnone hkeep earlier
    have hcontext := hc e List.mem_cons_self
    constructor
    · rintro ⟨hearlier, hnow⟩
      exact ⟨ih'.mp hearlier, (step_inStep_iff hearlier.last hexclusive hcontext).mp hnow⟩
    · rintro ⟨hearlier, hnow⟩
      have hthrough := ih'.mpr hearlier
      exact ⟨hthrough, (step_inStep_iff hthrough.last hexclusive hcontext).mpr hnow⟩

section Examples

/-- A 148 on 41.5 with the code of one side. -/
def jem148 : RadioText where
  frequency := ascii "41.5"
  code := ascii "_bluefor"
  range := ascii "5000"
  subtype := ascii "digital"
  radio := ascii "TFAR_anprc148jem_1"
  noTab := by decide
  notSpeech := by decide

def jem148Key (key : Key) : KeyEvent where
  key := key
  context := {
    time := milliseconds 1000
    radio := jem148
  }

private theorem jem148Key_usable (key : Key) : Usable (jem148Key key).context :=
  ⟨rfl, rfl, rfl, rfl, rfl⟩

/-- The radio key goes down, the voice modifier goes down and up: the flag says transmitting, the
extension says silence. -/
theorem modifier_under_tangent :
    ¬ Throughout step InStep {}
      [jem148Key .modifierReleased, jem148Key (.modifierPressed "yelling"),
        jem148Key .swPressed] := by
  intro h
  have hsilenced : ((step (runHistory step {} [jem148Key (.modifierPressed "yelling"),
      jem148Key .swPressed]) (jem148Key .modifierReleased)).tangentSwPressed = true ∧
      (step (runHistory step {} [jem148Key (.modifierPressed "yelling"),
        jem148Key .swPressed]) (jem148Key .modifierReleased)).state.localTxState.active =
        false) := by
    decide +kernel
  obtain ⟨radio, -, hactive, -⟩ := h.2.transmitting (Or.inl hsilenced.1)
  rw [hsilenced.2] at hactive
  cases hactive

theorem tangent_then_modifier :
    Throughout step InStep {}
      [jem148Key .modifierReleased, jem148Key (.modifierPressed "yelling"),
        jem148Key .swReleased, jem148Key .swPressed] := by
  refine (throughout_inStep_iff {} ⟨rfl, rfl, rfl⟩ _ ?_).mpr ?_
  · simp only [List.mem_cons, List.not_mem_nil, or_false]
    rintro e (rfl | rfl | rfl | rfl) <;> exact jem148Key_usable _
  · refine ⟨⟨⟨⟨trivial, ?_⟩, ?_⟩, ?_⟩, ?_⟩
    · exact fun hkey => nomatch hkey
    · exact fun hkey => nomatch hkey
    · exact fun hkey => nomatch hkey
    · exact fun _ => by decide +kernel

end Examples

end KeyWorld

end TaskForceRadio.Addon
