import TaskForceRadio.Extension.CommandProcessor

/-!
# Commands

The asynchronous commands as data. Reading a command and executing it is what `processAsync`
does, so a fact about every call is a case analysis on commands.
-/

set_option autoImplicit false

namespace TaskForceRadio.Extension

open Voice (Time)

inductive Command where
  | pos (tokens : List Bytes)
  | freq (tokens : List Bytes)
  | tangent (tokens : List Bytes)
  | speakers (tokens : List Bytes)
  | setCfg (tokens : List Bytes)
  | killed (nickname : Bytes)
  | uid (nickname uid : Bytes)
  | releaseAllTangents (nickname : Bytes)
  | addRadioTowers (payload : Bytes)
  | delRadioTowers (payload : Bytes)
  | dataFrame
  | missionEnd
  | micPtt (held : Bool)
  | micMute
  | speakerMute
  | ignored
  deriving DecidableEq, Repr

/-- The command of an asynchronous call; one with too few tokens is ignored. -/
def parseCommand (command payload : Bytes) : Command :=
  if command = ascii "POS" then .pos (split payload tab)
  else if command = ascii "FREQ" then .freq (split payload tab)
  else if command = ascii "TANGENT" ∨ command = ascii "TANGENT_LR" ∨
      command = ascii "TANGENT_DD" then .tangent (split payload tab)
  else if command = ascii "SPEAKERS" then .speakers (splitLimit payload tab 2)
  else if command = ascii "SETCFG" then .setCfg (splitLimit payload tab 4)
  else if command = ascii "KILLED" then
    match splitLimit payload tab 2 with
    | _ :: nickname :: _ => .killed nickname
    | _ => .ignored
  else if command = ascii "UID" then
    match splitLimit payload tab 3 with
    | _ :: nickname :: uid :: _ => .uid nickname uid
    | _ => .ignored
  else if command = ascii "RELEASE_ALL_TANGENTS" then
    .releaseAllTangents ((splitLimit payload tab 2).getD 1 [])
  else if command = ascii "RadioTwrAdd" then
    match splitLimit payload tab 2 with
    | _ :: towers :: _ => .addRadioTowers towers
    | _ => .ignored
  else if command = ascii "RadioTwrDel" then
    match splitLimit payload tab 2 with
    | _ :: towers :: _ => .delRadioTowers towers
    | _ => .ignored
  else if command = ascii "DFRAME" then .dataFrame
  else if command = ascii "MISSIONEND" then .missionEnd
  else if command = ascii "MICPTT" then
    match splitLimit payload tab 2 with
    | _ :: key :: _ => .micPtt (key == ascii "PRESSED")
    | _ => .ignored
  else if command = ascii "MICMUTE" then .micMute
  else if command = ascii "SPEAKERMUTE" then .speakerMute
  else .ignored

/-- The handler of the state that a command calls. -/
def State.execute (s : State) (now : Time) : Command → State
  | .pos tokens => s.handlePos now tokens
  | .freq tokens => s.handleFreq tokens
  | .tangent tokens => s.handleTangent tokens
  | .speakers tokens => s.handleSpeakers tokens
  | .setCfg tokens => s.handleSetCfg tokens
  | .killed nickname => s.handleKilled nickname
  | .uid nickname uid => s.handleUid nickname uid
  | .releaseAllTangents nickname => s.handleReleaseAllTangents nickname
  | .addRadioTowers payload => s.handleAddRadioTowers payload
  | .delRadioTowers payload => s.handleDelRadioTowers payload
  | .dataFrame => s.handleDataFrame
  | .missionEnd => s.handleMissionEnd
  | .micPtt _ | .micMute | .speakerMute | .ignored => s

/-- The keys of the voice session. -/
def executeVoice (v : Voice.VoiceSession) : Command → Voice.VoiceSession
  | .micPtt held => v.setPttHeld held
  | .micMute => v.toggleMicMute
  | .speakerMute => v.toggleSpeakerMute
  | _ => v

namespace Globals

def execute (g : Globals) (now : Time) (c : Command) : Globals :=
  { g with state := g.state.execute now c, voice := executeVoice g.voice c }

private theorem execute_ite {g A B : Globals} {now : Time} {c : Prop} [Decidable c]
    {a b : Command} (hA : A = g.execute now a) (hB : B = g.execute now b) :
    (if c then A else B) = g.execute now (if c then a else b) := by
  split
  · exact hA
  · exact hB

theorem processAsync_eq (g : Globals) (now : Time) (command payload : Bytes) :
    g.processAsync now command payload = g.execute now (parseCommand command payload) := by
  simp only [processAsync, parseCommand]
  repeat' apply execute_ite
  all_goals try rfl
  · cases splitLimit payload tab 2 with
    | nil => rfl
    | cons first rest => cases rest <;> rfl
  · cases splitLimit payload tab 3 with
    | nil => rfl
    | cons first rest =>
      cases rest with
      | nil => rfl
      | cons second rest => cases rest <;> rfl
  all_goals
    cases splitLimit payload tab 2 with
    | nil => rfl
    | cons first rest => cases rest <;> rfl

end Globals

/-- The command of a call, if it is an asynchronous one. -/
def inputCommand (input : Bytes) : Option Command :=
  if input.getLast? = some tilde then
    some (parseCommand (firstToken input.dropLast) input.dropLast)
  else none

theorem inputCommand_append (payload : Bytes) :
    inputCommand (payload ++ [tilde]) = some (parseCommand (firstToken payload) payload) := by
  have hlast : (payload ++ [tilde]).getLast? = some tilde := List.getLast?_concat
  rw [inputCommand, if_pos hlast, List.dropLast_concat]

namespace Globals

/-- A call executes its command; beyond that it only keeps two times. -/
theorem process_eq (g : Globals) (now : Time) (opusVersion input : Bytes) :
    ∃ since requestedAt, (g.process now opusVersion input).1 =
      match inputCommand input with
      | none => g
      | some c =>
          let g' := g.execute now c
          { g' with
            disconnectedSince := since
            state := { g'.state with configRequestedAt := requestedAt } } := by
  simp only [process, inputCommand]
  by_cases hempty : input = []
  · rw [if_pos hempty, hempty]
    exact ⟨0, 0, rfl⟩
  · rw [if_neg hempty]
    by_cases hasync : input.getLast? = some tilde
    · rw [if_neg (not_not.mpr hasync), if_pos hasync]
      dsimp only
      rw [processAsync_eq]
      split
      · simp only [State.needsConfig]
        split
        · exact ⟨_, _, rfl⟩
        · split <;> exact ⟨_, _, rfl⟩
      · split
        · exact ⟨_, _, rfl⟩
        · split
          · simp only [answerPos]
            split
            · exact ⟨_, _, rfl⟩
            · split
              · exact ⟨_, _, rfl⟩
              · split <;> exact ⟨_, _, rfl⟩
          · exact ⟨_, _, rfl⟩
    · rw [if_pos hasync, if_neg hasync]
      exact ⟨0, 0, rfl⟩

end Globals

end TaskForceRadio.Extension
