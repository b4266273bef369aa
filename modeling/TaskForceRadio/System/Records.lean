import TaskForceRadio.Addon.Records

/-!
# What the extension recovers of a record

The SQF side writes FREQ, SPEAKERS and POS with delimiters at five levels; the parsers of the
state split on the same ones. A text without delimiters and a number that reads back come through.
What the state does not keep as sent: names are kept as `convertNickname` makes them, whole-number
fields are rounded, a range that is not positive is the default one, and a unit without a name is
no unit.
-/

set_option autoImplicit false

namespace TaskForceRadio.Records

open Voice (Time)
open Extension Addon

def vec3 (v : SqfVector) : Vec3 := ⟨v.x.value, v.y.value, v.z.value⟩

def setting (e : RadioEntry) : FreqSetting where
  volume := lround e.volume.value
  stereoMode := lround e.stereo.value
  radioClassname := e.classname.text

/-- The last entry of a frequency counts. -/
def table (entries : Option (List RadioEntry)) (frequency : Bytes) : Option FreqSetting :=
  ((entries.getD []).findRev? (fun e => e.frequency.text = frequency)).map setting

def vehicleDesc : VehicleId → VehicleDesc
  | .no => {}
  | .inside netId isolation intercomSlot velocity =>
      { name := netId.text
        isolation := (isolation.map SqfNumber.value).getD 0
        intercomSlot := lround intercomSlot.value
        velocity := (velocity.map vec3).getD {} }

/-- The null position stands for the place of the owner. -/
def speakerData (s : Speaker) : SpeakerData :=
  let pos := (s.pos.map vec3).getD {}
  { radioId := s.radioId.text
    frequencies := s.frequencies
    ownerNickname := convertNickname s.nickname.text
    pos
    volume := lround s.volume.value
    vehicle := vehicleDesc s.vehicle
    waveZ := (s.waveZ.map SqfNumber.value).getD (if pos.isNull then 1 else pos.z) }

def remoteClient (u : UnitView) (now : Time) : RemoteClient where
  nickname := convertNickname u.unitName.text
  position := vec3 u.pos
  viewDirection := vec3 u.curViewDir
  canSpeak := u.canSpeak
  canUseSW := u.useSw
  canUseLR := u.useLr
  canUseDD := decide (u.pos.z.value < 0) && u.canUseDDRadio
  vehicle := vehicleDesc u.vehicleId
  terrainInterception := lround u.terrainInterceptionSent.value
  voiceVolumeMultiplier := u.voiceVolumeSent.value
  objectInterception := lround u.objectInterceptionSent.value
  isSpectating := u.isSpectating
  isEnemyToPlayer := u.isEnemy
  speakRangeMeters := if u.speakVolumeMeters.value > 0 then u.speakVolumeMeters.value else 20
  dead := false
  lastUpdate := now

/-- The state after FREQ, with the two tables it made of the frequency lists. -/
def frequencyState (info : FrequencyInfo) (s : State) (sw lr : Dictionary Bytes FreqSetting) :
    State :=
  let volume := lround (info.speakVolumeMeters.min info.maxVoiceVolume).value
  let multiplicator := info.receivingDistanceMultiplicator.value
  { s with
    swFrequencies := sw
    lrFrequencies := lr
    alive := info.alive
    speakVolumeMeters := if volume ≤ 0 then 20 else volume
    myNickname := convertNickname info.nickname.text
    wavesLevel := info.waves.value
    terrainInterceptionCoefficient := info.terrainInterceptionCoefficient.value
    globalVolume := info.globalVolume.value
    receivingDistanceMultiplicator := if multiplicator ≤ 0 then 1 else multiplicator
    speakerDistance := info.speakerDistance.value
    pendingTransmitOverride :=
      if !s.alive && info.alive then some none else s.pendingTransmitOverride }

/-- What a call leaves of the state. -/
def callExtension (s : State) (now : Time) (text : Bytes) : State :=
  match inputCommand text with
  | some c => s.execute now c
  | none => s

theorem state_process (g : Globals) (now : Time) (opusVersion input : Bytes) :
    ∃ requestedAt, (g.process now opusVersion input).1.state =
      { callExtension g.state now input with configRequestedAt := requestedAt } := by
  obtain ⟨since, requestedAt, heq⟩ := g.process_eq now opusVersion input
  rw [heq, callExtension]
  cases inputCommand input with
  | none => exact ⟨g.state.configRequestedAt, rfl⟩
  | some c => exact ⟨requestedAt, rfl⟩

theorem parseArmaNumber_text (n : SqfNumber) : parseArmaNumber n.text = n.value := by
  by_cases hempty : n.text = []
  · have hzero : strtof [] = 0 := by decide +kernel
    have hvalue := n.reads
    rw [hempty, hzero] at hvalue
    rw [parseArmaNumber, if_pos hempty]
    exact hvalue
  · rw [parseArmaNumber, if_neg hempty]
    exact n.reads

private theorem parseArmaNumberToInt_text (n : SqfNumber) :
    parseArmaNumberToInt n.text = lround n.value := by
  rw [parseArmaNumberToInt, parseArmaNumber_text]

private theorem stripEnds_of_ends (first last : UInt8) (s : Bytes) :
    stripEnds (first :: (s ++ [last])) = s := by
  have hlength : (first :: (s ++ [last])).length - 2 = s.length := by simp
  rw [stripEnds, hlength, List.drop_succ_cons, List.drop_zero, List.take_left]

private theorem parseVec3_brackets (s : Bytes) {x y z : Bytes} (hsome : s ≠ [])
    (hs : split s comma = [x, y, z]) :
    parseVec3 (0x5B :: (s ++ [0x5D])) =
      ⟨parseArmaNumber x, parseArmaNumber y, parseArmaNumber z⟩ := by
  have hlong : ¬ (0x5B :: (s ++ [0x5D]) : Bytes).length < 3 := by
    have hpos := List.length_pos_iff.mpr hsome
    simp only [List.length_cons, List.length_append, List.length_nil]
    omega
  have hlast : (0x5B :: (s ++ [0x5D]) : Bytes).getLast? = some 0x5D := by
    rw [← List.cons_append, List.getLast?_append]
    rfl
  have hinner := stripEnds_of_ends 0x5B 0x5D s
  rw [stripEnds] at hinner
  simp only [parseVec3, if_neg hlong, List.head?_cons, if_true, hlast, hinner]
  rw [show split s 0x2C = [x, y, z] from hs]

theorem parseVec3_text (v : SqfVector) : parseVec3 v.text = vec3 v := by
  have hcomma : ∀ token ∈ [v.x.text, v.y.text, v.z.text], comma ∉ token := by
    intro token htoken
    simp only [List.mem_cons, List.not_mem_nil, or_false] at htoken
    rcases htoken with rfl | rfl | rfl
    · exact v.x.plain comma (by decide)
    · exact v.y.plain comma (by decide)
    · exact v.z.plain comma (by decide)
  have hsplit := split_joinTokens (List.cons_ne_nil _ _) hcomma
  have hsome : joinTokens comma [v.x.text, v.y.text, v.z.text] ≠ [] := by
    intro hnil
    rcases joinTokens_eq_nil hnil with h | h
    · cases h
    · exact absurd (congrArg List.length h) (by simp)
  rw [SqfVector.text, arrayText, parseVec3_brackets _ hsome hsplit]
  rw [parseArmaNumber_text, parseArmaNumber_text, parseArmaNumber_text]
  rfl

private theorem parseVec3_pos (pos : Option SqfVector) :
    parseVec3 ((pos.map SqfVector.text).getD (arrayText [])) = (pos.map vec3).getD {} := by
  cases pos with
  | none => rfl
  | some v => exact parseVec3_text v

private theorem isTrue_boolText (b : Bool) : isTrue (boolText b) = b := by
  cases b <;> decide

private theorem boolText_eq_true (b : Bool) : (boolText b == ascii "true") = b := by
  cases b <;> decide

private theorem isTrue_useDdText (u : UnitView) :
    isTrue u.useDdText = (decide (u.pos.z.value < 0) && u.canUseDDRadio) := by
  by_cases hdeep : u.pos.z.value < 0
  · rw [UnitView.useDdText, if_pos hdeep, isTrue_boolText]
    simp [hdeep]
  · rw [UnitView.useDdText, if_neg hdeep]
    simp only [hdeep, decide_false, Bool.false_and]
    decide

private theorem length_underscoreFront (s : Bytes) : (underscoreFront s).length = s.length := by
  have hsplit := List.takeWhile_append_dropWhile (p := fun b => b == space) (l := s)
  rw [underscoreFront, List.length_append, List.length_map, ← List.length_append, hsplit]

theorem convertNickname_eq_nil (nickname : Bytes) :
    convertNickname nickname = [] ↔ nickname = [] := by
  have hlength : (convertNickname nickname).length = nickname.length := by
    rw [convertNickname]
    split
    · rfl
    · rw [List.length_reverse, length_underscoreFront, List.length_reverse,
        length_underscoreFront]
  rw [← List.length_eq_zero_iff, hlength, List.length_eq_zero_iff]

section Lacks
variable {b : UInt8}

private theorem ne_brackets (hb : b ∈ delimiters) : b ≠ 0x5B ∧ b ≠ 0x5D := by
  have hplain : DelimiterFree [0x5B, 0x5D] := by decide
  have hne := hplain b hb
  simp only [List.mem_cons, List.not_mem_nil, or_false] at hne
  exact not_or.mp hne

private theorem notMem_arrayText (hb : b ∈ delimiters) (hcomma : b ≠ comma) {elements : List Bytes}
    (h : ∀ element ∈ elements, b ∉ element) : b ∉ arrayText elements := by
  obtain ⟨hopen, hclose⟩ := ne_brackets hb
  have hjoined := notMem_joinTokens hcomma h
  intro hmem
  rcases List.mem_cons.mp hmem with heq | hmem
  · exact hopen heq
  · rcases List.mem_append.mp hmem with hmem | hmem
    · exact hjoined hmem
    · exact hclose (List.mem_singleton.mp hmem)

theorem notMem_vector (hb : b ∈ delimiters) (hcomma : b ≠ comma) (v : SqfVector) :
    b ∉ v.text := by
  apply notMem_arrayText hb hcomma
  intro element helement
  simp only [List.mem_cons, List.not_mem_nil, or_false] at helement
  rcases helement with rfl | rfl | rfl
  · exact v.x.plain b hb
  · exact v.y.plain b hb
  · exact v.z.plain b hb

private theorem notMem_boolText (hb : b ∈ delimiters) (flag : Bool) : b ∉ boolText flag := by
  have hplain : DelimiterFree (boolText flag) := by cases flag <;> decide
  exact hplain b hb

private theorem notMem_useDdText (hb : b ∈ delimiters) (u : UnitView) : b ∉ u.useDdText := by
  by_cases hdeep : u.pos.z.value < 0
  · rw [UnitView.useDdText, if_pos hdeep]
    exact notMem_boolText hb u.canUseDDRadio
  · have hplain : DelimiterFree (ascii "0") := by decide
    rw [UnitView.useDdText, if_neg hdeep]
    exact hplain b hb

private theorem notMem_quoted (hquote : b ≠ quote) {s : Bytes} (h : b ∉ s) : b ∉ quoted s := by
  intro hmem
  rcases List.mem_cons.mp hmem with heq | hmem
  · exact hquote heq
  · rcases List.mem_append.mp hmem with hmem | hmem
    · exact h hmem
    · exact hquote (List.mem_singleton.mp hmem)

private theorem notMem_entryFields (hb : b ∈ delimiters) (e : RadioEntry) :
    ∀ field ∈ e.fields, b ∉ field := by
  intro field hfield
  simp only [RadioEntry.fields, List.mem_cons, List.not_mem_nil, or_false] at hfield
  rcases hfield with rfl | rfl | rfl | rfl
  · exact e.frequency.plain b hb
  · exact e.volume.plain b hb
  · exact e.stereo.plain b hb
  · exact e.classname.plain b hb

private theorem notMem_frequencyElements (hb : b ∈ delimiters) (hbar : b ≠ bar) (hquote : b ≠ quote)
    {noRadio : String} (hword : DelimiterFree (ascii noRadio))
    (entries : Option (List RadioEntry)) :
    ∀ element ∈ frequencyElements noRadio entries, b ∉ element := by
  intro element helement
  cases entries with
  | none =>
    rw [List.mem_singleton.mp helement]
    exact notMem_quoted hquote (hword b hb)
  | some entries =>
    obtain ⟨entry, -, rfl⟩ := List.mem_map.mp helement
    exact notMem_quoted hquote (notMem_joinTokens hbar (notMem_entryFields hb entry))

private theorem notMem_vehicleFields (hb : b ∈ delimiters) (hcomma : b ≠ comma) (v : VehicleId) :
    ∀ field ∈ v.fields, b ∉ field := by
  have hwords : DelimiterFree (ascii "no") ∧ DelimiterFree (ascii "turnout") := by decide
  intro field hfield
  cases v with
  | no =>
    rw [List.mem_singleton.mp hfield]
    exact hwords.1 b hb
  | inside netId isolation intercomSlot velocity =>
    simp only [VehicleId.fields, List.mem_cons] at hfield
    rcases hfield with rfl | rfl | rfl | hvelocity
    · exact netId.plain b hb
    · cases isolation with
      | none => exact hwords.2 b hb
      | some amount => exact amount.plain b hb
    · exact intercomSlot.plain b hb
    · cases velocity with
      | none => cases hvelocity
      | some v =>
        rw [List.mem_singleton.mp hvelocity]
        exact notMem_vector hb hcomma v

private theorem notMem_frequencies (hb : b ∈ delimiters) (s : Speaker) :
    ∀ frequency ∈ s.frequencies, b ∉ frequency := by
  intro frequency hfrequency
  obtain ⟨text, -, rfl⟩ := List.mem_map.mp hfrequency
  exact text.plain b hb

private theorem notMem_speakerFields (hb : b ∈ [tab, newLine, verticalTab]) (s : Speaker) :
    ∀ field ∈ s.fields, b ∉ field := by
  have hother : b ∈ delimiters ∧ b ≠ bar ∧ b ≠ comma ∧ b ≠ dataLinkEscape := by
    simp only [List.mem_cons, List.not_mem_nil, or_false] at hb
    rcases hb with rfl | rfl | rfl <;> decide
  obtain ⟨hdelimiter, hbar, hcomma, hescape⟩ := hother
  intro field hfield
  simp only [Speaker.fields, List.mem_cons] at hfield
  rcases hfield with rfl | rfl | rfl | rfl | rfl | rfl | hwave
  · exact s.radioId.plain b hdelimiter
  · exact notMem_joinTokens hbar (notMem_frequencies hdelimiter s)
  · exact s.nickname.plain b hdelimiter
  · cases s.pos with
    | none => exact notMem_arrayText hdelimiter hcomma (fun element h => nomatch h)
    | some v => exact notMem_vector hdelimiter hcomma v
  · exact s.volume.plain b hdelimiter
  · exact notMem_joinTokens hescape (notMem_vehicleFields hdelimiter hcomma s.vehicle)
  · obtain ⟨height, -, rfl⟩ := Option.map_eq_some_iff.mp (Option.mem_toList.mp hwave)
    exact height.plain b hdelimiter

end Lacks

private theorem split_vehicle (v : VehicleId) : split v.text 0x10 = v.fields := by
  have hsome : v.fields ≠ [] := by
    cases v with
    | no => exact List.cons_ne_nil _ _
    | inside netId isolation intercomSlot velocity => exact List.cons_ne_nil _ _
  have hescape : dataLinkEscape ∈ delimiters := by decide
  exact split_joinTokens hsome (notMem_vehicleFields hescape (by decide) v)

private theorem parseVehicle_text (v : VehicleId) : parseVehicle v.text = vehicleDesc v := by
  have hfields := split_vehicle v
  cases v with
  | no => exact if_pos (Or.inr rfl)
  | inside netId isolation intercomSlot velocity =>
    -- A text of three fields is neither empty nor `no`.
    have hsome : ∀ word, split word 0x10 = [word] →
        (VehicleId.inside netId isolation intercomSlot velocity).text ≠ word := by
      intro word hword heq
      rw [heq, hword] at hfields
      exact absurd (congrArg List.length hfields) (by simp [VehicleId.fields])
    have hinside : ¬ ((VehicleId.inside netId isolation intercomSlot velocity).text = [] ∨
        (VehicleId.inside netId isolation intercomSlot velocity).text = ascii "no") :=
      not_or.mpr ⟨hsome [] rfl, hsome (ascii "no") rfl⟩
    have hisolation : (if (isolation.map SqfNumber.text).getD (ascii "turnout") = ascii "turnout"
        then 0 else parseArmaNumber ((isolation.map SqfNumber.text).getD (ascii "turnout"))) =
        (isolation.map SqfNumber.value).getD 0 := by
      cases isolation with
      | none => exact if_pos rfl
      | some amount =>
        by_cases hword : amount.text = ascii "turnout"
        · have hzero : strtof (ascii "turnout") = 0 := by decide +kernel
          have hvalue := amount.reads
          rw [hword, hzero] at hvalue
          exact (if_pos hword).trans hvalue
        · exact (if_neg hword).trans (parseArmaNumber_text amount)
    rw [parseVehicle, if_neg hinside, hfields]
    simp only [VehicleId.fields, vehicleDesc, hisolation, parseArmaNumberToInt_text]
    cases velocity with
    | none => rfl
    | some v =>
      have hvector := parseVec3_text v
      simp only [Option.map_some, Option.toList_some, Option.getD_some, hvector]

private theorem text_ne_nil (s : Speaker) : s.text ≠ [] := by
  intro hnil
  rcases joinTokens_eq_nil hnil with h | h
  · exact List.cons_ne_nil _ _ h
  · exact absurd (congrArg List.length h) (by simp [Speaker.fields])

private theorem parseSpeaker_text (s : Speaker) : parseSpeaker s.text = some (speakerData s) := by
  have hnewLine : newLine ∈ [tab, newLine, verticalTab] := by decide
  have hsplit : split s.text 0x0A = s.fields :=
    split_joinTokens (List.cons_ne_nil _ _) (notMem_speakerFields hnewLine s)
  have hfrequencies : split (joinTokens bar s.frequencies) 0x7C = s.frequencies := by
    have hbar : bar ∈ delimiters := by decide
    exact split_joinTokens (List.cons_ne_nil _ _) (notMem_frequencies hbar s)
  rw [parseSpeaker, if_neg (text_ne_nil s), hsplit]
  simp only [Speaker.fields, hfrequencies, parseVec3_pos, parseArmaNumberToInt_text,
    parseVehicle_text, speakerData]
  cases s.waveZ with
  | none => rfl
  | some height =>
    have hheight := parseArmaNumber_text height
    simp only [Option.map_some, Option.toList_some, Option.getD_some, hheight]

private theorem filterMap_parseSpeaker (speakers : List Speaker) :
    (speakers.map Speaker.text).filterMap parseSpeaker = speakers.map speakerData := by
  induction speakers with
  | nil => rfl
  | cons s speakers ih =>
    rw [List.map_cons, List.filterMap_cons_some (parseSpeaker_text s), ih, List.map_cons]

private theorem insertFrequency_text (result : Dictionary Bytes FreqSetting) (e : RadioEntry) :
    insertFrequency result (quoted e.text) = result.insert e.frequency.text (setting e) := by
  have hbar : bar ∈ delimiters := by decide
  have hsplit : split e.text 0x7C = e.fields :=
    split_joinTokens (List.cons_ne_nil _ _) (notMem_entryFields hbar e)
  have hlong : ¬ (quoted e.text).length < 2 := by
    simp only [quoted, List.length_cons, List.length_append, List.length_nil]
    omega
  have hinner : stripEnds (quoted e.text) = e.text := stripEnds_of_ends quote quote e.text
  rw [insertFrequency, if_neg hlong, hinner, hsplit]
  simp only [RadioEntry.fields, parseArmaNumberToInt_text, setting]

private theorem insertFrequency_noRadio (result : Dictionary Bytes FreqSetting) {word : Bytes}
    (h : bar ∉ word) : insertFrequency result (quoted word) = result := by
  have hsplit : split word 0x7C = [word] := by
    have hone : ∀ token ∈ [word], bar ∉ token := by
      intro token htoken
      rw [List.mem_singleton.mp htoken]
      exact h
    exact split_joinTokens (List.cons_ne_nil _ _) hone
  have hinner : stripEnds (quoted word) = word := stripEnds_of_ends quote quote word
  rw [insertFrequency, hinner, hsplit]
  split <;> rfl

private theorem frequencyElements_ne_nil (noRadio : String) (entries : Option (List RadioEntry)) :
    ∀ element ∈ frequencyElements noRadio entries, element ≠ [] := by
  intro element helement
  cases entries with
  | none =>
    rw [List.mem_singleton.mp helement]
    exact List.cons_ne_nil _ _
  | some entries =>
    obtain ⟨entry, -, rfl⟩ := List.mem_map.mp helement
    exact List.cons_ne_nil _ _

private theorem parseFrequencies_array (elements : List Bytes) (hcomma : ∀ e ∈ elements, comma ∉ e)
    (hquoted : ∀ e ∈ elements, e ≠ []) :
    parseFrequencies (arrayText elements) = elements.foldl insertFrequency ∅ := by
  have hlong : ¬ (arrayText elements).length < 2 := by
    simp only [arrayText, List.length_cons, List.length_append, List.length_nil]
    omega
  have hinner : stripEnds (arrayText elements) = joinTokens comma elements :=
    stripEnds_of_ends 0x5B 0x5D (joinTokens comma elements)
  rw [parseFrequencies, if_neg hlong, hinner]
  cases elements with
  | nil => rfl
  | cons e rest =>
    have hsome : joinTokens comma (e :: rest) ≠ [] := by
      intro hnil
      rcases joinTokens_eq_nil hnil with h | h
      · cases h
      · exact hquoted e List.mem_cons_self (List.cons.inj h).1
    have hsplit : split (joinTokens comma (e :: rest)) 0x2C = e :: rest :=
      split_joinTokens (List.cons_ne_nil e rest) hcomma
    rw [if_neg hsome, hsplit]

private theorem foldl_insertFrequency (entries : List RadioEntry)
    (result : Dictionary Bytes FreqSetting) :
    (entries.map (fun e => quoted e.text)).foldl insertFrequency result =
      entries.foldl (fun m e => m.insert e.frequency.text (setting e)) result := by
  induction entries generalizing result with
  | nil => rfl
  | cons e entries ih =>
    rw [List.map_cons, List.foldl_cons, List.foldl_cons, insertFrequency_text, ih]

private theorem lookup_parseFrequencies {noRadio : String} (hword : DelimiterFree (ascii noRadio))
    (entries : Option (List RadioEntry)) (frequency : Bytes) :
    (parseFrequencies (frequenciesText noRadio entries)).lookup frequency =
      table entries frequency := by
  have hcomma : comma ∈ delimiters := by decide
  have hlacks := notMem_frequencyElements hcomma (by decide) (by decide) hword entries
  have harray := parseFrequencies_array _ hlacks (frequencyElements_ne_nil noRadio entries)
  rw [frequenciesText, harray]
  cases entries with
  | none =>
    have hbar : bar ∉ ascii noRadio := hword bar (by decide)
    rw [frequencyElements, List.foldl_cons, List.foldl_nil, insertFrequency_noRadio ∅ hbar]
    rfl
  | some entries =>
    have hlast := Dictionary.lookup_foldl_insert (fun e : RadioEntry => e.frequency.text) setting
      entries ∅ frequency
    rw [frequencyElements, foldl_insertFrequency, hlast]
    simp only [table, Option.getD_some, AList.lookup_empty, Option.or_none]

private theorem callExtension_request (s : State) (now : Time) {command : String}
    {fields : List Bytes}
    (hcommand : tab ∉ ascii command) (hsome : fields ≠ []) :
    callExtension s now (request command fields) =
      s.execute now (parseCommand (ascii command) (joinTokens tab (ascii command :: fields))) := by
  obtain ⟨field, rest, rfl⟩ := List.exists_cons_of_ne_nil hsome
  rw [callExtension, request, inputCommand_append, firstToken_joinTokens hcommand]

private theorem notMem_frequencyFields (info : FrequencyInfo) :
    ∀ field ∈ info.fields, tab ∉ field := by
  have htab : tab ∈ delimiters := by decide
  have hcomma : tab ≠ comma := by decide
  have hbar : tab ≠ bar := by decide
  have hquote : tab ≠ quote := by decide
  intro field hfield
  simp only [FrequencyInfo.fields, List.mem_cons, List.not_mem_nil, or_false] at hfield
  rcases hfield with rfl | rfl | rfl | rfl | rfl | rfl | rfl | rfl | rfl | rfl
  · exact notMem_arrayText htab hcomma (notMem_frequencyElements htab hbar hquote (by decide) _)
  · exact notMem_arrayText htab hcomma (notMem_frequencyElements htab hbar hquote (by decide) _)
  · exact notMem_boolText htab _
  · exact (info.speakVolumeMeters.min info.maxVoiceVolume).plain tab htab
  · exact info.nickname.plain tab htab
  · exact info.waves.plain tab htab
  · exact info.terrainInterceptionCoefficient.plain tab htab
  · exact info.globalVolume.plain tab htab
  · exact info.receivingDistanceMultiplicator.plain tab htab
  · exact info.speakerDistance.plain tab htab

private theorem handleFreq_fields (s : State) (command : Bytes) (info : FrequencyInfo) :
    s.handleFreq (command :: info.fields) =
      frequencyState info s
        (parseFrequencies (frequenciesText "No_SW_Radio" (info.entries info.sw)))
        (parseFrequencies (frequenciesText "No_LR_Radio" (info.entries info.lr))) := by
  have hlong : ¬ (command :: info.fields).length < 11 := Nat.lt_irrefl 11
  rw [State.handleFreq, if_neg hlong]
  simp only [State.readFreq, FrequencyInfo.fields, List.getD_cons_succ, List.getD_cons_zero,
    parseArmaNumber_text, parseArmaNumberToInt_text, boolText_eq_true, frequencyState]
  by_cases hrises : (!s.alive && info.alive) = true
  · rw [if_pos hrises, if_pos hrises]
    rfl
  · rw [if_neg hrises, if_neg hrises]

private theorem receive_frequencyInfo (s : State) (now : Time) (info : FrequencyInfo) :
    ∃ sw lr, (∀ frequency, sw.lookup frequency = table (info.entries info.sw) frequency) ∧
      (∀ frequency, lr.lookup frequency = table (info.entries info.lr) frequency) ∧
      callExtension s now (sendFrequencyInfo info) = frequencyState info s sw lr := by
  have hsw : DelimiterFree (ascii "No_SW_Radio") := by decide
  have hlr : DelimiterFree (ascii "No_LR_Radio") := by decide
  have hcommand : tab ∉ ascii "FREQ" := by decide
  have hparse : ∀ payload, parseCommand (ascii "FREQ") payload = .freq (split payload tab) :=
    fun payload => rfl
  refine ⟨_, _, lookup_parseFrequencies hsw _, lookup_parseFrequencies hlr _, ?_⟩
  have hsome : info.fields ≠ [] := List.cons_ne_nil _ _
  have hreceived := callExtension_request s now hcommand hsome
  rw [hparse, split_command hcommand (notMem_frequencyFields info)] at hreceived
  exact hreceived.trans (handleFreq_fields s _ info)

private theorem notMem_block {b : UInt8} (hb : b ∈ [tab, verticalTab]) (s : Speaker) :
    b ∉ s.text := by
  have hother : b ∈ [tab, newLine, verticalTab] ∧ b ≠ newLine := by
    simp only [List.mem_cons, List.not_mem_nil, or_false] at hb
    rcases hb with rfl | rfl <;> decide
  obtain ⟨hfree, hne⟩ := hother
  exact notMem_joinTokens hne (notMem_speakerFields hfree s)

private theorem handleSpeakers_blocks (s : State) (command : Bytes) (speakers : List Speaker) :
    s.handleSpeakers [command, joinTokens verticalTab (speakers.map Speaker.text)] =
      { s with speakers := speakers.map speakerData } := by
  cases speakers with
  | nil => rfl
  | cons first rest =>
    have hblocks : ∀ block ∈ (first :: rest).map Speaker.text, verticalTab ∉ block := by
      intro block hblock
      obtain ⟨speaker, -, rfl⟩ := List.mem_map.mp hblock
      exact notMem_block (by decide) speaker
    have hsplit : split (joinTokens verticalTab ((first :: rest).map Speaker.text)) 0x0B =
        (first :: rest).map Speaker.text :=
      split_joinTokens (List.cons_ne_nil _ _) hblocks
    have hsome : joinTokens verticalTab ((first :: rest).map Speaker.text) ≠ [] := by
      intro hnil
      rcases joinTokens_eq_nil hnil with h | h
      · cases h
      · exact text_ne_nil first (List.cons.inj h).1
    have hsent :
        ¬ ([command, joinTokens verticalTab ((first :: rest).map Speaker.text)].length < 2 ∨
          joinTokens verticalTab ((first :: rest).map Speaker.text) = []) :=
      not_or.mpr ⟨by simp, hsome⟩
    have hparsed := filterMap_parseSpeaker (first :: rest)
    rw [State.handleSpeakers, List.getD_cons_succ, List.getD_cons_zero, if_neg hsent, hsplit,
      hparsed]

private theorem receive_speakers (s : State) (now : Time) (speakers : List Speaker) :
    callExtension s now (speakersRequest speakers) =
      { s with speakers := speakers.map speakerData } := by
  have hcommand : tab ∉ ascii "SPEAKERS" := by decide
  have htokens : ∀ token ∈ [ascii "SPEAKERS", joinTokens verticalTab (speakers.map Speaker.text)],
      tab ∉ token := by
    intro token htoken
    simp only [List.mem_cons, List.not_mem_nil, or_false] at htoken
    rcases htoken with rfl | rfl
    · exact hcommand
    · apply notMem_joinTokens (by decide)
      intro block hblock
      obtain ⟨speaker, -, rfl⟩ := List.mem_map.mp hblock
      exact notMem_block (by decide) speaker
  have hparse : ∀ payload,
      parseCommand (ascii "SPEAKERS") payload = .speakers (splitLimit payload tab 2) :=
    fun payload => rfl
  rw [speakersRequest, callExtension_request s now hcommand (List.cons_ne_nil _ _), hparse,
    splitLimit_joinTokens 2 (List.cons_ne_nil _ _) htokens]
  exact handleSpeakers_blocks s _ speakers

private theorem notMem_positionFields (u : UnitView) : ∀ field ∈ u.fields, tab ∉ field := by
  have htab : tab ∈ delimiters := by decide
  have hcomma : tab ≠ comma := by decide
  intro field hfield
  simp only [UnitView.fields, List.mem_cons, List.not_mem_nil, or_false] at hfield
  rcases hfield with rfl | rfl | rfl | rfl | rfl | rfl | rfl | rfl | rfl | rfl | rfl | rfl | rfl |
    rfl
  · exact u.unitName.plain tab htab
  · exact notMem_vector htab hcomma _
  · exact notMem_vector htab hcomma _
  · exact notMem_boolText htab _
  · exact notMem_boolText htab _
  · exact notMem_boolText htab _
  · exact notMem_useDdText htab u
  · exact notMem_joinTokens (by decide) (notMem_vehicleFields htab hcomma u.vehicleId)
  · exact u.terrainInterceptionSent.plain tab htab
  · exact u.voiceVolumeSent.plain tab htab
  · exact u.objectInterceptionSent.plain tab htab
  · exact notMem_boolText htab _
  · exact notMem_boolText htab _
  · exact u.speakVolumeMeters.plain tab htab

private theorem posClient_fields (known : RemoteClient) (now : Time) (command : Bytes)
    (u : UnitView) :
    State.posClient known now (command :: u.fields) = remoteClient u now := by
  have hlong : 15 ≤ (command :: u.fields).length := Nat.le_refl 15
  simp only [State.posClient, if_pos hlong]
  simp only [UnitView.fields, List.getD_cons_succ, List.getD_cons_zero, parseArmaNumber_text,
    parseArmaNumberToInt_text, parseVec3_text, parseVehicle_text, isTrue_boolText,
    isTrue_useDdText, remoteClient]

private theorem handlePos_fields (s : State) (now : Time) (command : Bytes) (u : UnitView) :
    s.handlePos now (command :: u.fields) =
      if u.unitName.text = [] then s
      else
        { s with
          clients := s.clients.insert (convertNickname u.unitName.text) (remoteClient u now) } := by
  have hlong : ¬ (command :: u.fields).length < 14 := by
    have hlength : (command :: u.fields).length = 15 := rfl
    omega
  have hname : (command :: u.fields).getD 1 [] = u.unitName.text := rfl
  rw [State.handlePos, if_neg hlong, hname]
  by_cases hnameless : u.unitName.text = []
  · rw [if_pos hnameless]
    exact if_pos ((convertNickname_eq_nil _).mpr hnameless)
  · rw [if_neg hnameless]
    have hnamed := mt (convertNickname_eq_nil u.unitName.text).mp hnameless
    simp only [if_neg hnamed, posClient_fields]

theorem receive_position (s : State) (now : Time) (u : UnitView) :
    callExtension s now (preparePositionCoordinates u) =
      if u.unitName.text = [] then s
      else
        { s with
          clients := s.clients.insert (convertNickname u.unitName.text) (remoteClient u now) } := by
  have hcommand : tab ∉ ascii "POS" := by decide
  have hparse : ∀ payload, parseCommand (ascii "POS") payload = .pos (split payload tab) :=
    fun payload => rfl
  have hsome : u.fields ≠ [] := List.cons_ne_nil _ _
  have hreceived := callExtension_request s now hcommand hsome
  rw [hparse, split_command hcommand (notMem_positionFields u)] at hreceived
  exact hreceived.trans (handlePos_fields s now _ u)

/-- What the encoders put into a record is what the state holds of it afterwards. -/
theorem records_recovered (s : State) (now : Time) (info : FrequencyInfo) (u : UnitView)
    (hadSpeakers : Bool) (units : List UnitView) (holders : List SupplyHolder)
    (vehicles : List RadioVehicle) :
    (∃ sw lr, (∀ frequency, sw.lookup frequency = table (info.entries info.sw) frequency) ∧
      (∀ frequency, lr.lookup frequency = table (info.entries info.lr) frequency) ∧
      callExtension s now (sendFrequencyInfo info) = frequencyState info s sw lr) ∧
    (sendSpeakerRadios hadSpeakers (speakerRadios units holders vehicles)).map
        (callExtension s now) =
      (if !hadSpeakers && (speakerRadios units holders vehicles).isEmpty then none
      else some { s with speakers := (speakerRadios units holders vehicles).map speakerData }) ∧
    callExtension s now (preparePositionCoordinates u) =
      if u.unitName.text = [] then s
      else
        { s with
          clients := s.clients.insert (convertNickname u.unitName.text) (remoteClient u now) } := by
  refine ⟨receive_frequencyInfo s now info, ?_, receive_position s now u⟩
  have hreceived := receive_speakers s now (speakerRadios units holders vehicles)
  by_cases hsilent : (!hadSpeakers && (speakerRadios units holders vehicles).isEmpty) = true
  · rw [sendSpeakerRadios, if_pos hsilent, if_pos hsilent]
    rfl
  · rw [sendSpeakerRadios, if_neg hsilent, if_neg hsilent, Option.map_some, hreceived]

/-- A range of zero, and the interception that `calcTerrainInterception` finds for the lowest
obstacle. -/
def distantUnit (unitName : PlainText) : UnitView where
  unitName
  nearPlayer := false
  isSpectating := false
  pos := ⟨.one, .one, .one⟩
  curViewDir := ⟨.zero, .one, .zero⟩
  vehicle :=
    { isInVehicle := false
      hasIdOverride := false
      netId := noName
      hasIntercom := false
      intercomSlot := .minusOne
      turnedOut := false
      isolation := .zero
      velocity := ⟨.zero, .zero, .zero⟩ }
  isIsolatedAndInside := false
  alive := true
  isRemotePlayer := true
  canUseSWRadio := true
  canUseLRRadio := true
  canUseDDRadio := false
  withinSpeakerDistance := false
  lrSpeakersEnabled := false
  lrRadios := []
  srSpeakersEnabled := false
  swRadios := []
  waveZ := .one
  objectInterceptionEnabled := false
  objectInterception := .zero
  terrainInterception := ⟨ascii "12.8125", by decide, 12.8125, by decide +kernel⟩
  currentUnitSpectates := false
  sideIsEnemy := false
  voiceVolume := .one
  speakVolumeMeters := .zero

def bob : PlainText := ⟨ascii "Bob", by decide⟩

/-- A radio on the speaker of a unit whose name begins with a space. -/
def spacedSpeaker : Speaker where
  radioId := ⟨ascii "TFAR_anprc152_1", by decide⟩
  frequency := ⟨ascii "51.5", by decide⟩
  additionalFrequency := none
  nickname := ⟨ascii " Bob", by decide⟩
  pos := none
  volume := .one
  vehicle := .no
  waveZ := some .one

/-- A name, a fraction, a range and a unit that are not kept as they were sent. -/
theorem records_not_verbatim :
    (callExtension {} 0 (speakersRequest [spacedSpeaker])).speakers.map
        SpeakerData.ownerNickname = [ascii "_Bob"] ∧
    spacedSpeaker.nickname.text = ascii " Bob" ∧
    ((callExtension {} 0 (preparePositionCoordinates (distantUnit bob))).clients.lookup
        (ascii "Bob")).map
      (fun client => (client.terrainInterception, client.speakRangeMeters)) = some (13, 20) ∧
    (distantUnit bob).terrainInterceptionSent.value = 12.8125 ∧
    (distantUnit bob).speakVolumeMeters.value = 0 ∧
    (callExtension {} 0 (preparePositionCoordinates (distantUnit noName))).clients = ∅ := by
  have hnamed : (distantUnit bob).unitName.text ≠ [] := by decide
  have hrounded : lround 12.8125 = 13 ∧ ¬ (0 : Float32) > 0 := by decide +kernel
  have hclient := receive_position {} 0 (distantUnit bob)
  rw [if_neg hnamed] at hclient
  have hnameless := receive_position {} 0 (distantUnit noName)
  have hempty : (distantUnit noName).unitName.text = [] := rfl
  rw [if_pos hempty] at hnameless
  refine ⟨?_, rfl, ?_, rfl, rfl, ?_⟩
  · rw [receive_speakers]
    decide
  · rw [hclient]
    have hbob : convertNickname (distantUnit bob).unitName.text = ascii "Bob" := by decide
    simp only [hbob, AList.lookup_insert, Option.map_some]
    have hterrain : (distantUnit bob).terrainInterceptionSent.value = 12.8125 := rfl
    have hrange : (distantUnit bob).speakVolumeMeters.value = 0 := rfl
    simp only [remoteClient, hterrain, hrange, if_neg hrounded.2, hrounded.1]
  · rw [hnameless]

end TaskForceRadio.Records
