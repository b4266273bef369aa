import TaskForceRadio.Extension.Tokens

/-!
# The bulk query for speakers

`TFAR_fnc_processPlayerPositions` joins the names of the players it has just sent and asks for all
of them in one call. It takes the answer apart at the tabs and throws it away when there are not as
many pieces as players.
-/

set_option autoImplicit false

namespace TaskForceRadio.Addon

open Voice (Time)
open Extension

/-- `splitString`: the parts between the delimiters, without the empty ones. -/
def splitString (delim : UInt8) (s : Bytes) : List Bytes :=
  (split s delim).filter (fun part => part ≠ [])

def bulkCommand : Bytes := ascii "IS_SPEAKING_BULK"

/-- The request for the names, joined by tabs. -/
def bulkRequest (names : List Bytes) : Bytes := joinTokens tab (bulkCommand :: names)

/-- One group of the answer for every name. -/
def speakingGroups (s : State) (names : List Bytes) : Bytes :=
  names.flatMap (fun nickname => s.speakingPair nickname ++ [tab])

/-- Two characters, each of them 0 or 1. -/
def IsPair (pair : Bytes) : Prop :=
  ∃ speaking receiving : Bool,
    pair = (if speaking then ascii "1" else ascii "0") ++
      (if receiving then ascii "1" else ascii "0")

/-- The answer is what the caller can use: a pair for every name, in order. -/
structure Aligned (s : State) (names : List Bytes) (response : Bytes) : Prop where
  groups : response = speakingGroups s names
  pairs : ∀ nickname ∈ names, IsPair (s.speakingPair nickname)
  accepted : splitString tab response = names.map s.speakingPair

section Answer
variable (s : State)

private theorem isPair_flags (speaking receiving : Prop) [Decidable speaking]
    [Decidable receiving] :
    IsPair ((if speaking then ascii "1" else ascii "0") ++
      (if receiving then ascii "1" else ascii "0")) := by
  refine ⟨decide speaking, decide receiving, ?_⟩
  simp only [decide_eq_true_eq]

private theorem isPair_speakingPair (nickname : Bytes) : IsPair (s.speakingPair nickname) := by
  simp only [State.speakingPair]
  split
  · exact ⟨false, false, rfl⟩
  · exact isPair_flags _ _

theorem IsPair.shape {pair : Bytes} (h : IsPair pair) : pair.length = 2 ∧ tab ∉ pair := by
  obtain ⟨speaking, receiving, rfl⟩ := h
  cases speaking <;> cases receiving <;> decide

private theorem splitString_groups (names : List Bytes) :
    splitString tab (speakingGroups s names) = names.map s.speakingPair := by
  have hjoined : speakingGroups s names = joinTokens tab (names.map s.speakingPair ++ [[]]) := by
    induction names with
    | nil => rfl
    | cons nickname names ih =>
      rw [speakingGroups] at ih ⊢
      rw [List.flatMap_cons, ih, List.map_cons, List.cons_append]
      cases names with
      | nil => simp [joinTokens]
      | cons next names => simp [joinTokens]
  have hfree : ∀ token ∈ names.map s.speakingPair ++ [[]], tab ∉ token := by
    intro token htoken
    rcases List.mem_append.mp htoken with hpair | hempty
    · obtain ⟨nickname, _, rfl⟩ := List.mem_map.mp hpair
      exact (isPair_speakingPair s nickname).shape.2
    · rw [List.mem_singleton.mp hempty]
      exact List.not_mem_nil
  have hkept : ∀ pair ∈ names.map s.speakingPair, pair ≠ [] := by
    intro pair hpair hnil
    obtain ⟨nickname, _, rfl⟩ := List.mem_map.mp hpair
    have hlength := (isPair_speakingPair s nickname).shape.1
    rw [hnil] at hlength
    cases hlength
  rw [splitString, hjoined, split_joinTokens (by simp) hfree, List.filter_append]
  rw [List.filter_eq_self.mpr (fun pair hpair => decide_eq_true (hkept pair hpair))]
  exact List.append_nil _

private theorem length_speakingGroups (names : List Bytes) :
    (speakingGroups s names).length = 3 * names.length := by
  induction names with
  | nil => rfl
  | cons nickname names ih =>
    have hpair := (isPair_speakingPair s nickname).shape.1
    rw [speakingGroups] at ih ⊢
    rw [List.flatMap_cons, List.length_append, List.length_append, ih, hpair]
    simp only [List.length_cons, List.length_nil]
    omega

private theorem aligned_groups (names : List Bytes) : Aligned s names (speakingGroups s names) :=
  ⟨rfl, fun nickname _ => isPair_speakingPair s nickname, splitString_groups s names⟩

end Answer

private theorem joinTokens_concat {delim : UInt8} {tokens : List Bytes} (hsome : tokens ≠ [])
    (token : Bytes) :
    joinTokens delim (tokens ++ [token]) = joinTokens delim tokens ++ delim :: token := by
  induction tokens with
  | nil => exact absurd rfl hsome
  | cons first tokens ih =>
    cases tokens with
    | nil => rfl
    | cons next tokens =>
      have hrest := ih (List.cons_ne_nil _ _)
      rw [List.cons_append, List.cons_append, joinTokens, ← List.cons_append, hrest, joinTokens,
        List.append_assoc, List.cons_append]

section Request
variable (names : List Bytes) (last : Bytes)

theorem bulkRequest_concat :
    bulkRequest (names ++ [last]) = joinTokens tab (bulkCommand :: names) ++ tab :: last := by
  rw [bulkRequest, ← List.cons_append, joinTokens_concat (List.cons_ne_nil _ _)]

theorem getLast?_bulkRequest :
    (bulkRequest (names ++ [last])).getLast? = some tilde ↔ last.getLast? = some tilde := by
  have htab : tab ≠ tilde := by decide
  rw [bulkRequest_concat, List.getLast?_append, List.getLast?_cons]
  cases last.getLast? <;> simp [htab]

theorem firstToken_bulkRequest : firstToken (bulkRequest (names ++ [last])) = bulkCommand := by
  have hcommand : tab ∉ bulkCommand := by decide
  cases names with
  | nil => exact firstToken_joinTokens hcommand []
  | cons first names => exact firstToken_joinTokens hcommand (names ++ [last])

private theorem bulkRequest_ne_nil : bulkRequest (names ++ [last]) ≠ [] := by
  rw [bulkRequest_concat]
  simp

variable (g : Globals) (now : Time) (opusVersion : Bytes)

private theorem process_bulkRequest {names : List Bytes} {last : Bytes}
    (htab : ∀ nickname ∈ names ++ [last], tab ∉ nickname) (hlast : last.getLast? ≠ some tilde) :
    (g.process now opusVersion (bulkRequest (names ++ [last]))).2 =
      speakingGroups g.state (names ++ [last]) := by
  have hsync := (getLast?_bulkRequest names last).not.mpr hlast
  have hsplit : split (bulkRequest (names ++ [last])) tab = bulkCommand :: (names ++ [last]) :=
    split_command (by decide) htab
  rw [Globals.process, if_neg (bulkRequest_ne_nil names last), if_pos hsync,
    firstToken_bulkRequest]
  show g.processSync opusVersion bulkCommand (bulkRequest (names ++ [last])) = _
  rw [Globals.processSync, if_neg (by decide), if_neg (by decide), if_neg (by decide),
    if_pos (show bulkCommand = ascii "IS_SPEAKING_BULK" from rfl), hsplit]
  rfl

private theorem process_bulkRequest_tilde (hlast : last.getLast? = some tilde) :
    (g.process now opusVersion (bulkRequest (names ++ [last]))).2 = ascii "OK" := by
  have hasync := (getLast?_bulkRequest names last).mpr hlast
  obtain ⟨front, rfl⟩ := List.getLast?_eq_some_iff.mp hlast
  have hpayload : (bulkRequest (names ++ [front ++ [tilde]])).dropLast =
      bulkRequest (names ++ [front]) := by
    rw [bulkRequest_concat, bulkRequest_concat, ← List.cons_append, ← List.append_assoc,
      List.dropLast_concat]
  rw [Globals.process, if_neg (bulkRequest_ne_nil _ _), if_neg (not_not.mpr hasync), hpayload]
  dsimp only
  rw [firstToken_bulkRequest, if_neg (by decide), if_neg (by decide), if_neg (by decide)]

end Request

/-- The answer is aligned exactly if the last name does not end with the mark of an asynchronous
call. -/
theorem bulk_query_aligned_iff (g : Globals) (now : Time) (opusVersion : Bytes)
    {names : List Bytes} (hsome : names ≠ []) (htab : ∀ nickname ∈ names, tab ∉ nickname) :
    Aligned g.state names (g.process now opusVersion (bulkRequest names)).2 ↔
      (names.getLast hsome).getLast? ≠ some tilde := by
  obtain ⟨front, last, rfl⟩ : ∃ front last, names = front ++ [last] :=
    ⟨names.dropLast, names.getLast hsome, (List.dropLast_append_getLast hsome).symm⟩
  rw [List.getLast_append_singleton]
  constructor
  · intro haligned hlast
    have hgroups := haligned.groups
    rw [process_bulkRequest_tilde front last g now opusVersion hlast] at hgroups
    have hlength := congrArg List.length hgroups
    rw [length_speakingGroups] at hlength
    have htwo : (ascii "OK").length = 2 := by decide
    omega
  · intro hlast
    rw [process_bulkRequest g now opusVersion htab hlast]
    exact aligned_groups g.state _

theorem ann_and_bob_aligned :
    Aligned {} [ascii "Ann", ascii "Bob"]
        (Globals.process {} 0 [] (bulkRequest [ascii "Ann", ascii "Bob"])).2 ↔
      (ascii "Bob").getLast? ≠ some tilde :=
  bulk_query_aligned_iff {} 0 [] (List.cons_ne_nil _ _) (by decide)

/-- A player called `Bob~` at the end of the list: the answer is OK for everybody. -/
theorem bob_tilde_not_aligned :
    ¬ ∀ (g : Globals) (now : Time) (opusVersion : Bytes) (names : List Bytes), names ≠ [] →
      (∀ nickname ∈ names, tab ∉ nickname) →
        Aligned g.state names (g.process now opusVersion (bulkRequest names)).2 := by
  intro hclaim
  have haligned := hclaim {} 0 [] [ascii "Ann", ascii "Bob~"] (List.cons_ne_nil _ _) (by decide)
  have hanswer := process_bulkRequest_tilde [ascii "Ann"] (ascii "Bob~") {} 0 [] (by decide)
  have hgroups := haligned.groups
  rw [show [ascii "Ann", ascii "Bob~"] = [ascii "Ann"] ++ [ascii "Bob~"] from rfl, hanswer]
    at hgroups
  have hlength := congrArg List.length hgroups
  rw [length_speakingGroups] at hlength
  exact absurd hlength (by decide)

end TaskForceRadio.Addon
