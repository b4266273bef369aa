import Mathlib.Data.List.TakeWhile
import TaskForceRadio.Extension.Command

/-!
# Joined tokens

What the SQF side joins with a delimiter, `split` takes apart again. The loops of `Util.cpp` walk
over indices; they collect the tokens of `split` and `splitLimit`.
-/

set_option autoImplicit false

namespace TaskForceRadio.Extension

/-- The tokens with the delimiter between them. -/
def joinTokens (delim : UInt8) : List Bytes → Bytes
  | [] => []
  | [token] => token
  | token :: next :: rest => token ++ delim :: joinTokens delim (next :: rest)

section Tokens
variable {delim : UInt8}

private theorem takeWhile_last_token {token : Bytes} (h : delim ∉ token) :
    token.takeWhile (fun b => b != delim) = token := by
  rw [List.takeWhile_eq_self_iff]
  intro b hb
  exact bne_iff_ne.mpr (ne_of_mem_of_not_mem hb h)

private theorem takeWhile_token {token : Bytes} (h : delim ∉ token) (rest : Bytes) :
    (token ++ delim :: rest).takeWhile (fun b => b != delim) = token := by
  have hkept : ∀ b ∈ token, (b != delim) = true :=
    fun b hb => bne_iff_ne.mpr (ne_of_mem_of_not_mem hb h)
  rw [List.takeWhile_append_of_pos hkept, List.takeWhile_cons_of_neg (by simp), List.append_nil]

private theorem tokenRounds_joinTokens (rounds : Nat) {tokens : List Bytes} (hsome : tokens ≠ [])
    (h : ∀ token ∈ tokens, delim ∉ token) :
    tokenRounds delim rounds (joinTokens delim tokens) = tokens.take rounds := by
  induction rounds generalizing tokens with
  | zero => rfl
  | succ rounds ih =>
    cases tokens with
    | nil => exact absurd rfl hsome
    | cons token rest =>
      have htoken := h token List.mem_cons_self
      cases rest with
      | nil => simp [tokenRounds, joinTokens, takeWhile_last_token htoken]
      | cons next rest =>
        have hrest := ih (List.cons_ne_nil next rest)
          (fun t ht => h t (List.mem_cons_of_mem _ ht))
        simp only [tokenRounds, joinTokens, takeWhile_token htoken, List.drop_left, hrest,
          List.take_succ_cons]

private theorem length_joinTokens (tokens : List Bytes) :
    tokens.length ≤ (joinTokens delim tokens).length + 1 := by
  induction tokens with
  | nil => exact Nat.zero_le _
  | cons token rest ih =>
    cases rest with
    | nil => exact Nat.succ_le_succ (Nat.zero_le _)
    | cons next rest =>
      simp only [joinTokens, List.length_cons, List.length_append] at ih ⊢
      omega

theorem split_joinTokens {tokens : List Bytes} (hsome : tokens ≠ [])
    (h : ∀ token ∈ tokens, delim ∉ token) :
    split (joinTokens delim tokens) delim = tokens := by
  rw [split, tokenRounds_joinTokens _ hsome h]
  exact List.take_of_length_le (length_joinTokens tokens)

theorem splitLimit_joinTokens (maxTokens : Nat) {tokens : List Bytes} (hsome : tokens ≠ [])
    (h : ∀ token ∈ tokens, delim ∉ token) :
    splitLimit (joinTokens delim tokens) delim maxTokens = tokens.take maxTokens :=
  tokenRounds_joinTokens maxTokens hsome h

private theorem tokenRounds_succ (rounds : Nat) (s : Bytes) :
    tokenRounds delim (rounds + 1) s =
      s.takeWhile (fun b => b != delim) ::
        match s.dropWhile (fun b => b != delim) with
        | [] => []
        | _ :: later => tokenRounds delim rounds later := by
  have hrest : s.drop (s.takeWhile (fun b => b != delim)).length =
      s.dropWhile (fun b => b != delim) := by
    rw [List.dropWhile_eq_drop_findIdx_not, List.takeWhile_eq_take_findIdx_not, List.length_take,
      Nat.min_eq_left List.findIdx_le_length]
  simp only [tokenRounds, hrest]
  cases s.dropWhile (fun b => b != delim) <;> rfl

private theorem notMem_takeWhile (s : Bytes) : delim ∉ s.takeWhile (fun b => b != delim) := by
  intro hmem
  have hall := List.all_takeWhile (p := fun b => b != delim) (l := s)
  have hne := List.all_eq_true.mp hall delim hmem
  simp at hne

private theorem eq_delim_of_dropWhile {s later : Bytes} {b : UInt8}
    (h : s.dropWhile (fun b => b != delim) = b :: later) : b = delim := by
  have hhead := List.head?_dropWhile_not (fun b => b != delim) s
  rw [h] at hhead
  simpa using hhead

private theorem notMem_of_mem_tokenRounds {rounds : Nat} {s token : Bytes}
    (h : token ∈ tokenRounds delim rounds s) : delim ∉ token := by
  induction rounds generalizing s with
  | zero => cases h
  | succ rounds ih =>
    rw [tokenRounds_succ] at h
    rcases List.mem_cons.mp h with rfl | h
    · exact notMem_takeWhile s
    · split at h
      · cases h
      · exact ih h

private theorem joinTokens_tokenRounds {rounds : Nat} {s : Bytes} (h : s.length < rounds) :
    joinTokens delim (tokenRounds delim rounds s) = s := by
  induction rounds generalizing s with
  | zero => omega
  | succ rounds ih =>
    have hsplit := List.takeWhile_append_dropWhile (p := fun b => b != delim) (l := s)
    rw [tokenRounds_succ]
    cases hrest : s.dropWhile (fun b => b != delim) with
    | nil =>
      rw [hrest, List.append_nil] at hsplit
      exact hsplit
    | cons b later =>
      have hb := eq_delim_of_dropWhile hrest
      rw [hrest, hb] at hsplit
      have hlength := congrArg List.length hsplit
      simp only [List.length_append, List.length_cons] at hlength
      have hlater := ih (s := later) (by omega)
      dsimp only
      obtain ⟨rounds, rfl⟩ : ∃ n, rounds = n + 1 := ⟨rounds - 1, by omega⟩
      rw [tokenRounds_succ] at hlater ⊢
      rw [joinTokens, hlater]
      exact hsplit

private theorem split_ne_nil (s : Bytes) : split s delim ≠ [] := by
  rw [split, tokenRounds_succ]
  exact List.cons_ne_nil _ _

theorem joinTokens_split (s : Bytes) : joinTokens delim (split s delim) = s :=
  joinTokens_tokenRounds (Nat.lt_succ_self _)

theorem notMem_of_mem_split {s token : Bytes} (h : token ∈ split s delim) : delim ∉ token :=
  notMem_of_mem_tokenRounds h

private theorem splitLimit_eq_take (s : Bytes) (maxTokens : Nat) :
    splitLimit s delim maxTokens = (split s delim).take maxTokens := by
  have hfree : ∀ token ∈ split s delim, delim ∉ token := fun _ => notMem_of_mem_split
  have h := splitLimit_joinTokens maxTokens (split_ne_nil s) hfree
  rw [joinTokens_split] at h
  exact h

theorem joinTokens_eq_nil {tokens : List Bytes} (h : joinTokens delim tokens = []) :
    tokens = [] ∨ tokens = [[]] := by
  cases tokens with
  | nil => exact Or.inl rfl
  | cons token rest =>
    cases rest with
    | nil => exact Or.inr (congrArg (fun t => [t]) h)
    | cons next rest => simp [joinTokens] at h

private theorem mem_joinTokens {b : UInt8} {tokens : List Bytes} (h : b ∈ joinTokens delim tokens) :
    b = delim ∨ ∃ token ∈ tokens, b ∈ token := by
  induction tokens with
  | nil => cases h
  | cons token rest ih =>
    cases rest with
    | nil => exact Or.inr ⟨token, List.mem_cons_self, h⟩
    | cons next rest =>
      rcases List.mem_append.mp h with h | h
      · exact Or.inr ⟨token, List.mem_cons_self, h⟩
      · rcases List.mem_cons.mp h with rfl | h
        · exact Or.inl rfl
        · rcases ih h with heq | ⟨t, ht, hb⟩
          · exact Or.inl heq
          · exact Or.inr ⟨t, List.mem_cons_of_mem _ ht, hb⟩

theorem notMem_joinTokens {b : UInt8} (hne : b ≠ delim) {tokens : List Bytes}
    (h : ∀ token ∈ tokens, b ∉ token) : b ∉ joinTokens delim tokens := by
  intro hmem
  rcases mem_joinTokens hmem with heq | ⟨token, htoken, hb⟩
  · exact hne heq
  · exact h token htoken hb

end Tokens

/-- `find_first_of` for one character: the first position from `lastPos` on. -/
def findFirstOf (s : Bytes) (delim : UInt8) (lastPos : Nat) : Option Nat :=
  ((s.drop lastPos).findIdx? (fun b => b == delim)).map (fun i => lastPos + i)

/-- Where the token that starts at `lastPos` ends; `npos` is replaced by the length. -/
def tokenEnd (s : Bytes) (delim : UInt8) (lastPos : Nat) : Nat :=
  (findFirstOf s delim lastPos).getD s.length

/-- `emplace_back(s, lastPos, pos - lastPos)` -/
def tokenAt (s : Bytes) (delim : UInt8) (lastPos : Nat) : Bytes :=
  (s.drop lastPos).take (tokenEnd s delim lastPos - lastPos)

private theorem le_tokenEnd {s : Bytes} (delim : UInt8) {lastPos : Nat}
    (h : lastPos < s.length + 1) :
    lastPos ≤ tokenEnd s delim lastPos := by
  simp only [tokenEnd, findFirstOf]
  cases (s.drop lastPos).findIdx? (fun b => b == delim) with
  | none => exact Nat.le_of_lt_succ h
  | some i => exact Nat.le_add_right _ _

/-- The loop of `split`. -/
def splitLoop (s : Bytes) (delim : UInt8) (lastPos : Nat) (elems : List Bytes) : List Bytes :=
  if _h : lastPos < s.length + 1 then
    splitLoop s delim (tokenEnd s delim lastPos + 1) (elems ++ [tokenAt s delim lastPos])
  else elems
termination_by s.length + 1 - lastPos
decreasing_by
  have := le_tokenEnd delim _h
  omega

/-- The loop of `splitLimit`. -/
def splitLimitLoop (s : Bytes) (delim : UInt8) (maxTokens lastPos : Nat) (elems : List Bytes) :
    List Bytes :=
  if _h : lastPos < s.length + 1 then
    let elems := elems ++ [tokenAt s delim lastPos]
    if elems.length ≥ maxTokens then elems
    else splitLimitLoop s delim maxTokens (tokenEnd s delim lastPos + 1) elems
  else elems
termination_by s.length + 1 - lastPos
decreasing_by
  have := le_tokenEnd delim _h
  omega

section Loops
variable {s : Bytes} {delim : UInt8}

private theorem tokenEnd_eq {lastPos : Nat} (h : lastPos < s.length + 1) :
    tokenEnd s delim lastPos = lastPos + (s.drop lastPos).findIdx (fun b => b == delim) := by
  rw [List.findIdx_eq_getD_findIdx?, tokenEnd, findFirstOf]
  cases (s.drop lastPos).findIdx? (fun b => b == delim) with
  | none =>
    simp only [Option.map_none, Option.getD_none, List.length_drop]
    omega
  | some i => rfl

private theorem tokenAt_eq {lastPos : Nat} (h : lastPos < s.length + 1) :
    tokenAt s delim lastPos = (s.drop lastPos).takeWhile (fun b => b != delim) := by
  rw [tokenAt, tokenEnd_eq h, Nat.add_sub_cancel_left, List.takeWhile_eq_take_findIdx_not]
  simp only [bne, Bool.not_not]

/-- The rounds that a loop at `lastPos` still makes: none once it is past the end. -/
def roundsFrom (s : Bytes) (delim : UInt8) (rounds lastPos : Nat) : List Bytes :=
  if lastPos < s.length + 1 then tokenRounds delim rounds (s.drop lastPos) else []

private theorem roundsFrom_succ {lastPos : Nat} (h : lastPos < s.length + 1) (rounds : Nat) :
    roundsFrom s delim (rounds + 1) lastPos =
      tokenAt s delim lastPos :: roundsFrom s delim rounds (tokenEnd s delim lastPos + 1) := by
  have hdrop : (s.drop lastPos).dropWhile (fun b => b != delim) =
      s.drop (tokenEnd s delim lastPos) := by
    rw [List.dropWhile_eq_drop_findIdx_not, List.drop_drop, tokenEnd_eq h]
    simp only [bne, Bool.not_not]
  rw [roundsFrom, if_pos h, tokenRounds_succ, ← tokenAt_eq h, hdrop, roundsFrom]
  by_cases hend : tokenEnd s delim lastPos + 1 < s.length + 1
  · rw [if_pos hend, List.drop_eq_getElem_cons (by omega)]
  · rw [if_neg hend, List.drop_eq_nil_of_le (by omega)]

private theorem splitLoop_eq (rounds lastPos : Nat) (elems : List Bytes)
    (h : s.length + 1 ≤ rounds + lastPos) :
    splitLoop s delim lastPos elems = elems ++ roundsFrom s delim rounds lastPos := by
  induction rounds generalizing lastPos elems with
  | zero =>
    rw [splitLoop, dif_neg (by omega), roundsFrom, if_neg (by omega), List.append_nil]
  | succ rounds ih =>
    rw [splitLoop]
    split
    · rename_i hround
      have hend := le_tokenEnd delim hround
      rw [ih _ _ (by omega), roundsFrom_succ hround, List.append_assoc]
      rfl
    · rename_i hround
      rw [roundsFrom, if_neg hround, List.append_nil]

private theorem splitLimitLoop_eq {maxTokens : Nat} (lastPos : Nat) (elems : List Bytes)
    (h : elems.length < maxTokens) :
    splitLimitLoop s delim maxTokens lastPos elems =
      elems ++ roundsFrom s delim (maxTokens - elems.length) lastPos := by
  obtain ⟨rounds, hrounds⟩ : ∃ n, maxTokens - elems.length = n + 1 :=
    ⟨maxTokens - elems.length - 1, by omega⟩
  rw [hrounds]
  induction rounds generalizing lastPos elems with
  | zero =>
    rw [splitLimitLoop]
    split
    · rename_i hround
      have hfull : (elems ++ [tokenAt s delim lastPos]).length ≥ maxTokens := by
        rw [List.length_append, List.length_singleton]
        omega
      dsimp only
      rw [if_pos hfull, roundsFrom_succ hround]
      simp [roundsFrom, tokenRounds]
    · rename_i hround
      rw [roundsFrom, if_neg hround, List.append_nil]
  | succ rounds ih =>
    rw [splitLimitLoop]
    split
    · rename_i hround
      have hlength : (elems ++ [tokenAt s delim lastPos]).length = elems.length + 1 := by
        rw [List.length_append, List.length_singleton]
      dsimp only
      rw [if_neg (by omega), ih _ _ (by omega) (by omega), roundsFrom_succ hround,
        List.append_assoc]
      rfl
    · rename_i hround
      rw [roundsFrom, if_neg hround, List.append_nil]

end Loops

/-- `split`, as the source runs it. -/
def splitByIndex (s : Bytes) (delim : UInt8) : List Bytes := splitLoop s delim 0 []

/-- `splitLimit`, as the source runs it. -/
def splitLimitByIndex (s : Bytes) (delim : UInt8) (maxTokens : Nat) : List Bytes :=
  if maxTokens = 0 then [] else splitLimitLoop s delim maxTokens 0 []

private theorem splitByIndex_eq (s : Bytes) (delim : UInt8) :
    splitByIndex s delim = split s delim := by
  rw [splitByIndex, splitLoop_eq (s.length + 1) 0 [] (Nat.le_refl _), roundsFrom,
    if_pos (Nat.succ_pos _)]
  rfl

private theorem splitLimitByIndex_eq (s : Bytes) (delim : UInt8) (maxTokens : Nat) :
    splitLimitByIndex s delim maxTokens = splitLimit s delim maxTokens := by
  rw [splitLimitByIndex]
  split
  · rename_i hzero
    rw [hzero]
    rfl
  · rename_i hzero
    rw [splitLimitLoop_eq 0 [] (Nat.pos_of_ne_zero hzero), roundsFrom, if_pos (Nat.succ_pos _)]
    rfl

/-- Splitting is the inverse of joining, and the limit only cuts the list. -/
theorem tokeniser_laws (delim : UInt8) :
    (∀ s, splitByIndex s delim ≠ [] ∧ (∀ token ∈ splitByIndex s delim, delim ∉ token) ∧
      joinTokens delim (splitByIndex s delim) = s) ∧
    (∀ tokens : List Bytes, tokens ≠ [] → (∀ token ∈ tokens, delim ∉ token) →
      splitByIndex (joinTokens delim tokens) delim = tokens) ∧
    ∀ s maxTokens,
      splitLimitByIndex s delim maxTokens = (splitByIndex s delim).take maxTokens ∧
      ∀ token ∈ splitLimitByIndex s delim maxTokens, delim ∉ token := by
  refine ⟨?_, ?_, ?_⟩
  · intro s
    rw [splitByIndex_eq]
    exact ⟨split_ne_nil s, fun _ => notMem_of_mem_split, joinTokens_split s⟩
  · intro tokens hsome htokens
    rw [splitByIndex_eq]
    exact split_joinTokens hsome htokens
  · intro s maxTokens
    rw [splitByIndex_eq, splitLimitByIndex_eq]
    exact ⟨splitLimit_eq_take s maxTokens, fun _ => notMem_of_mem_tokenRounds⟩

/-- An empty token in the middle and one at the end. -/
example : splitByIndex (ascii "a||") 0x7C = [ascii "a", [], []] := by
  rw [splitByIndex_eq]
  decide

theorem firstToken_joinTokens {command : Bytes} (hcommand : tab ∉ command) {field : Bytes}
    (fields : List Bytes) :
    firstToken (joinTokens tab (command :: field :: fields)) = command :=
  takeWhile_token hcommand _

/-- A call without tabs in its fields reaches its handler field by field. -/
theorem split_command {command : Bytes} (hcommand : tab ∉ command) {fields : List Bytes}
    (hfields : ∀ field ∈ fields, tab ∉ field) :
    split (joinTokens tab (command :: fields)) tab = command :: fields :=
  split_joinTokens (List.cons_ne_nil _ _) (List.forall_mem_cons.mpr ⟨hcommand, hfields⟩)

end TaskForceRadio.Extension
