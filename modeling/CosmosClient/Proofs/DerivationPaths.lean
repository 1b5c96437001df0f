import Mathlib
import CosmosClient.DerivationPath
import CosmosClient.Proofs.CoinReading
import CosmosClient.Proofs.TextSearch

/-!
# Derivation paths as texts

A path is read from exactly the texts of its shape, and so from the text it is written as. A reader of
steps finds in that text the steps of the path; there are some exactly when each number of the path is
small enough to be marked.
-/

namespace CosmosClient.DerivationPath

/-- A text of the shape of a path, with texts that are read as its numbers. -/
def Spells (cs : List Char) (p : DerivationPath) : Prop :=
  ∃ coinType account index,
    cs = head.toList ++ coinType ++ ['\x27', '/'] ++ account ++ ['\x27', '/', '0', '/'] ++ index ∧
      Number.readUInt32 coinType = .ok p.coinType ∧ Number.readUInt32 account = .ok p.account ∧
      Number.readUInt32 index = .ok p.index

/-- Whether every number of a path is small enough to be marked. -/
def Fits (p : DerivationPath) : Prop :=
  p.coinType.toNat < 2 ^ 31 ∧ p.account.toNat < 2 ^ 31 ∧ p.index.toNat < 2 ^ 31

/-- The text of a step: a number below `2^31`, with a mark behind it if `2^31` is to be added. -/
inductive StepText : List Char → Nat → Prop where
  | plain {digits : List Char} {n : UInt32} (hread : Number.readUInt32 digits = .ok n)
      (hfits : n.toNat < 2 ^ 31) : StepText digits n.toNat
  | marked {digits : List Char} {n : UInt32} {mark : Char} (hread : Number.readUInt32 digits = .ok n)
      (hfits : n.toNat < 2 ^ 31) (hmark : mark = '\x27' ∨ mark = 'h') :
      StepText (digits ++ [mark]) (2 ^ 31 + n.toNat)

/-- A reader of steps accepts exactly an `m` with a slash and the text of a step for each step. -/
def ReadsSteps (readSteps : String → Except Failure (List Nat)) : Prop :=
  ∀ s steps, readSteps s = .ok steps ↔
    ∃ parts, s.toList.splitOn '/' = ['m'] :: parts ∧ List.Forall₂ StepText parts steps

/-- The steps that a reader of steps finds in the text of a path. -/
def stepsBy (readSteps : String → Except Failure (List Nat)) (p : DerivationPath) :
    Except Failure (List Nat) :=
  inContext s!"Generated an invalid derivation path: {p.write}" (readSteps p.write)

/-- The numbers of the steps of a path, and which of them have a mark. -/
def parts (p : DerivationPath) : List (UInt32 × Bool) :=
  [(44, true), (p.coinType, true), (p.account, true), (0, false), (p.index, false)]

def partChars (part : UInt32 × Bool) : List Char :=
  Number.digits part.1.toNat ++ if part.2 then ['\x27'] else []

def partStep (part : UInt32 × Bool) : Nat :=
  if part.2 then 2 ^ 31 + part.1.toNat else part.1.toNat

def readNumber (cs : List Char) : Except Failure Nat :=
  match Number.readUInt32 cs with
  | .ok n => step n
  | .error _ => .error (Failure.text "invalid child number format")

def readStep (cs : List Char) : Except Failure Nat :=
  if cs.getLast? = some '\x27' ∨ cs.getLast? = some 'h' then
    (readNumber cs.dropLast).map fun n => marked + n
  else readNumber cs

def readSteps (s : String) : Except Failure (List Nat) :=
  match Text.split '/' s.toList with
  | ['m'] :: parts => parts.mapM readStep
  | _ => .error (Failure.text "invalid derivation path format")

end CosmosClient.DerivationPath

namespace CosmosClient.Proofs
open DerivationPath

lemma readUInt32_digits (n : UInt32) : Number.readUInt32 (Number.digits n.toNat) = .ok n := by
  have hle : n.toNat ≤ UInt32.size - 1 := Nat.le_sub_one_of_lt n.toNat_lt_size
  rw [Number.readUInt32, readNat_digits hle, map_ok, UInt32.ofNat_toNat]

lemma mem_readUInt32 {cs : List Char} {n : UInt32} (h : Number.readUInt32 cs = .ok n) :
    ∀ c ∈ cs, c.isDigit ∨ c = '+' := by
  obtain ⟨k, hk, -⟩ := map_eq_ok.1 h
  exact mem_readNat hk

/-- What separates the parts of a path is in none of its numbers. -/
lemma not_mem_number {cs : List Char} {n : UInt32} (h : Number.readUInt32 cs = .ok n) {c : Char}
    (hc : c = '/' ∨ c = '\x27' ∨ c = 'h') : c ∉ cs := by
  intro hmem
  have hnumber := mem_readUInt32 h c hmem
  rcases hc with rfl | rfl | rfl <;> exact absurd hnumber (by decide)

lemma readMarked_eq_ok {cs : List Char} {n : UInt32} :
    readMarked cs = .ok n ↔ ∃ digits, cs = digits ++ ['\x27'] ∧ Number.readUInt32 digits = .ok n := by
  rw [readMarked]
  cases hstrip : Text.stripEnd? ['\x27'] cs with
  | none =>
    refine iff_of_false (by simp) ?_
    rintro ⟨digits, hcs, -⟩
    rw [stripEnd?_eq_some.2 hcs] at hstrip
    simp at hstrip
  | some front =>
    obtain rfl := stripEnd?_eq_some.1 hstrip
    simp only [mapError_eq_ok, List.append_cancel_right_eq]
    exact ⟨fun h => ⟨front, rfl, h⟩, by rintro ⟨_, rfl, h⟩; exact h⟩

lemma splitOn_eq {sep : Char} {cs : List Char} {pieces : List (List Char)}
    (hcs : cs = [sep].intercalate pieces) (hpieces : ∀ piece ∈ pieces, sep ∉ piece)
    (hne : pieces ≠ []) : cs.splitOn sep = pieces := by
  rw [hcs, List.splitOn_intercalate sep hpieces hne]

/-- The parts of a path between its slashes. -/
lemma splitOn_path {coinType account index : List Char} (hcoinType : '/' ∉ coinType)
    (haccount : '/' ∉ account) (hindex : '/' ∉ index) :
    (coinType ++ ['\x27', '/'] ++ account ++ ['\x27', '/', '0', '/'] ++ index).splitOn '/' =
      [coinType ++ ['\x27'], account ++ ['\x27'], ['0'], index] := by
  refine splitOn_eq ?_ (by simp [hcoinType, haccount, hindex]) (by simp)
  simp [List.intercalate]

lemma pathRead_eq_ok {s : String} {p : DerivationPath} :
    DerivationPath.read s = .ok p ↔ Spells s.toList p := by
  rw [DerivationPath.read, inContext, mapError_eq_ok]
  constructor
  · intro h
    split at h
    next => simp at h
    next rest hstrip =>
      split at h
      next coinType account index hsplit =>
        simp only [bind_eq_ok, readMarked_eq_ok, mapError_eq_ok, pure_eq_ok] at h
        obtain ⟨_, ⟨coinType, rfl, hcoinType⟩, _, ⟨account, rfl, haccount⟩, _, hindex, rfl⟩ := h
        refine ⟨_, _, _, ?_, hcoinType, haccount, hindex⟩
        have hrest : ['/'].intercalate (rest.splitOn '/') = rest := List.intercalate_splitOn '/'
        rw [strip?_eq_some.1 hstrip, ← hrest, ← split_eq_splitOn, hsplit]
        simp [List.intercalate]
      next => simp at h
  · rintro ⟨coinType, account, index, hs, hcoinType, haccount, hindex⟩
    have hrest : s.toList = head.toList ++
        (coinType ++ ['\x27', '/'] ++ account ++ ['\x27', '/', '0', '/'] ++ index) := by
      simpa using hs
    rw [strip?_eq_some.2 hrest]
    simp only [split_eq_splitOn, splitOn_path (not_mem_number hcoinType (.inl rfl))
      (not_mem_number haccount (.inl rfl)) (not_mem_number hindex (.inl rfl)),
      readMarked_eq_ok.2 ⟨_, rfl, hcoinType⟩, readMarked_eq_ok.2 ⟨_, rfl, haccount⟩, hindex]
    rfl

lemma spells_chars (p : DerivationPath) : Spells p.chars p :=
  ⟨_, _, _, rfl, readUInt32_digits _, readUInt32_digits _, readUInt32_digits _⟩

/-- A path is read back from the text it is written as. -/
theorem pathRead_write (p : DerivationPath) : DerivationPath.read p.write = .ok p := by
  rw [pathRead_eq_ok, DerivationPath.write, String.toList_ofList]
  exact spells_chars p

lemma step_eq_ok {n : UInt32} {k : Nat} : step n = .ok k ↔ n.toNat < 2 ^ 31 ∧ n.toNat = k := by
  rw [step, DerivationPath.marked]
  split <;> simp_all

lemma steps_eq_ok {p : DerivationPath} {steps : List Nat} :
    p.steps = .ok steps ↔ p.Fits ∧
      steps = [2 ^ 31 + 44, 2 ^ 31 + p.coinType.toNat, 2 ^ 31 + p.account.toNat, 0, p.index.toNat] := by
  simp only [DerivationPath.steps, inContext, mapError_eq_ok, bind_eq_ok, step_eq_ok, pure_eq_ok]
  constructor
  · rintro ⟨_, ⟨hcoinType, rfl⟩, _, ⟨haccount, rfl⟩, _, ⟨hindex, rfl⟩, rfl⟩
    exact ⟨⟨hcoinType, haccount, hindex⟩, rfl⟩
  · rintro ⟨⟨hcoinType, haccount, hindex⟩, rfl⟩
    exact ⟨_, ⟨hcoinType, rfl⟩, _, ⟨haccount, rfl⟩, _, ⟨hindex, rfl⟩, rfl⟩

/-- Since no number ends in a mark, the text of a step is the text of no other step. -/
lemma stepText_iff {part : UInt32 × Bool} {k : Nat} :
    StepText (partChars part) k ↔ part.1.toNat < 2 ^ 31 ∧ partStep part = k := by
  obtain ⟨n, hasMark⟩ := part
  have hread := readUInt32_digits n
  constructor
  · intro hstep
    generalize hcs : partChars (n, hasMark) = cs at hstep
    cases hstep with
    | plain hread' hfits =>
      subst hcs
      cases hasMark with
      | false =>
        rw [partChars, if_neg (by simp), List.append_nil] at hread'
        obtain rfl := Except.ok.inj (hread.symm.trans hread')
        exact ⟨hfits, rfl⟩
      | true => exact absurd (by simp [partChars]) (not_mem_number hread' (.inr (.inl rfl)))
    | marked hread' hfits hmark =>
      cases hasMark with
      | false =>
        rw [partChars, if_neg (by simp), List.append_nil] at hcs
        exact absurd (by simp [hcs]) (not_mem_number hread (.inr hmark))
      | true =>
        obtain ⟨rfl, -⟩ := List.append_inj' hcs rfl
        obtain rfl := Except.ok.inj (hread.symm.trans hread')
        exact ⟨hfits, rfl⟩
  · rintro ⟨hfits, rfl⟩
    cases hasMark with
    | false =>
      rw [partChars, if_neg (by simp), List.append_nil]
      exact .plain hread hfits
    | true => exact .marked hread hfits (.inl rfl)

lemma forall₂_stepText {parts : List (UInt32 × Bool)} {steps : List Nat} :
    List.Forall₂ StepText (parts.map partChars) steps ↔
      (∀ part ∈ parts, part.1.toNat < 2 ^ 31) ∧ parts.map partStep = steps := by
  induction parts generalizing steps with
  | nil => simp [eq_comm]
  | cons part parts ih =>
    rw [List.map_cons, List.forall₂_cons_left_iff, List.forall_mem_cons, List.map_cons]
    constructor
    · rintro ⟨k, rest, hpart, hrest, rfl⟩
      obtain ⟨hfits, rfl⟩ := stepText_iff.1 hpart
      obtain ⟨hall, rfl⟩ := ih.1 hrest
      exact ⟨⟨hfits, hall⟩, rfl⟩
    · rintro ⟨⟨hfits, hall⟩, rfl⟩
      exact ⟨_, _, stepText_iff.2 ⟨hfits, rfl⟩, ih.2 ⟨hall, rfl⟩, rfl⟩

lemma splitOn_write (p : DerivationPath) :
    p.write.toList.splitOn '/' = ['m'] :: p.parts.map partChars := by
  have hdigits (n : Nat) : '/' ∉ Number.digits n :=
    fun hmem => absurd (isDigit_of_mem_digits '/' hmem) (by decide)
  have hhead : head.toList = ['m', '/', '4', '4', '\x27', '/'] := by decide
  have hpurpose : Number.digits (44 : UInt32).toNat = ['4', '4'] := by decide
  have hzero : Number.digits (0 : UInt32).toNat = ['0'] := by decide
  rw [DerivationPath.write, String.toList_ofList, DerivationPath.chars, hhead]
  refine splitOn_eq ?_ (by simp [parts, partChars, hdigits]) (by simp)
  simp only [parts, partChars, List.map_cons, List.map_nil, hpurpose, hzero]
  simp [List.intercalate]

/-- A reader of steps finds the steps of a path in its text. -/
theorem stepsBy_eq_ok {readSteps : String → Except Failure (List Nat)} (h : ReadsSteps readSteps)
    {p : DerivationPath} {steps : List Nat} : p.stepsBy readSteps = .ok steps ↔ p.steps = .ok steps := by
  have hfits : (∀ part ∈ p.parts, part.1.toNat < 2 ^ 31) ↔ p.Fits := by
    simp [parts, DerivationPath.Fits]
  rw [stepsBy, inContext, mapError_eq_ok, h, splitOn_write, steps_eq_ok]
  simp only [List.cons.injEq, true_and, exists_eq_left', forall₂_stepText, hfits]
  exact and_congr_right fun _ => eq_comm

lemma readNumber_eq_ok {cs : List Char} {k : Nat} : readNumber cs = .ok k ↔
    ∃ n, Number.readUInt32 cs = .ok n ∧ n.toNat < 2 ^ 31 ∧ n.toNat = k := by
  rw [readNumber]
  cases hread : Number.readUInt32 cs with
  | ok n => simp [step_eq_ok]
  | error fault => simp

lemma readStep_eq_ok {cs : List Char} {k : Nat} : readStep cs = .ok k ↔ StepText cs k := by
  rw [readStep]
  constructor
  · intro h
    split at h
    next hmark =>
      obtain ⟨_, hnumber, rfl⟩ := map_eq_ok.1 h
      obtain ⟨n, hread, hfits, rfl⟩ := readNumber_eq_ok.1 hnumber
      obtain ⟨mark, hlast, hmark⟩ : ∃ mark, cs.getLast? = some mark ∧ (mark = '\x27' ∨ mark = 'h') :=
        hmark.elim (fun hlast => ⟨_, hlast, .inl rfl⟩) fun hlast => ⟨_, hlast, .inr rfl⟩
      rw [← List.dropLast_append_getLast? mark hlast]
      exact .marked hread hfits hmark
    next =>
      obtain ⟨n, hread, hfits, rfl⟩ := readNumber_eq_ok.1 h
      exact .plain hread hfits
  · intro h
    cases h with
    | plain hread hfits =>
      rw [if_neg]
      · exact readNumber_eq_ok.2 ⟨_, hread, hfits, rfl⟩
      · rintro (hlast | hlast)
        · exact not_mem_number hread (.inr (.inl rfl)) (List.mem_of_getLast? hlast)
        · exact not_mem_number hread (.inr (.inr rfl)) (List.mem_of_getLast? hlast)
    | marked hread hfits hmark =>
      rw [if_pos (by simpa using hmark), List.dropLast_concat, map_eq_ok]
      exact ⟨_, readNumber_eq_ok.2 ⟨_, hread, hfits, rfl⟩, rfl⟩

lemma readsSteps_readSteps : ReadsSteps readSteps := by
  intro s steps
  have hparts (parts : List (List Char)) :
      List.Forall₂ StepText parts steps ↔ parts.mapM readStep = .ok steps := by
    rw [mapM_eq_ok]
    exact ⟨.imp fun _ _ => readStep_eq_ok.2, .imp fun _ _ => readStep_eq_ok.1⟩
  rw [readSteps, split_eq_splitOn]
  split
  next parts hsplit => simp [hsplit, hparts]
  next hother =>
    refine iff_of_false (by simp) ?_
    rintro ⟨parts, hsplit, -⟩
    exact hother parts hsplit

end CosmosClient.Proofs
