import Mathlib
import CosmosClient.Proofs.MessageReading
import CosmosClient.Proofs.Results

/-!
# The room that readers have

A reader with room for more levels of messages takes whatever it took with less, and what it takes
nests no deeper than there is room. So the bytes of a message are read back exactly when the message
nests no deeper than the room that is left below it.
-/

namespace CosmosClient.Wire

variable {σ : Type}

/-- Whatever one slot takes, another takes with room for one level more. -/
def Slot.Deepens (slot slot' : Slot σ) : Prop :=
  slot.number = slot'.number ∧ ∀ depth kind bs s r,
    slot.merge depth kind bs s = .ok r → slot'.merge (depth + 1) kind bs s = .ok r

/-- Whatever one reader takes, another takes with room for one level more. -/
def Deepens (m m' : Merge σ) : Prop :=
  ∀ depth behind bs s r, m depth behind bs s = .ok r → m' (depth + 1) behind bs s = .ok r

/-- A slot keeps to a property of values. -/
def Slot.Preserves (P : σ → Prop) (depth : Nat) (slot : Slot σ) : Prop :=
  ∀ kind bs s t rest, slot.merge depth kind bs s = .ok (t, rest) → P s → P t

/-- A reader keeps to a property of values. -/
def Preserves (P : σ → Prop) (depth : Nat) (m : Merge σ) : Prop :=
  ∀ behind bs s t rest, m depth behind bs s = .ok (t, rest) → P s → P t

end CosmosClient.Wire

namespace CosmosClient.Proofs
open Wire

variable {σ α : Type}

lemma skipGroup_mono {f g : Nat → Kind → Bytes → Except Wire.Error Bytes}
    (hfg : ∀ n kind bs r, f n kind bs = .ok r → g n kind bs = .ok r) {number fuel : Nat}
    {bs r : Bytes} (h : skipGroup f number fuel bs = .ok r) :
    skipGroup g number fuel bs = .ok r := by
  induction fuel generalizing bs with
  | zero => exact h
  | succ fuel ih =>
    rw [skipGroup] at h ⊢
    obtain ⟨⟨inner, kind, rest⟩, hkey, h⟩ := bind_eq_ok.1 h
    rw [hkey, ok_bind]
    dsimp only at h ⊢
    split at h
    next hend =>
      rw [if_pos hend]
      exact h
    next hmore =>
      obtain ⟨rest', hskip, h⟩ := bind_eq_ok.1 h
      rw [if_neg hmore, hfg _ _ _ _ hskip, ok_bind]
      exact ih h

lemma skip_deeper {depth number : Nat} {kind : Kind} {bs r : Bytes}
    (h : skip depth number kind bs = .ok r) : skip (depth + 1) number kind bs = .ok r := by
  induction depth generalizing number kind bs r with
  | zero => exact absurd h (by simp [skip, here])
  | succ depth ih =>
    cases kind with
    | groupStart => exact skipGroup_mono (fun n kind bs r hr => ih hr) h
    | varint => exact h
    | fixed64 => exact h
    | delimited => exact h
    | groupEnd => exact h
    | fixed32 => exact h

variable {slots slots' : List (Slot σ)} {message : String} {depth behind : Nat} {bs : Bytes} {s : σ}
  {r : σ × Bytes}

lemma find?_deepens (h : List.Forall₂ Slot.Deepens slots slots') (k : Nat) :
    Option.Rel Slot.Deepens (slots.find? fun x => x.number == k)
      (slots'.find? fun x => x.number == k) := by
  induction h with
  | nil => exact .none
  | @cons slot slot' slots slots' hslot _ ih =>
    rw [List.find?_cons, List.find?_cons, ← hslot.1]
    split
    · exact .some hslot
    · exact ih

lemma mergeField_deeper (hslots : List.Forall₂ Slot.Deepens slots slots')
    (h : mergeField message slots depth bs s = .ok r) :
    mergeField message slots' (depth + 1) bs s = .ok r := by
  unfold mergeField at h ⊢
  obtain ⟨⟨number, kind, rest⟩, hkey, h⟩ := bind_eq_ok.1 h
  rw [hkey, ok_bind]
  dsimp only at h ⊢
  have hfind := find?_deepens hslots number
  generalize slots.find? (fun x => x.number == number) = found at hfind h
  generalize slots'.find? (fun x => x.number == number) = found' at hfind
  cases hfind with
  | none =>
    obtain ⟨rest', hskip, rfl⟩ := map_eq_ok.1 h
    rw [skip_deeper hskip, map_ok]
  | some hslot => exact mapError_eq_ok.2 (hslot.2 _ _ _ _ _ (mapError_eq_ok.1 h))

lemma merge_deeper (hslots : List.Forall₂ Slot.Deepens slots slots')
    (h : Wire.merge message slots depth behind bs s = .ok r) :
    Wire.merge message slots' (depth + 1) behind bs s = .ok r := by
  unfold Wire.merge at h ⊢
  generalize bs.length = fuel at h ⊢
  induction fuel generalizing bs s with
  | zero => exact h
  | succ fuel ih =>
    rw [mergeFields] at h ⊢
    split at h
    next hend => rwa [if_pos hend]
    next hmore =>
      obtain ⟨⟨t, rest⟩, hfield, h⟩ := bind_eq_ok.1 h
      rw [if_neg hmore, mergeField_deeper hslots hfield, ok_bind]
      exact ih h

lemma deepens_merge (hslots : List.Forall₂ Slot.Deepens slots slots') :
    Deepens (Wire.merge message slots) (Wire.merge message slots') :=
  fun _ _ _ _ _ h => merge_deeper hslots h

variable {k : Nat} {name : String}

lemma number_deepens (put : UInt64 → σ → σ) :
    (numberSlot k name put).Deepens (numberSlot k name put) :=
  ⟨rfl, fun _ _ _ _ _ h => h⟩

lemma bytes_deepens (put : Bytes → σ → σ) : (bytesSlot k name put).Deepens (bytesSlot k name put) :=
  ⟨rfl, fun _ _ _ _ _ h => h⟩

lemma text_deepens (put : String → σ → σ) : (textSlot k name put).Deepens (textSlot k name put) :=
  ⟨rfl, fun _ _ _ _ _ h => h⟩

lemma message_deepens {m m' : Merge σ} (h : Deepens m m') :
    (messageSlot k name m).Deepens (messageSlot k name m') := by
  refine ⟨rfl, ?_⟩
  intro depth kind bs s r hr
  obtain ⟨u, hkind, hr⟩ := bind_eq_ok.1 hr
  cases depth with
  | zero => exact absurd hr (by simp [here])
  | succ depth =>
    obtain ⟨⟨n, rest⟩, hlength, hr⟩ := bind_eq_ok.1 hr
    dsimp only at hr
    split at hr
    next hle =>
      obtain ⟨⟨t, rest'⟩, hmerge, hr⟩ := bind_eq_ok.1 hr
      simp only [messageSlot, embedded, hkind, ok_bind, hlength, if_pos hle, h _ _ _ _ _ hmerge, hr]
    next => exact absurd hr (by simp [here])

lemma map_deepens {m m' : Merge α} (h : Deepens m m') (pick : σ → α)
    (give : σ → α × Bytes → σ × Bytes) :
    Deepens (fun depth behind bs s => (m depth behind bs (pick s)).map (give s))
      (fun depth behind bs s => (m' depth behind bs (pick s)).map (give s)) := by
  intro depth behind bs s r hr
  obtain ⟨a, ha, rfl⟩ := map_eq_ok.1 hr
  exact map_eq_ok.2 ⟨a, h _ _ _ _ _ ha, rfl⟩

lemma option_deepens {start : α} {m : Merge α} {get : σ → Option α} {put : α → σ → σ}
    (h : Deepens m m) :
    (optionSlot k name start m get put).Deepens (optionSlot k name start m get put) :=
  message_deepens (map_deepens h (fun s => (get s).getD start) fun s x => (put x.1 s, x.2))

lemma list_deepens {start : α} {m : Merge α} {push : α → σ → σ} (h : Deepens m m) :
    (listSlot k name start m push).Deepens (listSlot k name start m push) :=
  message_deepens (map_deepens h (fun _ => start) fun s x => (push x.1 s, x.2))

lemma any_deepens : Deepens Proto.Any.merge Proto.Any.merge :=
  deepens_merge (.cons (text_deepens _) (.cons (bytes_deepens _) .nil))

lemma coin_deepens : Deepens Proto.Coin.merge Proto.Coin.merge :=
  deepens_merge (.cons (text_deepens _) (.cons (text_deepens _) .nil))

lemma bitArray_deepens : Deepens Proto.BitArray.merge Proto.BitArray.merge :=
  deepens_merge (.cons (number_deepens _) (.cons (bytes_deepens _) .nil))

lemma fee_deepens : Deepens Proto.Fee.merge Proto.Fee.merge :=
  deepens_merge (.cons (list_deepens coin_deepens) (.cons (number_deepens _)
    (.cons (text_deepens _) (.cons (text_deepens _) .nil))))

lemma modeSlots_deepen {inner inner' : Nat → Bytes → Except Wire.Error (Proto.ModeInfo × Bytes)}
    (h : ∀ behind bs r, inner behind bs = .ok r → inner' behind bs = .ok r) :
    List.Forall₂ Slot.Deepens (Proto.ModeInfo.slots inner) (Proto.ModeInfo.slots inner') := by
  have hmember : Deepens (fun (_ : Nat) behind bs (_ : Proto.ModeInfo) => inner behind bs)
      (fun _ behind bs _ => inner' behind bs) := fun _ behind bs _ r hr => h behind bs r hr
  have hmembers : Deepens (Wire.merge "Multi" (Proto.ModeInfo.multiSlots inner))
      (Wire.merge "Multi" (Proto.ModeInfo.multiSlots inner')) :=
    deepens_merge (.cons (option_deepens bitArray_deepens) (.cons (message_deepens
      (map_deepens hmember (fun _ => .unset) fun s x => ((s.1, s.2 ++ [x.1]), x.2))) .nil))
  have hsingle : Deepens (Wire.merge "Single" Proto.ModeInfo.singleSlots)
      (Wire.merge "Single" Proto.ModeInfo.singleSlots) :=
    deepens_merge (.cons (number_deepens _) .nil)
  exact .cons (message_deepens (map_deepens hsingle _ _)) (.cons (message_deepens
    (map_deepens hmembers _ _)) .nil)

lemma modeInfo_deepens : Deepens Proto.ModeInfo.merge Proto.ModeInfo.merge := by
  intro depth
  -- members are read with two levels less
  induction depth using Nat.twoStepInduction with
  | zero =>
    intro behind bs s r h
    exact merge_deeper (modeSlots_deepen fun _ _ _ hr => hr) h
  | one =>
    intro behind bs s r h
    exact merge_deeper (modeSlots_deepen fun _ _ _ hr => absurd hr (by simp [here])) h
  | more depth ih _ =>
    intro behind bs s r h
    exact merge_deeper (modeSlots_deepen fun behind bs r hr => ih behind bs .unset r hr) h

lemma signerInfo_deepens : Deepens Proto.SignerInfo.merge Proto.SignerInfo.merge :=
  deepens_merge (.cons (option_deepens any_deepens) (.cons (option_deepens modeInfo_deepens)
    (.cons (number_deepens _) .nil)))

lemma tip_deepens : Deepens (Wire.merge "Tip" Proto.tipSlots) (Wire.merge "Tip" Proto.tipSlots) :=
  deepens_merge (.cons (list_deepens coin_deepens) (.cons (text_deepens _) .nil))

lemma authInfo_deepens : Deepens Proto.AuthInfo.merge Proto.AuthInfo.merge :=
  deepens_merge (.cons (list_deepens signerInfo_deepens) (.cons (option_deepens fee_deepens)
    (.cons (list_deepens tip_deepens) .nil)))

lemma txBody_deepens : Deepens Proto.TxBody.merge Proto.TxBody.merge :=
  deepens_merge (.cons (list_deepens any_deepens) (.cons (text_deepens _) (.cons (number_deepens _)
    (.cons (list_deepens any_deepens) (.cons (list_deepens any_deepens) .nil)))))

lemma tx_deepens : Deepens Proto.Tx.merge Proto.Tx.merge :=
  deepens_merge (.cons (option_deepens txBody_deepens) (.cons (option_deepens authInfo_deepens)
    (.cons (bytes_deepens _) .nil)))

lemma deepens_le {m : Merge σ} (hm : Deepens m m) {depth depth' : Nat} (hle : depth ≤ depth')
    (h : m depth behind bs s = .ok r) : m depth' behind bs s = .ok r := by
  induction hle with
  | refl => exact h
  | step _ ih => exact hm _ _ _ _ _ ih

/-- What is decoded from the bytes of a value is the value, however deep it nests. -/
lemma eq_of_decode {m : Merge σ} (hm : Deepens m m) {start t u : σ} {b : Bytes} {depth : Nat}
    (hread : ∀ room, depth ≤ room → Reads m room b start t) (h : Proto.decode m start b = .ok u) :
    u = t := by
  obtain ⟨⟨u, rest⟩, hdecode, rfl⟩ := map_eq_ok.1 h
  have hdeep := deepens_le hm (le_max_left maxNesting depth) hdecode
  have hback := hread (max maxNesting depth) (le_max_right _ _) []
  rw [List.append_nil, List.length_nil, hdeep] at hback
  exact congrArg Prod.fst (Except.ok.inj hback)

/-! ### How deep what is read nests -/

variable {P : σ → Prop} {Q : α → Prop} {t : σ} {rest : Bytes}

lemma preserves_field (hslots : ∀ slot ∈ slots, slot.Preserves P depth)
    (h : mergeField message slots depth bs s = .ok (t, rest)) (hs : P s) : P t := by
  obtain ⟨⟨number, kind, bs'⟩, -, h⟩ := bind_eq_ok.1 h
  dsimp only at h
  split at h
  next =>
    obtain ⟨rest', -, hr⟩ := map_eq_ok.1 h
    obtain ⟨rfl, rfl⟩ := Prod.mk.inj hr
    exact hs
  next slot hfind =>
    exact hslots slot (List.mem_of_find?_eq_some hfind) _ _ _ _ _ (mapError_eq_ok.1 h) hs

lemma preserves_merge (hslots : ∀ slot ∈ slots, slot.Preserves P depth) :
    Preserves P depth (Wire.merge message slots) := by
  intro behind bs s t rest h hs
  unfold Wire.merge at h
  generalize bs.length = fuel at h
  induction fuel generalizing bs s with
  | zero =>
    obtain ⟨rfl, rfl⟩ := Prod.mk.inj (Except.ok.inj h)
    exact hs
  | succ fuel ih =>
    rw [mergeFields] at h
    split at h
    · obtain ⟨rfl, rfl⟩ := Prod.mk.inj (Except.ok.inj h)
      exact hs
    · obtain ⟨⟨u, bs'⟩, hfield, h⟩ := bind_eq_ok.1 h
      exact ih _ _ (preserves_field hslots hfield hs) h

lemma number_preserves {put : UInt64 → σ → σ} (h : ∀ n s, P s → P (put n s)) :
    (numberSlot k name put).Preserves P depth := by
  intro kind bs s t rest hr hs
  obtain ⟨_, -, hr⟩ := bind_eq_ok.1 hr
  obtain ⟨⟨n, rest'⟩, -, hr⟩ := bind_eq_ok.1 hr
  obtain ⟨rfl, rfl⟩ := Prod.mk.inj (pure_eq_ok.1 hr)
  exact h _ s hs

lemma bytes_preserves {put : Bytes → σ → σ} (h : ∀ b s, P s → P (put b s)) :
    (bytesSlot k name put).Preserves P depth := by
  intro kind bs s t rest hr hs
  obtain ⟨_, -, hr⟩ := bind_eq_ok.1 hr
  obtain ⟨⟨b, rest'⟩, -, hr⟩ := bind_eq_ok.1 hr
  obtain ⟨rfl, rfl⟩ := Prod.mk.inj (pure_eq_ok.1 hr)
  exact h _ s hs

lemma text_preserves {put : String → σ → σ} (h : ∀ x s, P s → P (put x s)) :
    (textSlot k name put).Preserves P depth := by
  intro kind bs s t rest hr hs
  obtain ⟨_, -, hr⟩ := bind_eq_ok.1 hr
  obtain ⟨⟨b, rest'⟩, -, hr⟩ := bind_eq_ok.1 hr
  dsimp only at hr
  split at hr
  next text _ =>
    obtain ⟨rfl, rfl⟩ := Prod.mk.inj (pure_eq_ok.1 hr)
    exact h text s hs
  next => exact absurd hr (by simp [here])

/-- A message is read with room for one level less than what holds it. -/
lemma message_preserves {m : Merge σ} (h : ∀ room, depth = room + 1 → Preserves P room m) :
    (messageSlot k name m).Preserves P depth := by
  intro kind bs s t rest hr hs
  obtain ⟨_, -, hr⟩ := bind_eq_ok.1 hr
  cases depth with
  | zero => exact absurd hr (by simp [here])
  | succ room =>
    obtain ⟨⟨n, bs'⟩, -, hr⟩ := bind_eq_ok.1 hr
    dsimp only at hr
    split at hr
    next =>
      obtain ⟨⟨u, rest'⟩, hmerge, hr⟩ := bind_eq_ok.1 hr
      dsimp only at hr
      split at hr
      next =>
        obtain ⟨rfl, rfl⟩ := Prod.mk.inj (pure_eq_ok.1 hr)
        exact h room rfl _ _ _ _ _ hmerge hs
      next => exact absurd hr (by simp [here])
    next => exact absurd hr (by simp [here])

lemma map_preserves {m : Merge α} {f : σ → α} {g : σ → α → σ} (hm : Preserves Q depth m)
    (hf : ∀ s, P s → Q (f s)) (hg : ∀ s a, P s → Q a → P (g s a)) :
    Preserves P depth fun depth behind bs s =>
      (m depth behind bs (f s)).map fun r => (g s r.1, r.2) := by
  intro behind bs s t rest hr hs
  obtain ⟨⟨a, rest'⟩, ha, hr⟩ := map_eq_ok.1 hr
  obtain ⟨rfl, rfl⟩ := Prod.mk.inj hr
  exact hg s a hs (hm _ _ _ _ _ ha (hf s hs))

lemma option_preserves {start : α} {m : Merge α} {get : σ → Option α} {put : α → σ → σ}
    (hm : ∀ room, depth = room + 1 → Preserves Q room m)
    (hget : ∀ s, 0 < depth → P s → Q ((get s).getD start))
    (hput : ∀ a s, 0 < depth → P s → Q a → P (put a s)) :
    (optionSlot k name start m get put).Preserves P depth := by
  apply message_preserves
  intro room hroom
  exact map_preserves (f := fun s => (get s).getD start) (g := fun s a => put a s)
    (hm room hroom) (fun s => hget s (by omega)) fun s a => hput a s (by omega)

lemma list_preserves {start : α} {m : Merge α} {push : α → σ → σ}
    (hm : ∀ room, depth = room + 1 → Preserves Q room m) (hstart : 0 < depth → Q start)
    (hpush : ∀ a s, 0 < depth → P s → Q a → P (push a s)) :
    (listSlot k name start m push).Preserves P depth := by
  apply message_preserves
  intro room hroom
  exact map_preserves (f := fun _ => start) (g := fun s a => push a s)
    (hm room hroom) (fun _ _ => hstart (by omega)) fun s a => hpush a s (by omega)

/-- Nothing is asked of what has no messages in it. -/
lemma preserves_true (m : Merge σ) (depth : Nat) : Preserves (fun _ => True) depth m :=
  fun _ _ _ _ _ _ _ => trivial

/-- An invariant that asks nothing of the messages of a list has only to let in one more. -/
lemma leaves_preserved {start : α} {m : Merge α} {push : α → σ → σ}
    (hpush : ∀ a s, 0 < depth → P s → P (push a s)) :
    (listSlot k name start m push).Preserves P depth :=
  list_preserves (fun room _ => preserves_true m room) (fun _ => trivial)
    fun a s hdepth hs _ => hpush a s hdepth hs

lemma leaf_preserved {start : α} {m : Merge α} {get : σ → Option α} {put : α → σ → σ}
    (hput : ∀ a s, 0 < depth → P s → P (put a s)) :
    (optionSlot k name start m get put).Preserves P depth :=
  option_preserves (fun room _ => preserves_true m room) (fun _ _ _ => trivial)
    fun a s hdepth hs _ => hput a s hdepth hs

lemma feeNesting_le {f : Proto.Fee} {n : Nat} : f.nesting ≤ n ↔ ∀ c ∈ f.amount, 0 < n := by
  simp only [Proto.Fee.nesting, below_le_iff, List.forall_mem_map]

lemma multiNesting_le {bits : Option Proto.BitArray} {ms : List Proto.ModeInfo} {n : Nat} :
    (Proto.ModeInfo.multi bits ms).nesting ≤ n + 1 ↔
      (∀ b ∈ bits, 0 < n) ∧ ∀ m ∈ ms, m.nesting < n := by
  simp only [Proto.ModeInfo.nesting, nestings_eq_map, below_le_iff, List.forall_mem_singleton,
    Nat.lt_succ_iff, List.forall_mem_append, List.forall_mem_map, Option.mem_toList, Option.mem_def]

lemma signerNesting_le {s : Proto.SignerInfo} {n : Nat} :
    s.nesting ≤ n ↔ (∀ a ∈ s.publicKey, 0 < n) ∧ ∀ m ∈ s.modeInfo, m.nesting < n := by
  simp only [Proto.SignerInfo.nesting, below_le_iff, List.forall_mem_append, List.forall_mem_map,
    Option.mem_toList, Option.mem_def]

lemma authNesting_le {a : Proto.AuthInfo} {n : Nat} :
    a.nesting ≤ n ↔ (∀ s ∈ a.signerInfos, s.nesting < n) ∧ ∀ f ∈ a.fee, f.nesting < n := by
  simp only [Proto.AuthInfo.nesting, below_le_iff, List.forall_mem_append, List.forall_mem_map,
    Option.mem_toList, Option.mem_def]

lemma bodyNesting_le {b : Proto.TxBody} {n : Nat} : b.nesting ≤ n ↔ ∀ a ∈ b.messages, 0 < n := by
  simp only [Proto.TxBody.nesting, below_le_iff, List.forall_mem_map]

lemma txNesting_le {t : Proto.Tx} {n : Nat} :
    t.nesting ≤ n ↔ (∀ b ∈ t.body, b.nesting < n) ∧ ∀ a ∈ t.authInfo, a.nesting < n := by
  simp only [Proto.Tx.nesting, below_le_iff, List.forall_mem_append, List.forall_mem_map,
    Option.mem_toList, Option.mem_def]

/-- What nests no deeper than there is room lies one level higher up. -/
lemma preserves_below {nesting : α → Nat} {m : Merge α}
    (h : ∀ room, Preserves (fun a => nesting a ≤ room) room m) {room : Nat}
    (hroom : depth = room + 1) :
    Preserves (fun a => nesting a < depth) room m := by
  subst hroom
  simpa only [Nat.lt_succ_iff] using h room

/-- A message that is not there yet has nothing in it. -/
lemma nesting_getD {nesting : α → Nat} {o : Option α} {start : α} (hdepth : nesting start < depth)
    (h : ∀ a ∈ o, nesting a < depth) : nesting (o.getD start) < depth := by
  cases o with
  | none => exact hdepth
  | some a => exact h a rfl

lemma fee_preserves (depth : Nat) :
    Preserves (fun f : Proto.Fee => f.nesting ≤ depth) depth Proto.Fee.merge := by
  apply preserves_merge
  simp only [Proto.Fee.slots, List.forall_mem_cons, feeNesting_le]
  exact ⟨leaves_preserved fun _ _ hdepth _ _ _ => hdepth, number_preserves fun _ _ h => h,
    text_preserves fun _ _ h => h, text_preserves fun _ _ h => h, by simp⟩

/-- Members lie two levels below the mode that holds them. -/
lemma multiSlots_preserve {room : Nat}
    {inner : Nat → Bytes → Except Wire.Error (Proto.ModeInfo × Bytes)}
    (h : ∀ behind bs m rest, inner behind bs = .ok (m, rest) → m.nesting < room) :
    Preserves (fun s : Option Proto.BitArray × List Proto.ModeInfo =>
      (Proto.ModeInfo.multi s.1 s.2).nesting ≤ room + 1) room
      (Wire.merge "Multi" (Proto.ModeInfo.multiSlots inner)) := by
  apply preserves_merge
  simp only [Proto.ModeInfo.multiSlots, List.forall_mem_cons, multiNesting_le]
  refine ⟨?_, ?_, by simp⟩
  · exact leaf_preserved fun b s hroom hs => ⟨fun _ _ => hroom, hs.2⟩
  · apply message_preserves
    intro _ _ behind bs s t rest hr hs
    obtain ⟨⟨m, rest'⟩, hm, hr⟩ := map_eq_ok.1 hr
    obtain ⟨rfl, rfl⟩ := Prod.mk.inj hr
    have hmember : m.nesting < room := h behind bs m rest' hm
    exact ⟨hs.1, List.forall_mem_append.2 ⟨hs.2, List.forall_mem_singleton.2 hmember⟩⟩

lemma modeSlots_preserve {inner : Nat → Bytes → Except Wire.Error (Proto.ModeInfo × Bytes)}
    (h : ∀ behind bs m rest, inner behind bs = .ok (m, rest) → m.nesting + 2 ≤ depth) :
    ∀ slot ∈ Proto.ModeInfo.slots inner, slot.Preserves (fun m => m.nesting ≤ depth) depth := by
  simp only [Proto.ModeInfo.slots, List.forall_mem_cons]
  refine ⟨message_preserves ?_, message_preserves ?_, by simp⟩
  · intro room hroom
    refine map_preserves (preserves_true (Wire.merge "Single" Proto.ModeInfo.singleSlots) room)
      (fun _ _ => trivial) ?_
    intro _ mode _ _
    have hnesting : (Proto.ModeInfo.single mode).nesting = 1 := rfl
    omega
  · rintro room rfl
    have hmember : ∀ behind bs m rest, inner behind bs = .ok (m, rest) → m.nesting < room :=
      fun behind bs m rest hm => Nat.le_of_succ_le_succ (h behind bs m rest hm)
    refine map_preserves (g := fun _ multi => Proto.ModeInfo.multi multi.1 multi.2)
      (multiSlots_preserve hmember) ?_ ?_
    · intro s hs
      split
      · exact hs
      · exact multiNesting_le.2 ⟨by simp, by simp⟩
    · intro _ _ _ hm
      exact hm

lemma modeInfo_preserves (depth : Nat) :
    Preserves (fun m : Proto.ModeInfo => m.nesting ≤ depth) depth Proto.ModeInfo.merge := by
  -- members are read with two levels less
  induction depth using Nat.twoStepInduction with
  | zero => exact preserves_merge (modeSlots_preserve fun _ _ _ _ h => absurd h (by simp [here]))
  | one => exact preserves_merge (modeSlots_preserve fun _ _ _ _ h => absurd h (by simp [here]))
  | more depth ih _ =>
    refine preserves_merge (modeSlots_preserve fun behind bs m rest h => ?_)
    exact Nat.succ_le_succ (Nat.succ_le_succ (ih behind bs .unset m rest h (Nat.zero_le _)))

lemma signerInfo_preserves (depth : Nat) :
    Preserves (fun s : Proto.SignerInfo => s.nesting ≤ depth) depth Proto.SignerInfo.merge := by
  apply preserves_merge
  simp only [Proto.SignerInfo.slots, List.forall_mem_cons, signerNesting_le]
  refine ⟨?_, ?_, number_preserves fun _ _ h => h, by simp⟩
  · exact leaf_preserved fun a s hdepth hs => ⟨fun _ _ => hdepth, hs.2⟩
  · refine option_preserves (fun room hroom => preserves_below modeInfo_preserves hroom)
      (fun s hdepth hs => nesting_getD hdepth hs.2) ?_
    intro m s _ hs hm
    exact ⟨hs.1, fun n hn => Option.some.inj hn ▸ hm⟩

lemma authInfo_preserves (depth : Nat) :
    Preserves (fun a : Proto.AuthInfo => a.nesting ≤ depth) depth Proto.AuthInfo.merge := by
  apply preserves_merge
  simp only [Proto.AuthInfo.slots, List.forall_mem_cons, authNesting_le]
  refine ⟨?_, ?_, ?_, by simp⟩
  · refine list_preserves (fun room hroom => preserves_below signerInfo_preserves hroom) id ?_
    intro s a _ ha hs
    exact ⟨List.forall_mem_append.2 ⟨ha.1, List.forall_mem_singleton.2 hs⟩, ha.2⟩
  · refine option_preserves (fun room hroom => preserves_below fee_preserves hroom)
      (fun a hdepth ha => nesting_getD hdepth ha.2) ?_
    intro f a _ ha hf
    exact ⟨ha.1, fun n hn => Option.some.inj hn ▸ hf⟩
  · exact leaves_preserved fun _ _ _ hs => hs

lemma txBody_preserves (depth : Nat) :
    Preserves (fun b : Proto.TxBody => b.nesting ≤ depth) depth Proto.TxBody.merge := by
  apply preserves_merge
  simp only [Proto.TxBody.slots, List.forall_mem_cons, bodyNesting_le]
  refine ⟨?_, text_preserves fun _ _ h => h, number_preserves fun _ _ h => h, ?_, ?_, by simp⟩
  · exact leaves_preserved fun _ _ hdepth _ _ _ => hdepth
  · exact leaves_preserved fun _ _ _ hs => hs
  · exact leaves_preserved fun _ _ _ hs => hs

lemma tx_preserves (depth : Nat) :
    Preserves (fun t : Proto.Tx => t.nesting ≤ depth) depth Proto.Tx.merge := by
  apply preserves_merge
  simp only [Proto.Tx.slots, List.forall_mem_cons, txNesting_le]
  refine ⟨?_, ?_, bytes_preserves fun _ _ h => h, by simp⟩
  · refine option_preserves (fun room hroom => preserves_below txBody_preserves hroom)
      (fun t hdepth ht => nesting_getD hdepth ht.1) ?_
    intro b t _ ht hb
    exact ⟨fun n hn => Option.some.inj hn ▸ hb, ht.2⟩
  · refine option_preserves (fun room hroom => preserves_below authInfo_preserves hroom)
      (fun t hdepth ht => nesting_getD hdepth ht.2) ?_
    intro a t _ ht ha
    exact ⟨ht.1, fun n hn => Option.some.inj hn ▸ ha⟩

end CosmosClient.Proofs
