import Mathlib
import CosmosClient.Wire.Decode

/-!
# Reading fields back

What `Wire.encode` writes is read back exactly, whatever bytes follow. A message is read by slots that
take its fields one after the other, so that a message is read back once each of its fields is. The
lengths that are written have to fit the 64 bits that are read.
-/

namespace CosmosClient.Proofs
open Wire

lemma byte_toNat {n : Nat} (h : n < 256) : (UInt8.ofNat n).toNat = n :=
  UInt8.toNat_ofNat_of_lt' h

lemma readVarint_varintBytes (k n : Nat) (rest : Bytes) (h : n < 2 * 128 ^ k) :
    readVarint (k + 1) (varintBytes n ++ rest) = .ok (n, rest) := by
  induction k generalizing n with
  | zero =>
    have hn : n < 2 := by simpa using h
    rw [varintBytes, if_pos (by omega)]
    have hb : (UInt8.ofNat n).toNat = n := byte_toNat (by omega)
    simp only [List.cons_append, List.nil_append, readVarint, hb]
    rw [if_pos (by omega), if_neg (by omega)]
  | succ k ih =>
    rw [varintBytes]
    by_cases hn : n < 128
    · have hb : (UInt8.ofNat n).toNat = n := byte_toNat (by omega)
      rw [if_pos hn]
      simp only [List.cons_append, List.nil_append, readVarint, hb]
      rw [if_pos hn, if_neg (by omega)]
    · have hb : (UInt8.ofNat (n % 128 + 128)).toNat = n % 128 + 128 := byte_toNat (by omega)
      have hr := ih (n / 128) (by rw [pow_succ] at h; omega)
      rw [if_neg hn]
      simp only [List.cons_append, readVarint, hb]
      rw [if_neg (by omega), hr]
      simp only [Except.ok.injEq, Prod.mk.injEq, and_true]
      omega

lemma varint_varintBytes (n : Nat) (rest : Bytes) (h : n < 2 ^ 64) :
    varint (varintBytes n ++ rest) = .ok (n, rest) :=
  readVarint_varintBytes 9 n rest (by omega)

lemma varintBytes_length_pos (n : Nat) : 0 < (varintBytes n).length := by
  rw [varintBytes]
  split <;> simp

lemma kind_ofNat_code (kind : Kind) : Kind.ofNat? kind.code = some kind := by
  cases kind <;> rfl

lemma kind_code_lt (kind : Kind) : kind.code < 8 := by
  cases kind <;> decide

lemma key_varintBytes (k : Nat) (kind : Kind) (rest : Bytes) (hk : 0 < k) (h : k < 2 ^ 29) :
    key (varintBytes (8 * k + kind.code) ++ rest) = .ok (k, kind, rest) := by
  have hc := kind_code_lt kind
  have hm : (8 * k + kind.code) % 8 = kind.code := by omega
  have hd : (8 * k + kind.code) / 8 = k := by omega
  have hs : 8 * k + kind.code < UInt32.size := by simp only [UInt32.size]; omega
  unfold key
  rw [varint_varintBytes _ _ (by omega)]
  simp only [bind, Except.bind, hs, if_true, hm, kind_ofNat_code, hd]
  rw [if_neg (by omega)]

/-- The bytes are no more than a machine with addresses of 64 bits can hold. -/
def Fits (b : Bytes) : Prop :=
  b.length < 2 ^ 64

lemma delimited_bytes (b rest : Bytes) (h : Fits b) :
    delimited (varintBytes b.length ++ b ++ rest) = .ok (b, rest) := by
  unfold delimited
  rw [List.append_assoc, varint_varintBytes _ _ h]
  simp [bind, Except.bind, take]

variable {σ α : Type}

/-- A reader takes exactly the bytes of a message, whatever follows them, and gets from one value to
another. -/
def Reads (m : Merge σ) (depth : Nat) (b : Bytes) (s t : σ) : Prop :=
  ∀ rest, m depth rest.length (b ++ rest) s = .ok (t, rest)

/-- A slot takes exactly the content of a field, whatever follows it. -/
def Takes (slot : Slot σ) (depth : Nat) (p : Payload) (s t : σ) : Prop :=
  ∀ rest, slot.merge depth p.kind (p.bytes ++ rest) s = .ok (t, rest)

/-- The slots take fields one after the other. -/
inductive Puts (slots : List (Slot σ)) (depth : Nat) : List Field → σ → σ → Prop where
  | nil (s : σ) : Puts slots depth [] s s
  | cons {f : Field} {fs : List Field} {s t u : σ} {slot : Slot σ}
      (hslot : slots.find? (fun x => x.number == f.number) = some slot)
      (hnum : 0 < f.number ∧ f.number < 2 ^ 29) (hf : Takes slot depth f.payload s t)
      (hfs : Puts slots depth fs t u) : Puts slots depth (f :: fs) s u

lemma Puts.append {slots : List (Slot σ)} {depth : Nat} {fs gs : List Field} {s t u : σ}
    (hf : Puts slots depth fs s t) (hg : Puts slots depth gs t u) :
    Puts slots depth (fs ++ gs) s u := by
  induction hf with
  | nil s => exact hg
  | cons hslot hnum hf _ ih => exact .cons hslot hnum hf (ih hg)

lemma Puts.single {slots : List (Slot σ)} {depth : Nat} {f : Field} {s t : σ} {slot : Slot σ}
    (hslot : slots.find? (fun x => x.number == f.number) = some slot)
    (hnum : 0 < f.number ∧ f.number < 2 ^ 29) (hf : Takes slot depth f.payload s t) :
    Puts slots depth [f] s t :=
  .cons hslot hnum hf (.nil t)

lemma encode_cons (f : Field) (fs : List Field) : encode (f :: fs) = f.bytes ++ encode fs := by
  simp [encode]

lemma encode_append (fs gs : List Field) : encode (fs ++ gs) = encode fs ++ encode gs := by
  simp [encode]

lemma field_length_pos (f : Field) : 0 < f.bytes.length := by
  have h := varintBytes_length_pos (8 * f.number + f.payload.kind.code)
  simp only [Field.bytes, List.length_append]
  omega

lemma mergeField_bytes {message : String} {slots : List (Slot σ)} {depth : Nat} {f : Field}
    {s t : σ} {slot : Slot σ}
    (hslot : slots.find? (fun x => x.number == f.number) = some slot)
    (hnum : 0 < f.number ∧ f.number < 2 ^ 29) (hf : Takes slot depth f.payload s t)
    (rest : Bytes) :
    mergeField message slots depth (f.bytes ++ rest) s = .ok (t, rest) := by
  unfold mergeField Field.bytes
  rw [List.append_assoc, key_varintBytes _ _ _ hnum.1 hnum.2]
  simp only [own, Except.mapError, bind, Except.bind, hslot, hf rest]

/-- The fields of a message are read one by one until only what follows the message is left; every
field has a byte, so that the fuel lasts. -/
lemma mergeFields_encode {message : String} {slots : List (Slot σ)} {depth : Nat}
    {fs : List Field} {s t : σ} (h : Puts slots depth fs s t) (rest : Bytes) (fuel : Nat)
    (hfuel : (encode fs).length ≤ fuel) :
    mergeFields message slots depth rest.length fuel (encode fs ++ rest) s = .ok (t, rest) := by
  induction h generalizing fuel with
  | nil s =>
    cases fuel with
    | zero => rfl
    | succ fuel => simp [mergeFields, encode]
  | @cons f fs s t u slot hslot hnum hf hfs ih =>
    have hlen := field_length_pos f
    rw [encode_cons, List.length_append] at hfuel
    obtain ⟨fuel, rfl⟩ : ∃ n, fuel = n + 1 := ⟨fuel - 1, by omega⟩
    rw [encode_cons, List.append_assoc, mergeFields, if_neg (by simp; omega),
      mergeField_bytes hslot hnum hf]
    exact ih fuel (by omega)

/-- A message is read back from its fields. -/
lemma reads_encode {message : String} {slots : List (Slot σ)} {depth : Nat} {fs : List Field}
    {s t : σ} (h : Puts slots depth fs s t) :
    Reads (merge message slots) depth (encode fs) s t := by
  intro rest
  exact mergeFields_encode h rest _ (by simp)

variable {slots : List (Slot σ)} {depth k : Nat} {name : String} {s t : σ}

lemma puts_number {put : UInt64 → σ → σ} (n : UInt64)
    (hslot : slots.find? (fun x => x.number == k) = some (numberSlot k name put))
    (hk : 0 < k ∧ k < 2 ^ 29) (hzero : put 0 s = s) (ht : put n s = t) :
    Puts slots depth (number k n) s t := by
  subst ht
  by_cases hn : n = 0
  · rw [number, if_pos hn, hn, hzero]
    exact .nil s
  · rw [number, if_neg hn]
    apply Puts.single hslot hk
    intro rest
    simp only [numberSlot, Payload.kind, Payload.bytes, Wire.expect, if_true]
    rw [varint_varintBytes _ _ n.toNat_lt]
    simp [bind, Except.bind, own, Except.mapError, pure, Except.pure]

lemma takes_bytes {put : Bytes → σ → σ} (b : Bytes) (h : Fits b) :
    Takes (bytesSlot k name put) depth (.delimited b) s (put b s) := by
  intro rest
  simp only [bytesSlot, Payload.kind, Payload.bytes, Wire.expect, if_true]
  rw [delimited_bytes _ _ h]
  rfl

lemma takes_text {put : String → σ → σ} (text : String) (h : Fits (Utf8.encode text)) :
    Takes (textSlot k name put) depth (.delimited (Utf8.encode text)) s (put text s) := by
  intro rest
  simp only [textSlot, Payload.kind, Payload.bytes, Wire.expect, if_true]
  rw [delimited_bytes _ _ h]
  simp only [own, Except.mapError, bind, Except.bind, Utf8.decode_encode, pure, Except.pure]

lemma fits_of_append_left {b c : Bytes} (h : Fits (b ++ c)) : Fits b := by
  simp only [Fits, List.length_append] at h ⊢
  omega

lemma fits_of_append_right {b c : Bytes} (h : Fits (b ++ c)) : Fits c := by
  simp only [Fits, List.length_append] at h ⊢
  omega

lemma fits_of_field {b : Bytes} (h : Fits (item k b).bytes) : Fits b :=
  fits_of_append_right (fits_of_append_right h)

lemma fits_of_item {b : Bytes} (h : Fits (encode [item k b])) : Fits b :=
  fits_of_field (fits_of_append_left (encode_cons _ _ ▸ h))

lemma fits_of_items {bs : List Bytes} (h : Fits (encode (items k bs))) : ∀ b ∈ bs, Fits b := by
  induction bs with
  | nil => simp
  | cons c bs ih =>
    rw [items, List.map_cons, encode_cons] at h
    intro b hb
    rcases List.mem_cons.1 hb with rfl | hb
    · exact fits_of_field (fits_of_append_left h)
    · exact ih (fits_of_append_right h) b hb

lemma puts_bytes {put : Bytes → σ → σ} (b : Bytes)
    (hslot : slots.find? (fun x => x.number == k) = some (bytesSlot k name put))
    (hk : 0 < k ∧ k < 2 ^ 29) (hfits : Fits (encode (bytes k b)))
    (hnil : put [] s = s) (ht : put b s = t) : Puts slots depth (bytes k b) s t := by
  subst ht
  by_cases hb : b = []
  · rw [bytes, if_pos hb, hb, hnil]
    exact .nil s
  · rw [bytes, if_neg hb] at hfits ⊢
    exact .single hslot hk (takes_bytes b (fits_of_item hfits))

lemma encode_eq_nil {text : String} (h : Utf8.encode text = []) : text = "" := by
  have hd := Utf8.decode_encode text
  rw [h] at hd
  have he := Utf8.decode_encode ""
  exact Option.some.inj (hd.symm.trans he)

lemma puts_text {put : String → σ → σ} (text : String)
    (hslot : slots.find? (fun x => x.number == k) = some (textSlot k name put))
    (hk : 0 < k ∧ k < 2 ^ 29) (hfits : Fits (encode (Wire.text k text)))
    (hnil : put "" s = s) (ht : put text s = t) : Puts slots depth (Wire.text k text) s t := by
  subst ht
  unfold Wire.text bytes at hfits ⊢
  by_cases hb : Utf8.encode text = []
  · rw [if_pos hb, encode_eq_nil hb, hnil]
    exact .nil s
  · rw [if_neg hb] at hfits ⊢
    exact .single hslot hk (takes_text text (fits_of_item hfits))

/-- Contents that are gathered in a list; `fill` is the value with a list gathered so far. -/
lemma puts_items {put : Bytes → σ → σ} (fill : List Bytes → σ) (bs : List Bytes)
    (hslot : slots.find? (fun x => x.number == k) = some (bytesSlot k name put))
    (hk : 0 < k ∧ k < 2 ^ 29) (hfits : ∀ b ∈ bs, Fits b)
    (hput : ∀ cs b, put b (fill cs) = fill (cs ++ [b])) :
    Puts slots depth (items k bs) (fill []) (fill bs) := by
  have h (cs : List Bytes) : Puts slots depth (items k bs) (fill cs) (fill (cs ++ bs)) := by
    induction bs generalizing cs with
    | nil => simpa using .nil (fill cs)
    | cons b bs ih =>
      have hrest := ih (fun c hc => hfits c (by simp [hc])) (cs ++ [b])
      rw [List.append_assoc, List.singleton_append] at hrest
      exact .cons hslot hk (hput cs b ▸ takes_bytes b (hfits b (by simp))) hrest
  exact h []

lemma embedded_bytes {m : Merge σ} {b : Bytes} (h : Reads m depth b s t) (hb : Fits b)
    (rest : Bytes) :
    embedded m depth (varintBytes b.length ++ b ++ rest) s = .ok (t, rest) := by
  unfold embedded
  rw [List.append_assoc, varint_varintBytes _ _ hb]
  have hlen : b.length ≤ (b ++ rest).length := by simp
  have hrest : (b ++ rest).length - b.length = rest.length := by simp
  simp only [own, Except.mapError, bind, Except.bind, hlen, if_true, hrest, h rest]
  rfl

lemma takes_message {m : Merge σ} {b : Bytes} (h : Reads m depth b s t) (hb : Fits b) :
    Takes (messageSlot k name m) (depth + 1) (.delimited b) s t := by
  intro rest
  simp only [messageSlot, Payload.kind, Payload.bytes, Wire.expect, if_true]
  exact embedded_bytes h hb rest

lemma puts_message {m : Merge σ} {b : Bytes}
    (hslot : slots.find? (fun x => x.number == k) = some (messageSlot k name m))
    (hk : 0 < k ∧ k < 2 ^ 29) (hb : Fits b) (h : Reads m depth b s t) :
    Puts slots (depth + 1) [item k b] s t :=
  .single hslot hk (takes_message h hb)

lemma takes_list {start a : α} {m : Merge α} {push : α → σ → σ} {b : Bytes}
    (h : Reads m depth b start a) (hb : Fits b) :
    Takes (listSlot k name start m push) (depth + 1) (.delimited b) s (push a s) := by
  refine takes_message (fun rest => ?_) hb
  simp only [h rest, Except.map]

lemma takes_option {start a : α} {m : Merge α} {get : σ → Option α} {put : α → σ → σ} {b : Bytes}
    (hget : get s = none) (h : Reads m depth b start a) (hb : Fits b) :
    Takes (optionSlot k name start m get put) (depth + 1) (.delimited b) s (put a s) := by
  refine takes_message (fun rest => ?_) hb
  simp only [hget, Option.getD_none, h rest, Except.map]

/-- Messages that are gathered in a list; `fill` is the value with a list gathered so far. -/
lemma puts_messages {start : α} {m : Merge α} {push : α → σ → σ} {enc : α → Bytes}
    (fill : List α → σ) (xs : List α)
    (hslot : slots.find? (fun x => x.number == k) = some (listSlot k name start m push))
    (hk : 0 < k ∧ k < 2 ^ 29) (hfits : Fits (encode (items k (xs.map enc))))
    (hpush : ∀ ys x, push x (fill ys) = fill (ys ++ [x]))
    (h : ∀ x ∈ xs, Fits (enc x) → 0 < depth ∧ Reads m (depth - 1) (enc x) start x) :
    Puts slots depth (items k (xs.map enc)) (fill []) (fill xs) := by
  have hall (ys : List α) :
      Puts slots depth (items k (xs.map enc)) (fill ys) (fill (ys ++ xs)) := by
    induction xs generalizing ys with
    | nil => simpa using .nil (fill ys)
    | cons x xs ih =>
      simp only [items, List.map_cons] at hfits ⊢
      rw [encode_cons] at hfits
      have hx : Fits (enc x) := fits_of_field (fits_of_append_left hfits)
      obtain ⟨hdepth, hread⟩ := h x (by simp) hx
      have hrest := ih (fits_of_append_right hfits) (fun y hy => h y (by simp [hy])) (ys ++ [x])
      rw [List.append_assoc, List.singleton_append] at hrest
      obtain ⟨depth, rfl⟩ := Nat.exists_eq_add_one.mpr hdepth
      exact .cons hslot hk (hpush ys x ▸ takes_list hread hx) hrest
  exact hall []

/-- A message that may be there; `fill` is the value with or without it. -/
lemma puts_option {start : α} {m : Merge α} {get : σ → Option α} {put : α → σ → σ}
    {enc : α → Bytes} (fill : Option α → σ) (o : Option α)
    (hslot : slots.find? (fun x => x.number == k) = some (optionSlot k name start m get put))
    (hk : 0 < k ∧ k < 2 ^ 29) (hfits : Fits (encode (items k (o.toList.map enc))))
    (hget : get (fill none) = none) (hput : ∀ x, put x (fill none) = fill (some x))
    (h : ∀ x ∈ o, Fits (enc x) → 0 < depth ∧ Reads m (depth - 1) (enc x) start x) :
    Puts slots depth (items k (o.toList.map enc)) (fill none) (fill o) := by
  cases o with
  | none => exact .nil _
  | some x =>
    have hx : Fits (enc x) := fits_of_item (k := k) hfits
    obtain ⟨hdepth, hread⟩ := h x rfl hx
    obtain ⟨depth, rfl⟩ := Nat.exists_eq_add_one.mpr hdepth
    exact .single hslot hk (hput x ▸ takes_option hget hread hx)

end CosmosClient.Proofs
