import Mathlib
import CosmosClient.Proofs.FieldReading

/-!
# Fields told apart

No number, and so no field, is written as the beginning of another one. The bytes of a message
therefore determine its fields, of any length, and the fields under a number determine what was put
there, though a zero and an empty text leave no field.
-/

namespace CosmosClient.Wire

/-- The fields with a number, in order. -/
def numbered (k : Nat) (fs : List Field) : List Field :=
  fs.filter fun f => f.number == k

end CosmosClient.Wire

namespace CosmosClient.Proofs
open Wire

/-- A number is not written as the beginning of another one. -/
lemma varintBytes_append_inj {n m : Nat} {r s : Bytes} (h : varintBytes n ++ r = varintBytes m ++ s) :
    n = m ∧ r = s := by
  induction n using Nat.strong_induction_on generalizing m with
  | _ n ih =>
    have low {n : Nat} (h : n < 128) : (UInt8.ofNat n).toNat = n := byte_toNat (by omega)
    have high (n : Nat) : (UInt8.ofNat (n % 128 + 128)).toNat = n % 128 + 128 :=
      byte_toNat (by omega)
    rw [varintBytes, varintBytes.eq_1 m] at h
    by_cases hn : n < 128
    · by_cases hm : m < 128
      · rw [if_pos hn, if_pos hm, List.singleton_append, List.singleton_append] at h
        obtain ⟨hbyte, hrest⟩ := List.cons.inj h
        have hnumber := congrArg UInt8.toNat hbyte
        rw [low hn, low hm] at hnumber
        exact ⟨hnumber, hrest⟩
      · rw [if_pos hn, if_neg hm, List.singleton_append, List.cons_append] at h
        have hnumber := congrArg UInt8.toNat (List.cons.inj h).1
        rw [low hn, high] at hnumber
        omega
    · by_cases hm : m < 128
      · rw [if_neg hn, if_pos hm, List.singleton_append, List.cons_append] at h
        have hnumber := congrArg UInt8.toNat (List.cons.inj h).1
        rw [low hm, high] at hnumber
        omega
      · rw [if_neg hn, if_neg hm, List.cons_append, List.cons_append] at h
        obtain ⟨hbyte, hmore⟩ := List.cons.inj h
        obtain ⟨hhigh, hrest⟩ := ih (n / 128) (by omega) hmore
        have hlow := congrArg UInt8.toNat hbyte
        rw [high, high] at hlow
        exact ⟨by omega, hrest⟩

lemma fieldBytes_append_inj {f g : Field} {r s : Bytes} (h : f.bytes ++ r = g.bytes ++ s) :
    f = g ∧ r = s := by
  obtain ⟨k, p⟩ := f
  obtain ⟨l, q⟩ := g
  simp only [Field.bytes, List.append_assoc] at h
  obtain ⟨hkey, hcontent⟩ := varintBytes_append_inj h
  have hp := kind_code_lt p.kind
  have hq := kind_code_lt q.kind
  obtain rfl : k = l := by omega
  have hcode : p.kind.code = q.kind.code := by omega
  cases p with
  | varint n =>
    cases q with
    | varint m =>
      obtain ⟨hn, hrest⟩ := varintBytes_append_inj hcontent
      exact ⟨by rw [UInt64.toNat_inj.1 hn], hrest⟩
    | delimited c => simp [Payload.kind, Kind.code] at hcode
  | delimited b =>
    cases q with
    | varint m => simp [Payload.kind, Kind.code] at hcode
    | delimited c =>
      simp only [Payload.bytes, List.append_assoc] at hcontent
      obtain ⟨hlength, hmore⟩ := varintBytes_append_inj hcontent
      obtain ⟨rfl, hrest⟩ := List.append_inj hmore hlength
      exact ⟨rfl, hrest⟩

lemma fieldBytes_ne_nil (f : Field) : f.bytes ≠ [] :=
  List.ne_nil_of_length_pos (field_length_pos f)

/-- The bytes of a message determine its fields. -/
lemma encode_injective : Function.Injective encode := by
  intro fs gs h
  induction fs generalizing gs with
  | nil =>
    cases gs with
    | nil => rfl
    | cons g gs =>
      have hnil := (List.append_eq_nil_iff.1 h.symm).1
      exact absurd hnil (fieldBytes_ne_nil g)
  | cons f fs ih =>
    cases gs with
    | nil =>
      have hnil := (List.append_eq_nil_iff.1 h).1
      exact absurd hnil (fieldBytes_ne_nil f)
    | cons g gs =>
      obtain ⟨rfl, hrest⟩ := fieldBytes_append_inj h
      rw [ih hrest]

variable {k l : Nat} {fs gs : List Field}

lemma numbered_eq (h : encode fs = encode gs) (k : Nat) : numbered k fs = numbered k gs := by
  rw [encode_injective h]

@[simp]
lemma numbered_append (k : Nat) (fs gs : List Field) :
    numbered k (fs ++ gs) = numbered k fs ++ numbered k gs :=
  List.filter_append _ _

@[simp]
lemma numbered_items (k l : Nat) (bs : List Bytes) :
    numbered k (items l bs) = if l = k then items l bs else [] := by
  by_cases h : l = k
  · rw [if_pos h]
    refine List.filter_eq_self.2 fun f hf => ?_
    obtain ⟨b, -, rfl⟩ := List.mem_map.1 hf
    simpa [item] using h
  · rw [if_neg h]
    refine List.filter_eq_nil_iff.2 fun f hf => ?_
    obtain ⟨b, -, rfl⟩ := List.mem_map.1 hf
    simpa [item] using h

@[simp]
lemma numbered_bytes (k l : Nat) (b : Bytes) :
    numbered k (bytes l b) = if l = k then bytes l b else [] := by
  by_cases hb : b = []
  · simp [bytes, hb, numbered]
  · simpa [bytes, hb, items] using numbered_items k l [b]

@[simp]
lemma numbered_text (k l : Nat) (s : String) :
    numbered k (text l s) = if l = k then text l s else [] :=
  numbered_bytes k l _

@[simp]
lemma numbered_number (k l : Nat) (n : UInt64) :
    numbered k (number l n) = if l = k then number l n else [] := by
  by_cases hn : n = 0 <;> by_cases h : l = k <;> simp [number, hn, h, numbered]

lemma items_injective (k : Nat) : Function.Injective (items k) :=
  List.map_injective_iff.2 fun b c h => by simpa [item] using h

lemma bytes_injective (k : Nat) : Function.Injective (bytes k) := by
  intro b c h
  unfold bytes at h
  split at h <;> split at h <;> simp_all [item]

lemma text_injective (k : Nat) : Function.Injective (text k) := by
  intro s t h
  have hencoded := bytes_injective k h
  have hs := Utf8.decode_encode s
  rw [hencoded, Utf8.decode_encode] at hs
  exact (Option.some.inj hs).symm

lemma number_injective (k : Nat) : Function.Injective (number k) := by
  intro n m h
  unfold number at h
  split at h <;> split at h <;> simp_all

/-- Contents that are written as bytes each. -/
lemma items_map_injective {α : Type} {write : α → Bytes} (k : Nat)
    (h : Function.Injective write) : Function.Injective fun l : List α => items k (l.map write) :=
  (items_injective k).comp (List.map_injective_iff.2 h)

/-- A content that may be there. -/
lemma items_option_injective {α : Type} {write : α → Bytes} (k : Nat)
    (h : Function.Injective write) :
    Function.Injective fun o : Option α => items k (o.toList.map write) :=
  (items_map_injective k h).comp fun o p hop => by cases o <;> cases p <;> simp_all

end CosmosClient.Proofs
