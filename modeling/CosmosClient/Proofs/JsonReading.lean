import Mathlib
import CosmosClient.Proofs.Base64Text
import CosmosClient.Proofs.CoinReading
import CosmosClient.Proofs.DocumentDepth
import CosmosClient.Proofs.Results
import CosmosClient.Proofs.SortedFields
import CosmosClient.Tx

/-!
# Values read back from JSON

What is written into a JSON value is read back from it: numbers and bytes from their texts, records
from their sorted fields. Keys and modes nest; they are read within a bound that the depth of the
value gives, since a member lies deeper than what it is a member of.
-/

namespace CosmosClient.Proofs
open Json

lemma text_str (s : String) : Json.text (.str s) = .ok s := rfl

lemma text_eq_ok {j : Json} {s : String} (h : text j = .ok s) : j = .str s := by
  cases j with
  | str _ => exact congrArg Json.str (Except.ok.inj h)
  | null | bool _ | int _ | float _ | arr _ | obj _ | flaw _ _ =>
    exact absurd h (by simp [text, mismatch])

lemma readUnpadded?_chars (b : Bytes) : Base64.readUnpadded? (Base64.chars b) = some b := by
  have h := readCanonical?_chars b
  unfold Base64.readCanonical? at h
  split at h
  · exact h
  · exact absurd h (by simp)

lemma base64_write (b : Bytes) : Json.base64 (.str (Base64.write b)) = .ok b := by
  simp only [Json.base64, textOf, Base64.write, String.toList_ofList, readUnpadded?_chars,
    Option.elim_some]

lemma readUInt64_digits (n : UInt64) : Number.readUInt64 (Number.digits n.toNat) = .ok n := by
  have hle : n.toNat ≤ UInt64.size - 1 := Nat.le_sub_one_of_lt n.toNat_lt_size
  simp only [Number.readUInt64, readNat_digits hle, Except.map, UInt64.ofNat_toNat]

lemma looseUInt64_write (n : UInt64) : looseUInt64 (.str (Number.write n.toNat)) = .ok n := by
  simp only [looseUInt64, looseInteger, whole, firstFlaw, Number.write, String.toList_ofList,
    readUInt64_digits, Except.toOption, Option.elim_some, settle, mapError_ok]

lemma uint32_toNat (n : UInt32) : uint32 (.int n.toNat) = .ok n := by
  have hlt : (n.toNat : Int) < UInt32.size := by exact_mod_cast n.toNat_lt_size
  simp only [uint32, integer, uint32?, Int.natCast_nonneg, hlt, and_self, if_true,
    Int.toNat_natCast, UInt32.ofNat_toNat, Option.elim_some]

lemma looseInt64_write (n : Int64) : looseInt64 (.str (Number.writeInt n.toInt)) = .ok n := by
  simp only [looseInt64, looseInteger, whole, firstFlaw, readInt64_write, Except.toOption,
    Option.elim_some, settle, mapError_ok]

lemma looseUInt32_toNat (n : UInt32) (read : String → Option UInt32) :
    looseInteger uint32? read (.int n.toNat) = .ok n := by
  have hread := uint32_toNat n
  simp only [uint32, integer] at hread
  simp only [looseInteger, whole, firstFlaw, hread, settle, mapError_ok]

section Records

variable {σ α β : Type} {slots : List (Slot σ)} {seen : List String} {fields : List (String × Json)}
  {name : String} {omittable : Bool} {decode : Decoder α} {put : α → σ → σ} {s t u : σ}

/-- Keys that have been seen can only do harm. -/
lemma keepFields_of_more {more : List String} (hseen : ∀ key ∈ seen, key ∈ more)
    (h : keepFields slots more fields s = .ok t) : keepFields slots seen fields s = .ok t := by
  induction fields generalizing seen more s with
  | nil => exact h
  | cons f fields ih =>
    rw [keepFields] at h ⊢
    split at h
    next =>
      obtain ⟨_, hpass, h⟩ := bind_eq_ok.1 h
      exact bind_eq_ok.2 ⟨_, hpass, ih hseen h⟩
    next slot _ =>
      split at h
      next => simp at h
      next hnew =>
        obtain ⟨next, hkeep, h⟩ := bind_eq_ok.1 h
        have hfresh : ¬seen.contains f.1 = true := by
          simp only [List.contains_iff_mem] at hnew ⊢
          exact fun hmem => hnew (hseen _ hmem)
        rw [if_neg hfresh]
        refine bind_eq_ok.2 ⟨next, hkeep, ih ?_ h⟩
        intro key hkey
        rcases List.mem_cons.1 hkey with rfl | hkey
        · exact List.mem_cons_self
        · exact List.mem_cons_of_mem _ (hseen key hkey)

lemma keepFields_slot {j : Json} {a : α}
    (hslot : slots.find? (fun x => x.name == name) = some (slot name omittable decode put))
    (hnew : name ∉ seen) (hdecode : decode j = .ok a)
    (h : keepFields slots (name :: seen) fields (put a s) = .ok t) :
    keepFields slots seen ((name, j) :: fields) s = .ok t := by
  have hcontains : ¬seen.contains name = true := by simpa using hnew
  rw [keepFields, hslot]
  simp only [if_neg hcontains, slot, hdecode, map_ok, ok_bind]
  exact h

/-- A field that may be left out. -/
lemma keepFields_option {write : β → Json} (o : Option β)
    (hslot : slots.find? (fun x => x.name == name) = some (slot name omittable decode put))
    (hnew : name ∉ seen) (hnone : o = none → u = s)
    (hsome : ∀ b ∈ o, ∃ a, decode (write b) = .ok a ∧ put a s = u)
    (h : keepFields slots (name :: seen) fields u = .ok t) :
    keepFields slots seen ((o.toList.map fun b => (name, write b)) ++ fields) s = .ok t := by
  cases o with
  | none =>
    rw [hnone rfl] at h
    exact keepFields_of_more (fun key hkey => List.mem_cons_of_mem _ hkey) h
  | some b =>
    obtain ⟨a, hdecode, rfl⟩ := hsome b rfl
    exact keepFields_slot hslot hnew hdecode h

end Records

lemma list_map {α : Type} {decode : Decoder α} {write : α → Json} {l : List α}
    (h : ∀ a ∈ l, decode (write a) = .ok a) : Json.list decode (.arr (l.map write)) = .ok l :=
  mapM_map_ok h

lemma normal_map {α : Type} (write : α → Json) (l : List α) :
    (Json.arr (l.map write)).normal = .arr (l.map fun a => (write a).normal) := by
  rw [normal, normalItems_eq, List.map_map]
  rfl

lemma optional_of_ne_null {α : Type} {decode : Decoder α} {j : Json} (h : j ≠ .null) :
    optional decode j = (decode j).map some := by
  cases j with
  | null => exact absurd rfl h
  | bool _ | int _ | float _ | str _ | arr _ | obj _ | flaw _ _ => rfl

lemma optional_eq_ok {α : Type} {decode : Decoder α} {j : Json} {o : Option α}
    (h : optional decode j = .ok o) :
    (j = .null ∧ o = none) ∨ ∃ a, decode j = .ok a ∧ o = some a := by
  by_cases hj : j = .null
  · subst hj
    exact .inl ⟨rfl, (Except.ok.inj h).symm⟩
  · rw [optional_of_ne_null hj] at h
    obtain ⟨a, ha, rfl⟩ := map_eq_ok.1 h
    exact .inr ⟨a, ha, rfl⟩

lemma nullable_of_ne_null {α : Type} {empty : α} {decode : Decoder α} {j : Json} (h : j ≠ .null) :
    nullable empty decode j = decode j := by
  cases j with
  | null => exact absurd rfl h
  | bool _ | int _ | float _ | str _ | arr _ | obj _ | flaw _ _ => rfl

lemma coinOfJson_toJson (c : Coin) : Coin.ofJson c.toJson.normal = .ok c := by
  have hnormal : c.toJson.normal =
      .obj [("amount", .str c.amount.write), ("denom", .str c.denom)] := by
    simp only [Coin.toJson, normal, normalFields, sortFields, List.foldl, insertField,
      String.reduceLT, String.reduceEq, if_true, if_false]
  rw [hnormal]
  simp [Coin.ofJson, record, keepFields, slot, text, textOf, require, read_write, Except.map,
    Except.toOption, bind, Except.bind, pure, Except.pure]

lemma coinsOfJson_toJson (cs : Coins) : Coins.ofJson cs.toJson.normal = .ok cs := by
  have hlist : Json.list Coin.ofJson cs.toJson.normal = .ok cs.toList := by
    rw [Coins.toJson, normal_map]
    exact list_map fun c _ => coinOfJson_toJson c
  rw [Coins.ofJson, hlist, Except.map, ofList_toList]

lemma feeOfJson_toJson (f : Fee) : Fee.ofJson f.toJson.normal = .ok f := by
  have hnormal : f.toJson.normal = .obj [("amount", f.amount.toJson.normal),
      ("gas_limit", .str (Number.write f.gasLimit.toNat)), ("granter", .str f.granter),
      ("payer", .str f.payer)] := by
    simp only [Fee.toJson, normal, normalFields, sortFields, List.foldl, insertField,
      String.reduceLT, String.reduceEq, if_true, if_false]
  rw [hnormal]
  simp [Fee.ofJson, record, keepFields, slot, text, require, coinsOfJson_toJson, looseUInt64_write]

lemma bitArrayOfJson_toJson (b : BitArray) : BitArray.ofJson b.toJson.normal = .ok b := by
  have hnormal : b.toJson.normal = .obj [("elems", .str (Base64.write b.elems)),
      ("extra_bits_stored", .int b.extra.toNat)] := by
    simp only [BitArray.toJson, normal, normalFields, sortFields, List.foldl, insertField,
      String.reduceLT, String.reduceEq, if_true, if_false]
  rw [hnormal]
  simp [BitArray.ofJson, record, keepFields, slot, require, base64_write, uint32_toNat]

lemma signModeOfJson_toJson (mode : SignMode) : SignMode.ofJson mode.toJson = .ok mode := by
  cases mode <;> rfl

lemma modesToJson_eq (ms : List ModeInfo) : ModeInfo.toJsons ms = ms.map ModeInfo.toJson := by
  induction ms with
  | nil => rfl
  | cons m ms ih => rw [ModeInfo.toJsons, ih, List.map_cons]

lemma modeWithin_toJson (m : ModeInfo) (bound : Nat) (h : m.toJson.normal.depth < bound) :
    ModeInfo.ofJsonWithin bound m.toJson.normal = .ok m := by
  obtain ⟨bound, rfl⟩ := Nat.exists_eq_add_one.mpr (Nat.zero_lt_of_lt h)
  match m with
  | .single mode =>
    have hnormal : (ModeInfo.single mode).toJson.normal =
        .obj [("single", .obj [("mode", mode.toJson)])] := rfl
    rw [hnormal]
    simp [ModeInfo.ofJsonWithin, variant, ModeInfo.singleOfJson, record, keepFields, slot, require,
      signModeOfJson_toJson]
  | .multi signed members =>
    have hnormal : (ModeInfo.multi signed members).toJson.normal =
        .obj [("multi", .obj [("bitarray", signed.toJson.normal),
          ("mode_infos", .arr (members.map fun m => m.toJson.normal))])] := by
      rw [← normal_map, ← modesToJson_eq]
      rfl
    rw [hnormal] at h ⊢
    have hmembers : Json.list (ModeInfo.ofJsonWithin bound)
        (.arr (members.map fun m => m.toJson.normal)) = .ok members := by
      apply list_map
      intro m hm
      have hle := depth_le_depthItems (List.mem_map_of_mem (f := fun m => m.toJson.normal) hm)
      simp only [depth, depthFields] at h
      exact modeWithin_toJson m bound (by omega)
    simp [ModeInfo.ofJsonWithin, variant, ModeInfo.multiOfJson, record, keepFields, slot, require,
      bitArrayOfJson_toJson, hmembers]

lemma modeOfJson_toJson (m : ModeInfo) : ModeInfo.ofJson m.toJson.normal = .ok m :=
  modeWithin_toJson m _ (Nat.lt_succ_self _)

lemma keysToJson_eq (keys : List PublicKey) : PublicKey.toJsons keys = keys.map PublicKey.toJson := by
  induction keys with
  | nil => rfl
  | cons key keys ih => rw [PublicKey.toJsons, ih, List.map_cons]

lemma firstFlaw_key (key : PublicKey) : firstFlaw key.toJson = none := by
  match key with
  | .secp256k1 key | .ed25519 key => rfl
  | .multisig threshold keys =>
    have hkeys : firstFlawItems (keys.map PublicKey.toJson) = none :=
      firstFlawItems_map fun key hkey => firstFlaw_key key
    simp only [PublicKey.toJson, keysToJson_eq, firstFlaw, firstFlawFields, hkeys, Option.or_none]

lemma keyWithin_toJson (key : PublicKey) (nested : Bool) (bound : Nat)
    (h : key.toJson.normal.depth < bound) :
    PublicKey.ofJsonWithin nested bound key.toJson.normal = .ok key := by
  obtain ⟨bound, rfl⟩ := Nat.exists_eq_add_one.mpr (Nat.zero_lt_of_lt h)
  match key with
  | .secp256k1 key =>
    have hnormal : (PublicKey.secp256k1 key).toJson.normal =
        .obj [("@type", .str PublicKey.secp256k1Url), ("key", .str (Base64.write key))] := by
      simp only [PublicKey.toJson, normal, normalFields, sortFields, List.foldl, insertField,
        String.reduceLT, String.reduceEq, if_false]
    rw [hnormal]
    simp [PublicKey.ofJsonWithin, PublicKey.splitKind, PublicKey.kindOfJson, firstFlaw, require,
      PublicKey.keyOfJson, record, keepFields, slot, base64_write, settle]
  | .ed25519 key =>
    have hnormal : (PublicKey.ed25519 key).toJson.normal =
        .obj [("@type", .str PublicKey.ed25519Url), ("key", .str (Base64.write key))] := by
      simp only [PublicKey.toJson, normal, normalFields, sortFields, List.foldl, insertField,
        String.reduceLT, String.reduceEq, if_false]
    rw [hnormal]
    simp [PublicKey.ofJsonWithin, PublicKey.splitKind, PublicKey.kindOfJson, firstFlaw, require,
      PublicKey.keyOfJson, record, keepFields, slot, base64_write, settle,
      PublicKey.ed25519Url, PublicKey.secp256k1Url]
  | .multisig threshold keys =>
    have hnormal : (PublicKey.multisig threshold keys).toJson.normal =
        .obj [("@type", .str PublicKey.multisigUrl),
          ("public_keys", .arr (keys.map fun key => key.toJson.normal)),
          ("threshold", .int threshold.toNat)] := by
      rw [← normal_map, ← keysToJson_eq]
      simp only [PublicKey.toJson, normal, normalFields, sortFields, List.foldl, insertField,
        String.reduceLT, String.reduceEq, if_true, if_false]
    rw [hnormal] at h ⊢
    have hflaws : firstFlawItems (keys.map fun key => key.toJson.normal) = none :=
      firstFlawItems_map fun key _ => firstFlaw_normal _ (firstFlaw_key key)
    have hkeys : Json.list (PublicKey.ofJsonWithin true bound)
        (.arr (keys.map fun key => key.toJson.normal)) = .ok keys := by
      apply list_map
      intro key hkey
      have hle := depth_le_depthItems
        (List.mem_map_of_mem (f := fun key => key.toJson.normal) hkey)
      simp only [depth, depthFields] at h
      exact keyWithin_toJson key true bound (by omega)
    simp [PublicKey.ofJsonWithin, PublicKey.splitKind, PublicKey.kindOfJson, firstFlaw, require,
      record, keepFields, slot, uint32_toNat, hflaws, hkeys, settle,
      PublicKey.ed25519Url, PublicKey.secp256k1Url, PublicKey.multisigUrl]

lemma keyOfJson_toJson (key : PublicKey) : PublicKey.ofJson key.toJson.normal = .ok key :=
  keyWithin_toJson key false _ (Nat.lt_succ_self _)

lemma key_ne_null (key : PublicKey) : key.toJson.normal ≠ .null := by
  cases key <;> simp [PublicKey.toJson, normal]

lemma optionalKey_ofOption (key : Option PublicKey) :
    optional PublicKey.ofJson (Json.ofOption PublicKey.toJson key).normal = .ok key := by
  cases key with
  | none => rfl
  | some key =>
    rw [Json.ofOption, optional_of_ne_null (key_ne_null key), keyOfJson_toJson, map_ok]

lemma signerOfJson_toJson (s : SignerInfo) : SignerInfo.ofJson s.toJson.normal = .ok s := by
  have hnormal : s.toJson.normal = .obj [("mode_info", s.mode.toJson.normal),
      ("public_key", (Json.ofOption PublicKey.toJson s.publicKey).normal),
      ("sequence", .str (Number.write s.sequence.toNat))] := by
    simp only [SignerInfo.toJson, normal, normalFields, sortFields, List.foldl, insertField,
      String.reduceLT, String.reduceEq, if_true, if_false]
  rw [hnormal]
  simp [SignerInfo.ofJson, record, keepFields, slot, require, modeOfJson_toJson,
    optionalKey_ofOption, looseUInt64_write]

lemma authOfJson_toJson (a : AuthInfo) : AuthInfo.ofJson a.toJson.normal = .ok a := by
  have hnormal : a.toJson.normal = .obj [("fee", a.fee.toJson.normal),
      ("signer_infos", .arr (a.signers.map fun s => s.toJson.normal))] := by
    rw [← normal_map]
    simp only [AuthInfo.toJson, normal, normalFields, sortFields, List.foldl, insertField,
      String.reduceLT, String.reduceEq, if_true, if_false]
  have hsigners : Json.list SignerInfo.ofJson
      (.arr (a.signers.map fun s => s.toJson.normal)) = .ok a.signers :=
    list_map fun s _ => signerOfJson_toJson s
  rw [hnormal]
  simp [AuthInfo.ofJson, record, keepFields, slot, require, feeOfJson_toJson, hsigners]

end CosmosClient.Proofs
