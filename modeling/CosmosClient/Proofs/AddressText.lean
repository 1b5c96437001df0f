import Mathlib
import CosmosClient.Address
import CosmosClient.Proofs.Bech32Text
import CosmosClient.Proofs.BitGroups
import CosmosClient.Proofs.Checksums

/-!
# Addresses and their texts

A valid prefix and an address have one text in lower case, and that text and the same in upper case are
all that is read as them. Nothing else is an address: not a text with the other checksum or a wrong
one, with bits left over that are not zero, or with another number of bytes.
-/

namespace CosmosClient

/-- Groups behind a prefix carry an address: with the checksum groups they have the checksum of Bech32,
and their bits are those of the address and then fewer than five zeros. -/
structure RawAddress.Carried (raw : RawAddress) (hrp : List Char) (groups sum : List Nat) : Prop where
  checksum :
    Bech32.checksum (Bech32.expand hrp ++ (groups ++ sum)) = Bech32.Variant.bech32.constant
  bits : ∃ r < 5, groups.flatMap (Bech32.bits 5) =
    (raw.bytes.flatMap fun b => Bech32.bits 8 b.toNat) ++ List.replicate r false

end CosmosClient

namespace CosmosClient.Proofs
open Bech32

lemma write_eq_ok {variant : Variant} {hrp s : List Char} {groups : List Nat} :
    Bech32.write variant hrp groups = .ok s ↔ ValidPrefix hrp ∧
      s = Text.lower hrp ++ '1' ::
        (groups ++ checksumGroups variant (Text.lower hrp) groups).map symbol := by
  rw [Bech32.write, map_eq_ok, ← checkPrefix_isOk]
  cases checkPrefix hrp <;> simp [Except.isOk, Except.toBool, eq_comm]

lemma validPrefix_of_lower {hrp : List Char} (h : ValidPrefix hrp) : ValidPrefix (Text.lower hrp) := by
  obtain ⟨hsize, hvisible, -⟩ := (validPrefix_iff hrp).1 h
  exact (validPrefix_lower hrp).2 ⟨hsize, hvisible⟩

/-- All that is written of an address behind the separator is groups. -/
lemma writtenGroups_lt (variant : Variant) (hrp : List Char) (b : Bytes) :
    ∀ g ∈ groupsOfBytes b ++ checksumGroups variant hrp (groupsOfBytes b), g < 32 := by
  intro g hg
  rcases List.mem_append.1 hg with hg | hg
  · exact groups_lt hg
  · exact checksumGroups_lt hg

lemma ofBytes_eq_ok {b : Bytes} {raw : RawAddress} :
    RawAddress.ofBytes b = .ok raw ↔ b = raw.bytes := by
  rw [RawAddress.ofBytes, RawAddress.ofBytes?]
  constructor
  · intro h
    split at h
    next found hfound =>
      split at hfound
      · rw [← Except.ok.inj h, ← Option.some.inj hfound]
      · exact absurd hfound (by simp)
    · exact absurd h (by simp)
  · rintro rfl
    rw [dif_pos raw.size]

lemma rawRead_eq_ok {s hrp : List Char} {raw : RawAddress} :
    RawAddress.read s = .ok (hrp, raw) ↔
      ∃ groups, Bech32.read s = .ok (hrp, groups, .bech32) ∧
        bytesOfGroups groups = .ok raw.bytes := by
  simp only [RawAddress.read, bind_eq_ok, inContext, mapError_eq_ok]
  constructor
  · rintro ⟨⟨hrp', groups, variant⟩, hread, h⟩
    dsimp only at h
    split at h
    · exact absurd h (by simp)
    next hvariant =>
      simp only [bind_eq_ok, mapError_eq_ok] at h
      obtain ⟨b, hb, raw', hraw, hresult⟩ := h
      obtain ⟨rfl, rfl⟩ := Prod.mk.inj (pure_eq_ok.1 hresult)
      obtain rfl := ofBytes_eq_ok.1 hraw
      have hkind : variant = .bech32 := by cases variant <;> simp_all
      exact ⟨groups, by rw [hread, hkind], hb⟩
  · rintro ⟨groups, hread, hb⟩
    refine ⟨_, hread, ?_⟩
    simp only [reduceCtorEq, if_false, bind_eq_ok, mapError_eq_ok]
    exact ⟨_, hb, raw, ofBytes_eq_ok.2 rfl, rfl⟩

/-- What is read is the lower case of the text, as it is written. -/
lemma rawRead_iff {s hrp : List Char} {raw : RawAddress} :
    RawAddress.read s = .ok (hrp, raw) ↔
      Text.OneCase s ∧ Text.lower hrp = hrp ∧ raw.write hrp = .ok (Text.lower s) := by
  rw [rawRead_eq_ok, RawAddress.write, write_eq_ok]
  constructor
  · rintro ⟨groups, hread, hb⟩
    obtain ⟨hcase, hvalid, sum, hlength, hlt, hspell, hsum⟩ := read_eq_ok.1 hread
    have hgroups := (bytesOfGroups_iff fun g hg => hlt g (List.mem_append_left sum hg)).1 hb
    have hsums := (checksum_eq_iff .bech32 hrp hlength
      fun g hg => hlt g (List.mem_append_right groups hg)).1 hsum
    have hlower : Text.lower hrp = hrp := by
      have htwice := lower_lower s
      rw [hspell, Text.lower, List.map_append] at htwice
      exact (List.append_inj htwice (List.length_map _)).1
    exact ⟨hcase, hlower, hvalid, by rw [hspell, hlower, ← hgroups, ← hsums]⟩
  · rintro ⟨hcase, hlower, hvalid, hspell⟩
    rw [hlower] at hspell
    refine ⟨_, read_eq_ok.2 ⟨hcase, hvalid, _, length_checksumGroups .bech32 hrp _,
      writtenGroups_lt .bech32 hrp raw.bytes, hspell, ?_⟩, (bytesOfGroups_iff fun g => groups_lt).2 rfl⟩
    exact (checksum_eq_iff .bech32 hrp (length_checksumGroups _ _ _) fun g => checksumGroups_lt).2 rfl

lemma symbol_lower : ∀ v < 32, (symbol v).toLower = symbol v := by
  decide

/-- A text that is written is in lower case. -/
lemma lower_of_write {raw : RawAddress} {hrp w : List Char} (h : raw.write hrp = .ok w) :
    Text.lower w = w := by
  obtain ⟨-, hw⟩ := write_eq_ok.1 h
  have hsymbols : ((groupsOfBytes raw.bytes ++ checksumGroups .bech32 (Text.lower hrp)
      (groupsOfBytes raw.bytes)).map symbol).map Char.toLower =
      (groupsOfBytes raw.bytes ++ checksumGroups .bech32 (Text.lower hrp)
        (groupsOfBytes raw.bytes)).map symbol := by
    rw [List.map_map]
    exact List.map_congr_left fun g hg => symbol_lower g (writtenGroups_lt _ _ _ g hg)
  have htwice := lower_lower hrp
  rw [Text.lower] at htwice
  rw [hw, Text.lower, List.map_append, List.map_cons, hsymbols, htwice]
  rfl

lemma write_lower {raw : RawAddress} {hrp w : List Char} (h : raw.write hrp = .ok w) :
    raw.write (Text.lower hrp) = .ok w := by
  obtain ⟨hvalid, hw⟩ := write_eq_ok.1 h
  exact write_eq_ok.2 ⟨validPrefix_of_lower hvalid, by rw [lower_lower, hw]⟩

lemma read_of_write {raw : RawAddress} {hrp w : List Char} (h : raw.write hrp = .ok w) :
    RawAddress.read w = .ok (Text.lower hrp, raw) := by
  have hw := lower_of_write h
  refine rawRead_iff.2 ⟨.inl ((lower_eq_self_iff w).1 hw), lower_lower hrp, ?_⟩
  rw [hw]
  exact write_lower h

lemma rawRead_iff_write {s hrp : List Char} {raw : RawAddress} :
    RawAddress.read s = .ok (hrp, raw) ↔
      ∃ w, raw.write hrp = .ok w ∧ Text.lower hrp = hrp ∧ (s = w ∨ s = Text.upper w) := by
  rw [rawRead_iff]
  constructor
  · rintro ⟨hcase, hlower, hwrite⟩
    exact ⟨_, hwrite, hlower, (oneCase_iff (lower_lower s)).1 ⟨hcase, rfl⟩⟩
  · rintro ⟨w, hwrite, hlower, hs⟩
    obtain ⟨hcase, rfl⟩ := (oneCase_iff (lower_of_write hwrite)).2 hs
    exact ⟨hcase, hlower, hwrite⟩

lemma symbols_injective {ms ns : List Nat} (hm : ∀ n ∈ ms, n < 32) (hn : ∀ n ∈ ns, n < 32)
    (h : ms.map symbol = ns.map symbol) : ms = ns := by
  have hback {ls : List Nat} (hls : ∀ n ∈ ls, n < 32) : (ls.map symbol).map value? = ls.map some := by
    rw [List.map_map]
    exact List.map_congr_left fun n hn => value?_eq_some.2 ⟨hls n hn, rfl⟩
  have hvalues := congrArg (List.map value?) h
  rw [hback hm, hback hn] at hvalues
  exact List.map_injective_iff.2 (Option.some_injective Nat) hvalues

lemma separator_not_mem {ns : List Nat} (hn : ∀ n ∈ ns, n < 32) : '1' ∉ ns.map symbol := by
  intro h
  obtain ⟨n, hmem, hone⟩ := List.mem_map.1 h
  exact (symbol_ascii n (hn n hmem)).2 hone

/-- What it takes that a text of given groups is read. -/
lemma rawRead_spelled {p body hrp : List Char} {groups sum : List Nat} {raw : RawAddress}
    (hspell : Text.lower body = (groups ++ sum).map symbol) (hlt : ∀ g ∈ groups ++ sum, g < 32)
    (hlength : sum.length = 6) :
    RawAddress.read (p ++ '1' :: body) = .ok (hrp, raw) ↔ Text.OneCase (p ++ body) ∧
      hrp = Text.lower p ∧ ValidPrefix hrp ∧ raw.Carried hrp groups sum := by
  have hlower : Text.lower (p ++ '1' :: body) = Text.lower p ++ '1' :: (groups ++ sum).map symbol := by
    rw [← hspell, Text.lower, List.map_append, List.map_cons]
    rfl
  rw [rawRead_eq_ok]
  constructor
  · rintro ⟨groups', hread, hb⟩
    obtain ⟨hcase, hvalid, sum', hlength', hlt', hspell', hsum⟩ := read_eq_ok.1 hread
    -- the last separator splits the lower case in one way
    have hparts := splitLast?_eq_some.2 ⟨hlower, separator_not_mem hlt⟩
    rw [splitLast?_eq_some.2 ⟨hspell', separator_not_mem hlt'⟩, Option.some.injEq,
      Prod.mk.injEq] at hparts
    obtain ⟨rfl, hsymbols⟩ := hparts
    obtain ⟨rfl, rfl⟩ := List.append_inj' (symbols_injective hlt' hlt hsymbols) (by omega)
    exact ⟨(oneCase_separator p body).1 hcase, rfl, hvalid, hsum, bytesOfGroups_eq_ok.1 hb⟩
  · rintro ⟨hcase, rfl, hvalid, hsum, hbits⟩
    exact ⟨groups, read_eq_ok.2 ⟨(oneCase_separator p body).2 hcase, hvalid, sum, hlength, hlt, hlower,
      hsum⟩, bytesOfGroups_eq_ok.2 hbits⟩

lemma validPrefix_text (hrp : Hrp) : ValidPrefix hrp.text.toList := by
  rw [← checkPrefix_isOk]
  cases hrp <;> rfl

lemma lower_text (hrp : Hrp) : Text.lower hrp.text.toList = hrp.text.toList := by
  cases hrp <;> rfl

lemma hrpRead_text (hrp : Hrp) : Hrp.read hrp.text = .ok hrp := by
  cases hrp <;> rfl

lemma write_isOk (raw : RawAddress) (hrp : List Char) : (raw.write hrp).isOk ↔ ValidPrefix hrp := by
  rw [RawAddress.write, Bech32.write, isOk_map, checkPrefix_isOk]

lemma write_known (a : Address) : a.raw.write a.hrp.text.toList = .ok a.chars := by
  obtain ⟨w, hwrite⟩ := isOk_iff.1 ((write_isOk a.raw _).2 (validPrefix_text a.hrp))
  rw [Address.chars, hwrite]
  rfl

lemma addressRead_write (a : Address) : Address.read a.write = .ok a := by
  have hread := read_of_write (write_known a)
  rw [lower_text] at hread
  rw [Address.read, Address.write, String.toList_ofList, hread, inContext, mapError_eq_ok]
  simp only [ok_bind, String.ofList_toList, hrpRead_text]
  rfl

/-- An address is written behind a prefix just if the prefix is valid, and it is read back from that
text behind the prefix in lower case; so each address behind a known prefix is read back. What is read
as an address is its text in lower case or in upper case, and a text that is spelled in groups is read
just if it has one case, its prefix is valid, its checksum is that of Bech32, and its bits are those of
20 or 32 bytes and then fewer than five zeros. -/
theorem address_texts :
    (∀ (raw : RawAddress) (hrp : List Char), (raw.write hrp).isOk ↔ ValidPrefix hrp) ∧
    (∀ (raw : RawAddress) (hrp w : List Char), raw.write hrp = .ok w →
      RawAddress.read w = .ok (Text.lower hrp, raw)) ∧
    (∀ a : Address, a.raw.write a.hrp.text.toList = .ok a.chars ∧ Address.read a.write = .ok a) ∧
    (∀ (s hrp : List Char) (raw : RawAddress), RawAddress.read s = .ok (hrp, raw) →
      raw.write hrp = .ok (Text.lower s)) ∧
    (∀ (s hrp : List Char) (raw : RawAddress), RawAddress.read s = .ok (hrp, raw) ↔
      ∃ w, raw.write hrp = .ok w ∧ Text.lower hrp = hrp ∧ (s = w ∨ s = Text.upper w)) ∧
    ∀ (p body hrp : List Char) (groups sum : List Nat) (raw : RawAddress),
      Text.lower body = (groups ++ sum).map symbol → (∀ g ∈ groups ++ sum, g < 32) →
        sum.length = 6 →
          (RawAddress.read (p ++ '1' :: body) = .ok (hrp, raw) ↔ Text.OneCase (p ++ body) ∧
            hrp = Text.lower p ∧ ValidPrefix hrp ∧ raw.Carried hrp groups sum) := by
  refine ⟨write_isOk, fun _ _ _ => read_of_write, fun a => ⟨write_known a, addressRead_write a⟩,
    fun _ _ _ h => (rawRead_iff.1 h).2.2, fun _ _ _ => rawRead_iff_write, ?_⟩
  intro p body hrp groups sum raw hspell hlt hlength
  exact rawRead_spelled hspell hlt hlength

def longAddress : RawAddress := ⟨List.replicate 32 255, .inr rfl⟩

def longGroups : List Nat := List.replicate 51 31 ++ [16]

/-- The text of the groups behind the prefix `osmo1` with the checksum of a variant. -/
def longText (variant : Variant) : List Char :=
  "osmo1".toList ++ '1' ::
    (longGroups ++ checksumGroups variant "osmo1".toList longGroups).map symbol

theorem longAddress_texts :
    longAddress.write "OSMO1".toList = .ok (longText .bech32) ∧
      RawAddress.read (longText .bech32) = .ok ("osmo1".toList, longAddress) ∧
      longAddress.write "osmo1".toList = .ok (Text.lower (longText .bech32)) ∧
      ∀ hrp raw, RawAddress.read (longText .bech32m) ≠ .ok (hrp, raw) := by
  obtain ⟨-, hwritten, -, hread, -, hspelled⟩ := address_texts
  have hwrite : longAddress.write "OSMO1".toList = .ok (longText .bech32) := by decide +kernel
  have hback := hwritten _ _ _ hwrite
  refine ⟨hwrite, hback, hread _ _ _ hback, fun hrp raw h => ?_⟩
  have hother := hspelled "osmo1".toList
    ((longGroups ++ checksumGroups .bech32m "osmo1".toList longGroups).map symbol) hrp longGroups
    (checksumGroups .bech32m "osmo1".toList longGroups) raw (by decide +kernel) (by decide +kernel) rfl
  obtain ⟨-, rfl, -, hcarried⟩ := hother.1 h
  exact absurd hcarried.checksum (by decide +kernel)

end CosmosClient.Proofs
