/-!
# Bytes in hexadecimal
-/

namespace CosmosClient

/-- A string of bytes. -/
abbrev Bytes := List UInt8

namespace Hex

/-- The value of a digit of either case. -/
def digit? (c : Char) : Option Nat :=
  let n := c.toNat
  if 48 ≤ n ∧ n ≤ 57 then some (n - 48)
  else if 97 ≤ n ∧ n ≤ 102 then some (n - 87)
  else if 65 ≤ n ∧ n ≤ 70 then some (n - 55)
  else none

/-- The two digits of a byte, the high half first. -/
def pair (b : UInt8) : List Char :=
  [Nat.digitChar (b.toNat / 16), Nat.digitChar (b.toNat % 16)]

/-- Bytes in lower case digits. -/
def write (bytes : Bytes) : String :=
  String.ofList (bytes.flatMap pair)

/-- Bytes in upper case digits. -/
def writeUpper (bytes : Bytes) : String :=
  String.ofList ((bytes.flatMap pair).map Char.toUpper)

/-- The bytes that an even number of digits stands for. -/
def read? : List Char → Option Bytes
  | [] => some []
  | [_] => none
  | a :: b :: cs => do
    let high ← digit? a
    let low ← digit? b
    let bytes ← read? cs
    return UInt8.ofNat (16 * high + low) :: bytes

theorem digit?_toUpper {n : Nat} (h : n < 16) : digit? (Nat.digitChar n).toUpper = some n :=
  (by decide : ∀ n < 16, digit? (Nat.digitChar n).toUpper = some n) n h

theorem mem_upper_iff {c : Char} :
    c ∈ "0123456789ABCDEF".toList ↔ ∃ n < 16, (Nat.digitChar n).toUpper = c := by
  rw [show "0123456789ABCDEF".toList = (List.range 16).map fun n => (Nat.digitChar n).toUpper by
    decide, List.mem_map]
  simp only [List.mem_range]

theorem read?_upper (bytes : Bytes) :
    read? ((bytes.flatMap pair).map Char.toUpper) = some bytes := by
  induction bytes with
  | nil => rfl
  | cons b bytes ih =>
    have hlt := b.toNat_lt
    have hhigh : b.toNat / 16 < 16 := by omega
    have hlow : b.toNat % 16 < 16 := by omega
    have hb : 16 * (b.toNat / 16) + b.toNat % 16 = b.toNat := by omega
    simp only [List.flatMap_cons, pair, List.cons_append, List.nil_append, List.map_cons, read?,
      digit?_toUpper hhigh, digit?_toUpper hlow, ih]
    show some (UInt8.ofNat (16 * (b.toNat / 16) + b.toNat % 16) :: bytes) = _
    rw [hb, UInt8.ofNat_toNat]

theorem mem_upper_of_mem {bytes : Bytes} {c : Char}
    (h : c ∈ (bytes.flatMap pair).map Char.toUpper) : c ∈ "0123456789ABCDEF".toList := by
  obtain ⟨d, hd, rfl⟩ := List.mem_map.1 h
  obtain ⟨b, -, hd⟩ := List.mem_flatMap.1 hd
  have hlt := b.toNat_lt
  rcases List.mem_cons.1 hd with rfl | hd
  · exact mem_upper_iff.2 ⟨_, by omega, rfl⟩
  · obtain rfl := List.mem_singleton.1 hd
    exact mem_upper_iff.2 ⟨_, by omega, rfl⟩

/-- Two upper case digits are the ones that the byte they stand for is written with. -/
theorem pair_ofNat {high low : Nat} (hhigh : high < 16) (hlow : low < 16) :
    pair (UInt8.ofNat (16 * high + low)) = [Nat.digitChar high, Nat.digitChar low] := by
  have hn : (UInt8.ofNat (16 * high + low)).toNat = 16 * high + low := by
    rw [UInt8.toNat_ofNat']
    omega
  have hdiv : (16 * high + low) / 16 = high := by omega
  have hmod : (16 * high + low) % 16 = low := by omega
  rw [pair, hn, hdiv, hmod]

theorem upper_of_read? {cs : List Char} {bytes : Bytes}
    (hdigits : ∀ c ∈ cs, c ∈ "0123456789ABCDEF".toList) (h : read? cs = some bytes) :
    (bytes.flatMap pair).map Char.toUpper = cs := by
  induction cs using read?.induct generalizing bytes with
  | case1 =>
    obtain rfl := Option.some.inj h
    rfl
  | case2 => simp [read?] at h
  | case3 a b cs ih =>
    simp only [List.forall_mem_cons] at hdigits
    obtain ⟨ha, hb, hcs⟩ := hdigits
    obtain ⟨high, hhigh, rfl⟩ := mem_upper_iff.1 ha
    obtain ⟨low, hlow, rfl⟩ := mem_upper_iff.1 hb
    simp only [read?, digit?_toUpper hhigh, digit?_toUpper hlow] at h
    cases hrest : read? cs with
    | none => simp [hrest] at h
    | some rest =>
      rw [hrest] at h
      obtain rfl := Option.some.inj h
      rw [List.flatMap_cons, pair_ofNat hhigh hlow, List.map_append, ih hcs hrest]
      rfl

/-- The upper case text of bytes is the one whose digits are in upper case and stand for the bytes. -/
theorem eq_writeUpper_iff {text : String} {bytes : Bytes} :
    text = writeUpper bytes ↔
      (∀ c ∈ text.toList, c ∈ "0123456789ABCDEF".toList) ∧ read? text.toList = some bytes := by
  rw [writeUpper, ← String.toList_inj, String.toList_ofList]
  constructor
  · intro h
    rw [h]
    exact ⟨fun c => mem_upper_of_mem, read?_upper bytes⟩
  · rintro ⟨hdigits, hread⟩
    exact (upper_of_read? hdigits hread).symm

end Hex
end CosmosClient
