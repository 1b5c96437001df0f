import Mathlib
import CosmosClient.Proofs.LegacyDocuments

/-!
# The text that is signed in legacy signing

The text is read back to the document, its keys increase in every object, no blank stands outside of
its strings, and the characters that HTML reserves do not occur in it. Only a document with a
message of an unknown type has no text.
-/

namespace CosmosClient.Json

/-- Whether the keys of every object in a document increase, at every depth. -/
inductive Sorted : Json → Prop
  | scalar {j : Json} (h : j.depth = 0) : Sorted j
  | arr {items : List Json} (h : ∀ j ∈ items, Sorted j) : Sorted (.arr items)
  | obj {fields : List (String × Json)} (hkeys : Increasing fields)
      (h : ∀ f ∈ fields, Sorted f.2) : Sorted (.obj fields)

/-- The characters of a text outside of its strings, given whether a string is open at its start. -/
def outside : Bool → List Char → List Char
  | _, [] => []
  | false, c :: cs => if c = '"' then outside true cs else c :: outside false cs
  | true, '\\' :: _ :: cs => outside true cs
  | true, c :: cs => if c = '"' then outside false cs else outside true cs

/-- The characters that stand between values. -/
def marks : List Char := ['[', ']', '{', '}', ',', ':']

/-- A piece of a text with whole strings in it and nothing but marks around them. -/
def Bare (cs : List Char) : Prop :=
  ∀ rest, ∃ front, (∀ c ∈ front, c ∈ marks) ∧
    outside false (cs ++ rest) = front ++ outside false rest

end CosmosClient.Json

namespace CosmosClient.Proofs
open Json Spelling

lemma sorted_normal {j : Json} (hj : j.Textual) : j.normal.Sorted := by
  induction hj with
  | str s => exact .scalar rfl
  | arr _ ih =>
    rw [normal, normalItems_eq]
    exact .arr (List.forall_mem_map.2 ih)
  | obj _ ih =>
    rw [normal, normalFields_eq]
    refine .obj (sortFields_increasing _) ?_
    intro f hf
    obtain ⟨g, hg, rfl⟩ := List.mem_map.1 (mem_of_mem_sortFields hf)
    exact ih g hg

lemma depth_normal {j : Json} (hj : j.Textual) : j.normal.depth ≤ j.depth := by
  induction hj with
  | str s => exact le_refl _
  | arr _ ih =>
    rw [normal, normalItems_eq, depth, depth]
    apply Nat.succ_le_succ
    apply depthItems_le
    intro j hj
    obtain ⟨i, hi, rfl⟩ := List.mem_map.1 hj
    exact (ih i hi).trans (depth_le_depthItems hi)
  | obj _ ih =>
    rw [normal, normalFields_eq, depth, depth]
    apply Nat.succ_le_succ
    apply depthFields_le
    intro f hf
    obtain ⟨g, hg, rfl⟩ := List.mem_map.1 (mem_of_mem_sortFields hf)
    exact (ih g hg).trans (depth_le_depthFields hg)

lemma depth_coin (c : Coin) : c.toJson.normal.depth ≤ 1 :=
  (depth_normal (textual_coin c)).trans (le_refl 1)

lemma depth_coins (cs : Coins) : cs.toJson.depth ≤ 2 := by
  apply Nat.succ_le_succ
  apply depthItems_le
  intro j hj
  obtain ⟨c, -, rfl⟩ := List.mem_map.1 hj
  exact le_refl 1

lemma depth_parties (parties : List Party) :
    (Json.arr (parties.map Message.partyToJson)).depth ≤ 4 := by
  apply Nat.succ_le_succ
  apply depthItems_le
  intro j hj
  obtain ⟨p, -, rfl⟩ := List.mem_map.1 hj
  have hcoins := (depth_normal (textual_coins p.coins)).trans (depth_coins p.coins)
  simp only [Message.partyToJson, depth, depthFields]
  omega

lemma depth_fields (m : Message) : (Json.obj m.fields).depth ≤ 5 := by
  have hcoin (c : Coin) : c.toJson.normal.depth ≤ 4 := (depth_coin c).trans (by decide)
  have hcoins (cs : Coins) : cs.toJson.normal.depth ≤ 4 :=
    (depth_normal (textual_coins cs)).trans ((depth_coins cs).trans (by decide))
  have hstr (s : String) : (Json.str s).depth ≤ 4 := Nat.zero_le _
  apply Nat.succ_le_succ
  apply depthFields_le
  cases m <;> simp [Message.fields, hcoin, hcoins, hstr, depth_parties]

lemma depth_message {m : Message} {j : Json} (h : m.toAminoJson = .ok j) : j.depth ≤ 6 := by
  obtain ⟨kind, -, rfl⟩ := toAminoJson_eq_ok h
  have hfields := depth_fields m
  simp only [depth, depthFields] at hfields ⊢
  omega

lemma depth_fee (f : Fee) : f.toAminoJson.depth ≤ 3 := by
  apply Nat.succ_le_succ
  apply depthFields_le
  have hstr (s : String) : (Json.str s).depth ≤ 2 := Nat.zero_le _
  simp only [List.forall_mem_append, List.forall_mem_cons]
  refine ⟨⟨⟨depth_coins f.amount, hstr _, by simp⟩, ?_⟩, ?_⟩
  · split <;> simp [hstr]
  · split <;> simp [hstr]

/-- A document nests no deeper than a reader follows. -/
lemma depth_document {d : LegacySignDoc} {j : Json} (h : d.toJson = .ok j) :
    j.depth ≤ maxDepth := by
  obtain ⟨messages, hmessages, rfl⟩ := map_eq_ok.1 h
  have hlist : (Json.arr messages).depth ≤ 7 := by
    apply Nat.succ_le_succ
    apply depthItems_le
    intro j hj
    obtain ⟨m, -, hm⟩ := mem_of_mapM_eq_ok hmessages j hj
    exact depth_message hm
  have hfee : d.fee.toAminoJson.depth ≤ 7 := (depth_fee d.fee).trans (by decide)
  have hstr (s : String) : (Json.str s).depth ≤ 7 := Nat.zero_le _
  refine (Nat.succ_le_succ (depthFields_le ?_)).trans (by decide : 7 + 1 ≤ maxDepth)
  split <;> simp [hlist, hfee, hstr]

lemma bare_append {cs ds : List Char} (hcs : Bare cs) (hds : Bare ds) : Bare (cs ++ ds) := by
  intro rest
  obtain ⟨front, hfront, hfirst⟩ := hcs (ds ++ rest)
  obtain ⟨back, hback, hsecond⟩ := hds rest
  refine ⟨front ++ back, ?_, ?_⟩
  · intro c hc
    exact (List.mem_append.1 hc).elim (hfront c) (hback c)
  · rw [List.append_assoc, hfirst, hsecond, List.append_assoc]

lemma bare_nil : Bare [] :=
  fun _ => ⟨[], by simp, rfl⟩

lemma bare_mark {c : Char} (hc : c ∈ marks) : Bare [c] := by
  intro rest
  have hquote : c ≠ '"' := by
    rintro rfl
    exact absurd hc (by decide)
  exact ⟨[c], by simpa using hc, by simp [outside, hquote]⟩

lemma bare_flatMap {α : Type} {write : α → List Char} {l : List α} (h : ∀ a ∈ l, Bare (write a)) :
    Bare (l.flatMap write) := by
  induction l with
  | nil => exact bare_nil
  | cons a l ih =>
    obtain ⟨ha, hl⟩ := List.forall_mem_cons.1 h
    exact bare_append ha (ih hl)

lemma outside_plain {c : Char} (hquote : c ≠ '"') (hslash : c ≠ '\\') (cs : List Char) :
    outside true (c :: cs) = outside true cs := by
  rw [outside.eq_def]
  split <;> simp_all

/-- No character of a string ends it. -/
lemma outside_escape (c : Char) (cs : List Char) :
    outside true ((Json.escape c).flatMap LegacySignDoc.escape ++ cs) = outside true cs := by
  by_cases hreserved : c = '&' ∨ c = '<' ∨ c = '>'
  · rcases hreserved with rfl | rfl | rfl <;> rfl
  · rw [escape_unreserved hreserved]
    rcases escape_cases c with ⟨hc, hquote, hslash, -⟩ | ⟨e, hc, -⟩ | ⟨h, hh, l, hl, hc, -⟩
    · rw [hc]
      exact outside_plain hquote hslash cs
    · rw [hc]
      rfl
    · have hdigit : ∀ n < 16, Nat.digitChar n ≠ '"' ∧ Nat.digitChar n ≠ '\\' := by
        decide
      obtain ⟨hquote, hslash⟩ := hdigit h hh
      obtain ⟨hquote', hslash'⟩ := hdigit l hl
      rw [hc]
      calc outside true ('\\' :: 'u' :: '0' :: '0' :: Nat.digitChar h :: Nat.digitChar l :: cs)
          = outside true (Nat.digitChar h :: Nat.digitChar l :: cs) := rfl
        _ = outside true (Nat.digitChar l :: cs) := outside_plain hquote hslash _
        _ = outside true cs := outside_plain hquote' hslash' _

lemma outside_letters (cs rest : List Char) :
    outside true
        ((cs.flatMap fun c => (Json.escape c).flatMap LegacySignDoc.escape) ++ '"' :: rest) =
      outside false rest := by
  induction cs with
  | nil => rfl
  | cons c cs ih => rw [List.flatMap_cons, List.append_assoc, outside_escape, ih]

lemma bare_quoted (s : String) : Bare ('"' :: signed.letters s) := by
  intro rest
  refine ⟨[], by simp, ?_⟩
  have hletters := outside_letters s.toList rest
  simpa [letters, outside, signed] using hletters

lemma bare_items {items : List Json} (h : ∀ j ∈ items, Bare (signed.spell j)) :
    Bare ((compactItems items).flatMap signed.escape) := by
  have hcomma : Bare [','] := bare_mark (by decide)
  cases items with
  | nil => exact bare_nil
  | cons j items =>
    obtain ⟨hj, hitems⟩ := List.forall_mem_cons.1 h
    rw [spell_items]
    exact bare_append hj (bare_flatMap fun i hi => bare_append hcomma (hitems i hi))

lemma bare_fields {fields : List (String × Json)} (h : ∀ f ∈ fields, Bare (signed.spell f.2)) :
    Bare ((compactFields fields).flatMap signed.escape) := by
  have hcomma : Bare [','] := bare_mark (by decide)
  have hcolon : Bare [':'] := bare_mark (by decide)
  have hfield : ∀ f ∈ fields, Bare ('"' :: signed.spellField f) := by
    intro f hf
    exact bare_append (bare_quoted f.1) (bare_append hcolon (h f hf))
  cases fields with
  | nil => exact bare_nil
  | cons f fields =>
    obtain ⟨hf, hfields⟩ := List.forall_mem_cons.1 hfield
    rw [spell_fields]
    exact bare_append hf (bare_flatMap fun g hg => bare_append hcomma (hfields g hg))

lemma bare_spell {j : Json} (hj : j.Textual) : Bare (signed.spell j) := by
  induction hj with
  | str s =>
    rw [spell_str]
    exact bare_quoted s
  | arr _ ih =>
    rw [spell_arr]
    have hopen : Bare ['['] := bare_mark (by decide)
    exact bare_append (bare_append hopen (bare_items ih)) (bare_mark (by decide))
  | obj _ ih =>
    rw [spell_obj]
    have hopen : Bare ['{'] := bare_mark (by decide)
    exact bare_append (bare_append hopen (bare_fields ih)) (bare_mark (by decide))

lemma outside_spell {j : Json} (hj : j.Textual) :
    ∀ c ∈ outside false (signed.spell j), c ∈ marks := by
  obtain ⟨front, hfront, hsplit⟩ := bare_spell hj []
  intro c hc
  rw [← List.append_nil (signed.spell j), hsplit, outside, List.append_nil] at hc
  exact hfront c hc

lemma unreserved_escape (c : Char) :
    ∀ e ∈ LegacySignDoc.escape c, e ≠ '<' ∧ e ≠ '>' ∧ e ≠ '&' := by
  unfold LegacySignDoc.escape
  split
  · simp
  · split
    · simp
    · split <;> simp_all

lemma unreserved_spell (j : Json) : ∀ c ∈ signed.spell j, c ≠ '<' ∧ c ≠ '>' ∧ c ≠ '&' := by
  intro c hc
  obtain ⟨a, -, ha⟩ := List.mem_flatMap.1 hc
  exact unreserved_escape a c ha

lemma toAminoJson_error_iff (m : Message) :
    (∃ e, m.toAminoJson = .error e) ↔ (∃ any, m = .encoded any) ∨ ∃ value, m = .json value := by
  cases m <;> simp [Message.toAminoJson, Message.kind?]

lemma legacyBytes_error_iff (d : LegacySignDoc) :
    (∃ e, d.bytes = .error e) ↔
      ∃ m ∈ d.messages, (∃ any, m = .encoded any) ∨ ∃ value, m = .json value := by
  rw [LegacySignDoc.bytes, map_error_iff, LegacySignDoc.chars, map_error_iff, LegacySignDoc.toJson,
    map_error_iff, mapM_error_iff]
  simp only [toAminoJson_error_iff]

lemma firstFlaw_textual {j : Json} (hj : j.Textual) : firstFlaw j = none := by
  induction hj with
  | str s => rfl
  | arr _ ih => exact firstFlawItems_eq_none.2 ih
  | obj _ ih => exact firstFlawFields_eq_none.2 ih

lemma read_signed {j : Json} (hj : j.Textual) (hdepth : j.depth ≤ maxDepth) :
    Json.read (String.ofList (signed.spell j)) = (j, some []) := by
  have hvalue := respelled signed hj hdepth (2 * (signed.spell j).length + 2) [] (by omega)
  rw [List.append_nil] at hvalue
  simpa only [Json.read, String.toList_ofList] using hvalue

/-- A document of legacy signing has no text only for a message of an unknown type. Otherwise the
bytes are a text that is read back to the document and nothing else; the keys increase in all of its
objects, outside of its strings there is no blank, and no character that HTML reserves is in it. -/
theorem legacy_text_canonical (d : LegacySignDoc) :
    ((∃ e, d.bytes = .error e) ↔
      ∃ m ∈ d.messages, (∃ any, m = .encoded any) ∨ ∃ value, m = .json value) ∧
    ∀ b, d.bytes = .ok b → ∃ cs j, d.toJson = .ok j ∧ Utf8.decode? b = some (String.ofList cs) ∧
      Json.read (String.ofList cs) = (j.normal, some []) ∧
      Json.decodeText Json.any (String.ofList cs) = .ok j.normal ∧ j.normal.Sorted ∧
      (∀ c ∈ outside false cs, ¬Text.isBlank c) ∧ ∀ c ∈ cs, c ≠ '<' ∧ c ≠ '>' ∧ c ≠ '&' := by
  refine ⟨legacyBytes_error_iff d, ?_⟩
  intro b hb
  obtain ⟨j, hj, rfl⟩ := legacyBytes_eq_ok hb
  have htextual := textual_toJson hj
  have hnormal := textual_normal htextual
  have hread := read_signed hnormal ((depth_normal htextual).trans (depth_document hj))
  have hany : Json.any j.normal = .ok j.normal :=
    any_of_isValue (isValue_normal (firstFlaw_textual htextual))
  refine ⟨signed.spell j.normal, j, hj, Utf8.decode_encode _, hread, ?_, sorted_normal htextual, ?_,
    unreserved_spell _⟩
  · simp only [decodeText, hread, hany, settle, mapError_ok, ok_bind]
    rfl
  · have hmarks : ∀ c ∈ marks, ¬Text.isBlank c := by simp [marks, Text.isBlank]
    intro c hc
    exact hmarks c (outside_spell hnormal c hc)

/-- A document whose texts hold what is escaped in strings, what HTML reserves, and what looks
escaped already. -/
def awkwardDoc : LegacySignDoc :=
  ⟨3, "a<b", ⟨.ofList [⟨"u\"", .clamp 5⟩], 9, "p&q", "\\u003c"⟩, " <\\\"\n\x01\\u003e&\\>é ",
    [.send "x y" "" (.ofList [⟨"\\", .clamp 1⟩])], 4, 7⟩

theorem awkwardDoc_canonical :
    ∃ b cs j, awkwardDoc.bytes = .ok b ∧ awkwardDoc.toJson = .ok j ∧
      Utf8.decode? b = some (String.ofList cs) ∧
      Json.decodeText Json.any (String.ofList cs) = .ok j.normal ∧ '&' ∉ cs := by
  obtain ⟨herror, hcanonical⟩ := legacy_text_canonical awkwardDoc
  cases hb : awkwardDoc.bytes with
  | error e => exact absurd (herror.1 ⟨e, hb⟩) (by simp [awkwardDoc])
  | ok b =>
    obtain ⟨cs, j, hj, hcs, -, hread, -, -, hreserved⟩ := hcanonical b hb
    exact ⟨b, cs, j, rfl, hj, hcs, hread, fun h => (hreserved '&' h).2.2 rfl⟩

end CosmosClient.Proofs
