import Mathlib
import CosmosClient.Client.Block
import CosmosClient.Proofs.CanonicalBase64
import CosmosClient.Proofs.DocumentDepth
import CosmosClient.Proofs.RecordFields

/-!
# Names of transactions in blocks

The transactions of a reported block are named one by one, in their order: each by the hash of the
bytes that it is the canonical Base64 text of. A transaction that was encoded here has the name that it
was given here. There is no block if one of the texts is canonical for no bytes.
-/

namespace CosmosClient

/-- A text that is the canonical Base64 of bytes, and two upper-case digits of 16 for each byte of
their hash. -/
def BlockReport.Names (tx txhash : String) : Prop :=
  ∃ bytes, Base64.Canonical tx.toList bytes ∧
    (∀ c ∈ txhash.toList, c ∈ "0123456789ABCDEF".toList) ∧
    Hex.read? txhash.toList = some (Sha256.hash bytes)

/-- What a field of transactions holds: nothing if it is missing or null, or else a list of texts. -/
def BlockReport.Holds (field : Option Json) (txs : List String) : Prop :=
  (field = none ∨ field = some .null) ∧ txs = [] ∨
    field = some (.arr (txs.map Json.str))

/-- The document of a block with a name and a header, in which transactions may be missing. -/
def BlockReport.document (id header : Json) (txs : Option Json) : Json :=
  .obj [("block_id", id),
    ("block", .obj [("header", header), ("data", .obj (txs.map fun j => ("txs", j)).toList)])]

end CosmosClient

namespace CosmosClient.Proofs

lemma txhash_eq_ok {tx txhash : String} :
    BlockReport.txhash tx = .ok txhash ↔ BlockReport.Names tx txhash := by
  simp only [BlockReport.txhash, BlockReport.Names, ← Hex.eq_writeUpper_iff]
  cases hread : Base64.readCanonical tx with
  | ok bytes =>
    have hcanonical := readCanonical_eq_ok.1 hread
    constructor
    · intro h
      exact ⟨bytes, hcanonical, (Except.ok.inj h).symm⟩
    · rintro ⟨bytes', hcanonical', rfl⟩
      obtain rfl := Except.ok.inj (hread.symm.trans (readCanonical_eq_ok.2 hcanonical'))
      rfl
  | error fault =>
    refine iff_of_false (by simp) ?_
    rintro ⟨bytes, hcanonical, -⟩
    rw [readCanonical_eq_ok.2 hcanonical] at hread
    simp at hread

lemma txhash_error_iff {tx : String} :
    (∃ f, BlockReport.txhash tx = .error f) ↔ ¬∃ bytes, Base64.Canonical tx.toList bytes := by
  rw [iff_not_comm, ← exists_ok_iff]
  simp only [txhash_eq_ok, BlockReport.Names, ← Hex.eq_writeUpper_iff]
  exact ⟨fun ⟨bytes, h⟩ => ⟨_, bytes, h, rfl⟩, fun ⟨_, bytes, h, _⟩ => ⟨bytes, h⟩⟩

/-- An encoded transaction is named in a block as it is named where it was encoded. -/
lemma txhash_toBase64 {t : Tx} {tx : String} (h : t.toBase64 = .ok tx) :
    ∃ txhash, t.hash = .ok txhash ∧ BlockReport.txhash tx = .ok txhash := by
  obtain ⟨bytes, hbytes, rfl⟩ := map_eq_ok.1 h
  refine ⟨Tx.hashBytes bytes, by rw [Tx.hash, hbytes, map_ok], ?_⟩
  rw [BlockReport.txhash, readCanonical_write]

lemma mapM_txhash_toBase64 {ts : List Tx} {txs : List String} (h : ts.mapM Tx.toBase64 = .ok txs) :
    ∃ txhashes, ts.mapM Tx.hash = .ok txhashes ∧ txs.mapM BlockReport.txhash = .ok txhashes := by
  have hpairs := mapM_eq_ok.1 h
  clear h
  induction hpairs with
  | nil => exact ⟨[], rfl, rfl⟩
  | cons ht _ ih =>
    obtain ⟨txhash, hhash, htxhash⟩ := txhash_toBase64 ht
    obtain ⟨txhashes, hhashes, htxhashes⟩ := ih
    refine ⟨txhash :: txhashes, ?_, ?_⟩
    · rw [List.mapM_cons, hhash, hhashes]
      rfl
    · rw [List.mapM_cons, htxhash, htxhashes]
      rfl

lemma listText_eq_ok {j : Json} {txs : List String} :
    Json.list Json.text j = .ok txs ↔ j = .arr (txs.map Json.str) := by
  constructor
  · intro h
    cases j with
    | arr items =>
      have hback := map_of_mapM_eq_ok (g := Json.str) h fun _ _ _ hs => (text_eq_ok hs).symm
      rw [hback]
    | _ => simp [Json.list, Json.mismatch] at h
  · rintro rfl
    exact mapM_map_ok fun _ _ => rfl

lemma txsOfJson_holds {j : Json} {txs : List String} (h : BlockReport.txsOfJson j = .ok txs) :
    BlockReport.Holds (j.part? "txs" 0) txs := by
  obtain ⟨found, hread, h⟩ := bind_eq_ok.1 h
  obtain rfl := pure_eq_ok.1 h
  have hfield : Filled (Json.optional (Json.list Json.text)) id id (j.part? "txs" 0) none found :=
    record_field hread (fills_own (fun _ _ => rfl) fills_nil) rfl (by simp)
  obtain ⟨hnone, rfl⟩ | ⟨items, txs, hsome, htxs, rfl⟩ := filled_optional hfield rfl
  · exact .inl ⟨hnone, rfl⟩
  · rw [listText_eq_ok] at htxs
    exact .inr (by rw [hsome, htxs]; rfl)

/-- Wherever the fields stand, the transactions are those of the data of the block. -/
lemma blockRead_holds {j : Json} {r : BlockReport} (h : BlockReport.ofJson j = .ok r) :
    ∃ content data, j.part? "block" 1 = some content ∧ content.part? "data" 1 = some data ∧
      BlockReport.Holds (data.part? "txs" 0) r.txs := by
  obtain ⟨⟨id, content⟩, hread, h⟩ := bind_eq_ok.1 h
  obtain ⟨hash, -, h⟩ := bind_eq_ok.1 h
  obtain ⟨⟨⟨chainId, height, time⟩, txs⟩, hcontent, h⟩ := bind_eq_ok.1 h
  obtain rfl := pure_eq_ok.1 h
  have hblock : Filled BlockReport.contentOfJson Prod.snd some (j.part? "block" 1) (none, none)
      (id, content) :=
    record_field hread (fills_other (by decide) (fun _ _ => rfl)
      (fills_own (fun _ _ => rfl) fills_nil)) rfl (by simp [Json.slot])
  obtain ⟨contentJson, hpart, hcontentRead⟩ := filled_required hblock rfl (require_eq_ok.1 hcontent)
  obtain ⟨⟨header, data⟩, hread, h⟩ := bind_eq_ok.1 hcontentRead
  obtain ⟨_, -, h⟩ := bind_eq_ok.1 h
  obtain ⟨_, hdata, h⟩ := bind_eq_ok.1 h
  obtain ⟨-, rfl⟩ := Prod.mk.inj (pure_eq_ok.1 h)
  have hfield : Filled BlockReport.txsOfJson Prod.snd some (contentJson.part? "data" 1) (none, none)
      (header, data) :=
    record_field hread (fills_other (by decide) (fun _ _ => rfl)
      (fills_own (fun _ _ => rfl) fills_nil)) rfl (by simp [Json.slot])
  obtain ⟨dataJson, hdataPart, htxs⟩ := filled_required hfield rfl (require_eq_ok.1 hdata)
  exact ⟨contentJson, dataJson, hpart, hdataPart, txsOfJson_holds htxs⟩

/-- A document without transactions, or with a list of texts, is read as the block that it reports. -/
lemma blockRead_document {id header : Json} {field : Option Json} {r : BlockReport}
    (hid : BlockReport.hashOfJson id = .ok r.hash)
    (hheader : BlockReport.headerOfJson header = .ok (r.chainId, r.height, r.time))
    (hfield : BlockReport.Holds field r.txs) :
    BlockReport.ofJson (BlockReport.document id header field) = .ok r := by
  have htxs : BlockReport.txsOfJson (.obj (field.map fun j => ("txs", j)).toList) = .ok r.txs := by
    rcases hfield with ⟨rfl | rfl, hnone⟩ | rfl
    · rw [hnone]
      rfl
    · rw [hnone]
      rfl
    · have hlist : Json.list Json.text (.arr (r.txs.map Json.str)) = .ok r.txs := listText_eq_ok.2 rfl
      simp [BlockReport.txsOfJson, Json.record, Json.keepFields, Json.slot, Json.optional, hlist]
  simp [BlockReport.document, BlockReport.ofJson, BlockReport.contentOfJson, Json.record,
    Json.keepFields, Json.slot, Json.require, hid, hheader, htxs]

/-- The block of a report names each transaction by the hash of the bytes behind its text, and there is
one unless a text is canonical for no bytes. So transactions that were encoded here are named as they
were named here. A document reports the transactions that it holds, which are none if the field for
them is missing or null. -/
theorem block_txhashes (r : BlockReport) :
    (∀ ts : List Tx, ts.mapM Tx.toBase64 = .ok r.txs →
      ∃ b, r.block = .ok b ∧ ts.mapM Tx.hash = .ok b.txhashes) ∧
      ((∃ f, r.block = .error f) ↔ ∃ tx ∈ r.txs, ¬∃ bytes, Base64.Canonical tx.toList bytes) ∧
      (∀ b, r.block = .ok b → List.Forall₂ BlockReport.Names r.txs b.txhashes) ∧
      (∀ j, BlockReport.ofJson j = .ok r → ∃ content data, j.part? "block" 1 = some content ∧
        content.part? "data" 1 = some data ∧ BlockReport.Holds (data.part? "txs" 0) r.txs) ∧
      ∀ id header field, BlockReport.hashOfJson id = .ok r.hash →
        BlockReport.headerOfJson header = .ok (r.chainId, r.height, r.time) →
        BlockReport.Holds field r.txs →
        BlockReport.ofJson (BlockReport.document id header field) = .ok r := by
  refine ⟨?_, ?_, ?_, fun j => blockRead_holds, fun id header field => blockRead_document⟩
  · intro ts hts
    obtain ⟨txhashes, hhashes, htxhashes⟩ := mapM_txhash_toBase64 hts
    refine ⟨⟨r.height, Hex.writeUpper r.hash, r.time, txhashes, r.chainId⟩, ?_, hhashes⟩
    rw [BlockReport.block, htxhashes, map_ok]
  · rw [BlockReport.block, map_error_iff, mapM_error_iff]
    simp only [txhash_error_iff]
  · intro b hb
    obtain ⟨txhashes, htxhashes, rfl⟩ := map_eq_ok.1 hb
    exact (mapM_eq_ok.1 htxhashes).imp fun _ _ => txhash_eq_ok.1

def memoTx (memo : String) : Tx := ⟨⟨[], memo, 0⟩, ⟨[], Fee.ofGas 0 Coins.empty⟩, []⟩

/-- A report of a block with two transactions. -/
def memoReport : BlockReport :=
  ⟨[7, 255], "hub", 12, ⟨738945, 43200, 0, false⟩, ["CgcSBWZpcnN0EgISAA==", "CggSBnNlY29uZBICEgA="]⟩

def memoDocument : Json :=
  BlockReport.document (.obj [("hash", .str "B/8=")])
    (.obj [("chain_id", .str "hub"), ("height", .str "12"), ("time", .str "2023-03-01T12:00:00Z")])
    (some (.arr (memoReport.txs.map Json.str)))

theorem memoReport_named :
    [memoTx "first", memoTx "second"].mapM Tx.toBase64 = .ok memoReport.txs ∧
    BlockReport.ofJson memoDocument = .ok memoReport ∧
    ∃ b, memoReport.block = .ok b ∧
      [memoTx "first", memoTx "second"].mapM Tx.hash = .ok b.txhashes ∧
      b.txhashes = ["0AB7ECCD1AB398AD2A3B0AE6D7FD248780F5587977BBC56C6E06079DA577630F",
        "F0E027831388511C24B675FEA6C0F798EAA8352AB0C3B156D9CC6D4D0CB2571D"] ∧
      List.Forall₂ BlockReport.Names memoReport.txs b.txhashes := by
  obtain ⟨hnames, -, heach, -, hdocument⟩ := block_txhashes memoReport
  have htxs : [memoTx "first", memoTx "second"].mapM Tx.toBase64 = .ok memoReport.txs :=
    toOption_eq_some.1 (by decide +kernel)
  obtain ⟨b, hb, hhashes⟩ := hnames _ htxs
  refine ⟨htxs, hdocument _ _ _ ?_ ?_ (.inr rfl), b, hb, hhashes, ?_, heach b hb⟩
  · exact toOption_eq_some.1 (by decide +kernel)
  · exact toOption_eq_some.1 (by decide +kernel)
  · have hread : ([memoTx "first", memoTx "second"].mapM Tx.hash).toOption = some
        ["0AB7ECCD1AB398AD2A3B0AE6D7FD248780F5587977BBC56C6E06079DA577630F",
          "F0E027831388511C24B675FEA6C0F798EAA8352AB0C3B156D9CC6D4D0CB2571D"] := by decide +kernel
    exact Except.ok.inj (hhashes.symm.trans (toOption_eq_some.1 hread))

end CosmosClient.Proofs
