import Mathlib
import CosmosClient.Proofs.SignerPlaces

/-!
# Signing in any order

Where all signers of a transaction are known and stand in it once, a key that signs as its signer says
changes its own signature and nothing else, and no document covers the signatures. So the keys of such
a transaction may sign in any order.
-/

namespace CosmosClient

/-- A transaction whose signers are all known and different, with a signature for each. -/
structure Tx.Filled (t : Tx) : Prop where
  length : t.signatures.length = t.authInfo.signers.length
  known : ∀ q, ¬t.OpenAt q
  distinct : (t.authInfo.signers.map SignerInfo.publicKey).Nodup

/-- The transaction that several keys have signed one after the other. -/
def Tx.signInTurn (t : Tx) : List (Key × SignOptions) → Except Failure Tx
  | [] => .ok t
  | (k, options) :: rest =>
    match k.signTx t options with
    | (u, .ok ()) => u.signInTurn rest
    | (_, .error e) => .error e

/-- Keys that are to sign as signers of a transaction, each once: the signer of each is in it, and each
has its document. -/
structure Tx.Turns (t : Tx) (turns : List (Key × SignOptions)) : Prop where
  signer : ∀ turn ∈ turns, turn.1.signer turn.2 ∈ t.authInfo.signers
  document : ∀ turn ∈ turns, ∃ b, turn.2.Documents t b
  once : (turns.map fun turn => turn.1.publicKey).Nodup

end CosmosClient

namespace CosmosClient.Proofs

variable {k : Key} {t u : Tx} {options : SignOptions} {p : Nat}

lemma documentBytes_of_documents {b : Bytes} (h : options.Documents t b) :
    Key.documentBytes t options = .ok b := by
  unfold Key.documentBytes
  rcases h with ⟨hmode, d, hd, hb⟩ | ⟨hmode, hb⟩
  · simp only [hmode]
    rw [hd, map_ok, mapError_ok, hb]
  · simp only [hmode]
    rw [Key.legacyBytes, inContext, hb, mapError_ok, mapError_ok]

lemma exists_document (h : signable t.body options.mode) : ∃ b, options.Documents t b := by
  rw [← documentBytes_isOk t options] at h
  obtain ⟨b, hb⟩ := isOk_iff.1 h
  exact ⟨b, documents_of_documentBytes hb⟩

lemma only_of_filled (ht : t.Filled) (hsigner : t.authInfo.signers[p]? = some (k.signer options)) :
    t.OnlyAt k.publicKey p := by
  intro q
  constructor
  · rintro ⟨s, hs, hkey⟩
    have hq : q < (t.authInfo.signers.map SignerInfo.publicKey).length := by
      rw [List.length_map]
      exact (List.getElem?_eq_some_iff.1 hs).1
    refine (List.getElem?_inj hq ht.distinct).1 ?_
    rw [List.getElem?_map, List.getElem?_map, hs, hsigner, Option.map_some, hkey]
    rfl
  · rintro rfl
    exact ⟨_, hsigner, rfl⟩

/-- In a filled transaction a key takes the place of its signer, and nothing is set anew. -/
lemma enlist_of_filled (ht : t.Filled) (hsigner : t.authInfo.signers[p]? = some (k.signer options)) :
    k.enlist t options = (t, p) := by
  have htakes := (takes_only_iff (only_of_filled ht hsigner)).2 fun q _ => ht.known q
  have hkept := enlist_eq_self_iff.2 ⟨⟨p, htakes, hsigner⟩, ht.length.ge⟩
  exact Prod.ext hkept (takes_iff.1 htakes)

/-- A turn changes the signature of its signer and nothing else. -/
lemma signTx_of_filled (ht : t.Filled) (hsigner : t.authInfo.signers[p]? = some (k.signer options))
    {b : Bytes} (hb : options.Documents t b) :
    k.signTx t options = ({ t with signatures := t.signatures.set p (k.signBytes b) }, .ok ()) := by
  have hmode : Key.supports options.mode := by
    rcases hb with ⟨hmode, -⟩ | ⟨hmode, -⟩ <;> rw [hmode] <;> rfl
  rw [Key.signTx, if_pos hmode, enlist_of_filled ht hsigner]
  simp only [documentBytes_of_documents hb]

lemma filled_set (ht : t.Filled) (p : Nat) (b : Bytes) :
    Tx.Filled { t with signatures := t.signatures.set p b } :=
  ⟨by rw [List.length_set, ht.length], ht.known, ht.distinct⟩

/-- A document covers the body, the signers and the fee, but no signatures. -/
lemma documents_set (signatures : List Bytes) (b : Bytes) :
    options.Documents { t with signatures } b ↔ options.Documents t b := Iff.rfl

def placeOf (t : Tx) (turn : Key × SignOptions) : Nat := (turn.1.enlist t turn.2).2

def signatureOf (t : Tx) (turn : Key × SignOptions) : Bytes :=
  turn.1.signBytes ((Key.documentBytes t turn.2).toOption.getD [])

def signaturesAfter (t : Tx) (turns : List (Key × SignOptions)) : List Bytes :=
  turns.foldl (fun signatures turn => signatures.set (placeOf t turn) (signatureOf t turn))
    t.signatures

lemma signer_placeOf (ht : t.Filled) {turn : Key × SignOptions}
    (hsigner : turn.1.signer turn.2 ∈ t.authInfo.signers) :
    t.authInfo.signers[placeOf t turn]? = some (turn.1.signer turn.2) := by
  obtain ⟨p, hp⟩ := List.getElem?_of_mem hsigner
  rw [placeOf, enlist_of_filled ht hp, hp]

lemma signatureOf_eq {turn : Key × SignOptions} {b : Bytes} (hb : turn.2.Documents t b) :
    signatureOf t turn = turn.1.signBytes b := by
  rw [signatureOf, documentBytes_of_documents hb]
  rfl

lemma signInTurn_eq (ht : t.Filled) {turns : List (Key × SignOptions)} (hturns : t.Turns turns) :
    t.signInTurn turns = .ok { t with signatures := signaturesAfter t turns } := by
  -- what is asked of the transaction outlives a turn, and places and documents do not change
  induction turns generalizing t with
  | nil => rfl
  | cons turn turns ih =>
    obtain ⟨k, options⟩ := turn
    obtain ⟨b, hb⟩ := hturns.document (k, options) (by simp)
    have hplace := signer_placeOf ht (hturns.signer (k, options) (by simp))
    have hrest : Tx.Turns
        { t with signatures := t.signatures.set (placeOf t (k, options)) (k.signBytes b) } turns :=
      ⟨fun x hx => hturns.signer x (by simp [hx]), fun x hx => hturns.document x (by simp [hx]),
        (List.nodup_cons.1 hturns.once).2⟩
    simp only [Tx.signInTurn, signTx_of_filled ht hplace hb]
    rw [ih (filled_set ht _ _) hrest, signaturesAfter, signaturesAfter, List.foldl_cons,
      signatureOf_eq hb]
    rfl

lemma placeOf_ne (ht : t.Filled) {turns : List (Key × SignOptions)} (hturns : t.Turns turns)
    {x y : Key × SignOptions} (hx : x ∈ turns) (hy : y ∈ turns) (hne : x ≠ y) :
    placeOf t x ≠ placeOf t y := by
  intro hsame
  have hsigner := signer_placeOf ht (hturns.signer x hx)
  rw [hsame, signer_placeOf ht (hturns.signer y hy), Option.some.injEq] at hsigner
  have hkey : y.1.publicKey = x.1.publicKey := Option.some.inj (congrArg SignerInfo.publicKey hsigner)
  exact hne (List.inj_on_of_nodup_map hturns.once hx hy hkey.symm)

lemma turns_perm {turns order : List (Key × SignOptions)} (hturns : t.Turns turns)
    (horder : order.Perm turns) : t.Turns order :=
  ⟨fun x hx => hturns.signer x (horder.mem_iff.1 hx), fun x hx => hturns.document x (horder.mem_iff.1 hx),
    (horder.map _).nodup_iff.2 hturns.once⟩

lemma signaturesAfter_perm (ht : t.Filled) {turns order : List (Key × SignOptions)}
    (hturns : t.Turns turns) (horder : order.Perm turns) :
    signaturesAfter t order = signaturesAfter t turns := by
  refine horder.foldl_eq' (fun x hx y hy signatures => ?_) t.signatures
  by_cases hxy : x = y
  · rw [hxy]
  · exact List.set_comm _ _ (placeOf_ne ht hturns (horder.mem_iff.1 hx) (horder.mem_iff.1 hy) hxy)

lemma length_signaturesAfter (t : Tx) (turns : List (Key × SignOptions)) :
    (signaturesAfter t turns).length = t.signatures.length := by
  refine List.foldlRecOn (motive := fun s : List Bytes => s.length = t.signatures.length)
    turns _ rfl fun signatures hlength turn _ => ?_
  rw [List.length_set, hlength]

lemma signature_of_turn (ht : t.Filled) {turns : List (Key × SignOptions)} (hturns : t.Turns turns)
    {turn : Key × SignOptions} (hturn : turn ∈ turns) :
    (signaturesAfter t turns)[placeOf t turn]? = some (signatureOf t turn) := by
  have hplace := signer_placeOf ht (hturns.signer turn hturn)
  have hlt := (List.getElem?_eq_some_iff.1 hplace).1
  -- the turn could as well be the last
  obtain ⟨front, back, rfl⟩ := List.append_of_mem hturn
  have hlast : ((front ++ back) ++ [turn]).Perm (front ++ turn :: back) :=
    (List.perm_append_singleton turn _).trans List.perm_middle.symm
  have hafter : signaturesAfter t ((front ++ back) ++ [turn]) =
      (signaturesAfter t (front ++ back)).set (placeOf t turn) (signatureOf t turn) := by
    rw [signaturesAfter, List.foldl_append]
    rfl
  rw [← signaturesAfter_perm ht hturns hlast, hafter,
    List.getElem?_set_self (by rw [length_signaturesAfter, ht.length]; exact hlt)]

/-- No turn changes a signature of another place. -/
lemma signature_of_other {turns : List (Key × SignOptions)} {q : Nat}
    (hother : ∀ turn ∈ turns, placeOf t turn ≠ q) :
    (signaturesAfter t turns)[q]? = t.signatures[q]? := by
  refine List.foldlRecOn (motive := fun s : List Bytes => s[q]? = t.signatures[q]?)
    turns _ rfl fun signatures hkept turn hturn => ?_
  rw [List.getElem?_set_ne (hother turn hturn), hkept]

/-- Keys that sign a transaction of known and different signers, each as its signer says, succeed in
any order, and the outcome is the same: the body, the signers and the fee are those of the
transaction, each signature that was made is the one of its key for the document of the outcome, and
the others are as they were. -/
theorem signing_order_irrelevant (t : Tx) (ht : t.Filled) (turns : List (Key × SignOptions))
    (hturns : t.Turns turns) :
    ∃ u : Tx, (∀ order, order.Perm turns → t.signInTurn order = .ok u) ∧ u.body = t.body ∧
      u.authInfo = t.authInfo ∧
      (∀ turn ∈ turns, ∃ (p : Nat) (b : Bytes), u.authInfo.signers[p]? = some (turn.1.signer turn.2) ∧
        turn.2.Documents u b ∧ u.signatures[p]? = some (turn.1.signBytes b)) ∧
      ∀ q : Nat, (∀ turn ∈ turns, u.authInfo.signers[q]? ≠ some (turn.1.signer turn.2)) →
        u.signatures[q]? = t.signatures[q]? := by
  refine ⟨{ t with signatures := signaturesAfter t turns }, ?_, rfl, rfl, ?_, ?_⟩
  · intro order horder
    rw [signInTurn_eq ht (turns_perm hturns horder), signaturesAfter_perm ht hturns horder]
  · intro turn hturn
    obtain ⟨b, hb⟩ := hturns.document turn hturn
    refine ⟨placeOf t turn, b, signer_placeOf ht (hturns.signer turn hturn),
      (documents_set _ b).2 hb, ?_⟩
    rw [← signatureOf_eq hb]
    exact signature_of_turn ht hturns hturn
  · intro q hq
    refine signature_of_other fun turn hturn hplace => hq turn hturn ?_
    rw [← hplace]
    exact signer_placeOf ht (hturns.signer turn hturn)

/-- A payment of two single keys, in different modes, and a key of keys between them. -/
def jointTx : Tx :=
  ⟨.ofMessages [.send "alice" "bob" (.ofList [⟨"atom", .clamp 7⟩])],
    ⟨[⟨some firstKey.publicKey, .single .direct, 4⟩,
      ⟨some (.multisig 1 [.ed25519 [3]]), .multi (BitArray.ofSize 1) [], 9⟩,
      ⟨some secondKey.publicKey, .single .legacyAminoJson, 0⟩], .ofGas 200 .empty⟩,
    [[], [5], []]⟩

def jointTurns : List (Key × SignOptions) :=
  [(firstKey, ⟨"chain", 1, 4, .direct⟩), (secondKey, ⟨"chain", 2, 0, .legacyAminoJson⟩)]

lemma jointTx_filled : jointTx.Filled := by
  refine ⟨rfl, fun q => ?_, by decide +kernel⟩
  rw [not_open_iff]
  intro s hs
  have hopen : ∀ s ∈ jointTx.authInfo.signers, s.isOpen = false := by decide +kernel
  exact hopen s (List.mem_of_getElem? hs)

lemma jointTurns_turns : jointTx.Turns jointTurns := by
  have hdirect : signable jointTx.body .direct := rfl
  have hlegacy : signable jointTx.body .legacyAminoJson := rfl
  refine ⟨?_, ?_, by decide +kernel⟩
  · simp [jointTurns, jointTx, Key.signer]
  · simp only [jointTurns, List.forall_mem_cons]
    exact ⟨exists_document hdirect, exists_document hlegacy, by simp⟩

theorem jointTx_either_order :
    jointTx.Filled ∧ jointTx.Turns jointTurns ∧ ∃ u, jointTx.signInTurn jointTurns = .ok u ∧
      jointTx.signInTurn jointTurns.reverse = .ok u ∧ u.authInfo = jointTx.authInfo ∧
      u.signatures[1]? = some [5] := by
  obtain ⟨u, horder, -, hauth, -, hother⟩ :=
    signing_order_irrelevant jointTx jointTx_filled jointTurns jointTurns_turns
  refine ⟨jointTx_filled, jointTurns_turns, u, horder _ (List.Perm.refl _),
    horder _ (List.reverse_perm _), hauth, hother 1 ?_⟩
  rw [hauth]
  simp [jointTurns, jointTx, Key.signer]

end CosmosClient.Proofs
