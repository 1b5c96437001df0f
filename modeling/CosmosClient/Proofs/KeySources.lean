import Mathlib
import CosmosClient.CommandLine.Run
import CosmosClient.Proofs.DerivationPaths
import CosmosClient.Proofs.TextPieces

/-!
# Paths of wallets

A wallet is read as a phrase behind a path or as a phrase alone; it is never both, since no word of a
phrase has a slash. A path that is written before a phrase is the one the wallet is read with. Of the
coin types, one that is given replaces that of the path, and that of the network counts only where
there is no path.
-/

namespace CosmosClient

/-- A wallet with a path before its phrase, and blanks around both that do not count. -/
def KeySource.Explicit (wallet : String) (phrase : SeedPhrase) (path : DerivationPath) : Prop :=
  ∃ pathText phraseText, Text.trim wallet.toList = pathText ++ ' ' :: phraseText ∧
    DerivationPath.read (String.ofList pathText) = .ok path ∧
    SeedPhrase.read (String.ofList phraseText) = .ok phrase

end CosmosClient

namespace CosmosClient.Proofs
open KeySource

lemma place?_eq_none {w : String} (h : w ∉ SeedPhrase.wordList) : SeedPhrase.place? w = none := by
  rw [SeedPhrase.place?, List.findIdx?_eq_none_iff]
  intro v hv
  rw [beq_eq_false_iff_ne]
  rintro rfl
  exact h hv

lemma mem_wordList_of_isValid {w : String} {ws : List String}
    (h : SeedPhrase.isValid (w :: ws) = true) : w ∈ SeedPhrase.wordList := by
  by_contra hnot
  rw [SeedPhrase.isValid, List.mapM_cons, place?_eq_none hnot] at h
  exact Bool.noConfusion h

set_option maxRecDepth 100000 in
lemma slash_notMem_wordText : '/' ∉ SeedPhrase.wordText.toList := by
  unfold SeedPhrase.wordText
  rw [String.toList_ofList]
  decide +kernel

lemma slash_notMem_word {w : String} (h : w ∈ SeedPhrase.wordList) : '/' ∉ w.toList := by
  obtain ⟨piece, hpiece, rfl⟩ := List.mem_map.1 h
  rw [String.toList_ofList]
  intro hslash
  exact slash_notMem_wordText (forall_mem_words (fun _ hc => hc) piece hpiece '/' hslash)

lemma words_ne_nil (phrase : SeedPhrase) : phrase.words ≠ [] := by
  intro hnil
  have hvalid := phrase.valid
  rw [hnil, SeedPhrase.isValid, List.mapM_nil] at hvalid
  exact Bool.noConfusion hvalid

lemma phraseRead_eq_ok {s : String} {phrase : SeedPhrase} :
    SeedPhrase.read s = .ok phrase ↔ (Text.words s.toList).map String.ofList = phrase.words := by
  rw [SeedPhrase.read, SeedPhrase.ofWords?]
  constructor
  · intro h
    split at h
    next hsome =>
      split at hsome
      next =>
        obtain rfl := Option.some.inj hsome
        obtain rfl := Except.ok.inj h
        rfl
      next => simp at hsome
    next => simp at h
  · intro h
    rw [dif_pos (h ▸ phrase.valid)]
    simp [h]

lemma phraseRead_trim (s : String) :
    SeedPhrase.read (String.ofList (Text.trim s.toList)) = SeedPhrase.read s := by
  rw [SeedPhrase.read, SeedPhrase.read, String.toList_ofList, words_trim]

/-- A phrase alone does not begin like a path. -/
lemma strip?_phrase {wallet : String} {phrase : SeedPhrase}
    (h : SeedPhrase.read wallet = .ok phrase) (beginning : List Char) :
    Text.strip? ('m' :: '/' :: beginning) (Text.trim wallet.toList) = none := by
  rw [Option.eq_none_iff_forall_ne_some]
  intro rest hrest
  have htrim : Text.trim wallet.toList = 'm' :: '/' :: (beginning ++ rest) := strip?_eq_some.1 hrest
  obtain ⟨piece, pieces, hslash⟩ :=
    exists_word (rfl : Text.isBlank '/' = false) (beginning ++ rest)
  have hwords := words_cons_cons (rfl : Text.isBlank 'm' = false) rfl hslash
  rw [← htrim, words_trim] at hwords
  rw [phraseRead_eq_ok, hwords, List.map_cons] at h
  have hvalid := phrase.valid
  rw [← h] at hvalid
  have hnot := slash_notMem_word (mem_wordList_of_isValid hvalid)
  rw [String.toList_ofList] at hnot
  exact hnot (by simp)

lemma blank_notMem_path {cs : List Char} {p : DerivationPath} (h : p.Spells cs) : ' ' ∉ cs := by
  obtain ⟨coinType, account, index, rfl, hcoinType, haccount, hindex⟩ := h
  have hhead : ' ' ∉ DerivationPath.head.toList := by decide
  have hnumber {cs : List Char} {n : UInt32} (hread : Number.readUInt32 cs = .ok n) : ' ' ∉ cs :=
    fun hmem => absurd (mem_readUInt32 hread ' ' hmem) (by decide)
  simp [hhead, hnumber hcoinType, hnumber haccount, hnumber hindex]

/-- A wallet with a path begins with what every path begins with. -/
lemma explicit_begins {wallet : String} {phrase : SeedPhrase} {p : DerivationPath}
    (h : Explicit wallet phrase p) :
    ∃ rest, Text.trim wallet.toList = DerivationPath.head.toList ++ rest := by
  obtain ⟨pathText, phraseText, htrim, hpath, -⟩ := h
  obtain ⟨coinType, account, index, hspells, -⟩ := pathRead_eq_ok.1 hpath
  rw [String.toList_ofList] at hspells
  rw [htrim, hspells]
  simp only [List.append_assoc]
  exact ⟨_, rfl⟩

/-- A wallet is read as a path and a phrase, or else as a phrase alone. -/
theorem keyRead_eq_ok {wallet : String} {source : KeySource} :
    KeySource.read wallet = .ok source ↔ Explicit wallet source.phrase source.path ∨
      SeedPhrase.read wallet = .ok source.phrase ∧ source.path = DerivationPath.standard := by
  rw [KeySource.read]
  constructor
  · intro h
    split at h
    next =>
      split at h
      next => simp at h
      next pathText phraseText hsplit =>
        obtain ⟨phrase, hphrase, h⟩ := bind_eq_ok.1 h
        obtain ⟨path, hpath, h⟩ := bind_eq_ok.1 h
        obtain rfl := pure_eq_ok.1 h
        exact .inl ⟨pathText, phraseText, (splitFirst?_eq_some.1 hsplit).1, hpath, hphrase⟩
    next =>
      rw [phraseRead_trim] at h
      obtain ⟨phrase, hphrase, rfl⟩ := map_eq_ok.1 h
      exact .inr ⟨hphrase, rfl⟩
  · rintro (hexplicit | ⟨hphrase, hpath⟩)
    · have hnames : namesPath (Text.trim wallet.toList) := by
        obtain ⟨rest, hbegin⟩ := explicit_begins hexplicit
        rw [hbegin]
        rfl
      obtain ⟨pathText, phraseText, htrim, hpath, hphrase⟩ := hexplicit
      have hspells := pathRead_eq_ok.1 hpath
      rw [String.toList_ofList] at hspells
      have hsplit := splitFirst?_eq_some.2 ⟨htrim, blank_notMem_path hspells⟩
      simp only [hnames, hsplit, hphrase, hpath]
      rfl
    · have hnames : namesPath (Text.trim wallet.toList) = false :=
        congrArg Option.isSome (strip?_phrase hphrase ['4', '4'])
      obtain ⟨phrase, path⟩ := source
      obtain rfl := hpath
      simp only [hnames, phraseRead_trim, hphrase]
      rfl

/-- Blanks behind a phrase are no part of it, so they may stand at the end of a wallet. -/
lemma explicit_write (p : DerivationPath) {s : String} {phrase : SeedPhrase}
    (h : SeedPhrase.read s = .ok phrase) : Explicit (p.write ++ " " ++ s) phrase p := by
  let text := s.toList.rdropWhile Text.isBlank
  have hs : text ++ s.toList.rtakeWhile Text.isBlank = s.toList :=
    List.rdropWhile_append_rtakeWhile
  have hblank : ∀ c ∈ s.toList.rtakeWhile Text.isBlank, Text.isBlank c :=
    fun _ hc => List.mem_rtakeWhile_imp hc
  have hwords : Text.words text = Text.words s.toList := by
    rw [← hs, words_append_blank hblank]
  have hne : text ≠ [] := by
    intro hnil
    rw [phraseRead_eq_ok, ← hwords, hnil] at h
    exact words_ne_nil phrase h.symm
  have htrim : Text.trim (p.write ++ " " ++ s).toList = p.chars ++ ' ' :: text := by
    refine trim_eq_iff.2 ⟨⟨[], s.toList.rtakeWhile Text.isBlank, ?_, by simp, hblank⟩, ?_, ?_⟩
    · simp [DerivationPath.write, hs]
    · intro c hc
      obtain rfl : 'm' = c := Option.some.inj hc
      decide
    · intro c hc
      rw [List.getLast?_append_cons, List.getLast?_cons_of_ne_nil hne] at hc
      obtain ⟨hne, rfl⟩ := List.mem_getLast?_eq_getLast hc
      exact List.rdropWhile_last_not Text.isBlank _ hne
  refine ⟨p.chars, text, htrim, pathRead_write p, phraseRead_eq_ok.2 ?_⟩
  rw [String.toList_ofList, hwords]
  exact phraseRead_eq_ok.1 h

/-- The words of the phrase for sixteen zeros. -/
def zeroText : String :=
  "abandon abandon abandon abandon abandon abandon abandon abandon abandon abandon abandon about"

set_option maxRecDepth 100000 in
lemma place?_zeros :
    SeedPhrase.place? "abandon" = some 0 ∧ SeedPhrase.place? "about" = some 3 := by
  unfold SeedPhrase.place? SeedPhrase.wordList SeedPhrase.wordText
  rw [String.toList_ofList]
  decide +kernel

lemma checksum_zeros : SeedPhrase.checksum (BigEndian.write 16 0) = 3 := by
  decide +kernel

lemma isValid_zeros : SeedPhrase.isValid (List.replicate 11 "abandon" ++ ["about"]) = true := by
  have hplaces : (List.replicate 11 "abandon" ++ ["about"]).mapM SeedPhrase.place? =
      some (List.replicate 11 0 ++ [3]) := by
    simp [List.replicate_succ, place?_zeros]
  have hnumber : SeedPhrase.numberOf (List.replicate 11 0 ++ [3]) = 3 := by decide
  rw [SeedPhrase.isValid, hplaces]
  simp only [hnumber]
  simp [checksum_zeros]

def zeroPhrase : SeedPhrase := ⟨_, isValid_zeros⟩

lemma phraseRead_zeros : SeedPhrase.read zeroText = .ok zeroPhrase := by
  rw [phraseRead_eq_ok]
  decide +kernel

/-- A path is read from texts of its shape only, and so from the one it is written as, also before a
phrase. A reader of steps finds steps in that text exactly when the numbers of the path are below
`2^31`; they are the steps of the path. -/
theorem path_texts {readSteps : String → Except Failure (List Nat)}
    (h : DerivationPath.ReadsSteps readSteps) (p : DerivationPath) :
    DerivationPath.read p.write = .ok p ∧
      (∀ s phrase, SeedPhrase.read s = .ok phrase →
        KeySource.read (p.write ++ " " ++ s) = .ok ⟨phrase, p⟩) ∧
      ((∃ steps, p.stepsBy readSteps = .ok steps) ↔ p.Fits) ∧
      (∀ steps, p.stepsBy readSteps = .ok steps → steps = [2 ^ 31 + 44, 2 ^ 31 + p.coinType.toNat,
        2 ^ 31 + p.account.toNat, 0, p.index.toNat]) ∧
      (∀ steps, p.steps = .ok steps ↔ p.stepsBy readSteps = .ok steps) ∧
      ∀ s, DerivationPath.read s = .ok p ↔ p.Spells s.toList := by
  refine ⟨pathRead_write p, fun s phrase hphrase => keyRead_eq_ok.2 (.inl (explicit_write p hphrase)),
    ?_, ?_, fun steps => (stepsBy_eq_ok h).symm, fun s => pathRead_eq_ok⟩
  · simp only [stepsBy_eq_ok h, steps_eq_ok, exists_and_left, exists_eq, and_true]
  · intro steps hsteps
    exact (steps_eq_ok.1 ((stepsBy_eq_ok h).1 hsteps)).2

theorem path_texts_terra :
    DerivationPath.ReadsSteps DerivationPath.readSteps ∧
      SeedPhrase.read zeroText = .ok zeroPhrase ∧
      DerivationPath.read "m/44'/330'/0'/0/3" = .ok ⟨330, 0, 3⟩ ∧
      KeySource.read ("m/44'/330'/0'/0/3" ++ " " ++ zeroText) = .ok ⟨zeroPhrase, ⟨330, 0, 3⟩⟩ ∧
      DerivationPath.stepsBy DerivationPath.readSteps ⟨330, 0, 3⟩ =
        .ok [2 ^ 31 + 44, 2 ^ 31 + 330, 2 ^ 31, 0, 3] := by
  have hwrite : DerivationPath.write ⟨330, 0, 3⟩ = "m/44'/330'/0'/0/3" := by decide +kernel
  obtain ⟨hread, hbefore, hfits, hsteps, -, -⟩ := path_texts readsSteps_readSteps ⟨330, 0, 3⟩
  obtain ⟨steps, hok⟩ := hfits.2 ⟨by decide, by decide, by decide⟩
  obtain rfl := hsteps steps hok
  rw [hwrite] at hread hbefore
  exact ⟨readsSteps_readSteps, phraseRead_zeros, hread, hbefore _ _ phraseRead_zeros, hok⟩

lemma keySource_explicit {wallet : String} {phrase : SeedPhrase} {p : DerivationPath}
    (h : Explicit wallet phrase p) (coinType : Option UInt32) (standard : UInt32) :
    CommandLine.keySource wallet coinType standard =
      .ok ⟨phrase, { p with coinType := coinType.getD p.coinType }⟩ := by
  have hread : KeySource.read wallet = .ok ⟨phrase, p⟩ := keyRead_eq_ok.2 (.inl h)
  rw [CommandLine.keySource, hread, ok_bind]
  cases coinType with
  | some given => rfl
  | none =>
    obtain ⟨rest, hbegin⟩ := explicit_begins h
    rw [hbegin]
    rfl

lemma keySource_phrase {wallet : String} {phrase : SeedPhrase}
    (h : SeedPhrase.read wallet = .ok phrase) (coinType : Option UInt32) (standard : UInt32) :
    CommandLine.keySource wallet coinType standard =
      .ok ⟨phrase, .ofIndex (coinType.getD standard) 0⟩ := by
  have hread : KeySource.read wallet = .ok ⟨phrase, .standard⟩ := keyRead_eq_ok.2 (.inr ⟨h, rfl⟩)
  rw [CommandLine.keySource, hread, ok_bind]
  cases coinType with
  | some given => rfl
  | none =>
    have hbegin : Text.strip? "m/".toList (Text.trim wallet.toList) = none := strip?_phrase h []
    rw [hbegin]
    rfl

/-- A coin type that is given replaces the one of an explicit path, so the key is that of the path
exactly when they are the same. A phrase alone has the coin type that is given, or else that of the
network. Other wallets have no key. -/
theorem keySource_paths (wallet : String) (coinType : Option UInt32) (standard : UInt32) :
    (∀ phrase p, Explicit wallet phrase p →
      CommandLine.keySource wallet coinType standard =
        .ok ⟨phrase, { p with coinType := coinType.getD p.coinType }⟩ ∧
      (CommandLine.keySource wallet coinType standard = .ok ⟨phrase, p⟩ ↔
        ∀ given ∈ coinType, given = p.coinType)) ∧
      (∀ phrase, SeedPhrase.read wallet = .ok phrase →
        CommandLine.keySource wallet coinType standard =
          .ok ⟨phrase, ⟨coinType.getD standard, 0, 0⟩⟩) ∧
      ((∃ source, CommandLine.keySource wallet coinType standard = .ok source) ↔
        (∃ phrase p, Explicit wallet phrase p) ∨ ∃ phrase, SeedPhrase.read wallet = .ok phrase) ∧
      ∀ source, CommandLine.keySource wallet coinType standard = .ok source →
        CommandLine.deriveKey wallet coinType standard = source.derive := by
  refine ⟨fun phrase p hexplicit => ⟨keySource_explicit hexplicit coinType standard, ?_⟩,
    fun phrase hphrase => keySource_phrase hphrase coinType standard, ?_, ?_⟩
  · rw [keySource_explicit hexplicit]
    cases coinType with
    | none => simp
    | some given =>
      obtain ⟨pathCoinType, account, index⟩ := p
      simp
  · constructor
    · rintro ⟨source, hsource⟩
      obtain ⟨⟨phrase, p⟩, hread, -⟩ := bind_eq_ok.1 hsource
      rcases keyRead_eq_ok.1 hread with hexplicit | ⟨hphrase, -⟩
      · exact .inl ⟨phrase, p, hexplicit⟩
      · exact .inr ⟨phrase, hphrase⟩
    · rintro (⟨phrase, p, hexplicit⟩ | ⟨phrase, hphrase⟩)
      · exact ⟨_, keySource_explicit hexplicit coinType standard⟩
      · exact ⟨_, keySource_phrase hphrase coinType standard⟩
  · intro source hsource
    rw [CommandLine.deriveKey, hsource, ok_bind]

/-- With a given coin type the key of an explicit path is not derived. -/
theorem explicitPath_replaced :
    Explicit ("m/44'/118'/0'/0/0" ++ " " ++ zeroText) zeroPhrase ⟨118, 0, 0⟩ ∧
      CommandLine.keySource ("m/44'/118'/0'/0/0" ++ " " ++ zeroText) (some 330) 118 =
        .ok ⟨zeroPhrase, ⟨330, 0, 0⟩⟩ ∧
      CommandLine.keySource ("m/44'/118'/0'/0/0" ++ " " ++ zeroText) (some 330) 118 ≠
        .ok ⟨zeroPhrase, ⟨118, 0, 0⟩⟩ := by
  have hwrite : DerivationPath.write ⟨118, 0, 0⟩ = "m/44'/118'/0'/0/0" := by decide +kernel
  have hexplicit := explicit_write ⟨118, 0, 0⟩ phraseRead_zeros
  rw [hwrite] at hexplicit
  have hsource := keySource_explicit hexplicit (some 330) 118
  refine ⟨hexplicit, hsource, ?_⟩
  rw [hsource]
  simp

end CosmosClient.Proofs
