import CosmosClient.DerivationPath
import CosmosClient.ExtendedKey
import CosmosClient.Key
import CosmosClient.SeedPhrase

/-!
# Keys from seed phrases

A key is given by a seed phrase and a path, or by a phrase alone for the standard path.
-/

namespace CosmosClient

/-- A seed phrase with the path to one of its keys. -/
structure KeySource where
  phrase : SeedPhrase
  path : DerivationPath
  deriving DecidableEq

namespace KeySource

/-- A phrase with the standard path. -/
def ofPhrase (phrase : SeedPhrase) : KeySource := ⟨phrase, DerivationPath.standard⟩

/-- Whether a text without blanks around it begins with a path. -/
def namesPath (cs : List Char) : Bool :=
  (Text.strip? "m/44".toList cs).isSome

/-- Reads a phrase, or a path and a phrase with a blank between them. -/
def read (s : String) : Except Failure KeySource :=
  let cs := Text.trim s.toList
  if namesPath cs then
    match Text.splitFirst? ' ' cs with
    | none => .error (Failure.text "Missing seed phrase after derivation path")
    | some (path, phrase) => do
      let phrase ← SeedPhrase.read (String.ofList phrase)
      let path ← DerivationPath.read (String.ofList path)
      return ⟨phrase, path⟩
  else (SeedPhrase.read (String.ofList cs)).map ofPhrase

/-- The key at the end of the path. -/
def derive (k : KeySource) : Except Failure Key := do
  let root ← ExtendedKey.ofSeed k.phrase.seed
  let steps ← k.path.steps
  return ⟨(← root.descend steps).secret⟩

end KeySource
end CosmosClient
