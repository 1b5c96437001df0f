import CosmosClient.Error
import CosmosClient.Hash.Hmac
import CosmosClient.SeedPhrase.Words
import CosmosClient.Text.BigEndian
import CosmosClient.Text.Number
import CosmosClient.Text.Utf8

/-!
# Seed phrases

A phrase of words writes random bytes and a checksum in digits of 11 bits. A seed for keys is drawn
from it.
-/

namespace CosmosClient

namespace SeedPhrase

/-- The number that digits of 11 bits stand for, the highest first. -/
def numberOf (places : List Nat) : Nat :=
  places.foldl (fun n place => 2048 * n + place) 0

/-- The first bits of the hash of bytes: one for every four bytes. -/
def checksum (entropy : Bytes) : Nat :=
  ((Sha256.hash entropy).headD 0).toNat >>> (8 - entropy.length / 4)

/-- Whether words are known, are as many as a phrase may have, and carry their checksum. -/
def isValid (words : List String) : Bool :=
  match words.mapM place? with
  | none => false
  | some places =>
    let count := words.length
    let n := numberOf places
    let bits := count / 3
    [12, 15, 18, 21, 24].contains count &&
      n % (1 <<< bits) == checksum (BigEndian.write (4 * bits) (n >>> bits))

end SeedPhrase

/-- A phrase that keys are drawn from. -/
structure SeedPhrase where
  words : List String
  valid : SeedPhrase.isValid words = true
  deriving DecidableEq

namespace SeedPhrase

/-- Words as a phrase, if they are valid. -/
def ofWords? (words : List String) : Option SeedPhrase :=
  if h : isValid words = true then some ⟨words, h⟩ else none

/-- Reads a phrase; the blanks around its words do not count. -/
def read (s : String) : Except Failure SeedPhrase :=
  match ofWords? ((Text.words s.toList).map String.ofList) with
  | some phrase => .ok phrase
  | none => .error (Failure.text "Unable to parse mnemonic from phrase")

def write (p : SeedPhrase) : String :=
  Text.join " " p.words

/-- A description that does not give the words away. -/
def dump (p : SeedPhrase) : String :=
  s!"SeedPhrase({Number.write p.words.length} words)"

/-- The digits of 11 bits of a number, the highest first. -/
def digitsOf : Nat → Nat → List Nat
  | 0, _ => []
  | count + 1, n => digitsOf count (n / 2048) ++ [n % 2048]

/-- The phrase that writes bytes, if there are as many as a phrase may hold. -/
def ofEntropy? (entropy : Bytes) : Option SeedPhrase :=
  let bits := entropy.length / 4
  let n := BigEndian.read entropy <<< bits + checksum entropy
  ofWords? ((digitsOf (3 * bits) n).map fun place => wordList.getD place "")

/-- The 64 bytes that keys are drawn from. -/
def seed (p : SeedPhrase) : Bytes :=
  Pbkdf2.derive (Utf8.encode p.write) (Utf8.encode "mnemonic") 2048

end SeedPhrase
end CosmosClient
