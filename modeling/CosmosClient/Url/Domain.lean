import CosmosClient.Text.Direction
import CosmosClient.Text.Joining
import CosmosClient.Text.Percent
import CosmosClient.Text.Punycode
import CosmosClient.Url.Fold

/-!
# Domains

A domain consists of labels with dots between them. A label that goes beyond ASCII is written in
Punycode behind a mark. Invisible joiners stand only where they can be seen by what they do, and the
labels of a domain that is partly written from the right have a direction each.
-/

namespace CosmosClient.Domain

/-- Whether a character never stands in a domain in ASCII. -/
def isForbidden (c : Char) : Bool :=
  c.toNat ≤ 0x20 || c.toNat == 0x7F || "%#/:<>?@[\\]^|".toList.contains c

def isAscii (cs : List Char) : Bool :=
  cs.all fun c => c.toNat < 0x80

/-- The character that joins its neighbours. -/
def joiner : Char := '\u200d'

/-- The character that keeps its neighbours apart. -/
def nonJoiner : Char := '\u200c'

/-- Whether a text, which is given backwards, ends in a mark that takes away the vowel of a letter. -/
def endsInVirama (before : List Char) : Bool :=
  before.head?.any fun c => Text.markClass c == 9

/-- Whether the nearest letter, past any marks, has a property. -/
def letterIs (p : Char → Bool) (cs : List Char) : Bool :=
  (cs.find? fun c => Text.direction c ≠ .mark).any p

/-- Whether a text has joiners only where they have an effect, given the text before it backwards. -/
def joinersFit (before : List Char) : List Char → Bool
  | [] => true
  | c :: cs =>
    let fits :=
      if c = joiner then endsInVirama before
      else if c = nonJoiner then
        endsInVirama before ||
          (letterIs Text.joinsForward before && letterIs Text.joinsBackward cs)
      else true
    fits && joinersFit (c :: before) cs

/-- Whether a text in its one form may be a label. -/
def isLabel (cs : List Char) : Bool :=
  !cs.head?.any Text.isMark &&
    cs.all (fun c => c.toNat < 0x80 || c == joiner || c == nonJoiner || isAllowed c) &&
    joinersFit [] cs

/-- A label as it is meant. What is in Punycode must be so rightly, and not without need. -/
def label? (cs : List Char) : Option (List Char) :=
  match Text.strip? "xn--".toList cs with
  | some code => do
    let text ← Punycode.read? code
    if ¬isAscii text ∧ Punycode.write text = code ∧ normal text = text ∧ isLabel text then some text
    else none
  | none => if isLabel cs then some cs else none

/-- A label in ASCII. -/
def writeLabel (cs : List Char) : List Char :=
  if isAscii cs then cs else "xn--".toList ++ Punycode.write cs

/-- Whether a label is partly written from the right. -/
def comesFromRight (cs : List Char) : Bool :=
  cs.any fun c => Text.direction c = .right ∨ Text.direction c = .arabic

/-- Whether all of a label has the direction of its first letter, up to its end. -/
def isOneWay (cs : List Char) : Bool :=
  let ds := cs.map Text.direction
  let last := (ds.reverse.find? (· ≠ .mark)).getD .mark
  match ds.head? with
  | none => true
  | some .left =>
    ds.all [.left, .digit, .neutral, .mark].contains && [.left, .digit].contains last
  | some .right =>
    ds.all [.right, .arabic, .digit, .neutral, .mark].contains &&
      [.right, .arabic, .digit].contains last && !(ds.contains .arabic && ds.contains .digit)
  | _ => false

/-- Reads a domain, and writes it in ASCII. -/
def toAscii? (cs : List Char) : Option (List Char) := do
  let text ← Utf8.decode? (Percent.read (Utf8.encode (String.ofList cs)))
  let labels ← (Text.split '.' (normal text.toList)).mapM label?
  let name := ['.'].intercalate (labels.map writeLabel)
  if name.isEmpty ∨ name.any isForbidden ∨
    (labels.any comesFromRight ∧ ¬labels.all isOneWay) then none
  else some name

end CosmosClient.Domain
