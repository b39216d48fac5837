import CredentialReach.Url.Label

/-! Domain names, in which neither the case of letters nor other variants of them
count (UTS 46). -/

namespace CredentialReach.Url

open Text Unicode

def mapDomain (text : List Char) : Option (List Char) := do
  return normalize (← text.mapM mapChar).flatten

def isForbiddenInDomain (c : Char) : Bool :=
  c.toNat ≤ 0x20 || c.toNat == 0x7F || "%#/:<>?@[\\]^\x60|".toList.contains c

/-- The labels of a name. If some of its letters are written from right to left,
each label has to have one direction. -/
def readLabels (text : List Char) : Option (List (List Char)) := do
  let mapped ← mapDomain text
  if mapped.any isForbiddenInDomain then none
  let labels ← (splitAt '.' mapped).mapM Label.read
  if labels.any (·.any Label.isFromRight) && !labels.all Label.hasOneDirection then none
  return labels

def readName (text : List Char) : Option (List Char) := (readLabels text).map (joinWith ['.'])

end CredentialReach.Url
