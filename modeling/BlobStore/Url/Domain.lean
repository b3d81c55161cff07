import BlobStore.Url.Domain.Label
import BlobStore.Url.Percent

/-!
# Domain names

The ASCII form of a domain: its characters are replaced by those that they mean, and each label is
brought into ASCII.
-/

namespace BlobStore.Url

namespace Domain

/-- What the characters of a domain mean, in their composed form. -/
def resolve? (text : List Char) : Option (List Char) :=
  if isAscii text then some (text.map Char.toLower)
  else (text.mapM meaning?).map fun meanings => (Unicode.compose meanings.flatten).map Char.ofNat

/-- Directions only count once some label is written from right to left. -/
def keepsDirections (labels : List Label) : Bool :=
  !labels.any (·.characters.any isRightToLeft) || labels.all (keepsDirection ·.characters)

def labels? (text : List Char) : Option (List Label) := do
  let labels ← ((← resolve? text).splitOn '.').mapM Label.read?
  if keepsDirections labels then some labels else none

end Domain

/-- The ASCII form of a percent-encoded domain. -/
def asciiDomain? (host : List Char) : Option (List Char) := do
  let bytes := decodeBytes (String.ofList host).toUTF8.data.toList
  let decoded ← String.fromUTF8? ⟨bytes.toArray⟩
  let labels ← Domain.labels? decoded.toList
  some (['.'].intercalate (labels.map (·.ascii)))

end BlobStore.Url
