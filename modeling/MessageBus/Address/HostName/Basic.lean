import MessageBus.Address.HostName.Composite
import MessageBus.Address.HostName.Direction
import MessageBus.Address.HostName.Encoded
import MessageBus.Address.HostName.Joiner
/-!
# Host names

A host name is a list of labels with dots between them, in any script. Reading gives its labels as they are spelled,
those decoded that are written in ASCII only, and says which texts are no host names.
-/

namespace MessageBus.Address.HostName

/-- Whether no host name has the character, since it has a meaning of its own in an address. -/
def isReserved (c : Char) : Bool :=
  c ≤ ' ' || c ∈ ['\x7f', '%', '#', '/', ':', '<', '>', '?', '@', '[', '\\', ']', '^', '|']

/-- With what an encoded label begins. -/
def encodedMark : List Char := ['x', 'n', '-', '-']

/-- A label that is not encoded any more; only a spelled and composed one that needs it may be encoded. -/
def decodedLabel? (label : List Char) : Option (List Char) :=
  if encodedMark.isPrefixOf label then
    (Encoded.decode? (label.drop encodedMark.length)).filter fun cs =>
      cs.any (0x80 ≤ ·.toNat) && cs.all isSpelled && composed cs = cs && !encodedMark.isPrefixOf cs
  else some label

/-- Whether a label is well formed by itself. -/
def isLabel (label : List Char) : Bool :=
  !label.head?.any isMark && !label.any isReserved && joinersFit [] label

/-- The labels of a host name; one label that goes from right to left has all of them keep to their direction. -/
def read? (cs : List Char) : Option (List (List Char)) := do
  let spelled ← spellAll? cs
  let labels ← (Text.parts '.' (composed spelled)).mapM decodedLabel?
  if labels.all isLabel && (!labels.any goesRight || labels.all keepsDirection) then some labels else none

end MessageBus.Address.HostName
