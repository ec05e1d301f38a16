import MessageBus.Address.Host
/-!
# The path of an address

A path names a virtual host. Segments that stand for a place in the path are resolved, but a drive cannot be left.
-/

namespace MessageBus.Address

/-- Whether a segment stands for the place it is in. -/
def isDot (segment : List Char) : Bool :=
  String.ofList (segment.map Char.toLower) ∈ [".", "%2e"]

/-- Whether a segment stands for the place above. -/
def isDoubleDot (segment : List Char) : Bool :=
  String.ofList (segment.map Char.toLower) ∈ ["..", ".%2e", "%2e.", "%2e%2e"]

/-- Whether a segment is a drive, or begins with one before a backslash. -/
def isDriveSegment (segment : List Char) : Bool :=
  isDrive (segment.takeWhile (· ≠ '\\'))

/-- The segments of a path after those before it, without the ones that stand for a place. -/
def resolve (before : List (List Char)) : List (List Char) → List (List Char)
  | [] => before
  | s :: rest =>
    let ending : List (List Char) := if rest.isEmpty then [[]] else []
    if isDoubleDot s then
      let above := if before.getLast?.any isDriveSegment then before else before.dropLast
      resolve (above ++ ending) rest
    else if isDot s then resolve (before ++ ending) rest
    else resolve (before ++ [s]) rest

/-- The virtual host that a path names, with its escapes. -/
def vhostOfPath (path : List Char) : List Char :=
  let path := if path.head? = some '/' then path.tail else path
  List.intercalate ['/'] (resolve [] (Text.parts '/' path))

end MessageBus.Address
