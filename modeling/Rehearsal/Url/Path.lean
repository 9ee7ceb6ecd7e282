import Rehearsal.Url.Basic
import Rehearsal.Url.Escape

/-!
# Paths in URLs

The path of a URL is read piece by piece, a piece being what stands between two slashes. A piece of
one dot names the place that is reached already, a piece of two dots takes the last segment back,
and any other piece becomes a segment, with the characters escaped that need it. Where the last
piece is made of dots an empty segment follows, so that the path ends in a slash.

In file URLs the first segment may be a drive letter, which two dots do not take back.
-/

namespace Rehearsal

namespace Url

/-- Is this one dot? -/
def isSingleDot (piece : List Char) : Bool :=
  [".", "%2e", "%2E"].contains (String.ofList piece)

/-- Are these two dots? -/
def isDoubleDot (piece : List Char) : Bool :=
  ["..", ".%2e", ".%2E", "%2e.", "%2E.", "%2e%2e", "%2e%2E", "%2E%2e", "%2E%2E"].contains
    (String.ofList piece)

/-- Is this a drive letter, with a colon or a bar after it? -/
def isDriveLetter : List Char → Bool
  | [c, d] => c.isAlpha && (d == ':' || d == '|')
  | _ => false

/-- The segments without the last one. A drive letter that stands alone is kept. -/
def dropSegment (file : Bool) (segments : List String) : List String :=
  match segments with
  | [only] => if file && isDriveLetter only.toList then [only] else []
  | _ => segments.dropLast

/-- The segment that a piece becomes after the given ones. -/
def segmentOf (file : Bool) (segments : List String) (piece : List Char) : String :=
  if file && segments.isEmpty && isDriveLetter piece then String.ofList (piece.take 1 ++ [':'])
  else String.ofList (escape escapedInPath piece)

/-- The segments after one more piece. -/
def addPiece (file : Bool) (segments : List String) (piece : List Char) : List String :=
  if isDoubleDot piece then dropSegment file segments
  else if isSingleDot piece then segments
  else segments ++ [segmentOf file segments piece]

/-- The segments after some more pieces. -/
def addPieces (file : Bool) : List String → List (List Char) → List String
  | segments, [] => segments
  | segments, [last] =>
    let all := addPiece file segments last
    if isDoubleDot last || isSingleDot last then all ++ [""] else all
  | segments, piece :: rest => addPieces file (addPiece file segments piece) rest

/-- Does the character separate pieces? In schemes that always have a server a backslash does. -/
def isSlash (special : Bool) (c : Char) : Bool := c == '/' || (special && c == '\\')

/-- The segments of a path that goes on from the given ones. -/
def readSegments (special : Bool) (segments : List String) (cs : List Char) : List String :=
  addPieces false segments (cs.splitOnP (isSlash special))

/-- The segments of a path without empty ones in front, though one is left. -/
def dropEmptySegments : List String → List String
  | "" :: second :: rest => dropEmptySegments (second :: rest)
  | segments => segments

/-- The segments of the path of a file. -/
def readFileSegments (cs : List Char) : List String :=
  dropEmptySegments (addPieces true [] (cs.splitOnP (isSlash true)))

end Url

end Rehearsal
