import Geocoding.Url.Percent

/-!
# Paths

A rooted path is a list of segments, each behind a slash.  The steps in a path
are followed when it is read, so a dot or two dots never stand as a segment.
-/

namespace Geocoding.Url

inductive Path
  | bare (text : List Char)
  /-- Segments with a slash in front of each. -/
  | rooted (segments : List (List Char))
deriving DecidableEq, Repr

namespace Path

def text : Path → List Char
  | bare characters => characters
  | rooted segments => segments.flatMap fun segment => '/' :: segment

def staysInPlace (segment : List Char) : Bool :=
  String.ofList (segment.map Char.toLower) ∈ [".", "%2e"]

def leadsBack (segment : List Char) : Bool :=
  String.ofList (segment.map Char.toLower) ∈ ["..", ".%2e", "%2e.", "%2e%2e"]

/-- Whether a segment is the letter of a drive, with a colon or a bar behind it. -/
def isDrive : List Char → Bool
  | [letter, mark] => letter.isAlpha && (mark == ':' || mark == '|')
  | _ => false

/-- Whether a segment is the letter of a drive with a colon behind it, which is no
path at another host. -/
def isLocalDrive (segment : List Char) : Bool :=
  isDrive segment && segment.getLast? == some ':'

/-- Whether a segment begins with a drive, which no step leaves.  Behind the drive only a
backslash may follow, where it is no separator. -/
def isOnDrive (segment : List Char) : Bool :=
  isDrive (segment.take 2) && (segment[2]?.map (· == '\\')).getD true

def back (segments : List (List Char)) : List (List Char) :=
  if (segments.getLast?.map isOnDrive).getD false then segments else segments.dropLast

/-- Follows the steps among some segments, from the segments reached so far.  A
step at the end leaves a slash behind. -/
def follow (reached : List (List Char)) : List (List Char) → List (List Char)
  | [] => reached
  | segment :: rest =>
    let place :=
      if leadsBack segment then back reached
      else if staysInPlace segment then reached
      else reached ++ [segment]
    if rest.isEmpty ∧ (leadsBack segment ∨ staysInPlace segment) then place ++ [[]]
    else follow place rest

def unrooted (separates : Char → Bool) : List Char → List Char
  | [] => []
  | character :: rest => if separates character then rest else character :: rest

def readRooted (separates : Char → Bool) (text : List Char) : List (List Char) :=
  follow [] (((unrooted separates text).splitOnP separates).map (Percent.encode Percent.inPath))

/-- The segments of the path to a file, which begins with a name. -/
def onDisk (segments : List (List Char)) : List (List Char) :=
  match segments.dropWhile List.isEmpty with
  | [] => [[]]
  | named => named

end Path

end Geocoding.Url
