import SearchOperator.Text.Blank
import SearchOperator.Text.Split
import SearchOperator.Url.Percent

/-!
# Paths

A hierarchical path is built segment by segment: a single dot stays where it is, a double dot goes
up one level but not above the root, and any other segment is appended in encoded form. The path of
a file may begin with a drive letter, above which nothing goes up.
-/

namespace SearchOperator.Url

/-- The kinds of schemes that read addresses differently. -/
inductive SchemeKind where
  | file
  | web
  | other
deriving DecidableEq, Repr

/-- Whether a scheme has hosts with domain names and takes backslashes for slashes. -/
def SchemeKind.isSpecial : SchemeKind → Bool
  | .other => false
  | _ => true

def SchemeKind.ofScheme (scheme : String) : SchemeKind :=
  if scheme = "file" then .file
  else if ["http", "https", "ws", "wss", "ftp"].contains scheme then .web
  else .other

def defaultPort? (scheme : String) : Option Nat :=
  [("http", 80), ("ws", 80), ("https", 443), ("wss", 443), ("ftp", 21)].lookup scheme

def isLetter (c : Char) : Bool := ('a' ≤ c && c ≤ 'z') || ('A' ≤ c && c ≤ 'Z')

/-- A letter and a colon. -/
def isDriveLetter : List Char → Bool
  | [c, ':'] => isLetter c
  | _ => false

/-- A letter and a colon or a bar. -/
def isLooseDriveLetter : List Char → Bool
  | [c, d] => isLetter c && (d == ':' || d == '|')
  | _ => false

/-- Whether a text begins with a drive letter as a whole segment. -/
def startsWithDriveLetter : List Char → Bool
  | c :: d :: rest =>
    isLetter c && (d == ':' || d == '|') && (rest.head?.all fun e => "/\\?#".toList.contains e)
  | _ => false

/-- The ways to write a single dot. -/
def isSingleDot (segment : List Char) : Bool :=
  [".", "%2e", "%2E"].contains (String.ofList segment)

/-- The ways to write a double dot. -/
def isDoubleDot (segment : List Char) : Bool :=
  ["..", "%2e%2e", "%2e%2E", "%2E%2e", "%2E%2E", "%2e.", "%2E.", ".%2e", ".%2E"].contains
    (String.ofList segment)

namespace Path

/-- What stands after the last slash. -/
def lastSegment (path : List Char) : List Char :=
  (path.reverse.takeWhile (· != '/')).reverse

/-- Drop what stands after the last slash, unless it is a drive letter. -/
def pop (kind : SchemeKind) (path : List Char) : List Char :=
  let last := lastSegment path
  if kind = .file && isDriveLetter last then path
  else path.take (path.length - last.length)

/-- Drop the last segment, unless the path is a drive letter. -/
def shorten (kind : SchemeKind) (path : List Char) : List Char :=
  if kind = .file && isDriveLetter path then path else pop kind path

/-- Drop the slash at the end, unless it is the root's or it follows a drive letter. -/
def dropLastSlash (path : List Char) : List Char :=
  match path.reverse with
  | '/' :: before =>
    let segment := before.takeWhile (· != '/')
    if segment.length = before.length || startsWithDriveLetter (segment.reverse ++ ['/']) then path
    else before.reverse
  | _ => path

def withSlash (path : List Char) : List Char :=
  if path.getLast? == some '/' then path else path ++ ['/']

/-- Append the characters of a segment. A character after a drive letter gets a slash first. -/
def appendChars (kind : SchemeKind) (path : List Char) : List Char → List Char
  | [] => path
  | c :: cs =>
    let path := if kind = .file && isDriveLetter (path.drop 1) then path ++ ['/'] else path
    appendChars kind (path ++ percentEncode pathEncodes [c]) cs

/-- Append a segment; the flags tell whether a slash follows it. -/
def appendSegment (kind : SchemeKind) (path : List Char) (segment : List Char × Bool) :
    List Char :=
  let (raw, slash) := segment
  if isDoubleDot raw then
    let shortened := shorten kind (dropLastSlash path)
    if slash then withSlash shortened else shortened
  else if isSingleDot raw then withSlash path
  else
    let appended :=
      if kind = .file then
        if path.length = 1 && isLooseDriveLetter raw then path ++ raw.take 1 ++ [':']
        else appendChars kind path raw
      else path ++ percentEncode pathEncodes raw
    if slash then appended ++ ['/'] else appended

/-- Cut a text into segments, each with whether a slash follows it. -/
def segments (kind : SchemeKind) : List Char → List (List Char × Bool)
  | [] => [([], false)]
  | c :: cs =>
    if c = '/' || (c = '\\' && kind.isSpecial) then ([], true) :: segments kind cs
    else
      match segments kind cs with
      | [] => [([c], false)]
      | (segment, slash) :: rest => (c :: segment, slash) :: rest

/-- Append the segments of a text. The path of a file begins with one slash. -/
def append (kind : SchemeKind) (path text : List Char) : List Char :=
  let appended := (segments kind text).foldl (appendSegment kind) path
  if kind = .file then '/' :: appended.dropWhile (· == '/') else appended

end Path

end SearchOperator.Url
