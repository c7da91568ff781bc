import LanguageServer.Text.Percent

/-!
# Paths of addresses

The path of an address is written in segments.  A single dot stands for nothing and a pair of dots
takes the segment before it away; a dot may also be written as `%2e`.  The name of a drive, which is
a letter and a colon or a bar, stays in front of a pair of dots, and in the address of a file a
drive at the beginning of the path is written with a colon.
-/

namespace LanguageServer.Address

open Text

/-- Does the character end a segment? -/
def isSlash (known : Bool) (c : Char) : Bool :=
  c == '/' || (known && c == '\\')

/-- The text cut at every slash. -/
def segmentsOf (known : Bool) : List Char → List (List Char)
  | [] => [[]]
  | c :: cs =>
    if isSlash known c then [] :: segmentsOf known cs
    else match segmentsOf known cs with
      | [] => [[c]]
      | part :: parts => (c :: part) :: parts

/-- The segment with its escaped dots written as dots. -/
def plainDots : List Char → List Char
  | '%' :: '2' :: 'e' :: cs => '.' :: plainDots cs
  | '%' :: '2' :: 'E' :: cs => '.' :: plainDots cs
  | c :: cs => c :: plainDots cs
  | [] => []

/-- Is the segment the name of a drive? -/
def isDrive (part : List Char) : Bool :=
  match part with
  | [c, d] => c.isAlpha && (d == ':' || d == '|')
  | _ => false

/-- Does the segment begin with the name of a drive, by itself or before a backslash? -/
def beginsWithDrive (part : List Char) : Bool :=
  isDrive (part.take 2) && (part.drop 2).head?.all (· == '\\')

/-- Takes the last segment away, unless it is a drive. -/
def shorten (path : List (List Char)) : List (List Char) :=
  if path.getLast?.any beginsWithDrive then path else path.dropLast

/-- The segment as it is added to a path. -/
def drivePart (isFile : Bool) (path : List (List Char)) (part : List Char) : List Char :=
  if isFile && path.isEmpty && isDrive part then part.take 1 ++ [':'] else part

/-- Carries out the dots in segments that follow a path. -/
def removeDots (isFile : Bool) (path : List (List Char)) : List (List Char) → List (List Char)
  | [] => path
  | part :: rest =>
    let close (path : List (List Char)) : List (List Char) :=
      if rest = [] then path ++ [[]] else path
    if plainDots part = ['.', '.'] then removeDots isFile (close (shorten path)) rest
    else if plainDots part = ['.'] then removeDots isFile (close path) rest
    else removeDots isFile (path ++ [drivePart isFile path part]) rest

/-- Drops empty segments from the beginning of the path, unless nothing else is left. -/
def dropEmpty : List (List Char) → List (List Char)
  | [] :: part :: rest => dropEmpty (part :: rest)
  | path => path

/-- The normal form of a path, without the slash at its beginning. -/
def normalPath (isFile known : Bool) (cs : List Char) : List (List Char) :=
  removeDots isFile [] ((segmentsOf known cs).map (percentEncode pathSet))

end LanguageServer.Address
