import EidolonSdk.Coding.Cut
import EidolonSdk.Python.Text

/-!
# Patterns of paths

What {lit}`Path.glob` selects below a directory.  A pattern is taken apart at its
slashes, and each part is compared with a part of the path as {lit}`fnmatch` does.
Two stars alone stand for any number of directories.
-/

namespace EidolonSdk
namespace Python

open Coding

/-!
## One part
-/

inductive GlobItem where
  | star
  | any
  | set (negated : Bool) (content : PyStr)
  | char (c : CodePoint)
  deriving DecidableEq

/-- A set is closed by a bracket that is not its first character. -/
def splitSet (s : PyStr) : Option (GlobItem × PyStr) :=
  let negated := s.head? == some (codePoint '!')
  let body := if negated = true then s.tail else s
  let first := body.takeWhile (· == codePoint ']') |>.take 1
  match cut (codePoint ']') (body.drop first.length) with
  | (content, some back) => some (.set negated (first ++ content), back)
  | (_, none) => none

/-- The items of a pattern, at most so many of them. -/
def globItems : Nat -> PyStr -> List GlobItem
  | 0, _ => []
  | _, [] => []
  | most + 1, c :: rest =>
      if c = codePoint '*' then .star :: globItems most rest
      else if c = codePoint '?' then .any :: globItems most rest
      else if c = codePoint '[' then
        match splitSet rest with
        | some (item, back) => item :: globItems most back
        | none => .char c :: globItems most rest
      else .char c :: globItems most rest

/-- A character among those of a set, which may be given as ranges. -/
def isListed (c : CodePoint) : PyStr -> Bool
  | first :: mark :: last :: rest =>
      if mark = codePoint '-' then
        decide (first.val ≤ c.val ∧ c.val ≤ last.val) || isListed c rest
      else first == c || isListed c (mark :: last :: rest)
  | first :: rest => first == c || isListed c rest
  | [] => false

def GlobItem.admits (c : CodePoint) : GlobItem -> Bool
  | .star => true
  | .any => true
  | .set negated content => isListed c content != negated
  | .char d => d == c

def matchItems : List GlobItem -> PyStr -> Bool
  | [], s => s.isEmpty
  | .star :: items, s => s.tails.any (matchItems items)
  | item :: items, s =>
      match s with
      | [] => false
      | c :: rest => item.admits c && matchItems items rest

/-- `fnmatch.fnmatchcase`. -/
def fnmatch (pattern name : PyStr) : Bool :=
  matchItems (globItems pattern.length pattern) name

/-!
## Paths
-/

/-- The parts of a path that say something. -/
def pathParts (path : PyStr) : List PyStr :=
  (path.splitOn (codePoint '/')).filter fun part =>
    decide (part ≠ [] ∧ part ≠ str ".")

inductive GlobRefusal where
  /-- `NotImplementedError`. -/
  | nonRelative
  /-- `ValueError`. -/
  | unacceptable
  deriving DecidableEq

/-- The parts of a pattern; with a slash at its end it selects no file. -/
def globPattern (pattern : PyStr) : Except GlobRefusal (List PyStr) :=
  if pattern.head? = some (codePoint '/') then .error .nonRelative
  else if pathParts pattern = [] then .error .unacceptable
  else if pattern.getLast? = some (codePoint '/') then
    .ok (pathParts pattern ++ [[]])
  else .ok (pathParts pattern)

/-- The parts of the path of a file against those of a pattern. -/
def globParts : List PyStr -> List PyStr -> Bool
  | [], parts => parts.isEmpty
  | segment :: pattern, parts =>
      if segment = str "**" then
        if pattern = [] then !parts.isEmpty else parts.tails.any (globParts pattern)
      else
        match parts with
        | [] => false
        | part :: rest => fnmatch segment part && globParts pattern rest

def globMatches (pattern path : PyStr) : Bool :=
  match globPattern pattern with
  | .ok segments => globParts segments (path.splitOn (codePoint '/'))
  | .error _ => false

example : (["a.json", "b.jso?", "[!x]*.js[n-p]n", "**/[]x-]", "*/a[b"].map fun pattern =>
    ["a.json", "b.json", "x.json", "c/-", "c/]", "c/a[b"].map fun path =>
      globMatches (str pattern) (str path)) =
    [[true, false, false, false, false, false],
      [false, true, false, false, false, false],
      [true, true, false, false, false, false],
      [false, false, false, true, true, false],
      [false, false, false, false, false, true]] := by
  decide +kernel

end Python
end EidolonSdk
