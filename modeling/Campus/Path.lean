/-!
# Paths of files
-/

namespace Campus.Path

def isAbsolute (path : String) : Bool := path.toList.head? == some '/'

/-- The path that leads on from a directory. An absolute path leads where it says. -/
def join (directory path : String) : String :=
  if isAbsolute path then path
  else
    match directory.toList.getLast? with
    | none | some '/' => directory ++ path
    | some _ => directory ++ "/" ++ path

/-- Drops slashes and single dots that stand for a directory itself off the front of a path, behind
a slash. -/
def dropEmptyParts : List Char → List Char
  | '/' :: rest => dropEmptyParts rest
  | ['.'] => []
  | '.' :: '/' :: rest => dropEmptyParts rest
  | cs => cs

/-- What follows the part `~` at the front of a path, without empty parts at either end. -/
def underHome? (path : String) : Option String :=
  match path.toList with
  | '~' :: rest =>
    match rest with
    | [] | '/' :: _ =>
      some (String.ofList (dropEmptyParts (dropEmptyParts rest).reverse).reverse)
    | _ => none
  | _ => none

def lastPart (path : String) : List Char :=
  ((dropEmptyParts path.toList.reverse).takeWhile (· != '/')).reverse

/-- What follows the last dot in the last part of a path. A dot in front does not count. -/
def extension? (path : String) : Option String :=
  let name := lastPart path
  let tail := name.reverse.takeWhile (· != '.')
  if name = ['.', '.'] ∨ name.length ≤ tail.length + 1 then none
  else some (String.ofList tail.reverse)

end Campus.Path
