import Clearing.Table
import Clearing.Text.Bytes
import Clearing.Text.Split
/-!
Files held in memory under paths from one directory, and how a path leads to
one of them.  Only a directory can be left in any direction: empty steps and
single points stay in it, and two points go back out.
-/

namespace Clearing

/-- Contents under paths from the directory that all of them lie in. -/
abbrev Files := Table String String

/-- Why a path leads to no content. -/
inductive FileError where
  | notFound
  | notDirectory
  | isDirectory
  | nameTooLong
  | nullInPath
deriving DecidableEq

def FileError.message : FileError → String
  | .notFound => "No such file or directory (os error 2)"
  | .notDirectory => "Not a directory (os error 20)"
  | .isDirectory => "Is a directory (os error 21)"
  | .nameTooLong => "File name too long (os error 36)"
  | .nullInPath => "file name contained an unexpected NUL byte"

/-- Where a path has led so far. -/
inductive FilePlace where
  /-- A directory, by the steps to it, the last one first. -/
  | directory (steps : List String)
  /-- A directory around the one that all files lie in. -/
  | outside
  | file (content : String)

namespace Files

open Text

def steps (path : String) : List String :=
  ((pieces '/' path.toList).map String.ofList).filter fun step =>
    step ≠ "" ∧ step ≠ "."

/-- The directory in which settings are looked for; it is always there. -/
def settingsDirectory : String := "config"

def hasDirectory (files : Files) (path : List String) : Bool :=
  path == [] || path == [settingsDirectory] ||
    files.keys.any fun name =>
      path.isPrefixOf (steps name) && path != steps name

def content? (files : Files) (path : List String) : Option String :=
  files.entries.findSome? fun entry =>
    if steps entry.1 = path then some entry.2 else none

/-- The most bytes of one step. -/
def stepLimit : Nat := 255

/-- The least number of bytes that is too much for a path. -/
def pathLimit : Nat := 4096

def width (text : String) : Nat := (Bytes.ofText text).length

def enter (files : Files) (place : FilePlace) (step : String) :
    Except FileError FilePlace :=
  match place with
  | .file _ => .error .notDirectory
  | .outside =>
      if step = ".." then .ok .outside
      else if stepLimit < width step then .error .nameTooLong
      else .error .notFound
  | .directory [] =>
      if step = ".." then .ok .outside else descend []
  | .directory (inner :: outer) =>
      if step = ".." then .ok (.directory outer) else descend (inner :: outer)
where
  /-- Go to what a directory holds under a name. -/
  descend (directory : List String) : Except FileError FilePlace :=
    let path := (step :: directory).reverse
    if stepLimit < width step then
      .error .nameTooLong
    else if files.hasDirectory path then
      .ok (.directory (step :: directory))
    else
      match files.content? path with
      | some content => .ok (.file content)
      | none => .error .notFound

def read (files : Files) (path : String) : Except FileError String :=
  if path.toList.contains '\x00' then
    .error .nullInPath
  else if pathLimit ≤ width path then
    .error .nameTooLong
  else
    match (steps path).foldlM files.enter (.directory []) with
    | .error error => .error error
    | .ok (.file content) => .ok content
    | .ok _ => .error .isDirectory

end Files

end Clearing
