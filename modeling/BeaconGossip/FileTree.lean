import BeaconGossip.Text.Utf8
import BeaconGossip.Topic.Parser

namespace BeaconGossip

inductive FileError where
  | notFound
  | notDirectory
  | isDirectory
  | nameTooLong
  | nulInPath
  | permissionDenied
  deriving DecidableEq

def FileError.message : FileError → String
  | .notFound => "No such file or directory (os error 2)"
  | .notDirectory => "Not a directory (os error 20)"
  | .isDirectory => "Is a directory (os error 21)"
  | .nameTooLong => "File name too long (os error 36)"
  | .nulInPath => "file name contained an unexpected NUL byte"
  | .permissionDenied => "Permission denied (os error 13)"

/-- The names on the way from the root. -/
abbrev Location := List String

structure FileTree where
  /-- The directory in which paths start that do not start at the root. -/
  home : Location
  directories : List Location
  files : List (Location × Bytes)
  /-- The directories that take no new files, with the reason given. -/
  closed : List (Location × FileError)
  deriving DecidableEq

namespace FileTree

/-- What a path leads to. -/
inductive Place where
  | directory
  /-- A file, or the name of none in a directory. -/
  | name (l : Location)
  /-- The same with a slash behind it, as if it were a directory, and why it is none. -/
  | nameAsDirectory (e : FileError)
  deriving DecidableEq

/-- Bytes of a name, and of a path. -/
def nameLimit : Nat := 255

def pathLimit : Nat := 4095

def byteCount (text : List Char) : Nat := (Text.Utf8.encode text).length

/-- Why there is no directory under a name. -/
def nameError (t : FileTree) (l : Location) (name : List Char) : FileError :=
  if nameLimit < byteCount name then .nameTooLong
  else if (t.files.lookup l).isSome then .notDirectory
  else .notFound

/-- Follows names from a directory. An empty name or a dot stays there, two dots go up. -/
def follow (t : FileTree) (l : Location) : List (List Char) → Except FileError Place
  | [] => .ok .directory
  | name :: rest =>
    if name.isEmpty || name = ['.'] then t.follow l rest
    else if name = ['.', '.'] then t.follow l.dropLast rest
    else
      let next := l ++ [String.ofList name]
      if next ∈ t.directories then t.follow next rest
      else if rest.isEmpty && byteCount name ≤ nameLimit then .ok (.name next)
      else if !rest.isEmpty && rest.all (·.isEmpty) then
        .ok (.nameAsDirectory (t.nameError next name))
      else .error (t.nameError next name)

def place (t : FileTree) (path : String) : Except FileError Place :=
  let text := path.toList
  if '\x00' ∈ text then .error .nulInPath
  else if text.isEmpty then .error .notFound
  else if pathLimit < byteCount text then .error .nameTooLong
  else
    match text with
    | '/' :: rest => t.follow [] (Text.segments '/' rest)
    | text => t.follow t.home (Text.segments '/' text)

/-- The content of the file at a path. -/
def read (t : FileTree) (path : String) : Except FileError Bytes :=
  match t.place path with
  | .error e => .error e
  | .ok .directory => .error .isDirectory
  | .ok (.name l) =>
    match t.files.lookup l with
    | some content => .ok content
    | none => .error .notFound
  | .ok (.nameAsDirectory e) => .error e

/-- Puts a file at a place where there is none. -/
def put (t : FileTree) (l : Location) (content : Bytes) : FileTree :=
  { t with files := t.files ++ [(l, content)] }

/-- Writes a file where there is none. -/
def create (t : FileTree) (path : String) (content : Bytes) : Except FileError FileTree :=
  match t.place path with
  | .error e => .error e
  | .ok .directory | .ok (.nameAsDirectory _) => .error .isDirectory
  | .ok (.name l) =>
    match t.closed.lookup l.dropLast with
    | some e => .error e
    | none => .ok (t.put l content)

/-- The directories on the way to a place. -/
def directoriesTo (l : Location) : List Location :=
  (List.range l.length).map fun n => l.take n

/-- Makes sure of the directories on the way to a place. -/
def withWay (t : FileTree) (l : Location) : FileTree :=
  { t with directories := t.directories ++ directoriesTo l }

/-- Adds a file with the directories on the way to it. -/
def putDeep (t : FileTree) (l : Location) (content : Bytes) : FileTree :=
  (t.withWay l).put l content

/-- Where a path leads if all names in it but the last are directories. -/
def locate (t : FileTree) (path : String) : Location :=
  let start := if path.toList.head? = some '/' then [] else t.home
  (Text.segments '/' path.toList).foldl
    (fun l name =>
      if name.isEmpty || name = ['.'] then l
      else if name = ['.', '.'] then l.dropLast
      else l ++ [String.ofList name])
    start

/-- The directories that every machine has, and the file that is always empty. Those in which the
machine describes itself take no files. -/
def standard (home : Location) : FileTree where
  home := home
  directories :=
    [[], ["bin"], ["dev"], ["dev", "shm"], ["etc"], ["home"], ["lib"], ["opt"], ["proc"],
      ["root"], ["run"], ["sbin"], ["sys"], ["tmp"], ["usr"], ["usr", "bin"], ["usr", "lib"],
      ["usr", "local"], ["usr", "share"], ["var"], ["var", "lib"], ["var", "log"],
      ["var", "tmp"]] ++
      directoriesTo home ++ [home]
  files := [(["dev", "null"], [])]
  closed := [(["proc"], .notFound), (["sys"], .permissionDenied)]

/-- A directory for one run of the node, which holds the files given. -/
def ofFiles (files : List (String × Bytes)) : FileTree :=
  files.foldl (fun t (name, content) => t.putDeep (t.locate name) content)
    (standard ["tmp", "node"])

/-- The names in the directory where paths start, without repetition. -/
def names (t : FileTree) : List String :=
  ((t.files.map (·.1)).filterMap fun l =>
    if l.take t.home.length = t.home then (l.drop t.home.length).head? else none).eraseDups

end FileTree

end BeaconGossip
