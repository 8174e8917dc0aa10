/-!
# A folder of files

A folder holds files and further folders.  A path leads from the folder to one of
them, name by name; it leads nowhere if a name on the way is missing or is the
name of a file.  Nothing is known of what lies outside the folder, except that it
is there.
-/

namespace Redelivery

/-- Files and folders by their names on the way from the outermost folder; a folder
has no contents of its own. -/
structure Folder where
  entries : List (List String × Option (List UInt8))
  deriving DecidableEq, Repr

namespace Folder

/-- Where a path leads. -/
inductive Place where
  | inside (names : List String)
  /-- A folder that is not part of the outermost one. -/
  | outside
  deriving DecidableEq, Repr

/-- The steps of a path. -/
def steps (path : String) : List String :=
  path.splitOn "/"

/-- The names on the way to an entry, without steps that lead nowhere else. -/
def namesOf (path : String) : List String :=
  (steps path).foldl
    (fun names step =>
      if step = "" ∨ step = "." then names
      else if step = ".." then names.dropLast
      else names ++ [step])
    []

/-- A folder with files and folders of these paths. -/
def ofList (files : List (String × Option (List UInt8))) : Folder :=
  ⟨files.map fun (path, contents) => (namesOf path, contents)⟩

/-- The contents of a file. -/
def contents? (folder : Folder) (names : List String) : Option (List UInt8) :=
  (folder.entries.find? fun entry => entry.1 = names && entry.2.isSome).bind Prod.snd

/-- Whether names lead to a folder: it is an entry, or an entry lies below it. -/
def isFolder (folder : Folder) (names : List String) : Bool :=
  names.isEmpty || folder.entries.any fun entry =>
    decide (entry = (names, none)) ||
      (names.isPrefixOf entry.1 && decide (names.length < entry.1.length))

/-- One step of a path.  Every step but the last has to lead to a folder. -/
def follow (folder : Folder) (place : Place) (step : String) : Option Place :=
  match place with
  | .outside => if step = "" ∨ step = "." ∨ step = ".." then some .outside else none
  | .inside names =>
      if !folder.isFolder names then none
      else if step = "" ∨ step = "." then some place
      else if step = ".." then
        some (if names.isEmpty then .outside else .inside names.dropLast)
      else
        let next := names ++ [step]
        if folder.isFolder next || (folder.contents? next).isSome then some (.inside next)
        else none

/-- Where a path leads, if it leads anywhere. -/
def locate? (folder : Folder) (path : String) : Option Place :=
  if path = "" then none
  else
    (steps path).foldlM folder.follow
      (if path.startsWith "/" then .outside else .inside [])

/-- Whether a path leads to a file or a folder. -/
def contains (folder : Folder) (path : String) : Bool :=
  (folder.locate? path).isSome

/-- Why a text cannot be read. -/
inductive Unreadable where
  | missing
  | isFolder
  /-- The bytes are no encoded text. -/
  | notText
  deriving DecidableEq, Repr

/-- The reason in words. -/
def Unreadable.message : Unreadable → String
  | missing => "No such file or directory (os error 2)"
  | isFolder => "Is a directory (os error 21)"
  | notText => "stream did not contain valid UTF-8"

/-- The text of a file. -/
def readText (folder : Folder) (path : String) : Except Unreadable String :=
  match folder.locate? path with
  | none => .error .missing
  | some .outside => .error .isFolder
  | some (.inside names) =>
      match folder.contents? names with
      | none => .error .isFolder
      | some bytes =>
          match String.fromUTF8? ⟨bytes.toArray⟩ with
          | none => .error .notText
          | some text => .ok text

end Folder

end Redelivery
