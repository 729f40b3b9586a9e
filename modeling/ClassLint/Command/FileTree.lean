import ClassLint.Text.Raw

/-! Reading files by path, and a directory tree that is held in memory. -/

namespace ClassLint

/-- Why a file cannot be read: the system refuses it, or it is not text. -/
inductive ReadFault where
  | system (description : Text) (code : Nat)
  | notText
  deriving DecidableEq, Repr

namespace ReadFault

def missing : ReadFault := .system "No such file or directory" 2

def notDirectory : ReadFault := .system "Not a directory" 20

def isDirectory : ReadFault := .system "Is a directory" 21

def nameTooLong : ReadFault := .system "File name too long" 36

def message : ReadFault → Text
  | .system description code => description ++ " (os error " ++ decimal code ++ ")"
  | .notText => "stream did not contain valid UTF-8"

end ReadFault

abbrev FileReader := RawText → Except ReadFault Text

/-- The files of a directory tree, each with the names that lead to it from the top. -/
structure FileTree where
  files : List (List RawText × Text)
  deriving DecidableEq, Repr

namespace FileTree

def ofFiles (files : List (Text × Text)) : FileTree :=
  ⟨files.map fun file => (RawText.names file.1, file.2)⟩

def content? (tree : FileTree) (place : List RawText) : Option Text :=
  (tree.files.find? fun file => file.1 = place).map Prod.snd

/-- Where a path leads: to a place in the tree, given by the names from the top, or to a directory
around the tree, of which nothing but the tree is known. -/
inductive Place where
  | inside (names : List RawText)
  | outside
  deriving DecidableEq, Repr

def Place.parent : Place → Place
  | .inside (name :: names) => .inside (name :: names).dropLast
  | .inside [] | .outside => .outside

def isDirectory (tree : FileTree) : Place → Bool
  | .inside names =>
    names.isEmpty || tree.files.any fun file => names.isPrefixOf file.1 && file.1 != names
  | .outside => true

/-- What cannot be walked through: a file, or nothing at all. -/
def barrier (tree : FileTree) : Place → ReadFault
  | .inside names => if (tree.content? names).isSome then .notDirectory else .missing
  | .outside => .missing

def longestName : Nat := 255

def longestPath : Nat := 4095

/-- Where the names lead from a place. Every name but the last has to lead to a directory. -/
def walkTo (tree : FileTree) (place : Place) : List RawText → Except ReadFault Place
  | [] => .ok place
  | name :: rest =>
    if !tree.isDirectory place then .error (tree.barrier place)
    else if name = ".." then walkTo tree place.parent rest
    else if longestName < name.bytes.length then .error .nameTooLong
    else
      match place with
      | .inside names => walkTo tree (.inside (names ++ [name])) rest
      | .outside => .error .missing

def endsInDirectory (path : RawText) : Bool :=
  match (fields RawText.slash path.bytes).getLast? with
  | some [] | some [RawText.dot] => true
  | _ => false

/-- A path that starts with a slash starts outside the tree. -/
def read (tree : FileTree) : FileReader := fun path => do
  if path.bytes.isEmpty then throw .missing
  if longestPath < path.bytes.length then throw .nameTooLong
  let start := if path.bytes.head? = some RawText.slash then Place.outside else Place.inside []
  match ← tree.walkTo start path.names with
  | .outside => throw .isDirectory
  | .inside place =>
    if tree.isDirectory (.inside place) then throw .isDirectory
    match tree.content? place with
    | none => throw .missing
    | some content => if endsInDirectory path then throw .notDirectory else return content

end FileTree

end ClassLint
