import FilterSql.Text.Segments

/-!
# `FilterSql.Files`: files and the paths that lead to them

What a run of the program knows about files is what reading a path
gives: `Files` is that function. For files that are given one by one
a path is followed step by step, from the directory that they are in.

* `Files.ofList`: the files of a directory tree.
* `FileContent.ofBytes`: what a file holds, from its bytes.
-/

set_option autoImplicit false

namespace FilterSql

/-! ### What reading a path gives -/

/-- What a file holds. -/
inductive FileContent where
  | text (content : String)
  /-- Bytes that are no text. The lines in front of the first one that
  cannot be read are kept. -/
  | binary (front : String)

namespace FileContent

/-- The lines of a sequence of bytes, with their line feeds. -/
def byteLines : List UInt8 → List (List UInt8)
  | [] => []
  | b :: bs =>
    if b = 10 then [b] :: byteLines bs
    else match byteLines bs with
      | [] => [[b]]
      | line :: lines => (b :: line) :: lines

/-- The text of the lines in front of the first one that cannot be
read. -/
def readableFront : List (List UInt8) → String
  | [] => ""
  | line :: lines =>
    match String.fromUTF8? ⟨line.toArray⟩ with
    | some s => s ++ readableFront lines
    | none => ""

/-- What a file with these bytes holds. -/
def ofBytes (bytes : ByteArray) : FileContent :=
  match String.fromUTF8? bytes with
  | some s => .text s
  | none => .binary (readableFront (byteLines bytes.toList))

/-- The readable lines at the front. -/
def front : FileContent → String
  | text content => content
  | binary front => front

end FileContent

/-- Why reading a path gives no text. -/
inductive ReadFault where
  | missing
  /-- The path goes on behind something that is not a directory. -/
  | notADirectory
  | nameTooLong
  | directory
  | notText
deriving DecidableEq

namespace ReadFault

/-- The wording of a fault. -/
def message : ReadFault → String
  | missing => "No such file or directory (os error 2)"
  | notADirectory => "Not a directory (os error 20)"
  | nameTooLong => "File name too long (os error 36)"
  | directory => "Is a directory (os error 21)"
  | notText => "stream did not contain valid UTF-8"

/-- Whether the path leads somewhere all the same. -/
def leadsSomewhere : ReadFault → Bool
  | directory | notText => true
  | missing | notADirectory | nameTooLong => false

end ReadFault

/-- The files that can be seen, by path. -/
abbrev Files := String → Except ReadFault FileContent

namespace Files

/-- Whether there is something at the end of a path. -/
def has (files : Files) (path : String) : Bool :=
  match files path with
  | .ok _ => true
  | .error fault => fault.leadsSomewhere

/-- The text of a file. -/
def text (files : Files) (path : String) : Except ReadFault String :=
  match files path with
  | .ok (.text content) => .ok content
  | .ok (.binary _) => .error .notText
  | .error fault => .error fault

/-- The files at some paths; there are no others. -/
def ofReads (reads : List (String × Except ReadFault FileContent)) : Files :=
  fun path => (reads.lookup path).getD (.error .missing)

/-! ### Following a path -/

/-- A node of a directory tree. -/
inductive Node where
  | directory
  | file (content : FileContent)

/-- The nodes of a directory tree by the names that lead to them.
Directories on the way to a node need not be listed. -/
abbrev Tree := List (List String × Node)

/-- The node behind the given names, if there is one. -/
def Tree.node? (tree : Tree) (names : List String) : Option Node :=
  match tree.find? fun entry => entry.1 = names with
  | some (_, node) => some node
  | none =>
    if names.isEmpty || tree.any fun entry => names.isPrefixOf entry.1 then
      some .directory
    else none

/-- Where a path has led so far. -/
inductive Place where
  /-- Into the tree, by the given names. -/
  | inside (names : List String)
  /-- To a directory outside the tree, where no name is known. -/
  | outside

/-- The place one directory up. -/
def Place.parent : Place → Place
  | inside [] => outside
  | inside (name :: names) => inside (name :: names).dropLast
  | outside => outside

/-- Whether a place is a file. -/
def Place.isFile (tree : Tree) : Place → Bool
  | inside names =>
    match tree.node? names with
    | some (.file _) => true
    | _ => false
  | outside => false

/-- The longest name in a directory, in bytes. -/
def maxNameBytes : Nat := 255

/-- The longest path, in bytes. -/
def maxPathBytes : Nat := 4095

/-- One step of a path. Only a directory can be left by a step, be it
one that stays where it is. -/
def step (tree : Tree) (place : Place) (name : String) :
    Except ReadFault Place :=
  if place.isFile tree then .error .notADirectory
  else if name = "" || name = "." then .ok place
  else if name = ".." then .ok place.parent
  else if maxNameBytes < name.utf8ByteSize then .error .nameTooLong
  else
    match place with
    | .outside => .error .missing
    | .inside names =>
      if (tree.node? (names ++ [name])).isSome then
        .ok (.inside (names ++ [name]))
      else .error .missing

/-- The steps of a path from a given place. -/
def follow (tree : Tree) (place : Place) : List String →
    Except ReadFault Place
  | [] => .ok place
  | name :: names => do
    let place ← step tree place name
    follow tree place names

/-- What is read at a place. -/
def contentAt (tree : Tree) : Place → Except ReadFault FileContent
  | .outside => .error .directory
  | .inside names =>
    match tree.node? names with
    | some (.file content) => .ok content
    | some .directory => .error .directory
    | none => .error .missing

/-- The files of a tree, seen from its root. A path that starts with a
slash leads outside. -/
def ofTree (tree : Tree) : Files := fun path =>
  if path = "" then .error .missing
  else if maxPathBytes < path.utf8ByteSize then .error .nameTooLong
  else do
    let start : Place :=
      if path.toList.head? = some '/' then .outside else .inside []
    let place ← follow tree start (Text.segments '/' path)
    contentAt tree place

/-- The names that a path is made of, when it only leads downwards. -/
def pathNames (path : String) : List String :=
  (Text.segments '/' path).filter fun name => name ≠ "" && name ≠ "."

/-- The files of a directory tree that is given by paths. -/
def ofList (entries : List (String × Node)) : Files :=
  ofTree (entries.map fun entry => (pathNames entry.1, entry.2))

end Files

end FilterSql
