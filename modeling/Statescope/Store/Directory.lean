-- SUMMARY: A store in a directory: one file per key, one folder per namespace.
import Statescope.Store.Basic
import Statescope.Text.Split

/-!
# Directory stores

A key `name` is kept in the file `name.json` and a key `space:name` in the file
`name.json` of the folder `space`. Keys whose parts are empty, hold a separator
or start with a dot are refused, so no key leads out of the directory.

`Directory` holds files and folders by their path, parts joined by `/`. As in
any file system, a name is either a file or a folder, the lengths of names and
paths are limited, and neither can hold the character NUL. The complaints are
those of Linux.
-/

namespace Statescope

/-- The folder of the store, among the user's configuration folders. -/
def Directory.defaultFolder : String := "lts-explorer"

/-! ## Keys -/

/-- The place of a key: the folder, if it has a namespace, and the name. -/
structure KeyPath where
  folder : Option String
  name : String
deriving DecidableEq

namespace KeyPath

/-- Whether a part of a key can be the name of a file or a folder. -/
def isAllowed (part : List Char) : Bool :=
  match part with
  | [] => false
  | c :: _ => c ≠ '.' && part.all fun c => c ≠ '/' && c ≠ '\\' && c ≠ ':'

/-- The place of a key, cut at its first colon. -/
def ofKey? (key : String) : Option KeyPath :=
  match Text.splitFirst? [':'] key.toList with
  | some (space, name) =>
    if isAllowed space && isAllowed name then
      some ⟨some (String.ofList space), String.ofList name⟩
    else none
  | none => if isAllowed key.toList then some ⟨none, key⟩ else none

def key (p : KeyPath) : String :=
  match p.folder with
  | some folder => folder ++ ":" ++ p.name
  | none => p.name

def fileName (p : KeyPath) : String := p.name ++ ".json"

/-- The path of the file, below the directory. -/
def file (p : KeyPath) : String :=
  match p.folder with
  | some folder => folder ++ "/" ++ p.fileName
  | none => p.fileName

end KeyPath

/-! ## Directories -/

structure Directory where
  files : Dict Blob := ∅
  folders : Tags := ∅
deriving DecidableEq

namespace Directory

/-- The folders above a path, outermost first. -/
def foldersAbove (path : String) : List String :=
  let parts := (Text.splitOn '/' path.toList).map String.ofList
  (List.range' 1 (parts.length - 1)).map fun n => "/".intercalate (parts.take n)

/-- The directory that holds the given files, and the folders that they are in. -/
def ofFiles (files : List (String × Blob)) : Directory where
  files := Dict.ofPairs files
  folders := .ofTexts (files.flatMap fun (path, _) => foldersAbove path)

/-- The most bytes that a name may have. -/
def maxNameLength : Nat := 255

/-- The most bytes that a path below the directory may have. Of the 4095 bytes of a
whole path, 16 are left for the path of the directory. -/
def maxPathLength : Nat := 4079

/-- Whether a text of at most `limit` bytes can be part of a path: none of it is NUL. -/
def isPathText (limit : Nat) (text : String) : Bool :=
  text.utf8ByteSize ≤ limit && text.toList.all (· ≠ '\x00')

/-- Whether the file system can hold an entry of this name. -/
def canName (name : String) : Bool := isPathText maxNameLength name

/-! ## Complaints -/

/-- The complaint about a path or a name that no entry can have. -/
def unnameable (path : String) : StoreError :=
  .io <| if '\x00' ∈ path.toList then "file name contained an unexpected NUL byte"
    else "File name too long (os error 36)"

def isFolder : StoreError := .io "Is a directory (os error 21)"

def notFolder : StoreError := .io "Not a directory (os error 20)"

/-- The complaint about a folder whose name a file has. -/
def taken : StoreError := .io "File exists (os error 17)"

/-! ## Files -/

/-- Why a place cannot be reached: the path or the names are impossible, or its folder
is a file, or is missing. Whether the path can be one at all is found out first, and
whether the file can have its name last. -/
def obstacle? (d : Directory) (p : KeyPath) : Option StoreError :=
  match p.folder with
  | some folder =>
    if !isPathText maxPathLength p.file || !canName folder then some (unnameable p.file)
    else if d.files.contains folder then some notFolder
    else if !d.folders.contains folder then some .notFound
    else if !canName p.fileName then some (unnameable p.fileName)
    else none
  | none => if canName p.fileName then none else some (unnameable p.fileName)

/-- The blob of a file. -/
def read (d : Directory) (p : KeyPath) : Except StoreError Blob :=
  match d.obstacle? p with
  | some e => .error e
  | none =>
    if d.folders.contains p.file then .error isFolder
    else match d.files[p.file]? with
      | some blob => .ok blob
      | none => .error .notFound

/-- The directory with the folder of a place. -/
def makeFolder (d : Directory) (p : KeyPath) : Except StoreError Directory :=
  match p.folder with
  | none => .ok d
  | some folder =>
    if !canName folder then .error (unnameable folder)
    else if d.files.contains folder then .error taken
    else .ok { d with folders := d.folders.insert folder }

/-- Writes a file. Its folder is made first, and stays when the file cannot be written. -/
def write (d : Directory) (p : KeyPath) (blob : Blob) : Except StoreError Unit × Directory :=
  match d.makeFolder p with
  | .error e => (.error e, d)
  | .ok d =>
    if !canName p.fileName then (.error (unnameable p.fileName), d)
    else if d.folders.contains p.file then (.error isFolder, d)
    else (.ok (), { d with files := d.files.insert p.file blob })

/-- Deletes a file, if it is there. -/
def delete (d : Directory) (p : KeyPath) : Except StoreError Unit × Directory :=
  match d.obstacle? p with
  | some .notFound => (.ok (), d)
  | some e => (.error e, d)
  | none =>
    if d.folders.contains p.file then (.error isFolder, d)
    else (.ok (), { d with files := d.files.erase p.file })

/-- The name of a file without its ending `.json`, if it has one and is not only that. -/
def stem? (name : List Char) : Option (List Char) :=
  match Text.afterWord? ".json".toList.reverse name.reverse with
  | some (c :: cs) => some (c :: cs).reverse
  | _ => none

/-- The key of a file in the directory or in one of its folders. -/
def keyOfFile? (path : String) : Option String :=
  match Text.splitOn '/' path.toList with
  | [name] => (stem? name).map String.ofList
  | [folder, name] => (stem? name).map fun stem => String.ofList (folder ++ ':' :: stem)
  | _ => none

def keys (d : Directory) : List String :=
  (Tags.ofTexts (d.files.keys.filterMap keyOfFile?)).toList

/-- The complaint about a key that has no place. -/
def unsupported (key : String) : StoreError := .other ("unsupported key: " ++ key)

instance : BlobStore Directory where
  load d key := match KeyPath.ofKey? key with
    | some p => d.read p
    | none => .error (unsupported key)
  save d key blob := match KeyPath.ofKey? key with
    | some p => d.write p blob
    | none => (.error (unsupported key), d)
  remove d key := match KeyPath.ofKey? key with
    | some p => d.delete p
    | none => (.error (unsupported key), d)
  keys d := .ok d.keys

end Directory

end Statescope
