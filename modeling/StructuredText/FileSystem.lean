/-
# Files

The files below a working directory, as far as reading and writing whole files needs them.  A
name leads from the working directory, or from the root of all files, part by part to a place:
`.` stays, `..` goes up, and any other part goes into a directory.  There are no links, so the
place follows from the parts alone; but every part needs a directory to start from.

* `NameFault.of?` tells which names are no names of files;
* `Location.ofName` is where a name leads;
* `FileSystem.locate` follows a name, and fails where it cannot be followed;
* `FileSystem.read` and `FileSystem.write` read and write a file.
-/
import StructuredText.Text.Lines
import StructuredText.Text.Shown
import StructuredText.Text.Utf8

namespace StructuredText

/-! ## Names -/

/-- Why a text can be the name of no file. -/
inductive NameFault
  /-- Some of its code points stand for no bytes. -/
  | unencodable (e : Utf8.EncodeError)
  /-- A zero would end the name early. -/
  | zero
deriving DecidableEq

/-- The wording of a fault. -/
def NameFault.message : NameFault → Text
  | unencodable e => e.message
  | zero => "embedded null byte"

namespace FileName

/-- A low surrogate that stands, in a name, for a single byte which is no UTF-8. -/
def standsForByte (c : CodePoint) : Bool := c.between 0xDC80 0xDCFF

/-- The bytes of a name. -/
def bytes (name : Text) : List UInt8 :=
  name.flatMap fun c =>
    if standsForByte c then [UInt8.ofNat (c.val - 0xDC00)] else Utf8.encodeCodePoint c

/-- How many bytes there are in a name. -/
def size (name : Text) : Nat := (bytes name).length

/-- The first code points without bytes, after some that have them. -/
def unencodableAfter (position : Nat) : Text → Option Utf8.EncodeError
  | [] => none
  | c :: rest =>
    if c.isSurrogate && !standsForByte c then
      some ⟨position, c, 1 + (rest.takeWhile CodePoint.isSurrogate).length⟩
    else unencodableAfter (position + 1) rest

/-- The parts of a name between its slashes. -/
def parts (name : Text) : List Text := (Text.splitOn '/' name).filter fun part => part ≠ []

/-- Whether a name begins at the root of all files. -/
def isRooted (name : Text) : Bool := name.head? = some '/'

/-- Whether a name ends in a slash, so that it can mean a directory only. -/
def meansDirectory (name : Text) : Bool := name.getLast? = some '/'

/-- The last part of a name, empty after a slash at the end. -/
def lastPart (name : Text) : Text := (Text.splitOn '/' name).getLast?.getD []

/-- How many bytes a part of a name may have. -/
def greatestPart : Nat := 255

/-- How many bytes a name may have. -/
def greatestSize : Nat := 4095

end FileName

/-- What is wrong with a name. -/
def NameFault.of? (name : Text) : Option NameFault :=
  match FileName.unencodableAfter 0 name with
  | some e => some (.unencodable e)
  | none => if name.any fun c => c.val = 0 then some .zero else none

/-! ## Locations -/

/-- A place below the working directory, by the names on the way to it.  Places above it begin
with `..`, and places below the root of all files with `/`. -/
abbrev Location := List Text

namespace Location

/-- The root of all files. -/
def root : Location := ["/"]

/-- The place one part further. -/
def enter (place : Location) (part : Text) : Location :=
  if part = ("." : Text) then place
  else if part = (".." : Text) then
    if place = root then root
    else if place.all fun name => name = (".." : Text) then place ++ [part]
    else place.dropLast
  else place ++ [part]

/-- Where the parts of a name begin. -/
def start (name : Text) : Location := if FileName.isRooted name then root else []

/-- Where a name leads. -/
def ofName (name : Text) : Location := (FileName.parts name).foldl enter (start name)

/-- The name of a place. -/
def name : Location → Text
  | [] => "."
  | first :: rest =>
    if first = ("/" : Text) then first ++ Text.join ("/" : Text) rest
    else Text.join ("/" : Text) (first :: rest)

end Location

/-! ## Files -/

/-- What stands at a place. -/
inductive Entry
  | file (bytes : List UInt8)
  | directory
deriving DecidableEq

/-- What stands under each name. -/
abbrev FileSystem := List (Text × Entry)

/-- Why a file cannot be read or written. -/
inductive FileError
  | notFound | notADirectory | isADirectory | nameTooLong
deriving DecidableEq

/-- The wording of a failure at a name. -/
def FileError.message (name : Text) (e : FileError) : Text :=
  let explanation : Text := match e with
    | notFound => "[Errno 2] No such file or directory: "
    | notADirectory => "[Errno 20] Not a directory: "
    | isADirectory => "[Errno 21] Is a directory: "
    | nameTooLong => "[Errno 36] File name too long: "
  explanation ++ name.shown

namespace FileSystem

/-- Whether a place is a directory because names lead through it: the working directory and
those above it, the root of all files, and whatever has a file below it. -/
def leadsOn (fs : FileSystem) (place : Location) : Bool :=
  place = Location.root || (place.all fun name => name = (".." : Text)) ||
    fs.any fun (name, _) =>
      place.isPrefixOf (Location.ofName name) && place.length < (Location.ofName name).length

/-- What stands at a place. -/
def entry? (fs : FileSystem) (place : Location) : Option Entry :=
  if fs.leadsOn place then some .directory
  else (fs.find? fun (name, _) => Location.ofName name = place).map (·.2)

/-- Accepts a place where a directory stands. -/
def needDirectory (fs : FileSystem) (place : Location) : Except FileError Unit :=
  match fs.entry? place with
  | none => .error .notFound
  | some (.file _) => .error .notADirectory
  | some .directory => .ok ()

/-- Goes one part further, out of a directory. -/
def enter (fs : FileSystem) (place : Location) (part : Text) : Except FileError Location := do
  fs.needDirectory place
  if FileName.greatestPart < FileName.size part then throw .nameTooLong
  return place.enter part

/-- Follows some parts of a name to a place. -/
def follow (fs : FileSystem) (name : Text) (parts : List Text) : Except FileError Location := do
  if name.isEmpty then throw .notFound
  if FileName.greatestSize < FileName.size name then throw .nameTooLong
  parts.foldlM fs.enter (Location.start name)

/-- Follows a name to its place. -/
def locate (fs : FileSystem) (name : Text) : Except FileError Location :=
  fs.follow name (FileName.parts name)

/-- The bytes of a file. -/
def read (fs : FileSystem) (name : Text) : Except FileError (List UInt8) := do
  match fs.entry? (← fs.locate name) with
  | some (.file bytes) => if FileName.meansDirectory name then throw .notADirectory else return bytes
  | some .directory => throw .isADirectory
  | none => throw .notFound

/-- The files with one of them replaced, or with a new one at the end. -/
def put (name : Text) (bytes : List UInt8) : FileSystem → FileSystem
  | [] => [((Location.ofName name).name, .file bytes)]
  | (n, e) :: rest =>
    if Location.ofName n = Location.ofName name then (n, .file bytes) :: rest
    else (n, e) :: put name bytes rest

/-- The files after one was written.  With a slash at its end a name is taken for a directory,
whatever stands there. -/
def write (fs : FileSystem) (name : Text) (bytes : List UInt8) : Except FileError FileSystem := do
  fs.needDirectory (← fs.follow name (FileName.parts name).dropLast)
  if FileName.meansDirectory name then throw .isADirectory
  match fs.entry? (← fs.locate name) with
  | some .directory => throw .isADirectory
  | _ => return put name bytes fs

end FileSystem

end StructuredText
