import ProviderDocs.Storage.FileStore
import ProviderDocs.Text.Encoding
import ProviderDocs.Text.Order

/-!
# Disks

A file system as a value: directories and files at their places, and a working directory, from which
paths are followed.  Reading and making either succeed or say why they cannot be done and change
nothing (`Disk.read`, `Disk.write`, `Disk.makeDirectory`); removing may get halfway
(`Disk.remove`).
-/

namespace ProviderDocs

/-- A place in a file system: the names on the way to it from the top. -/
abbrev Location := List Text

/-- What a file holds. -/
inductive FileContent where
  | text (t : Text)
  /-- Bytes that are not the encoding of a text. -/
  | binary (bytes : List UInt8)
deriving DecidableEq, Repr

namespace FileContent

/-- The content of a file of given bytes. -/
def ofBytes (bytes : List UInt8) : FileContent :=
  let t := Text.decode bytes
  if Text.encode t = bytes then .text t else .binary bytes

/-- The bytes of a content. -/
def bytes : FileContent → List UInt8
  | .text t => Text.encode t
  | .binary bytes => bytes

/-- A content as it is shown, with replacement characters for bytes that are not the encoding of a
text. -/
def shown (content : FileContent) : Text :=
  Text.decode content.bytes

/-- A text is shown as it is. -/
theorem shown_text (t : Text) : (text t).shown = t :=
  Text.decode_encode t

/-- No byte is lost. -/
theorem bytes_ofBytes (bytes : List UInt8) : (ofBytes bytes).bytes = bytes := by
  rw [ofBytes]
  split
  · assumption
  · rfl

/-- The bytes of a text are read as a text. -/
theorem ofBytes_encode (t : Text) : ofBytes (Text.encode t) = .text t := by
  simp [ofBytes, Text.decode_encode]

end FileContent

/-- What is at a place. -/
inductive DiskEntry where
  | directory
  | file (content : FileContent)
deriving DecidableEq, Repr

/-- A file system. -/
structure Disk where
  /-- What is at the places below the top; what is first for a place counts. -/
  entries : List (Location × DiskEntry) := []
  /-- The working directory. -/
  home : Location := []
deriving DecidableEq, Repr

namespace Disk

/-- What is at a place.  At the top there is always a directory. -/
def at? (disk : Disk) (location : Location) : Option DiskEntry :=
  if location = [] then some .directory else disk.entries.lookup location

/-- Puts something at a place. -/
def set (disk : Disk) (location : Location) (entry : DiskEntry) : Disk :=
  { disk with
    entries := (location, entry) :: disk.entries.filter fun other => other.1 != location }

/-- What was put at a place is there. -/
theorem at?_set_self (disk : Disk) {location : Location} (h : location ≠ [])
    (entry : DiskEntry) : (disk.set location entry).at? location = some entry := by
  simp [at?, set, h]

/-- Putting something at a place leaves every other place alone. -/
theorem at?_set_of_ne (disk : Disk) {location other : Location} (h : other ≠ location)
    (entry : DiskEntry) : (disk.set location entry).at? other = disk.at? other := by
  have lookup (entries : List (Location × DiskEntry)) :
      (entries.filter fun e => e.1 != location).lookup other = entries.lookup other := by
    induction entries with
    | nil => rfl
    | cons e rest ih =>
      obtain ⟨place, kept⟩ := e
      by_cases hp : place = location
      · subst hp
        simp [List.lookup_cons, ih, beq_eq_false_iff_ne.mpr h]
      · simp [hp, List.lookup_cons, ih]
  simp [at?, set, lookup, List.lookup_cons, beq_eq_false_iff_ne.mpr h]

/-! ### Following a path -/

/-- The number of bytes of a name or a path. -/
def byteCount (t : Text) : Nat :=
  t.foldl (fun bytes c => bytes + c.utf8Size) 0

/-- The longest name, in bytes. -/
def maxNameBytes : Nat := 255

/-- The longest path, in bytes. -/
def maxPathBytes : Nat := 4095

/-- The place that pieces of a path lead to from a place.  Every piece has to start from a
directory. -/
def follow (disk : Disk) (location : Location) : List Text → Except FileCause Location
  | [] => .ok location
  | piece :: rest =>
    match disk.at? location with
    | none => .error .notFound
    | some (.file _) => .error .notDirectory
    | some .directory =>
      if Path.isIdle piece then disk.follow location rest
      else if piece = ['.', '.'] then disk.follow location.dropLast rest
      else if maxNameBytes < byteCount piece then .error .nameTooLong
      else disk.follow (location ++ [piece]) rest

/-- Why a path leads nowhere, whatever is on the disk. -/
def pathCause? (path : Text) : Option FileCause :=
  if path.contains '\x00' then some .zeroInPath
  else if path.isEmpty then some .notFound
  else if maxPathBytes < byteCount path then some .nameTooLong
  else none

/-- The place that a path leads to, where there need not be anything. -/
def locate (disk : Disk) (path : Text) : Except FileCause Location :=
  match pathCause? path with
  | some cause => .error cause
  | none => disk.follow (if Path.isAbsolute path then [] else disk.home) (Path.pieces path)

/-- A path without the slashes at its end, which ask for a directory. -/
def dropSlashes (path : Text) : Text :=
  let shorter := Text.trimEndWhere (· == '/') path
  if shorter.isEmpty then path.take 1 else shorter

/-- The place that a path leads to, whether or not it asks for a directory there. -/
def locateTarget (disk : Disk) (path : Text) : Except FileCause Location :=
  match pathCause? path with
  | some cause => .error cause
  | none => disk.locate (dropSlashes path)

/-! ### Operations -/

/-- The content of a file. -/
def read (disk : Disk) (path : Text) : Except FileCause FileContent := do
  let location ← disk.locate path
  match disk.at? location with
  | none => .error .notFound
  | some .directory => .error .isDirectory
  | some (.file content) => .ok content

/-- The text of a file. -/
def readText (disk : Disk) (path : Text) : Except FileCause Text := do
  match ← disk.read path with
  | .text t => .ok t
  | .binary _ => .error .notText

/-- Makes the content of a file, or replaces it. -/
def write (disk : Disk) (path : Text) (content : FileContent) : Except FileCause Disk := do
  let location ← disk.locateTarget path
  match disk.at? location with
  | some .directory => .error .isDirectory
  | some (.file _) =>
    if dropSlashes path = path then .ok (disk.set location (.file content))
    else .error .notDirectory
  | none =>
    if dropSlashes path = path then .ok (disk.set location (.file content))
    else .error .isDirectory

/-- Makes a directory inside one that is there. -/
def makeDirectory (disk : Disk) (path : Text) : Except FileCause Disk := do
  let location ← disk.locateTarget path
  match disk.at? location with
  | some _ => .error .exists
  | none => .ok (disk.set location .directory)

/-- Whether there is a directory. -/
def isDirectory (disk : Disk) (path : Text) : Bool :=
  match disk.locate path with
  | .ok location => disk.at? location == some .directory
  | .error _ => false

/-- A disk without the places that satisfy `p`. -/
def without (disk : Disk) (p : Location → Bool) : Disk :=
  { disk with entries := disk.entries.filter fun entry => !p entry.1 }

/-- Below the top nothing is left at the places that satisfy `p`. -/
theorem at?_without (disk : Disk) (p : Location → Bool) {location : Location}
    (h : location ≠ []) :
    (disk.without p).at? location = if p location then none else disk.at? location := by
  have lookup (entries : List (Location × DiskEntry)) :
      (entries.filter fun entry => !p entry.1).lookup location =
        if p location then none else entries.lookup location := by
    induction entries with
    | nil => simp
    | cons entry rest ih =>
      obtain ⟨place, kept⟩ := entry
      by_cases hl : location = place
      · subst hl
        by_cases hp : p location <;> simp [hp, ih]
      · by_cases hp : p place <;> simp [hp, ih, List.lookup_cons, beq_eq_false_iff_ne.mpr hl]
  simp [at?, without, h, lookup]

/-- Removes an empty directory.  It cannot be removed by a path that ends inside it, nor by one that
comes back to it from a directory that it holds. -/
def removeDirectory (disk : Disk) (path : Text) : Except FileCause Disk := do
  let location ← disk.locateTarget path
  if (disk.at? location).isNone then throw .notFound
  let last := (Path.pieces (dropSlashes path)).getLast?
  if last = some ['.'] then throw .invalid
  if last = some ['.', '.'] then throw .notEmpty
  return disk.without (· == location)

/-- Removes a file, or a directory with all that is in it.  A directory is emptied first, and its
path is followed again when the directory itself is removed: it stays if the path led through
what it held. -/
def remove (path : Text) : StateM Disk (Except FileCause Unit) := fun disk =>
  match disk.locate path with
  | .error cause => (.error cause, disk)
  | .ok location =>
    match disk.at? location with
    | none => (.error .notFound, disk)
    | some (.file _) => (.ok (), disk.without (· == location))
    | some .directory =>
      let emptied := disk.without fun other => location.isPrefixOf other && location != other
      match emptied.removeDirectory path with
      | .ok after => (.ok (), after)
      | .error .notFound => (.ok (), emptied)
      | .error cause => (.error cause, emptied)

/-- What is below the working directory, each directory before what is in it, and the entries of a
directory in the order of their names. -/
def below (disk : Disk) : List (Location × DiskEntry) :=
  orderBy Prod.fst <| disk.entries.filterMap fun entry =>
    match List.isPrefixOf? disk.home entry.1 with
    | some (name :: rest) => some (name :: rest, entry.2)
    | _ => none

/-! ### Disks as file stores -/

/-- Does an operation, if it can be done. -/
def perform (operation : Disk → Except FileCause Disk) : StateM Disk (Except FileCause Unit) :=
  fun disk =>
    match operation disk with
    | .ok after => (.ok (), after)
    | .error cause => (.error cause, disk)

instance : FileStore (StateM Disk) where
  readText path := return (← get).readText path
  writeText path t := perform fun disk => disk.write path (.text t)
  makeDirectory path := perform fun disk => disk.makeDirectory path
  isDirectory path := return (← get).isDirectory path

end Disk

end ProviderDocs
