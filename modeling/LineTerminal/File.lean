/-
Files that hold a text, and why one could not be read.

A path is followed from name to name through a directory with files. Above the directory there are directories of which
nothing else is known, and from the root of the file system only the entries that every system has.
-/
namespace LineTerminal.File

/-! ## Faults -/

/-- why a file could not be read -/
inductive Fault where
  | notFound
  | notADirectory
  | isADirectory
  | nameTooLong
  /-- the path holds a character that ends names -/
  | nulInPath
  /-- the bytes are no text -/
  | notText
  /-- another reason of the operating system, and its number -/
  | system (reason : String) (code : Nat)
  deriving DecidableEq, Repr

/-- a reason of the operating system with its number -/
def numbered (reason : String) (code : Nat) : String := reason ++ " (os error " ++ toString code ++ ")"

def Fault.message : Fault → String
  | notFound => numbered "No such file or directory" 2
  | notADirectory => numbered "Not a directory" 20
  | isADirectory => numbered "Is a directory" 21
  | nameTooLong => numbered "File name too long" 36
  | nulInPath => "file name contained an unexpected NUL byte"
  | notText => "stream did not contain valid UTF-8"
  | system reason code => numbered reason code

/-! ## Directories -/

/-- what stands under a name -/
inductive Entry where
  | file (bytes : ByteArray)
  | directory

/-- what stands under names below a directory, each given by the names that lead to it -/
abbrev Directory := List (List String × Entry)

namespace Directory

/-- the entry with some names: a directory also when something is below it -/
def entry? (d : Directory) (names : List String) : Option Entry :=
  match d.lookup names with
  | some e => some e
  | none => if d.any (fun e => names.isPrefixOf e.1) then some .directory else none

/-- what every system has below its root: some directories, and the file that is always empty -/
def system : Directory :=
  (["dev", "null"], .file .empty) :: ["bin", "etc", "home", "proc", "root", "sys", "tmp", "usr", "var"].map
    (fun name => ([name], .directory))

end Directory

/-- where a path has led to so far -/
inductive Spot where
  /-- below a directory, or the directory itself -/
  | within (d : Directory) (isRoot : Bool) (names : List String)
  /-- in a directory of which nothing is known -/
  | unknown
  | file (bytes : ByteArray)

/-- the longest name, and the longest path, in bytes -/
def maxName : Nat := 255
def maxPath : Nat := 4095

def Spot.follow (spot : Spot) (name : String) : Except Fault Spot :=
  let stays := name.isEmpty || name == "."
  let tooLong := maxName < name.utf8ByteSize
  match spot with
  | .file _ => .error .notADirectory
  | .unknown =>
    if stays || name == ".." then .ok .unknown else if tooLong then .error .nameTooLong else .error .notFound
  | .within d isRoot names =>
    if stays then .ok spot
    else if name == ".." then
      .ok (if names.isEmpty && !isRoot then .unknown else .within d isRoot names.dropLast)
    else if tooLong then .error .nameTooLong
    else match d.entry? (names ++ [name]) with
      | none => .error .notFound
      | some .directory => .ok (.within d isRoot (names ++ [name]))
      | some (.file bytes) => .ok (.file bytes)

/-- the bytes of the file that a path leads to from a directory -/
def Directory.bytes (d : Directory) (path : String) : Except Fault ByteArray := do
  if path.toList.contains '\x00' then .error .nulInPath
  else if path.isEmpty then .error .notFound
  else if maxPath < path.utf8ByteSize then .error .nameTooLong
  else
    let start : Spot := if path.toList.head? == some '/' then .within .system true [] else .within d false []
    match ← (path.splitOn "/").foldlM Spot.follow start with
    | .file bytes => return bytes
    | _ => .error .isADirectory

/-- the text that bytes encode -/
def textOfBytes (bytes : ByteArray) : Except Fault String :=
  match String.fromUTF8? bytes with
  | some s => .ok s
  | none => .error .notText

theorem textOfBytes_eq_ok_iff (bytes : ByteArray) (text : String) : textOfBytes bytes = .ok text ↔ bytes = text.toUTF8 := by
  unfold textOfBytes String.fromUTF8?
  by_cases valid : bytes.IsValidUTF8
  · simp only [dif_pos valid, Except.ok.injEq]
    exact ⟨fun h => h ▸ rfl, fun h => String.toByteArray_inj.1 h⟩
  · simp only [dif_neg valid]
    exact ⟨nofun, fun h => absurd (h ▸ text.isValidUTF8) valid⟩

theorem textOfBytes_eq_error {bytes : ByteArray} (h : ∀ text : String, bytes ≠ text.toUTF8) :
    textOfBytes bytes = .error .notText := by
  unfold textOfBytes
  split
  · rename_i text found
    refine absurd ?_ (h text)
    rw [← textOfBytes_eq_ok_iff, textOfBytes, found]
  · rfl

def Directory.text (d : Directory) (path : String) : Except Fault String := do
  textOfBytes (← d.bytes path)

end LineTerminal.File
