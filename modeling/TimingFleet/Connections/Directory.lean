import TimingFleet.Error
import TimingFleet.Register.Path
import TimingFleet.Text.Split

/-!
# Files in a directory

Which file a path names, seen from a directory that holds files only.  A path is followed part by part:
the empty part and `.` stay where they are, `..` leaves the directory, and what lies outside holds
nothing.  `read` gives the contents of the file or why there are none.
-/

namespace TimingFleet

open Text

/-- The files of a directory by name. -/
structure Directory where
  files : NameTable ByteArray := ∅

namespace Directory

/-- Where the parts of a path have led. -/
inductive Place where
  | here
  | outside
  | file (contents : ByteArray)

/-- The most bytes in a part of a path. -/
def longestName : Nat := 255

/-- The most bytes in a path. -/
def longestPath : Nat := 4095

/-- Follows one part of a path. -/
def enter (d : Directory) (place : Place) (part : List Char) : Except FileFault Place :=
  match place with
  | .file _ => .error .notDirectory
  | place =>
    if part = [] || part = ['.'] then .ok place
    else if part = ['.', '.'] then .ok .outside
    else if longestName < (String.ofList part).utf8ByteSize then .error .nameTooLong
    else
      match place, d.files[String.ofList part]? with
      | .here, some contents => .ok (.file contents)
      | _, _ => .error .notFound

/-- Where a path begins. -/
def start (path : String) : Place := if path.toList.head? = some '/' then .outside else .here

/-- The contents of the file that a path names. -/
def read (d : Directory) (path : String) : Except FileFault ByteArray :=
  if path.toList.contains '\x00' then .error .nulInName
  else if longestPath < path.utf8ByteSize then .error .nameTooLong
  else if path = "" then .error .notFound
  else
    match (split '/' path.toList).foldlM d.enter (start path) with
    | .ok (.file contents) => .ok contents
    | .ok _ => .error .isDirectory
    | .error fault => .error fault

end Directory

end TimingFleet
