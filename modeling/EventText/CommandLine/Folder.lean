import EventText.Config.Basic

/-! A folder of files, as programs see it that are run in it. -/

namespace EventText

/-- The files of the folder by name; there are no folders in it. -/
structure Folder where
  files : List (Text × Text)

namespace Folder

/-- Names and paths have their greatest lengths in bytes. -/
def longestName : Nat := 255
@[inherit_doc longestName]
def longestPath : Nat := 4095

/-- What lies at the end of a path, `inside` telling whether the path is still in the folder. Of the
folders around it only that they are folders is known. -/
def walk (folder : Folder) (inside : Bool) : List Text → Except ReadError Text
  | [] => .error .isDirectory
  | name :: rest =>
    if name == [] || name == ['.'] then folder.walk inside rest
    else if name == ['.', '.'] then folder.walk false rest
    else if longestName < name.utf8Length then .error .nameTooLong
    else
      match if inside then folder.files.lookup name else none with
      | none => .error .missing
      | some content => if rest.isEmpty then .ok content else .error .notDirectory

def read (folder : Folder) (path : Text) : Except ReadError Text :=
  if longestPath < path.utf8Length then .error .nameTooLong
  else folder.walk (path.head? != some '/') (path.splitOn '/')

end Folder

end EventText
