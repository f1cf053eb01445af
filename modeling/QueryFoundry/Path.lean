/-!
# Path texts

A path is kept as the text it was given as; nothing is normalized. Joining follows the rule that an
absolute right side stands for itself. A path whose bytes are not UTF-8 is known by a text that only
shows it; which paths these are is up to the host.
-/

namespace QueryFoundry

/-- The text of a file system path. -/
abbrev Path := String

namespace Path

/-- A path is absolute when it starts at the root directory. -/
def isAbsolute (path : Path) : Bool :=
  match path.toList with
  | '/' :: _ => true
  | _ => false

/-- A separator is needed behind a path that is nonempty and does not already end in one. -/
def needsSeparator (path : Path) : Bool :=
  match path.toList.getLast? with
  | none => false
  | some last => last != '/'

/-- Resolve `right` against the directory `left`: an absolute right side replaces the left one, and
else a separator is put between them where the left one needs it. -/
def join (left right : Path) : Path :=
  if isAbsolute right then right
  else if needsSeparator left then left ++ "/" ++ right
  else left ++ right

end Path

end QueryFoundry
