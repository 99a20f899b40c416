/-!
# Written places of files

* `Place.names` — the names that a place is made of;
* `Place.parent?`, `Place.lineage` — the folder of a file, and all folders above it;
* `Place.join` — a place within a folder;
* `Place.isAbsolute` — a place that does not depend on the working folder.
-/

namespace SessionReplay.Disk.Place

/-- A place that does not depend on the working folder. -/
def isAbsolute (path : String) : Bool :=
  path.startsWith "/"

/-- The names between the slashes of a place, of which some may be empty. -/
def names (path : String) : List String :=
  (path.toList.splitOn '/').map String.ofList

/-- The names of a place from its end, without those that say nothing: empty ones, and dots behind
another name. -/
def significant : List String → List String
  | [] => []
  | name :: above =>
    if name.isEmpty ∨ (name = "." ∧ !above.isEmpty) then significant above else name :: above

/-- The folder of a place; the top folder and the empty place have none. -/
def parent? (path : String) : Option String :=
  match significant (names path).reverse with
  | [] => none
  | _ :: above =>
    match significant above with
    | [] => some (if isAbsolute path then "/" else "")
    | names => some ("/".intercalate names.reverse)

/-- A place and the folders above it, at most as many as the first argument says. -/
def lineageUpTo : Nat → String → List String
  | 0, _ => []
  | steps + 1, path => path :: (parent? path).elim [] (lineageUpTo steps)

/-- A place and the folders above it. -/
def lineage (path : String) : List String :=
  lineageUpTo (path.length + 1) path

/-- A place within a folder. -/
def join (folder path : String) : String :=
  if isAbsolute path then path
  else if folder.isEmpty ∨ folder.endsWith "/" then folder ++ path
  else folder ++ "/" ++ path

end SessionReplay.Disk.Place
