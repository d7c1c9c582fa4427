/-!
# File paths

A path is shown and opened in a normal form: empty and single-dot parts are dropped, two dots
stay, and a path without parts is a single dot. A leading slash is kept, and so are exactly two.
-/

set_option autoImplicit false

namespace Dataflow.Path

/-- The parts of a path between slashes, of which `part` (in reverse) has been read of the current
one. -/
def partsFrom (part : List Char) : List Char → List (List Char)
  | [] => [part.reverse]
  | c :: rest => if c = '/' then part.reverse :: partsFrom [] rest else partsFrom (c :: part) rest

/-- The slashes that a path keeps in front. -/
def root (path : List Char) : String :=
  match (path.takeWhile (· = '/')).length with
  | 0 => ""
  | 2 => "//"
  | _ => "/"

/-- The normal form of a path. -/
def normalize (path : String) : String :=
  let parts := ((partsFrom [] path.toList).map String.ofList).filter fun part =>
    part ≠ "" ∧ part ≠ "."
  let normal := root path.toList ++ "/".intercalate parts
  if normal = "" then "." else normal

/-! ## Examples -/

example : normalize "./x//y/" = "x/y" ∧ normalize "" = "." ∧ normalize "../x" = "../x" := by
  decide +kernel

end Dataflow.Path
