/-!
# Paths

A path is cut into segments at its slashes. Two slashes side by side enclose an empty segment; a
path in which they are made one is a different path, that may lead somewhere when the first one
leads nowhere.
-/

namespace ReplayCalculator.Web.Path

/-- The parts of a path between its slashes. -/
def segments : List Char → List String
  | [] => [""]
  | c :: rest =>
    if c = '/' then "" :: segments rest
    else
      match segments rest with
      | [] => [String.singleton c]
      | s :: ss => (String.singleton c ++ s) :: ss

/-- The path with each pair of slashes made one. -/
def mergeSlashes : List Char → List Char
  | '/' :: '/' :: rest => '/' :: mergeSlashes rest
  | c :: rest => c :: mergeSlashes rest
  | [] => []

end ReplayCalculator.Web.Path
