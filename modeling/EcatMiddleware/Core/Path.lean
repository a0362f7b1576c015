import Mathlib.Data.List.Basic

/-!
# Paths

The operations of `std::filesystem::path` that the configuration uses, on POSIX paths.
-/

namespace EcatMiddleware.Core.Path

def isAbsolute (path : String) : Bool := path.toList.head? = some '/'

/-- The path without its last component. -/
def parentPath (path : String) : String :=
  let parent := ((path.toList.reverse.dropWhile (· ≠ '/')).dropWhile (· = '/')).reverse
  if parent = [] ∧ isAbsolute path then "/" else String.ofList parent

/-- `path / target`. -/
def append (path target : String) : String :=
  if isAbsolute target ∨ path = "" then target
  else if path.toList.getLast? = some '/' then path ++ target
  else path ++ "/" ++ target

/-- One component behind those that `stack` holds, the last on top. -/
def pushComponent (absolute : Bool) (stack : List (List Char)) (component : List Char) :
    List (List Char) :=
  if component = [] ∨ component = ".".toList then stack
  else if component = "..".toList then
    match stack with
    | [] => if absolute then [] else [component]
    | top :: rest => if top = "..".toList then component :: stack else rest
  else component :: stack

/-- `lexically_normal`: no `.`, no component before a `..`, no separator twice. -/
def lexicallyNormal (path : String) : String :=
  if path = "" then ""
  else
    let components := path.toList.splitOn '/'
    let stack := components.foldl (pushComponent (isAbsolute path)) []
    let isDirectory := components.getLast?.all fun c => c ∈ [[], ".".toList, "..".toList]
    let text := (if isAbsolute path then ['/'] else []) ++ ['/'].intercalate stack.reverse ++
      (if isDirectory ∧ stack ≠ [] ∧ stack.head? ≠ some "..".toList then ['/'] else [])
    if text = [] then "." else String.ofList text

example : lexicallyNormal "/tmp/robot/middleware/../zenoh.json5" = "/tmp/robot/zenoh.json5" := by
  decide

example : lexicallyNormal "a/b/.." = "a/" ∧ lexicallyNormal "../../" = "../.." := by decide

end EcatMiddleware.Core.Path
