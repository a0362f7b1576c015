import EcatMiddleware.Core.ConfigFile
import EcatMiddleware.Core.Path
import EcatMiddleware.Lib.Replace

/-!
# Files and references of the configuration

`ConfigFile.load` reads a file; `config_reference` reads a path from the file that `EC_CFG` names,
and writes the directory of that file for `${PWD}` and `$PWD`. `expandPwd_eq_iff` says when its two
loops write it for these tokens of the configured folder, and for no others.
-/

namespace EcatMiddleware.Core

open Replace

/-- The environment and the file system; where a call throws, what the exception says. -/
structure Host where
  ecCfg : Option String
  canonical : String → Except String String
  absolute : String → Except String String
  loadFile : String → Except String Yaml

structure ConfigFile where
  root : Yaml
  path : String

variable (lib : YamlCpp) (host : Host)

def ConfigException.what : ConfigException → String
  | .configError what => what
  | .yamlException what => what

/-- `ConfigFile::load`: whatever is thrown on the way comes out as a `ConfigError`. -/
def ConfigFile.load (path : String) : Configured ConfigFile :=
  let attempt : Except String ConfigFile := do
    let root ← host.loadFile path
    if root.isMap then
      let version ← (unsignedValue lib root "version" 1 "config").mapError ConfigException.what
      if version = 1 then
        .ok ⟨root, ← host.absolute path⟩
      else .error "config.version: only version 1 is supported"
    else .error "expected a YAML mapping"
  attempt.mapError fun what => .configError (path ++ ": " ++ what)

/-- `ConfigFile::resolve`. -/
def ConfigFile.resolve (file : ConfigFile) (reference : String) : String :=
  if Path.isAbsolute reference then reference
  else Path.lexicallyNormal (Path.append (Path.parentPath file.path) reference)

/-- `canonical(getenv("EC_CFG"))`, after the check of the variable. -/
def canonicalEcCfg : Configured String :=
  match host.ecCfg.filter (· ≠ "") with
  | none => .error
      (.configError "EC_CFG: set the environment variable to the robot ec_cfg.yaml file")
  | some env =>
    (host.canonical env).mapError fun what => .configError ("EC_CFG: " ++ env ++ ": " ++ what)

def robotConfigDirectory : Configured String := Path.parentPath <$> canonicalEcCfg host

def braced : Token Char := ⟨"${PWD}".toList, by decide⟩

def plain : Token Char := ⟨"$PWD".toList, by decide⟩

/-- The loops of `config_reference` over the configured folder, one for each token. -/
def expandPwd (directory folder : String) : String :=
  [braced, plain].foldl (fun folder token =>
    String.ofList (replaceFrom token directory.toList folder.toList 0)) folder

def configReference (sectionName key : String) : Configured String := do
  let directory ← robotConfigDirectory host
  let file ← ConfigFile.load lib host (← canonicalEcCfg host)
  let settings ← sectionOf lib file.root sectionName ""
  let where_ := file.path ++ ": " ++ sectionName ++ "." ++ key
  if (← settings.get lib key).all Yaml.isScalar then
    let folder ← value lib settings key "" sectionName
    if folder = "" then .error (.configError (where_ ++ ": required"))
    else .ok (Path.lexicallyNormal (file.resolve (expandPwd directory folder)))
  else .error (.configError (where_ ++ ": expected a path string"))

def robotIdMapPath : Configured String := configReference lib host "robot" "robot_id_map_path"

/-! ## The tokens of the folder -/

/-- The directory is written for the tokens that the folder itself holds. -/
def expandOnce (directory folder : String) : String :=
  String.ofList (substitute [braced, plain] directory.toList folder.toList)

theorem apart_braced_plain : Apart braced plain '$' where
  headOnce₁ := ⟨"{PWD}".toList, rfl, by decide⟩
  headOnce₂ := ⟨"PWD".toList, rfl, by decide⟩
  not_prefix₁ := by decide
  not_prefix₂ := by decide

theorem expandPwd_eq (directory folder : String) : expandPwd directory folder =
    String.ofList (substitute [plain] directory.toList
      (substitute [braced] directory.toList folder.toList)) := by
  have hloop : ∀ token (s : List Char), replaceFrom token directory.toList s 0 =
      substitute [token] directory.toList s := fun token s => replaceFrom_append token _ s []
  simp only [expandPwd, List.foldl_cons, List.foldl_nil, hloop, String.toList_ofList]

/-- **The tokens of the folder and no others** are replaced exactly when the directory, written
between the pieces of the folder around `${PWD}`, brings about no occurrence of `$PWD`; or when it
is itself the text `$PWD`. -/
theorem expandPwd_eq_iff (directory folder : String) :
    expandPwd directory folder = expandOnce directory folder ↔
      (∀ pieces, Pieces braced folder.toList pieces →
        occurrences plain (directory.toList.intercalate pieces) =
          (pieces.map (occurrences plain)).sum) ∨
      directory = "$PWD" := by
  rw [expandPwd_eq, expandOnce, String.ofList_inj,
    apart_braced_plain.substitute_substitute_eq_iff_pieces]
  exact or_congr_right String.toList_inj

/-- The `$` at the end of the directory and the text behind `${PWD}` become a token. -/
theorem expandPwd_rescans :
    expandPwd "/robots/a$" "${PWD}PWD/x" = "/robots/a/robots/a$/x" ∧
    expandOnce "/robots/a$" "${PWD}PWD/x" = "/robots/a$PWD/x" ∧
    expandPwd "/robots/a$" "${PWD}PWD/x" ≠ expandOnce "/robots/a$" "${PWD}PWD/x" := by
  rw [expandPwd_eq]
  decide

end EcatMiddleware.Core
