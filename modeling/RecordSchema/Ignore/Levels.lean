import RecordSchema.Ignore.Rules

/-!
# Ignored files

The ignore files of a folder have a say on everything below it, and those of a nearer folder come
first. `.ignore` is read everywhere. `.gitignore` and the exclusions of a repository count inside a
repository only, and not beyond the nearest one. `filesBelow` lists the files below a folder that
are not ignored.
-/

namespace RecordSchema.Ignore

/-- The ignore files of a folder. -/
structure FolderRules where
  /-- The rules of `.ignore`. -/
  plain : List Rule
  /-- The rules of `.gitignore`. -/
  tracked : List Rule
  /-- The exclusions of the repository. -/
  excluded : List Rule
  /-- The folder is that of a repository. -/
  isRepository : Bool

/-- The names of the folder that a repository keeps in its own. -/
def repositoryFolder : String := ".git"

/-- The rules of the file of this name in a folder. -/
def rulesAt (name : String) (folder : Folder) : List Rule :=
  match (folder.get? name).bind (·.content?) with
  | some content => rulesOf content
  | none => []

/-- The rules of the exclusions of a repository. -/
def exclusions (folder : Folder) : List Rule :=
  match (folder.get? repositoryFolder).bind (·.folder?) with
  | none => []
  | some inner =>
      match (Entries.get? "info" inner).bind (·.folder?) with
      | none => []
      | some info => rulesAt "exclude" info

/-- The ignore files of a folder; those of repositories count only if `usesRepository` is set. -/
def FolderRules.ofFolder (usesRepository : Bool) (folder : Folder) : FolderRules :=
  if usesRepository then
    ⟨rulesAt ".ignore" folder, rulesAt ".gitignore" folder, exclusions folder,
      folder.has repositoryFolder || folder.has ".jj"⟩
  else ⟨rulesAt ".ignore" folder, [], [], false⟩

/-- The rules of a folder and the path from it to some place below. -/
structure Level where
  rules : FolderRules
  path : String

namespace Level

/-- The level, for the entry of this name of the place. -/
def enter (name : String) (level : Level) : Level :=
  { level with path := if level.path.isEmpty then name else level.path ++ "/" ++ name }

/-- The level of a folder itself. -/
def ofFolder (usesRepository : Bool) (folder : Folder) : Level :=
  ⟨.ofFolder usesRepository folder, ""⟩

/-- The levels inside the nearest repository; there are none outside of all repositories. -/
def inRepository (levels : List Level) : List Level :=
  match levels.dropWhile (!·.rules.isRepository) with
  | [] => []
  | repository :: _ => levels.takeWhile (!·.rules.isRepository) ++ [repository]

end Level

/-- What all levels around a file or folder say on it; the nearest level comes first. -/
def verdictOf? (levels : List Level) (isFolder : Bool) : Option Verdict :=
  let say := fun (rules : FolderRules → List Rule) (levels : List Level) ↦
    levels.findSome? fun level ↦ verdict? (rules level.rules) level.path isFolder
  let tracked := Level.inRepository levels
  say (·.plain) levels <|> say (·.tracked) tracked <|> say (·.excluded) tracked

/-- A file below a folder, with the names that lead to it. -/
structure FoundFile where
  place : List String
  content : ByteArray

mutual

/-- The files of a tree at a place. -/
def filesOf (usesRepository : Bool) (levels : List Level) (place : List String) :
    FileTree → List FoundFile
  | .file content => [⟨place, content⟩]
  | .folder entries =>
      filesAmong usesRepository (.ofFolder usesRepository entries :: levels) place entries

/-- The files of the entries of the folder at a place. -/
def filesAmong (usesRepository : Bool) (levels : List Level) (place : List String) :
    List (String × FileTree) → List FoundFile
  | [] => []
  | (name, tree) :: rest =>
      let inner := levels.map (·.enter name)
      let isPassed := name == repositoryFolder
        || verdictOf? inner (tree.folder?.isSome) == some .ignore
      let found := if isPassed then [] else filesOf usesRepository inner (place ++ [name]) tree
      found ++ filesAmong usesRepository levels place rest

end

/-- The levels around a folder; `path` leads from the last one down to the folder. -/
def levelsAround (usesRepository : Bool) : String → List (String × Folder) → List Level
  | _, [] => []
  | path, (name, folder) :: rest =>
      let path := if path.isEmpty then name else name ++ "/" ++ path
      ⟨.ofFolder usesRepository folder, path⟩ :: levelsAround usesRepository path rest

/-- The files below a folder that are not ignored. -/
def filesBelow (usesRepository : Bool) (view : FolderView) : List FoundFile :=
  filesOf usesRepository (levelsAround usesRepository "" view.around) [] (.folder view.entries)

end RecordSchema.Ignore
