import SessionHandoff.Shell.Pattern
import SessionHandoff.Tools.Searching.Request

/-!
# The files that are searched

Patterns for names say which files are searched and which are not: the last pattern that fits a name
decides; if none does, only files that no pattern is for are searched when the first pattern was for
files to search. A file that was named may also fit with what follows a slash in its name. A folder
is gone through in the order of names, and its files are known by its name and theirs.
-/

set_option autoImplicit false

namespace SessionHandoff.Tools.Searching

open Characters (Charset)

/-- Whether a pattern fits a name. -/
def fits (cs : Charset) (pattern name : List Char) : Bool :=
  let characters (text : List Char) : List Char := (cs.codes text).map Char.ofNat
  Shell.Pattern.matchesAll (Shell.Pattern.ofText (characters pattern)) (characters name)

/-- The ends of a name that follow a slash. -/
def endsOf : List Char → List (List Char)
  | [] => []
  | '/' :: rest => if rest.head? = some '/' then endsOf rest else rest :: endsOf rest
  | _ :: rest => endsOf rest

/-- Whether a pattern fits a name that was given, or what follows a slash in it. -/
def fitsGiven (cs : Charset) (pattern name : List Char) : Bool :=
  (name :: endsOf name).any (fits cs pattern)

/-- Whether patterns keep a name from being searched, given which of them fit it. -/
def isExcluded (rules : List FileRule) (fit : List Char → Bool) : Bool :=
  match rules.reverse.find? fun r => fit r.pattern with
  | some r => !r.includes
  | none => rules.head?.any FileRule.includes

namespace Request

/-- Whether something that was named is not searched. -/
def passesOver (r : Request) (cs : Charset) (isFolder : Bool) (name : String) : Bool :=
  let rules := if isFolder then r.folderRules else r.fileRules
  isExcluded rules fun pattern => fitsGiven cs pattern name.toList

/-- The names in a folder, each with what stands there, in their order. -/
def entriesIn (nodes : List (Place × Node)) (folder : Place) : List (String × Node) :=
  (nodes.filterMap fun (place, node) =>
    match place.getLast? with
    | some name => if place.dropLast = folder then some (name, node) else none
    | none => none).mergeSort fun a b => a.1 ≤ b.1

/-- The names of the files below a folder that are searched, down to some depth. -/
def filesBelow (r : Request) (cs : Charset) (nodes : List (Place × Node)) :
    Nat → Place → String → List String
  | 0, _, _ => []
  | depth + 1, folder, shown =>
    (entriesIn nodes folder).flatMap fun (name, node) =>
      let path := shown ++ (if shown.endsWith "/" then "" else "/") ++ name
      let isExcluded (rules : List FileRule) : Bool :=
        Searching.isExcluded rules fun pattern => fits cs pattern name.toList
      match node with
      | .folder =>
        if isExcluded r.folderRules then []
        else r.filesBelow cs nodes depth (folder ++ [name]) path
      | .file _ _ | .report _ => if isExcluded r.fileRules then [] else [path]
      | .link _ | .descriptor _ => []
      | _ => if r.devices? = some true && !isExcluded r.fileRules then [path] else []

end Request

end SessionHandoff.Tools.Searching
