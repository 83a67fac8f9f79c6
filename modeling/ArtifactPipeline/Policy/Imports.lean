import ArtifactPipeline.Regex.Search
import ArtifactPipeline.Text.Search

/-!
# Imports

Which packages a source text imports. Five shapes of statements name a module: imports and exports
with a `from` clause, imports for their effect, dynamic imports and calls of `require`. The module
name is reduced to the package that holds it; a module of the project itself has no package.
-/

namespace ArtifactPipeline.Imports

open Text Regex

/-- White space, as much as there is. -/
def blanks : Regex := star (set .whitespace)

/-- A quote of either kind. -/
def quote : Regex := set (.union (.single '\'') (.single '"'))

/-- The quoted name of a module, which is group 1. -/
def specifier : Regex :=
  concat [quote, group 1 (plus (set (.compl (.union (.single '\'') (.single '"'))))), quote]

/-- A word at the start of a statement. -/
def keyword (word : String) : Regex := seq (look .wordBoundary) (literal word)

/-- What may stand between the keyword and the `from` clause: comments, and anything but quotes,
semicolons and slashes. -/
def clause : Regex :=
  lazyStar (choice [
    concat [literal "/*", lazyStar (set .all), literal "*/"],
    seq (literal "//") (star (set (.compl (.single '\n')))),
    set (.compl (.union (.union (.single ';') (.single '\''))
      (.union (.single '"') (.single '/'))))])

/-- A statement that takes names from a module. -/
def fromStatement (word : String) : Regex :=
  concat [keyword word, plus (set .whitespace),
    opt (seq (literal "type") (plus (set .whitespace))), clause, keyword "from", blanks, specifier]

/-- An import for its effect. -/
def bareImport : Regex := concat [keyword "import", blanks, specifier]

/-- A call with the name of a module. -/
def moduleCall (word : String) : Regex :=
  concat [keyword word, blanks, literal "(", blanks, specifier, blanks, literal ")"]

/-- The shapes of statements that name a module. -/
def shapes : List Regex :=
  [fromStatement "import", bareImport, moduleCall "import", moduleCall "require",
   fromStatement "export"]

/-- The programs that search for the shapes. -/
def programs : List Program := shapes.map Program.ofRegex

/-- How the names of modules of the project itself begin. -/
def localStarts : List (List Char) :=
  [['.', '/'], ['.', '.', '/'], ['/'], ['@', '/'], ['~', '/']]

/-- The text up to the slash that ends the given number of segments, or all of it. -/
def segments : (count : Nat) → List Char → List Char
  | _, [] => []
  | count, c :: rest =>
    if c = '/' then if count ≤ 1 then [] else c :: segments (count - 1) rest
    else c :: segments count rest

/-- Whether a name without surrounding white space belongs to the project itself. -/
def isLocal (name : List Char) : Bool :=
  name.isEmpty || name == ['.'] || name == ['.', '.'] || localStarts.any (·.isPrefixOf name)

/-- The package of a module. A scoped package has two segments, any other one. -/
def packageName (specifier : List Char) : Option (List Char) :=
  let name := trim specifier
  if isLocal name then none
  else some (segments (if name.head? == some '@' then 2 else 1) name)

/-- The places and texts of the module names in a source text, shape by shape. -/
def specifiers (code : List Char) : List (Nat × List Char) :=
  programs.flatMap fun p => (p.findAll code).filterMap fun m =>
    (m.group? 1).map fun (start, stop) => (start, (code.drop start).take (stop - start))

/-- The packages that a source text imports, each once, in order of their first appearance. -/
def packages (code : List Char) : List String :=
  let named := (specifiers code).filterMap fun (start, name) =>
    (packageName name).map (start, String.ofList ·)
  ((named.mergeSort fun a b => a.1 ≤ b.1).map (·.2)).eraseDups

/-- The imported packages that are not in the list of allowed ones. -/
def disallowed (code : List Char) (allowlist : List String) : List String :=
  (packages code).filter fun name => !allowlist.contains name

end ArtifactPipeline.Imports
