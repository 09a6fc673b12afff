import MarkupTree.Json.Reader
import MarkupTree.Options
import MarkupTree.Site.Path
/-! Settings of a site: where its files are, and how deep it renders. -/

namespace MarkupTree

structure Config where
  componentsDir : String := "components"
  pagesDir : String := "pages"
  outDir : String := "dist"
  contextFile : Option String := none
  maxDepth : Nat := 64
  deriving DecidableEq, Repr

namespace Config

def fileName : String := "breeze.config.json"

inductive Setting where
  | componentsDir
  | pagesDir
  | outDir
  | contextFile
  | maxDepth
  deriving DecidableEq, Repr

def Setting.name : Setting → String
  | .componentsDir => "componentsDir"
  | .pagesDir => "pagesDir"
  | .outDir => "outDir"
  | .contextFile => "contextFile"
  | .maxDepth => "maxDepth"

def Setting.all : List Setting :=
  [.componentsDir, .pagesDir, .outDir, .contextFile, .maxDepth]

def assign? (config : Config) (setting : Setting) (json : Json) : Option Config :=
  match setting with
  | .componentsDir => json.asString?.map fun dir => { config with componentsDir := dir }
  | .pagesDir => json.asString?.map fun dir => { config with pagesDir := dir }
  | .outDir => json.asString?.map fun dir => { config with outDir := dir }
  | .contextFile => json.optionalText?.map fun file => { config with contextFile := file }
  | .maxDepth => json.word?.map fun depth => { config with maxDepth := depth }

/-- Entries that are no settings are passed over. -/
def ofEntries? : List (String × Json) → Option Config
  | [] => some {}
  | (name, json) :: rest => do
      let config ← ofEntries? rest
      match Setting.all.find? fun setting => setting.name = name with
      | some setting => config.assign? setting json
      | none => return config

def ofItems? (config : Config) : List Setting → List Json → Option Config
  | _, [] => some config
  | [], _ :: _ => none
  | setting :: settings, json :: rest => do
      let assigned ← config.assign? setting json
      ofItems? assigned settings rest

/-- Settings by name, each at most once, or by place; what is not given has its default. -/
def ofJson? : Json → Option Config
  | .object entries =>
      if Setting.all.all fun setting => Json.once entries setting.name then ofEntries? entries
      else none
  | .array items => ofItems? {} Setting.all items
  | _ => none

def ofText? (text : String) : Option Config := (Json.readSettings? text).bind ofJson?

def toJson (config : Config) : Json :=
  .object ([(Setting.componentsDir.name, .string config.componentsDir),
      (Setting.pagesDir.name, .string config.pagesDir),
      (Setting.outDir.name, .string config.outDir)] ++
    (config.contextFile.map fun file => (Setting.contextFile.name, .string file)).toList ++
    [(Setting.maxDepth.name, .integer config.maxDepth)])

def options (config : Config) : Options := { maxDepth := config.maxDepth }

end Config

end MarkupTree
