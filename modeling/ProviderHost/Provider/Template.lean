import ProviderHost.Provider

/-!
# Templates

Well-known providers that need only a value or two to be installed.
-/

namespace ProviderHost

/-- A value that a template asks for. -/
structure TemplateField where
  name : Text
  description : Text
  required : Bool := true
  /-- Whether the value becomes an environment variable; otherwise it becomes an argument. -/
  toEnvironment : Bool := false
  deriving DecidableEq, Repr

/-- A definition with values left open. -/
structure Template where
  id : Text
  name : Text
  description : Text
  kind : ProviderKind := .process
  command : Text
  args : List Text
  fields : List TemplateField
  deriving DecidableEq, Repr

inductive TemplateFault where
  | unknown (id : Text)
  | missingValue (id : Text) (field : TemplateField)
  deriving DecidableEq, Repr

def TemplateFault.fault : TemplateFault → Fault
  | .unknown id =>
    { category := .configuration
      message := "Unknown template: " ++ id
      code := "unknown_template" }
  | .missingValue id field =>
    { category := .configuration
      message := "Template " ++ id ++ " requires '" ++ field.name ++ "'"
      code := "missing_template_value"
      hint := field.description }

namespace Template

def builtin : List Template :=
  [ { id := "filesystem"
      name := "Filesystem"
      description := "Access and manipulate files in a directory"
      command := "npx"
      args := ["-y", "@modelcontextprotocol/server-filesystem@latest"]
      fields := [{ name := "path", description := "Path to the directory to expose" }] },
    { id := "brave-search"
      name := "Brave Search"
      description := "Search the web using Brave Search API"
      command := "npx"
      args := ["-y", "@modelcontextprotocol/server-brave-search@latest"]
      fields :=
        [{ name := "BRAVE_API_KEY"
           description := "Brave Search API Key"
           toEnvironment := true }] },
    { id := "github"
      name := "GitHub"
      description := "Access and manage GitHub repositories"
      command := "npx"
      args := ["-y", "@modelcontextprotocol/server-github@latest"]
      fields :=
        [{ name := "GITHUB_PERSONAL_ACCESS_TOKEN"
           description := "GitHub Personal Access Token"
           toEnvironment := true }] },
    { id := "memory"
      name := "Memory"
      description := "Knowledge graph-based persistent memory"
      command := "npx"
      args := ["-y", "@modelcontextprotocol/server-memory@latest"]
      fields := [] } ]

def find (id : Text) : Except TemplateFault Template :=
  match builtin.find? fun t => t.id = id with
  | some t => .ok t
  | none => .error (.unknown id)

/-- Puts the value of one field into a definition. An empty value counts as none. -/
def fill (id : Text) (values : Table Text) (d : Definition) (field : TemplateField) :
    Except TemplateFault Definition :=
  match (values.get? field.name).filter (· ≠ []) with
  | none => if field.required then .error (.missingValue id field) else .ok d
  | some value =>
    if field.toEnvironment then .ok { d with env := d.env.insert field.name value }
    else .ok { d with args := d.args ++ [value] }

/-- The definition before any field is filled in; the id is left open. -/
def blank (t : Template) : Definition :=
  { name := t.name, description := t.description, kind := t.kind, command := t.command,
    args := t.args }

def instantiate (id : Text) (values : Table Text) : Except TemplateFault Definition := do
  let t ← find id
  t.fields.foldlM (fill id values) t.blank

end Template

end ProviderHost
