import ProviderHost.Json
import ProviderHost.Lifecycle.Status
import ProviderHost.Provider.Template
import ProviderHost.ToolAccess

/-!
# Replies

The forms in which the commands print what they found.
-/

namespace ProviderHost.Reply

open Json (member)

def ofNat (n : Nat) : Json := .number (Text.ofNat n)

def ofInt (i : Int) : Json := .number (Text.ofInt i)

def pidMember (pid : Option Nat) : List (Text × Json) :=
  (pid.map fun n => member "pid" (ofNat n)).toList

def accessMembers (d : Definition) : List (Text × Json) :=
  match d.kind with
  | .process => [member "command" (.text d.command), member "args" (.texts d.args)]
  | .network => [member "url" (.text (d.url.getD []))]

def ofListing (l : Listing) : Json :=
  .ofMembers <|
    [ member "id" (.text l.definition.id),
      member "name" (.text l.definition.name),
      member "description" (.text l.definition.description),
      member "kind" (.text l.definition.kind.name),
      member "state" (.text l.stage.name),
      member "recorded_status" (.text l.definition.status) ] ++
    accessMembers l.definition ++ pidMember l.pid

def ofField (f : TemplateField) : Json :=
  .ofMembers
    [ member "name" (.text f.name),
      member "description" (.text f.description),
      member "required" (.bool f.required),
      member "env" (.bool f.toEnvironment) ]

def ofTemplate (t : Template) : Json :=
  .ofMembers
    [ member "id" (.text t.id),
      member "name" (.text t.name),
      member "description" (.text t.description),
      member "kind" (.text t.kind.name),
      member "command" (.text t.command),
      member "args" (.texts t.args),
      member "fields" (.list (t.fields.map ofField)) ]

def ofInstalled (d : Definition) : Json :=
  .ofMembers [member "id" (.text d.id), member "name" (.text d.name)]

def anyArguments : Json :=
  .ofMembers [member "type" (.text "object"), member "properties" (.object [])]

def ofTool (t : ToolOffer) : Json :=
  let function : Json :=
    .ofMembers
      [ member "name" (.text t.name),
        member "description" (.text t.description),
        member "parameters" anyArguments ]
  .ofMembers [member "type" (.text "function"), member "function" function]

def ofFault (f : Fault) : Json :=
  .ofMembers <|
    [member "code" (.text f.code), member "message" (.text f.message)] ++
      (f.remoteCode.map fun code => member "remote_code" (ofInt code)).toList

/-- What a call came to, and how many milliseconds it took. -/
def ofAnswer (duration : Nat) (a : ToolAnswer) : Json :=
  let common (success : Bool) : List (Text × Json) :=
    [ member "success" (.bool success),
      member "duration_ms" (.number (Text.ofNat duration ++ ".0")) ]
  match a with
  | .payload text => .ofMembers (common true ++ [member "payload" (.text text)])
  | .failure f => .ofMembers (common false ++ [member "error" (ofFault f)])

def ofServer (s : ServerInfo) : Json :=
  .ofMembers
    [ member "name" (.text s.name),
      member "version" (.text s.version),
      member "protocolVersion" (.text s.protocolVersion) ]

def ofStart (r : StartReport) : Json :=
  .ofMembers <|
    [member "id" (.text r.id), member "url" (.text r.url), member "server" (ofServer r.server)] ++
      pidMember r.pid ++ if r.note = [] then [] else [member "note" (.text r.note)]

def ofEntry (e : LogEntry) : Text := "[" ++ e.stream.name ++ "] " ++ e.text ++ "\n"

end ProviderHost.Reply
