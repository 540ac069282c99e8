import ProviderHost.Provider

/-!
# The prompt that offers tools to a model

The tools are listed one to a line, and the model is told how to call one, with an example in
a marked block.
-/

namespace ProviderHost

namespace Prompt

def lines (ls : List String) : Text := (ls.map fun l => Text.ofString l ++ [Byte.newline]).flatten

def exampleCall : Text :=
  Text.join [Byte.newline] <| [
    "\x7b",
    "  \"action\": \"tool_name\",",
    "  \"params\": \x7b",
    "    \"param1\": \"value1\",",
    "    \"param2\": \"value2\"",
    "  \x7d",
    "\x7d"].map Text.ofString

def beforeExample : Text :=
  lines [
    "",
    "When you need to use a tool, respond with a JSON object in this format inside a code block:",
    "",
    "```json"]

def afterExample : Text :=
  lines [
    "",
    "```",
    "",
    "Always wrap the JSON in a code block with ```json and ``` markers.",
    "Use tools directly when they're appropriate for the task.",
    "Wait for tool results before continuing."]

def convention : Text := beforeExample ++ exampleCall ++ afterExample

def toolLine (tool : ToolOffer) : Text := "- " ++ tool.name ++ ": " ++ tool.description ++ "\n"

def forTools (tools : List ToolOffer) : Text :=
  "You have access to the following tools:\n\n" ++ (tools.map toolLine).flatten ++ convention

/-- A system prompt with the tools after it; without tools it stays as it is. -/
def withTools (system : Text) (tools : List ToolOffer) : Text :=
  if tools = [] then system
  else if system = [] then forTools tools
  else system ++ "\n\n" ++ forTools tools

end Prompt

end ProviderHost
