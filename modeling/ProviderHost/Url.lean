import ProviderHost.Fault
import ProviderHost.Text.Decimal

/-!
# Provider URLs

A provider is reached at `http://host:port/path`. `Url.parse` brings every accepted spelling
into a normal form and `Url.print` writes that form.
-/

namespace ProviderHost

structure Url where
  scheme : Text := "http"
  host : Text
  port : Text := "80"
  /-- Empty, or starts with a slash and does not end with one. -/
  basePath : Text := []
  deriving DecidableEq, Repr

/-- Why a text is not the URL of a provider. -/
inductive UrlFault where
  | unsupportedScheme (scheme text : Text)
  | noHost (text : Text)
  | badPort (text : Text)
  deriving DecidableEq, Repr

def UrlFault.fault : UrlFault → Fault
  | .unsupportedScheme scheme text =>
    { category := .configuration
      message := "Unsupported URL scheme '" ++ scheme ++ "' in " ++ text
      code := "unsupported_url_scheme"
      hint := "Only http:// provider URLs are supported." }
  | .noHost text =>
    { category := .configuration, message := "URL has no host: " ++ text, code := "invalid_url" }
  | .badPort text =>
    { category := .configuration
      message := "URL has an invalid port: " ++ text
      code := "invalid_url" }

namespace Url

/-- The scheme of a text and what follows it; a text without one means `http`. -/
def splitScheme (text : Text) : Text × Text := (Text.cutAt? "://" text).getD ("http", text)

/-- The authority of what follows the scheme, and the path without slashes at its end. -/
def splitPath (text : Text) : Text × Text :=
  match Text.cut Byte.slash text with
  | (authority, none) => (authority, [])
  | (authority, some path) => (authority, Text.dropEnd (· == Byte.slash) (Byte.slash :: path))

/-- The host and the port of an authority; the last colon starts the port. -/
def splitPort (authority : Text) : Text × Text :=
  (Text.cutLast? Byte.colon authority).getD (authority, "80")

def parse (text : Text) : Except UrlFault Url :=
  let (scheme, rest) := splitScheme text
  if scheme ≠ "http" then .error (.unsupportedScheme scheme text)
  else
    let (authority, basePath) := splitPath rest
    let (host, port) := splitPort authority
    if host = [] then .error (.noHost text)
    else if port = [] ∨ ¬ port.all Byte.isDigit then .error (.badPort text)
    else .ok { scheme, host, port, basePath }

def print (u : Url) : Text := u.scheme ++ "://" ++ u.host ++ ":" ++ u.port ++ u.basePath

def target (u : Url) (path : Text) : Text :=
  match path with
  | [] => if u.basePath = [] then "/" else u.basePath
  | b :: _ => if b = Byte.slash then u.basePath ++ path else u.basePath ++ "/" ++ path

end Url

end ProviderHost
