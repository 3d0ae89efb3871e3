import RustFerry.ForStd.Words
import RustFerry.Native.RevisionStore
import RustFerry.Native.WorkflowDispatch

/-!
# Git endpoints

`rustferry-github/src/git_endpoint.rs`: the URLs of GitHub repositories that the CLI accepts, and
the canonical URL that it stores. `Repository::new` is in `transport.rs`.
-/

namespace RustFerry.Github

open Except Serde

def Repository.new (owner name : String) : TransportConfigResult Repository :=
  match hOwner : validateOwner owner, hName : validateRepositoryName name with
  | .error e, _ => .error e
  | .ok (), .error e => .error e
  | .ok (), .ok () => .ok ⟨owner, name, hOwner, hName⟩

def maxEndpointBytes : Nat := 512

/-- Git transport selected by a validated GitHub endpoint. -/
inductive GithubGitTransport where
  | https
  | ssh
  deriving DecidableEq

/-- A canonical, credential-free GitHub.com Git endpoint. -/
structure GithubGitEndpoint where
  repository : Repository
  transport : GithubGitTransport
  canonicalUrl : String
  deriving DecidableEq

inductive GithubGitEndpointError where
  | invalidSyntax
  | unsupportedTransport
  | invalidRepository
  deriving DecidableEq

abbrev EndpointResult := Except GithubGitEndpointError

/-! ## Parsing -/

/-- Control characters of ASCII and what a URL escapes or separates with. -/
def isUnsafe (c : Char) : Bool :=
  c.toNat < 0x20 || c.toNat == 0x7f || c == '?' || c == '#' || c == '%' || c == '\\'

/-- The transport of a text, and the text after the host. -/
def stripTransport (text : List Char) : Option (GithubGitTransport × List Char) :=
  match Text.stripFront "https://github.com/".toList text with
  | some path => some (.https, path)
  | none =>
    match Text.stripFront "git@github.com:".toList text with
    | some path => some (.ssh, path)
    | none =>
      match Text.stripFront "ssh://git@github.com/".toList text with
      | some path => some (.ssh, path)
      | none => none

/-- Transport, owner and name of an endpoint as they are written. -/
structure EndpointParts where
  transport : GithubGitTransport
  owner : List Char
  name : List Char

/-- `GithubGitEndpoint::parse` up to the case of the letters. -/
def parseParts (value : String) : EndpointResult EndpointParts := do
  let text := value.toList
  rejectIf (value == "" || value.utf8ByteSize > maxEndpointBytes ||
      !text.all (·.toNat < 128) || Text.trim text != text || text.any isUnsafe)
    .invalidSyntax
  let (transport, path) ← ofOption .unsupportedTransport (stripTransport text)
  let path := (JobStore.stripBack ['/'] path).getD path
  rejectIf (['/'].isSuffixOf path) .invalidSyntax
  -- once, and before the name is lowercased
  let path := (JobStore.stripBack ".git".toList path).getD path
  let (owner, name) ← ofOption .invalidRepository (JobStore.splitOnce '/' path)
  rejectIf (owner.isEmpty || name.isEmpty || name.contains '/') .invalidRepository
  return { transport, owner, name }

def GithubGitEndpoint.canonical (transport : GithubGitTransport) (owner name : String) : String :=
  match transport with
  | .https => "https://github.com/" ++ owner ++ "/" ++ name
  | .ssh => "git@github.com:" ++ owner ++ "/" ++ name

/-- `to_ascii_lowercase`. -/
def toAsciiLower (text : List Char) : String := String.ofList (text.map Char.toLower)

def GithubGitEndpoint.parse (value : String) : EndpointResult GithubGitEndpoint := do
  let parts ← parseParts value
  let owner := toAsciiLower parts.owner
  let name := toAsciiLower parts.name
  let repository ← (Repository.new owner name).mapError fun _ => .invalidRepository
  return {
    repository
    transport := parts.transport
    canonicalUrl := GithubGitEndpoint.canonical parts.transport owner name
  }

/-! ## Storage -/

instance : Serialize GithubGitEndpoint where
  serialize endpoint := .string endpoint.canonicalUrl

/-- A stored endpoint has to be canonical. -/
instance : Deserialize GithubGitEndpoint where
  deserialize
    | .string value =>
      match GithubGitEndpoint.parse value with
      | .ok endpoint => if endpoint.canonicalUrl = value then some endpoint else none
      | .error _ => none
    | _ => none

end RustFerry.Github
