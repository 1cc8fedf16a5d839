import MediaQuery.Url.Host

/-!
# URLs

What of a URL says where it lies: its scheme, its host, the number behind the host, and its path.
What comes behind the path is not kept.
-/

namespace MediaQuery.Url

/-- How the URLs of a scheme are read. -/
inductive SchemeKind where
  /-- A scheme of the web. Its URLs have a host, and behind it a number, one of which goes without
  saying. -/
  | web (defaultNumber : Nat)
  | file
  | other
deriving DecidableEq, Repr

/-- The kind of a scheme. -/
def SchemeKind.ofName (name : List Char) : SchemeKind :=
  match String.ofList name with
  | "http" | "ws" => .web 80
  | "https" | "wss" => .web 443
  | "ftp" => .web 21
  | "file" => .file
  | _ => .other

/-- Whether a backslash stands for a slash in the URLs of a scheme. -/
def SchemeKind.isSpecial : SchemeKind → Bool
  | web _ | file => true
  | other => false

/-- The machine that a URL lies on. -/
structure Authority where
  host : Option Host
  /-- The number behind the host, unless it is the one that goes without saying. -/
  portNumber : Option Nat
deriving DecidableEq, Repr

namespace Authority

/-- No machine is named. -/
def none : Authority := ⟨.none, .none⟩

/-- The text of the host, with the number behind it. -/
def text? (a : Authority) : Option (List Char) :=
  a.host.map fun host =>
    match a.portNumber with
    | some number => host.text ++ ':' :: (Nat.repr number).toList
    | .none => host.text

end Authority

end Url

/-- A URL. -/
structure Url where
  scheme : List Char
  authority : Url.Authority
  /-- The segments of the path, if it has segments: `mailto:x` has none, and nothing is relative to
  it. -/
  path : Option (List (List Char))
deriving DecidableEq, Repr

namespace Url

/-- How the URL is read. -/
def kind (u : Url) : SchemeKind := .ofName u.scheme

/-- The segments of the path. -/
def segments (u : Url) : List (List Char) := u.path.getD []

end Url

end MediaQuery
