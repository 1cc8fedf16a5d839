import MediaQuery.Url.Read

/-!
# Same origin

Whether a stylesheet may be loaded for a page: whether it lies on the host of the page. A relative
reference does, unless a base leads elsewhere.
-/

namespace MediaQuery.Url

/-- Whether a reference begins with two slashes, with letters and colons before them or not. -/
def namesHost (href : List Char) : Bool :=
  match href.dropWhile fun c => c.isAlpha || c == ':' with
  | '/' :: '/' :: _ => true
  | _ => false

/-- The URL of a reference that names a host; two slashes by themselves are those of `http`. -/
def ofReference? (href : List Char) : Option Url :=
  match href with
  | '/' :: '/' :: _ => read? ("http:".toList ++ href)
  | _ => read? href

/-- Whether a URL lies on a host, which may have a number behind it. A page without a host shares it
with nothing. -/
def liesOn (u : Option Url) (host : Option String) : Bool :=
  match u.bind (·.authority.text?), host with
  | some found, some page => Ascii.sameLetters found page.toList
  | _, _ => false

/-- Whether the stylesheet at `href` may be loaded for a page on `pageHost` with the base `base`. A
base that is no URL by itself lies where the page lies. -/
def isSameOrigin (href : String) (base pageHost : Option String) : Bool :=
  let cs := href.toList
  if namesHost cs then liesOn (ofReference? cs) pageHost
  else
    match base.bind fun b => read? b.toList with
    | none => true
    | some b => liesOn (join? b cs) pageHost

end MediaQuery.Url
