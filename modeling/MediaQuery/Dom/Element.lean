import MediaQuery.Text.Ascii

/-!
# Elements and their attributes

An element has a tag, the namespace of the tag, and its attributes in order. Attribute names are
looked up without regard to ASCII case: setting an attribute keeps the place and the spelling that
it already has, and an attribute that is new goes to the end.
-/

namespace MediaQuery.Dom

/-- The namespaces that markup reaches. -/
inductive Vocabulary where
  | html
  | svg
  | mathml
  | other (url : String)
deriving DecidableEq, Repr

/-- A name with its value. -/
structure Attribute where
  name : String
  value : String
deriving DecidableEq, Repr

/-- Whether an attribute goes by a name, ASCII case set aside. -/
def Attribute.isNamed (a : Attribute) (name : String) : Bool := Ascii.sameName a.name name

/-- The value of the first attribute that goes by a name. -/
def lookup (name : String) (attributes : List Attribute) : Option String :=
  (attributes.find? (·.isNamed name)).map Attribute.value

/-- The attributes with the first one of a name set to a value, or with a new one at the end. -/
def assign (name value : String) : List Attribute → List Attribute
  | [] => [⟨name, value⟩]
  | a :: rest => if a.isNamed name then ⟨a.name, value⟩ :: rest else a :: assign name value rest

/-- The attributes with those of `offered` added, one after the other, whose name is not taken. -/
def offer (attributes offered : List Attribute) : List Attribute :=
  offered.foldl (fun held a => if held.any (·.isNamed a.name) then held else held ++ [a]) attributes

/-- A tag with its namespace and attributes. -/
structure Element where
  tag : String
  vocabulary : Vocabulary
  attributes : List Attribute
deriving DecidableEq, Repr

namespace Element

/-- Whether the element has a tag, ASCII case set aside and in any namespace. -/
def is (e : Element) (tag : String) : Bool := Ascii.sameName e.tag tag

/-- The value of an attribute. -/
def attr? (e : Element) (name : String) : Option String := lookup name e.attributes

/-- The element with an attribute set. -/
def setAttr (e : Element) (name value : String) : Element :=
  { e with attributes := assign name value e.attributes }

/-- The element with the attributes of a list added whose names are not yet taken. -/
def addMissing (e : Element) (offered : List Attribute) : Element :=
  { e with attributes := offer e.attributes offered }

/-- The element of style text for one media type. -/
def style (media : String) : Element :=
  (((⟨"style", .html, []⟩ : Element).setAttr "type" "text/css").setAttr "media" media)

@[simp] theorem attributes_style (media : String) :
    (style media).attributes = [⟨"type", "text/css"⟩, ⟨"media", media⟩] := rfl

end Element

end MediaQuery.Dom
