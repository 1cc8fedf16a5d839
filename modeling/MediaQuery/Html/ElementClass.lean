import MediaQuery.Dom.Element

/-!
# Classes of elements

The sets of tags by which the building of a tree is governed. Unless a class says otherwise it holds
HTML elements alone.
-/

namespace MediaQuery.Html

open Dom (Element)

/-- A set of elements. -/
abbrev ElementClass := Element → Bool

namespace ElementClass

/-- The HTML element of a tag. -/
def named (tag : String) : ElementClass := fun e => e.vocabulary == .html && e.tag == tag

/-- The HTML elements of several tags. -/
def oneOf (tags : List String) : ElementClass := fun e =>
  e.vocabulary == .html && tags.contains e.tag

/-- Headings. -/
def heading : ElementClass := oneOf ["h1", "h2", "h3", "h4", "h5", "h6"]

/-- Elements whose end tag may be left out. -/
def impliedEnd : ElementClass :=
  oneOf ["dd", "dt", "li", "option", "optgroup", "p", "rb", "rp", "rt", "rtc"]

/-- Elements whose end tag may be left out, those of tables included. -/
def thoroughImpliedEnd : ElementClass := fun e =>
  impliedEnd e ||
    oneOf ["caption", "colgroup", "tbody", "td", "tfoot", "th", "thead", "tr"] e

/-- MathML elements whose content is text of HTML. -/
def mathText : ElementClass := fun e =>
  e.vocabulary == .mathml && ["mi", "mo", "mn", "ms", "mtext"].contains e.tag

/-- SVG elements whose content is HTML. -/
def svgHost : ElementClass := fun e =>
  e.vocabulary == .svg && ["foreignObject", "desc", "title"].contains e.tag

/-- What an element in scope is not looked for beyond. -/
def scope : ElementClass := fun e =>
  oneOf ["applet", "caption", "html", "table", "td", "th", "marquee", "object", "template"] e ||
    mathText e || svgHost e

/-- What an element in list item scope is not looked for beyond. -/
def listScope : ElementClass := fun e => scope e || oneOf ["ol", "ul"] e

/-- What an element in button scope is not looked for beyond. -/
def buttonScope : ElementClass := fun e => scope e || named "button" e

/-- What an element in table scope is not looked for beyond. -/
def tableScope : ElementClass := oneOf ["html", "table", "template"]

/-- What an element in select scope is not looked for beyond: everything but options. -/
def selectScope : ElementClass := fun e => !oneOf ["optgroup", "option"] e

/-- What the rows of a table stand in. -/
def bodyContext : ElementClass := oneOf ["tbody", "tfoot", "thead", "template", "html"]

/-- What the cells of a table stand in. -/
def rowContext : ElementClass := oneOf ["tr", "template", "html"]

/-- Cells of a table. -/
def cell : ElementClass := oneOf ["td", "th"]

/-- Parts of a table into which misplaced content does not go. -/
def fosterTarget : ElementClass := oneOf ["table", "tbody", "tfoot", "thead", "tr"]

/-- Elements that an end tag of another name does not close. -/
def special : ElementClass :=
  oneOf ["address", "applet", "area", "article", "aside", "base", "basefont", "bgsound",
    "blockquote", "body", "br", "button", "caption", "center", "col", "colgroup", "dd", "details",
    "dir", "div", "dl", "dt", "embed", "fieldset", "figcaption", "figure", "footer", "form",
    "frame", "frameset", "h1", "h2", "h3", "h4", "h5", "h6", "head", "header", "hgroup", "hr",
    "html", "iframe", "img", "input", "isindex", "li", "link", "listing", "main", "marquee", "menu",
    "meta", "nav", "noembed", "noframes", "noscript", "object", "ol", "p", "param", "plaintext",
    "pre", "script", "section", "select", "source", "style", "summary", "table", "tbody", "td",
    "template", "textarea", "tfoot", "th", "thead", "title", "tr", "track", "ul", "wbr", "xmp"]

end ElementClass

/-! ## Names of tags -/

/-- Tags that close an open paragraph and stand for a block. -/
def blockTags : List String :=
  ["address", "article", "aside", "blockquote", "center", "details", "dialog", "dir", "div", "dl",
    "fieldset", "figcaption", "figure", "footer", "header", "hgroup", "main", "menu", "nav", "ol",
    "p", "search", "section", "summary", "ul"]

/-- End tags that close the nearest element of their name in scope. -/
def blockEndTags : List String :=
  ["address", "article", "aside", "blockquote", "button", "center", "details", "dialog", "dir",
    "div", "dl", "fieldset", "figcaption", "figure", "footer", "header", "hgroup", "listing",
    "main", "menu", "nav", "ol", "pre", "search", "section", "summary", "ul"]

/-- Tags of headings. -/
def headingTags : List String := ["h1", "h2", "h3", "h4", "h5", "h6"]

/-- Tags whose formatting is carried over into the next block. -/
def formattingTags : List String :=
  ["b", "big", "code", "em", "font", "i", "s", "small", "strike", "strong", "tt", "u"]

/-- Tags that belong into the head wherever they stand. -/
def headTags : List String :=
  ["base", "basefont", "bgsound", "link", "meta", "noframes", "script", "style", "template",
    "title"]

/-- Tags of the parts of a table, its rows and cells left out. -/
def tablePartTags : List String := ["caption", "col", "colgroup", "tbody", "tfoot", "thead"]

/-- Tags of the parts of a table, its rows and cells included. -/
def tableTags : List String := tablePartTags ++ ["td", "th", "tr"]

/-- HTML tags that end foreign content. -/
def breakoutTags : List String :=
  ["b", "big", "blockquote", "body", "br", "center", "code", "dd", "div", "dl", "dt", "em",
    "embed", "h1", "h2", "h3", "h4", "h5", "h6", "head", "hr", "i", "img", "li", "listing", "menu",
    "meta", "nobr", "ol", "p", "pre", "ruby", "s", "small", "span", "strong", "strike", "sub",
    "sup", "table", "tt", "u", "ul", "var"]

end MediaQuery.Html
