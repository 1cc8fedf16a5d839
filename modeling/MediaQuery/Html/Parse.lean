import MediaQuery.Html.Builder.Foreign
import MediaQuery.Html.Tokenizer

/-!
# Reading HTML

A text becomes a document in one fold over its characters: each goes to the tokenizer, and the
tokens that it completes go to the builder. Every text is a document.
-/

namespace MediaQuery.Html

/-- A text with each line break written as one line feed. -/
def joinLineBreaks : List Char → List Char
  | [] => []
  | '\r' :: '\n' :: cs => '\n' :: joinLineBreaks cs
  | c :: cs => (if c == '\r' then '\n' else c) :: joinLineBreaks cs

/-- A text without the mark that may stand at its start to tell the order of bytes. -/
def dropMark : List Char → List Char
  | '\ufeff' :: cs => cs
  | cs => cs

/-- A reader of HTML: a tokenizer and a builder. -/
structure Reader where
  tokenizer : Tokenizer
  builder : Builder

namespace Reader

/-- A reader at the start of a text. -/
def start : Reader := ⟨Tokenizer.start, Builder.start⟩

/-- Gives a token to the builder. -/
def give (r : Reader) (token : Token) : Reader :=
  let (kind, builder) := (Build.take token).run r.builder
  ⟨(kind.map r.tokenizer.read).getD r.tokenizer, builder⟩

/-- Reads a character. -/
def step (r : Reader) (c : Char) : Reader :=
  let (tokenizer, tokens) := r.tokenizer.step r.builder.foreign?.isSome c
  tokens.foldl give ⟨tokenizer, r.builder⟩

/-- The tree of what has been read, once the text is at its end. -/
def finish (r : Reader) : Dom.Construction :=
  (r.tokenizer.finish.foldl give r).builder.tree

end Reader

/-- The tree of a text, under construction. -/
def construct (text : String) : Dom.Construction :=
  ((joinLineBreaks (dropMark text.toList)).foldl Reader.step Reader.start).finish

/-- The document that a text is the markup of. -/
def parse (text : String) : Dom.Document := (construct text).finish

end MediaQuery.Html
