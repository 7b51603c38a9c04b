/-!
# Markup

A document as a list of nodes, and its written form. Text and attribute values are escaped when
they are written, so the five characters with a meaning in markup never come from data.
-/

namespace PagedReports.Html

/-- The written form of a character of text or of an attribute value. -/
def escapeChar : Char → List Char
  | '&' => "&amp;".toList
  | '<' => "&lt;".toList
  | '>' => "&gt;".toList
  | '"' => "&quot;".toList
  | '\'' => "&#39;".toList
  | c => [c]

/-- The written form of a text or of an attribute value. -/
def escape (s : String) : String := String.ofList (s.toList.flatMap escapeChar)

/-- A piece of a document. -/
inductive Node where
  /-- Text, escaped when written. -/
  | text (s : String)
  /-- A named or numbered character, such as `laquo` or `#9650`. -/
  | entity (name : String)
  /-- An element with attributes and content. -/
  | element (name : String) (attributes : List (String × String)) (content : List Node)
  /-- An element that has no content and no closing tag. -/
  | bare (name : String) (attributes : List (String × String))
  /-- The line that declares the document type. -/
  | doctype
  /-- Markup that has been written before. -/
  | written (markup : String)

/-- An attribute, after the space that separates it. -/
def writeAttribute (a : String × String) : String := " " ++ a.1 ++ "=\"" ++ escape a.2 ++ "\""

/-- The opening tag of an element. -/
def writeOpening (name : String) (attributes : List (String × String)) : String :=
  "<" ++ name ++ String.join (attributes.map writeAttribute) ++ ">"

mutual

/-- The written form of a node. -/
def Node.write : Node → String
  | .text s => escape s
  | .entity name => "&" ++ name ++ ";"
  | .element name attributes content =>
    writeOpening name attributes ++ writeAll content ++ "</" ++ name ++ ">"
  | .bare name attributes => writeOpening name attributes
  | .doctype => "<!DOCTYPE html>"
  | .written markup => markup

/-- The written form of a list of nodes. -/
def writeAll : List Node → String
  | [] => ""
  | n :: rest => n.write ++ writeAll rest

end

/-- The end of a line. -/
def newline : Node := .text "\n"

/-- An element without attributes. -/
def el (name : String) (content : List Node) : Node := .element name [] content

/-- A link to a query of the same page. -/
def link (query : String) (label : List Node) : Node :=
  .element "a" [("href", "?" ++ query)] label

end PagedReports.Html
