/-!
# Escaping for HTML

Text that is put into a page has its five special characters replaced by entities. A page is a
list of parts, of which only the markup goes out as it is.
-/

namespace SecurityScan.Html

def escapeChar : Char → List Char
  | '&' => "&amp;".toList
  | '<' => "&lt;".toList
  | '>' => "&gt;".toList
  | '"' => "&#34;".toList
  | '\'' => "&#39;".toList
  | c => [c]

def escape (s : String) : String := String.ofList (s.toList.flatMap escapeChar)

inductive Part
  | markup (text : String)
  | data (text : String)

def Part.render : Part → String
  | .markup s => s
  | .data s => escape s

def render (parts : List Part) : String := String.join (parts.map Part.render)

end SecurityScan.Html
