/-!
# Types of marks
-/

namespace ChartSpec

inductive MarkType where
  | rect
  | symbol
  | path
  | arc
  | area
  | line
  | image
  | text
  | group
  deriving DecidableEq

namespace MarkType

def name : MarkType → String
  | rect => "rect"
  | symbol => "symbol"
  | path => "path"
  | arc => "arc"
  | area => "area"
  | line => "line"
  | image => "image"
  | text => "text"
  | group => "group"

def all : List MarkType := [rect, symbol, path, arc, area, line, image, text, group]

def ofName? (s : String) : Option MarkType := all.find? fun t => t.name == s

end MarkType

end ChartSpec
