import ChartSpec.DecodeError

/-!
# Configuration

The defaults of visualizations, and whether their references are checked.  A configuration is
read from an object, where unknown keys do not matter, or from an array by position; what is
missing keeps its default.
-/

namespace ChartSpec

structure Config where
  defaultWidth : UInt32 := 500
  defaultHeight : UInt32 := 500
  defaultPadding : Int := 5
  /-- Whether a visualization's dangling references are reported. -/
  checkReferences : Bool := true
  deriving DecidableEq

namespace Config

/-- A configuration on the way: what has been given so far. -/
structure Draft where
  width : Option UInt32 := none
  height : Option UInt32 := none
  padding : Option Int := none
  references : Option Bool := none

def Draft.finish (d : Draft) : Config :=
  let standard : Config := {}
  { defaultWidth := d.width.getD standard.defaultWidth
    defaultHeight := d.height.getD standard.defaultHeight
    defaultPadding := d.padding.getD standard.defaultPadding
    checkReferences := d.references.getD standard.checkReferences }

/-- Takes one key and its value. -/
def Draft.give (d : Draft) (key : String) (v : Json) : Except DecodeError Draft :=
  match key with
  | "default_width" => do return { d with width := some (← Decode.count v) }
  | "default_height" => do return { d with height := some (← Decode.count v) }
  | "default_padding" => do return { d with padding := some (← Decode.int64 v) }
  | "check_references" => do return { d with references := some (← Decode.flag v) }
  | _ => .ok d

def fields : List String :=
  ["default_width", "default_height", "default_padding", "check_references"]

def ofJson : Json → Except DecodeError Config
  | .obj entries => do
    let d ← entries.foldlM (fun d e => Draft.give d e.1 e.2) {}
    return d.finish
  | .arr items => do
    let d ← (fields.zip items).foldlM (fun d e => Draft.give d e.1 e.2) {}
    if fields.length < items.length then
      throw (.wrongLength items.length "fewer elements in array")
    return d.finish
  | v => .error (.mismatch v "struct BuilderConfig")

def toJson (c : Config) : Json := .obj [
  ("default_width", .int c.defaultWidth.toNat),
  ("default_height", .int c.defaultHeight.toNat),
  ("default_padding", .int c.defaultPadding),
  ("check_references", .bool c.checkReferences)]

end Config

end ChartSpec
