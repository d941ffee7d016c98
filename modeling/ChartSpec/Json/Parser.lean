import ChartSpec.Json.Token

/-!
# JSON text in

The tokens drive a machine with a stack of open containers.  At most `depthLimit` containers may
be open at once.  A key that comes twice in an object keeps its first place and its last value.
-/

namespace ChartSpec

namespace Json

def depthLimit : Nat := 127

/-- A container that is not closed yet. -/
inductive Frame where
  /-- The items read so far, the last one first. -/
  | array (items : List Json)
  /-- The entries read so far, and the key whose value comes next. -/
  | object (entries : List (String × Json)) (key : String)

/-- What the next token may be. -/
inductive Expecting where
  | value
  /-- A value, or the end of an array that has just been opened. -/
  | firstItem
  /-- A key, or the end of an object that has just been opened. -/
  | firstKey
  | key
  | colon
  /-- A comma, or the end of the innermost container. -/
  | separator
  | nothing

structure Machine where
  stack : List Frame
  expecting : Expecting
  result : Json

namespace Machine

def start : Machine := ⟨[], .value, .null⟩

/-- Puts a finished value where it belongs. -/
def accept (stack : List Frame) (v : Json) : Machine :=
  match stack with
  | [] => ⟨[], .nothing, v⟩
  | .array items :: rest => ⟨.array (v :: items) :: rest, .separator, .null⟩
  | .object entries key :: rest =>
    ⟨.object (Entries.put key v entries) key :: rest, .separator, .null⟩

def openContainer (stack : List Frame) (frame : Frame) (expecting : Expecting) : Option Machine :=
  if stack.length < depthLimit then some ⟨frame :: stack, expecting, .null⟩ else none

/-- A token where a value may stand. -/
def value? (stack : List Frame) : Token → Option Machine
  | .openArray => openContainer stack (.array []) .firstItem
  | .openObject => openContainer stack (.object [] "") .firstKey
  | .text s => some (accept stack (.str s))
  | .value v => some (accept stack v)
  | _ => none

/-- Takes one token. -/
def step (m : Machine) (t : Token) : Option Machine :=
  match m.expecting, t, m.stack with
  | .value, t, stack => value? stack t
  | .firstItem, .closeArray, .array _ :: rest => some (accept rest (.arr []))
  | .firstItem, t, stack => value? stack t
  | .firstKey, .closeObject, .object _ _ :: rest => some (accept rest (.obj []))
  | .firstKey, .text k, .object entries _ :: rest =>
    some ⟨.object entries k :: rest, .colon, .null⟩
  | .key, .text k, .object entries _ :: rest => some ⟨.object entries k :: rest, .colon, .null⟩
  | .colon, .colon, stack => some ⟨stack, .value, .null⟩
  | .separator, .comma, .array items :: rest => some ⟨.array items :: rest, .value, .null⟩
  | .separator, .comma, .object entries k :: rest =>
    some ⟨.object entries k :: rest, .key, .null⟩
  | .separator, .closeArray, .array items :: rest => some (accept rest (.arr items.reverse))
  | .separator, .closeObject, .object entries _ :: rest => some (accept rest (.obj entries))
  | _, _, _ => none

def finish (m : Machine) : Option Json :=
  match m.expecting with
  | .nothing => some m.result
  | _ => none

end Machine

/-- The value a text spells; nothing when it spells none. -/
def parse? (s : String) : Option Json := do
  (← (← tokens? s.toList).foldlM Machine.step Machine.start).finish

end Json

end ChartSpec
