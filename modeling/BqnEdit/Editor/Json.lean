import BqnEdit.Editor.Block
import BqnEdit.Json.Record
import BqnEdit.Json.Write

/-!
# Selections and transforms as JSON

A selection is the object `{"start", "end", "direction"}` with the direction in
lowercase; reading also takes the array `[start, end, direction]`, lets the direction
default to `none`, and keeps the ends as written. A block transform is its name in
camel case: `indent`, `outdent` or `toggleComment`.
-/

namespace BqnEdit.Editor

open BqnEdit.Json
open BqnEdit.Json.Reader

/-- The directions as JSON names. -/
def directionNames : List (String × Direction) :=
  [("forward", .forward), ("backward", .backward), ("none", .none)]

/-- A selection as JSON (the serialized `Selection` in `editor`, lines 35–42). -/
def Selection.toJson (s : Selection) : Json :=
  .obj [("start", .num (.nat s.start)), ("end", .num (.nat s.stop)),
    ("direction", .str s.direction.name)]

/-- Read a selection (the deserialized `Selection` in `editor`, lines 35–42). -/
def readSelection : Reader Selection :=
  readRecordOf "Selection"
    [⟨"start", fun s => (fun n => { s with start := n }) <$> readUsize, true⟩,
     ⟨"end", fun s => (fun n => { s with stop := n }) <$> readUsize, true⟩,
     ⟨"direction", fun s => (fun d => { s with direction := d }) <$> readUnitVariant directionNames,
       false⟩]
    (Selection.caret 0)

/-- Read a selection from JSON text. -/
def Selection.parse (text : String) : Except String Selection :=
  (parseWith readSelection text).mapError ReadError.render

/-- The JSON names of the block transforms (the serialized `BlockTransform` in `editor`,
    lines 150–157). -/
def transformNames : List (String × BlockTransform) :=
  [("indent", .indent), ("outdent", .outdent), ("toggleComment", .toggleComment)]

/-- A block transform as JSON. -/
def BlockTransform.toJson (t : BlockTransform) : Json :=
  .str (match t with
    | .indent => "indent"
    | .outdent => "outdent"
    | .toggleComment => "toggleComment")

/-- Read a block transform from JSON text. -/
def BlockTransform.parse (text : String) : Except String BlockTransform :=
  (parseWith (readUnitVariant transformNames) text).mapError ReadError.render

end BqnEdit.Editor
