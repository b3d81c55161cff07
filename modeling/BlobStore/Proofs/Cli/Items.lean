import BlobStore.Cli.Browse
import BlobStore.Cli.Stat
import BlobStore.Proofs.Digests

/-!
# What is shown of objects in JSON

The fields of a document as a reader of JSON finds them, for one object and for each item of a listing.
-/

namespace BlobStore

namespace Json

/-- The value of a field of an object. -/
def Value.field? (name : String) : Value → Option Value
  | .object fields => (fields.find? (·.1 = name)).map (·.2)
  | _ => none

/-- The items of an array. -/
def Value.items : Value → List Value
  | .array items => items
  | _ => []

def Value.integer? : Value → Option Int
  | .number n => some n
  | _ => none

def Value.bool? : Value → Option Bool
  | .bool b => some b
  | _ => none

theorem find?_optional {α : Type} (name field : String) (value : Option α) (toValue : α → Value) :
    (optional field value toValue).find? (·.1 = name) =
      if field = name then value.map fun a => (field, toValue a) else none := by
  cases value with
  | none => simp [optional]
  | some a => by_cases h : field = name <;> simp [optional, h]

end Json

namespace Cli

open Json (find?_optional)

namespace Browse

/-- The items that are shown of a listing. -/
def Report.items (r : Report) : List Json.Value := ((r.json.field? "items").map (·.items)).getD []

theorem Report.items_eq (r : Report) :
    r.items = r.entries.map fun e => Json.Value.object (entryFields e) := rfl

section

variable (e : ListEntry)

theorem isDir_item : (Json.Value.object (entryFields e)).field? "is_dir" = some (.bool e.isDir) := by
  unfold entryFields
  cases e.isDir <;> rfl

theorem size_item : (Json.Value.object (entryFields e)).field? "size_bytes" =
    if e.isDir then none else some (.number e.size) := by
  unfold entryFields
  cases e.isDir <;> rfl

end

end Browse

/-! ## Digests -/

end Cli

end BlobStore
