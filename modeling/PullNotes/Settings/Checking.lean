import PullNotes.Settings.Basic
import PullNotes.Validation

/-!
# Settings from values

Settings are read from the members of an object, with defaults for those that are left out and no
regard to others.  One setting is changed by its dotted key, and the result is checked as a whole.
-/

namespace PullNotes

namespace Settings

open Check

/-- The settings of the comment from a value. -/
def checkComment (v : Json) : Checked CommentSettings := do
  let ms ← members "CommentConfig" v
  let ((markerId, fenceLanguage), maxLength) ←
    both (both (field ms "marker_id" (some ({} : CommentSettings).markerId) text)
      (field ms "fence_language" (some ({} : CommentSettings).fenceLanguage) text))
      (field ms "max_length" (some ({} : CommentSettings).maxLength) whole)
  .ok ⟨markerId, fenceLanguage, maxLength⟩

/-- The settings of the scan from a value. -/
def checkScan (v : Json) : Checked ScanSettings := do
  let ms ← members "ScanConfig" v
  let ((pathFilter, strictParse), encoding) ←
    both (both (field ms "path_filter" (some ({} : ScanSettings).pathFilter) text)
      (field ms "strict_parse" (some ({} : ScanSettings).strictParse) truth))
      (field ms "encoding" (some ({} : ScanSettings).encoding) text)
  .ok ⟨pathFilter, strictParse, encoding⟩

/-- The settings from the members of an object. -/
def ofMembers (ms : List (Text × Json)) : Checked Settings := do
  let ((baseRef, comment), scan) ←
    both (both (field ms "base_ref" (some ({} : Settings).baseRef) text)
      (field ms "comment" (some {}) checkComment))
      (field ms "scan" (some {}) checkScan)
  .ok ⟨baseRef, comment, scan⟩

/-! ### One setting -/

/-- Members with the value at the end of a path of keys replaced.  The keys before the last one have
to lead to objects, and the last one to anything else. -/
def replace? (value : Json) : List Text → List (Text × Json) → Option (List (Text × Json))
  | [], _ => none
  | [key], ms =>
    match Json.lookup? key ms with
    | none => none
    | some (.object _) => none
    | some _ => some (Json.put key value ms)
  | key :: keys, ms =>
    match Json.lookup? key ms with
    | some (.object inner) => (replace? value keys inner).map fun new =>
        Json.put key (.object new) ms
    | _ => none

/-- The dot between the parts of a key. -/
def dot : CodePoint := '.'

/-- The members of settings with the value of a dotted key replaced, if there is such a setting. -/
def withMember? (s : Settings) (key : Text) (value : Json) : Option (List (Text × Json)) :=
  replace? value (key.splitOn dot) s.toMembers

end Settings

end PullNotes
