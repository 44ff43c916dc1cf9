import ImBridge.Domain.Text
import Mathlib.Data.List.Nodup

/-!
# Texts of JSON values

What the JSON library prints of a value, if no string in it has a character to escape. A reader that
knows some values by their texts stands for the library where only these are read.

## Main definitions

* `Json.text`: the compact text of a value
* `Json.readFrom`: reading the texts of some values

## Main results

* `Json.readFrom_text`: the values are read from their texts
-/

namespace ImBridge.Json

mutual

/-- The compact text of a value whose strings have nothing to escape. -/
def text : Json → String
  | null => "null"
  | bool b => if b then "true" else "false"
  | int n => toString n
  | float digits => digits
  | string s => "\"" ++ s ++ "\""
  | array elems => "[" ++ ",".intercalate (textElems elems) ++ "]"
  | object fields => "\x7b" ++ ",".intercalate (textFields fields) ++ "\x7d"

def textElems : List Json → List String
  | [] => []
  | v :: elems => text v :: textElems elems

def textFields : List (String × Json) → List String
  | [] => []
  | field :: fields => textField field :: textFields fields

def textField : String × Json → String
  | (key, v) => "\"" ++ key ++ "\":" ++ text v

end

/-- Reads the texts of these values, and no others. -/
def readFrom (known : List Json) (s : String) : Option Json := known.find? fun v => v.text == s

example : (object [("mes", string "Hello"), ("is_user", bool true),
    ("swipes", array [int 1])]).text =
    "\x7b\"mes\":\"Hello\",\"is_user\":true,\"swipes\":[1]\x7d" := by decide +kernel

theorem readFrom_text {known : List Json} (h : (known.map text).Nodup) {v : Json} (hv : v ∈ known) :
    readFrom known v.text = some v := by
  induction known with
  | nil => cases hv
  | cons first known ih =>
    obtain ⟨hnot, hnodup⟩ := List.nodup_cons.mp h
    rcases List.mem_cons.mp hv with rfl | hv
    · exact List.find?_cons_of_pos (beq_self_eq_true _)
    · refine (List.find?_cons_of_neg ?_).trans (ih hnodup hv)
      intro heq
      exact hnot (beq_iff_eq.mp heq ▸ List.mem_map_of_mem hv)

end ImBridge.Json
