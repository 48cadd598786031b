import Tekmar482.Library.DictOrder
import Mathlib.Algebra.Order.Ring.Unbundled.Rat
import Mathlib.Data.String.Basic

/-!
# JSON values

A JSON value as a program holds it, and its text as far as programs rely on it: a codec writes
the keys of every object in order, and reads back the value that it wrote.
-/

/-- A floating-point number. -/
inductive Json.Float where
  | finite (value : ℚ)
  | infinity (negative : Bool)
  | nan
  deriving DecidableEq

/-- A JSON value. An object lists its members in the order of its text. -/
inductive Json where
  | null
  | bool (value : Bool)
  | int (value : Int)
  | float (value : Json.Float)
  | str (value : String)
  | arr (items : List Json)
  | obj (members : List (String × Json))

namespace Json

/-- The name of the type of a value. -/
def typeName : Json → String
  | null => "NoneType"
  | bool _ => "bool"
  | int _ => "int"
  | float _ => "float"
  | str _ => "str"
  | arr _ => "list"
  | obj _ => "dict"

/-- The members of an object with their keys in order. -/
def sortMembers (members : List (String × Json)) : List (String × Json) :=
  members.insertionSort fun a b => a.1 ≤ b.1

mutual

/-- The value with the keys of all its objects in order. -/
def sortKeys : Json → Json
  | .arr items => .arr (sortItems items)
  | .obj members => .obj (sortMembers (sortValues members))
  | value => value

def sortItems : List Json → List Json
  | [] => []
  | item :: rest => item.sortKeys :: sortItems rest

def sortValues : List (String × Json) → List (String × Json)
  | [] => []
  | (key, value) :: rest => (key, value.sortKeys) :: sortValues rest

end

theorem sortItems_eq_map (items : List Json) : sortItems items = items.map sortKeys := by
  induction items with
  | nil => rfl
  | cons item rest ih => rw [sortItems, ih, List.map_cons]

theorem sortValues_eq_map (members : List (String × Json)) :
    sortValues members = members.map fun member => (member.1, member.2.sortKeys) := by
  induction members with
  | nil => rfl
  | cons member rest ih => rw [sortValues, ih, List.map_cons]

/-- The object of a dictionary. -/
def ofDict (d : OrderedDict String Json) : Json := .obj d.entries

/-- The dictionary of an object: of members with one key, the last one counts. -/
def dict (members : List (String × Json)) : OrderedDict String Json := .ofList members

@[simp] theorem dict_entries (d : OrderedDict String Json) : dict d.entries = d :=
  OrderedDict.ext (OrderedDict.entries_ofList d.nodup)

/-- Sorting the object of a dictionary sorts the dictionary. -/
theorem sortKeys_ofDict (d : OrderedDict String Json) :
    (ofDict d).sortKeys = ofDict (d.mapValues sortKeys).sortKeys := by
  rw [ofDict, sortKeys, sortValues_eq_map]
  rfl

/-- Sorting the keys leaves what is found under a key. -/
theorem get?_sortKeys (d : OrderedDict String Json) (key : String) :
    (d.mapValues sortKeys).sortKeys.get? key = (d.get? key).map sortKeys := by
  rw [← (d.mapValues sortKeys).same_sortKeys key, OrderedDict.get?_mapValues]

/-- The value is made of strings, integers, lists and objects with distinct keys. -/
inductive Plain : Json → Prop
  | int (n : Int) : Plain (.int n)
  | str (text : String) : Plain (.str text)
  | arr {items : List Json} (h : ∀ item ∈ items, Plain item) : Plain (.arr items)
  | obj {members : List (String × Json)} (hkeys : (members.map Prod.fst).Nodup)
      (h : ∀ member ∈ members, Plain member.2) : Plain (.obj members)

theorem plain_ofDict {d : OrderedDict String Json} (h : ∀ entry ∈ d.entries, Plain entry.2) :
    Plain (ofDict d) :=
  .obj d.nodup h

end Json

/-- A codec of JSON texts. It writes the keys of objects in order, and loses nothing else of a
plain value. -/
structure JsonCodec (File Exc : Type) where
  dump : Json → File
  load : File → Except Exc Json
  load_dump : ∀ value : Json, value.Plain → load (dump value) = .ok value.sortKeys

/-- The codec whose texts are the values themselves. -/
def JsonCodec.values (Exc : Type) : JsonCodec Json Exc where
  dump := Json.sortKeys
  load := .ok
  load_dump _ _ := rfl
