import ClusterNet.Dict
import ClusterNet.Decimal.Binary64

/- JSON values. An object keeps its entries in the order in which they were built: free-form values
   are built with `put` and are sorted by key, records list their fields as declared. -/
namespace ClusterNet

inductive Number where
  | integer (value : Int)
  | real (value : Decimal.Binary64)
  deriving DecidableEq, Repr

inductive Json where
  | null
  | boolean (value : Bool)
  | number (value : Number)
  | text (value : String)
  | list (items : List Json)
  | object (entries : List (String × Json))
  deriving Repr, Inhabited

namespace Json

mutual

def decEq : (a b : Json) → Decidable (a = b)
  | .null, b => match b with
    | .null => .isTrue rfl
    | .boolean _ | .number _ | .text _ | .list _ | .object _ => .isFalse nofun
  | .boolean x, b => match b with
    | .boolean y =>
      if h : x = y then .isTrue (h ▸ rfl) else .isFalse fun e => h (Json.boolean.inj e)
    | .null | .number _ | .text _ | .list _ | .object _ => .isFalse nofun
  | .number x, b => match b with
    | .number y =>
      if h : x = y then .isTrue (h ▸ rfl) else .isFalse fun e => h (Json.number.inj e)
    | .null | .boolean _ | .text _ | .list _ | .object _ => .isFalse nofun
  | .text x, b => match b with
    | .text y => if h : x = y then .isTrue (h ▸ rfl) else .isFalse fun e => h (Json.text.inj e)
    | .null | .boolean _ | .number _ | .list _ | .object _ => .isFalse nofun
  | .list xs, b => match b with
    | .list ys => match decEqList xs ys with
      | .isTrue h => .isTrue (h ▸ rfl)
      | .isFalse h => .isFalse fun e => h (Json.list.inj e)
    | .null | .boolean _ | .number _ | .text _ | .object _ => .isFalse nofun
  | .object xs, b => match b with
    | .object ys => match decEqEntries xs ys with
      | .isTrue h => .isTrue (h ▸ rfl)
      | .isFalse h => .isFalse fun e => h (Json.object.inj e)
    | .null | .boolean _ | .number _ | .text _ | .list _ => .isFalse nofun

def decEqList : (a b : List Json) → Decidable (a = b)
  | [], [] => .isTrue rfl
  | [], _ :: _ => .isFalse nofun
  | _ :: _, [] => .isFalse nofun
  | x :: xs, y :: ys => match decEq x y, decEqList xs ys with
    | .isTrue h, .isTrue t => .isTrue (h ▸ t ▸ rfl)
    | .isFalse h, _ => .isFalse fun e => h (List.cons.inj e).1
    | _, .isFalse t => .isFalse fun e => t (List.cons.inj e).2

def decEqEntries : (a b : List (String × Json)) → Decidable (a = b)
  | [], [] => .isTrue rfl
  | [], _ :: _ => .isFalse nofun
  | _ :: _, [] => .isFalse nofun
  | (k, x) :: xs, (l, y) :: ys =>
    if key : k = l then
      match decEq x y, decEqEntries xs ys with
      | .isTrue h, .isTrue t => .isTrue (key ▸ h ▸ t ▸ rfl)
      | .isFalse h, _ => .isFalse fun e => h (Prod.mk.inj (List.cons.inj e).1).2
      | _, .isFalse t => .isFalse fun e => t (List.cons.inj e).2
    else .isFalse fun e => key (Prod.mk.inj (List.cons.inj e).1).1

end

instance : DecidableEq Json := decEq

def natural (n : Nat) : Json := .number (.integer n)

def texts (items : List String) : Json := .list (items.map .text)

def ofDict (d : Dict Json) : Json := .object d.entries

def ofTexts (d : Dict String) : Json :=
  .object (d.entries.map fun entry => (entry.1, .text entry.2))

def ofFields (fields : List (String × Option Json)) : Json :=
  .object (fields.filterMap fun field => field.2.map (field.1, ·))

def entries? : Json → Option (List (String × Json))
  | .object entries => some entries
  | _ => none

def text? : Json → Option String
  | .text s => some s
  | _ => none

def get? (key : String) (json : Json) : Option Json := json.entries?.bind (lookup key)

def at? : List String → Json → Option Json
  | [], json => some json
  | key :: rest, json => (json.get? key).bind (at? rest)

end Json
end ClusterNet
