import ClusterNet.Wire.Fault
import ClusterNet.Dict
import ClusterNet.Json.Basic

/- Reading typed records from untyped documents. A format says how a document shows texts, numbers,
   lists and records; the readers of a type's fields are combined independently of it. -/
namespace ClusterNet.Wire

/-- A record with named fields, or its fields in the order of their declaration. -/
inductive Record (ν : Type) where
  | named (entries : List (String × ν))
  | positional (items : List ν)

class Format (ν : Type) where
  text : ν → Except Fault String
  boolean : ν → Except Fault Bool
  natural : Nat → String → ν → Except Fault Nat
  isUnset : ν → Except Fault Bool
  items : ν → Except Fault (List ν)
  entries : ν → Except Fault (List (String × ν))
  record : String → ν → Except Fault (Record ν)
  choice : List String → ν → Except Fault String

/-- A field that holds something wrong, by its place in the document, or one that is absent, by its
    place in the declaration. -/
inductive Misfit where
  | within (entry : Nat) (fault : Fault)
  | absent (position : Nat) (name : String)
  deriving DecidableEq, Repr

/-- Of two misfits the one reported: what stands earlier in the document first, what is absent
    last. -/
def Misfit.earlier : Misfit → Misfit → Misfit
  | .within i e, .within j f => if j < i then .within j f else .within i e
  | .within i e, .absent _ _ => .within i e
  | .absent _ _, .within j f => .within j f
  | .absent p n, .absent q m => if q < p then .absent q m else .absent p n

structure Fields (ν α : Type) where
  run : Record ν → Except Misfit α

namespace Fields

def both (f : Except Misfit (α → β)) (a : Except Misfit α) : Except Misfit β :=
  match f, a with
  | .ok f, .ok a => .ok (f a)
  | .ok _, .error e => .error e
  | .error e, .ok _ => .error e
  | .error e, .error e' => .error (e.earlier e')

instance : Applicative (Fields ν) where
  pure a := ⟨fun _ => .ok a⟩
  seq f a := ⟨fun record => both (f.run record) ((a ()).run record)⟩

def occurrences (name : String) (entries : List (String × ν)) : List (Nat × ν) :=
  entries.zipIdx.filterMap fun (entry, i) => if entry.1 = name then some (i, entry.2) else none

def readAt (entry : Nat) (read : ν → Except Fault α) (value : ν) : Except Misfit α :=
  (read value).mapError (.within entry)

def find (position : Nat) (name : String) (read : ν → Except Fault α) :
    Record ν → Except Misfit (Option α)
  | .named entries =>
    match occurrences name entries with
    | [] => .ok none
    | [(i, value)] => (readAt i read value).map some
    | (i, value) :: (j, _) :: _ => do
      let _ ← readAt i read value
      .error (.within j (.duplicateField name))
  | .positional items =>
    match items[position]? with
    | none => .ok none
    | some value => (readAt position read value).map some

def required (position : Nat) (name : String) (read : ν → Except Fault α) : Fields ν α :=
  ⟨fun record =>
    match find position name read record with
    | .ok (some a) => .ok a
    | .ok none => .error (.absent position name)
    | .error e => .error e⟩

def defaulted (position : Nat) (name : String) (fallback : α) (read : ν → Except Fault α) :
    Fields ν α :=
  ⟨fun record => (find position name read record).map (·.getD fallback)⟩

def unsettable [Format ν] (read : ν → Except Fault α) (value : ν) : Except Fault (Option α) := do
  if ← Format.isUnset value then return none else return some (← read value)

def optional [Format ν] (position : Nat) (name : String) (read : ν → Except Fault α) :
    Fields ν (Option α) := defaulted position name none (unsettable read)

end Fields

def Misfit.fault (type : String) (count : Nat) (isNamed : Bool) : Misfit → Fault
  | .within _ fault => fault
  | .absent position name =>
    let elements := if count = 1 then "element" else "elements"
    if isNamed then .missingField name
    else .invalidLength position s!"struct {type} with {count} {elements}"

def readRecord [Format ν] (type : String) (count : Nat) (fields : Fields ν α) (value : ν) :
    Except Fault α := do
  match ← Format.record type value with
  | .named entries => (fields.run (.named entries)).mapError (Misfit.fault type count true)
  | .positional items =>
    let result ← (fields.run (.positional items)).mapError (Misfit.fault type count false)
    if count < items.length then .error (.invalidLength items.length "fewer elements in array")
    else return result

def readList [Format ν] (read : ν → Except Fault α) (value : ν) : Except Fault (List α) := do
  (← Format.items value).mapM read

def readTexts [Format ν] : ν → Except Fault (List String) := readList Format.text

def readEntries (read : ν → Except Fault α) :
    List (String × ν) → Except Fault (List (String × α))
  | [] => .ok []
  | (key, value) :: rest => do
    let a ← read value
    return (key, a) :: (← readEntries read rest)

def readDict [Format ν] (read : ν → Except Fault α) (value : ν) : Except Fault (Dict α) := do
  return Dict.ofList (← readEntries read (← Format.entries value))

def readNat32 [Format ν] (value : ν) : Except Fault UInt32 :=
  (Format.natural (Nat.pow 2 32) "u32" value).map UInt32.ofNat

def readNat16 [Format ν] (value : ν) : Except Fault UInt16 :=
  (Format.natural (Nat.pow 2 16) "u16" value).map UInt16.ofNat

def readNat64 [Format ν] (value : ν) : Except Fault Nat := Format.natural (Nat.pow 2 64) "u64" value

def readChoice [Format ν] (name : α → String) (alternatives : List α) (value : ν) :
    Except Fault α := do
  let chosen ← Format.choice (alternatives.map name) value
  match alternatives.find? (name · = chosen) with
  | some a => return a
  | none => .error (.unknownVariant chosen (alternatives.map name))

end ClusterNet.Wire
