import Backlog.Dict
import Backlog.Error
import Backlog.Json.Reader
/-!
From JSON values to data. Each reader answers `none` when the value does not fit.

- `Json.fields?`: the fields of a structured value, written as an object or as an array;
- `Json.required`, `Json.nullable`, `Json.withDefault`: the three ways a field may be left out;
- `Json.decode`: from text to data, with the reason of a refusal.
-/
namespace Backlog.Json
set_option autoImplicit false

variable {α : Type}

/-! ## Single values -/

def text? : Json → Option Text
  | .string s => s
  | _ => none

def bool? : Json → Option Bool
  | .bool b => some b
  | _ => none

/-- A natural number of at most 32 bits, written as plain digits. -/
def toWord32? : Json → Option UInt32
  | .natural n => Backlog.word32? n
  | _ => none

/-- A natural number of at most 64 bits, written as plain digits. -/
def toWord64? : Json → Option UInt64
  | .natural n => Backlog.word64? n
  | _ => none

/-! ## Lists and maps -/

def list? (read? : Json → Option α) : Json → Option (List α)
  | .array items => items.mapM read?
  | _ => none

/-- The members of an object, each with a name that is a text and a value that fits. -/
def pairs? (read? : Json → Option α) : Json → Option (List (Text × α))
  | .object members => members.mapM fun m => do
    let name ← m.1
    let value ← read? m.2
    return (name, value)
  | _ => none

/-- An object read as a map: of two members with one name, the later stays. -/
def dict? (read? : Json → Option α) (j : Json) : Option (Dict α) :=
  (pairs? read? j).map Dict.ofList

/-! ## Structured values -/

/-- The only value among these members whose name is one of `names`. Two such members are refused.
-/
def field? (names : List Text) (members : List (Text × Json)) : Option (Option Json) :=
  match members.filter fun m => names.contains m.1 with
  | [] => some none
  | [m] => some (some m.2)
  | _ => none

/-- The fields of a structured value, in the order of declaration; each is declared by its names.
An object gives fields by name and may hold others. An array gives them by position: it may stop
early but not go on. -/
def fields? (declared : List (List Text)) : Json → Option (List (Option Json))
  | .object members => do
    let members ← pairs? some (.object members)
    declared.mapM (field? · members)
  | .array items =>
    if items.length ≤ declared.length then
      some (items.map some ++ List.replicate (declared.length - items.length) none)
    else none
  | _ => none

def required (read? : Json → Option α) : Option Json → Option α
  | some j => read? j
  | none => none

/-- A field that stands for absence when it is left out or null. -/
def nullable (read? : Json → Option α) : Option Json → Option (Option α)
  | none | some .null => some none
  | some j => (read? j).map some

/-- A field with a value of its own when it is left out. -/
def withDefault (default : α) (read? : Json → Option α) : Option Json → Option α
  | some j => read? j
  | none => some default

/-! ## Refusals -/

/-- Why a text gives no data: it is no JSON, or the value does not fit. -/
inductive Refusal where
  | malformed
  | unfit
  deriving DecidableEq, Repr

def Refusal.message : Refusal → Text
  | .malformed => "not a JSON value"
  | .unfit => "the value has another form than expected"

/-- The error of a text that is handed to the library as data and gives none. -/
def Refusal.error (refusal : Refusal) : StoryError := .jsonRefused refusal.message

def decode (read? : Json → Option α) (t : Text) : Except Refusal α :=
  match parse? t with
  | none => .error .malformed
  | some j =>
    match read? j with
    | none => .error .unfit
    | some a => .ok a

end Backlog.Json
