-- SUMMARY: Options as documents: reading them with defaults and precise complaints, and writing them.
import PathGlob.Options
import PathGlob.Document

/-!
# Options as documents

Options are read from an object by field name or from an array by field order; what is
missing takes its default. `ofDocument` reports the first field that does not fit.
-/

namespace PathGlob

/-- What a document was expected to be. -/
inductive Expectation where
  | options
  | boolean
  | size
  | unit
  | stringOrMap
  | singleKeyMap
  deriving DecidableEq

def Expectation.text : Expectation → String
  | .options => "struct CompileOptions"
  | .boolean => "a boolean"
  | .size => "usize"
  | .unit => "unit"
  | .stringOrMap => "string or map"
  | .singleKeyMap => "map with a single key"

inductive ReadError where
  | wrongType (found : Document) (expected : Expectation)
  | wrongValue (found : Document) (expected : Expectation)
  | unknownVariant (name : String)
  | tooManyItems (length : Nat)

def ReadError.message : ReadError → String
  | .wrongType found expected =>
    "invalid type: " ++ found.description ++ ", expected " ++ expected.text
  | .wrongValue found expected =>
    "invalid value: " ++ found.description ++ ", expected " ++ expected.text
  | .unknownVariant name => "unknown variant `" ++ name ++ "`, expected `LastWins` or `Reject`"
  | .tooManyItems n => "invalid length " ++ toString n ++ ", expected fewer elements in array"

namespace DuplicatePolicy

def name : DuplicatePolicy → String
  | .lastWins => "LastWins"
  | .reject => "Reject"

def ofName (name : String) : Except ReadError DuplicatePolicy :=
  if name = "LastWins" then .ok .lastWins
  else if name = "Reject" then .ok .reject
  else .error (.unknownVariant name)

/-- Reads a policy from its name, or from an object whose only key is its name with
the value null. -/
def ofDocument : Document → Except ReadError DuplicatePolicy
  | .string s => ofName s
  | .object [(key, value)] =>
    match ofName key, value with
    | .ok policy, .null => .ok policy
    | .ok _, value => .error (.wrongType value .unit)
    | .error e, _ => .error e
  | .object fields => .error (.wrongValue (.object fields) .singleKeyMap)
  | d => .error (.wrongType d .stringOrMap)

end DuplicatePolicy

namespace Options

def readBool : Document → Except ReadError Bool
  | .bool b => .ok b
  | d => .error (.wrongType d .boolean)

/-- Reads a 64-bit unsigned number. -/
def readSize : Document → Except ReadError UInt64
  | .integer (.ofNat n) =>
    if n < UInt64.size then .ok (.ofNat n) else .error (.wrongType (.integer n) .size)
  | .integer n => .error (.wrongValue (.integer n) .size)
  | d => .error (.wrongType d .size)

def readSizeLimit : Document → Except ReadError (Option UInt64)
  | .null => .ok none
  | d => (readSize d).map some

/-- Reads a field if it is there. -/
def readField {α : Type} (read : Document → Except ReadError α) (default : α) :
    Option Document → Except ReadError α
  | some d => read d
  | none => .ok default

/-- Reads the four fields, in their order. -/
def ofFields (field : String → Option Document) : Except ReadError Options := do
  let base : Options := {}
  let caseInsensitive ← readField readBool base.caseInsensitive (field "case_insensitive")
  let duplicates ←
    readField DuplicatePolicy.ofDocument base.duplicates (field "duplicate_variables")
  let maxPatternLength ← readField readSize base.maxPatternLength (field "max_pattern_len")
  let sizeLimit ← readField readSizeLimit base.sizeLimit (field "size_limit")
  return { caseInsensitive, duplicates, maxPatternLength, sizeLimit }

/-- The names of the fields in the order in which an array gives them. -/
def fieldNames : List String :=
  ["case_insensitive", "duplicate_variables", "max_pattern_len", "size_limit"]

/-- Reads options from an object, whose unknown keys are ignored, or from an array. -/
def ofDocument : Document → Except ReadError Options
  | .object fields => ofFields fun key => fields.lookup key
  | .array items => do
    let o ← ofFields fun key => (fieldNames.zip items).lookup key
    if fieldNames.length < items.length then .error (.tooManyItems items.length) else .ok o
  | d => .error (.wrongType d .options)

/-- The four fields, in the order of `fieldNames`. -/
def toFields (o : Options) : List (String × Document) :=
  [("case_insensitive", .bool o.caseInsensitive),
    ("duplicate_variables", .string o.duplicates.name),
    ("max_pattern_len", .integer o.maxPatternLength.toNat),
    ("size_limit", o.sizeLimit.elim .null fun n => .integer n.toNat)]

def toDocument (o : Options) : Document := .object o.toFields

end Options

end PathGlob
