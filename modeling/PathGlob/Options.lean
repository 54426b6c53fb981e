-- SUMMARY: Options of a compilation: their defaults, when they are valid, and building them setting by setting.

/-!
# Compilation options

Options are plain values; `validate` says which of them a compilation accepts.
-/

namespace PathGlob

/-- What becomes of a pattern that declares one variable name twice. -/
inductive DuplicatePolicy where
  /-- The last declaration that captured something supplies the value. -/
  | lastWins
  | reject
  deriving DecidableEq, Inhabited

def defaultMaxPatternLength : UInt64 := 4096

/-- Options of a compilation. Lengths and sizes are in bytes. -/
structure Options where
  caseInsensitive : Bool := false
  duplicates : DuplicatePolicy := .lastWins
  maxPatternLength : UInt64 := defaultMaxPatternLength
  /-- The largest size of a compiled regex; the engine's own limit if absent. -/
  sizeLimit : Option UInt64 := none
  deriving DecidableEq, Inhabited

inductive OptionsError where
  | maxPatternLengthZero
  | sizeLimitZero
  deriving DecidableEq

def OptionsError.message : OptionsError → String
  | .maxPatternLengthZero => "max_pattern_len must be at least 1 (got 0)"
  | .sizeLimitZero => "size_limit must be at least 1 byte when set (got 0)"

namespace Options

/-- Rejects limits that nothing could meet. -/
def validate (o : Options) : Except OptionsError Unit :=
  if o.maxPatternLength = 0 then .error .maxPatternLengthZero
  else if o.sizeLimit = some 0 then .error .sizeLimitZero
  else .ok ()

/-! ## Building -/

/-- One choice made while building options. -/
inductive Setting where
  | caseInsensitive (value : Bool)
  | duplicates (value : DuplicatePolicy)
  | maxPatternLength (value : UInt64)
  | sizeLimit (value : UInt64)
  deriving DecidableEq

def set (o : Options) : Setting → Options
  | .caseInsensitive value => { o with caseInsensitive := value }
  | .duplicates value => { o with duplicates := value }
  | .maxPatternLength value => { o with maxPatternLength := value }
  | .sizeLimit value => { o with sizeLimit := some value }

/-- The defaults changed by some settings, the later ones winning, if that is valid. -/
def build (settings : List Setting) : Except OptionsError Options :=
  let o := settings.foldl set {}
  o.validate.map fun _ => o

end Options

end PathGlob
