import RemoteQuery.Connection.Params
import RemoteQuery.Text.Cut
import RemoteQuery.Text.Percent

/-!
# Connection strings

A connection string names the region and the catalog behind a scheme, and further parameters
behind a question mark:

    athena://us-east-1/sales?role=arn:aws:iam::1:role/analyst&timeout=60

Names and values are percent-encoded. The pairs are read before the part in front of them, so that
of two faults the one in the pairs is reported. A name that is given twice has its last value. The
pairs that are collected have no order of their own: they are applied in one that is not told by the
string, and of two pairs that cannot be applied either may be reported.
-/
namespace RemoteQuery.Address

/-- Why a connection string gives no parameters. A duration of `2 ^ 64` seconds or more cannot be
held at all, and no error value stands for it. -/
inductive Fault
  | refused (error : ConnectionError)
  | durationOverflow (parameter : String)
  deriving DecidableEq, Repr

def malformed {α : Type} (text : String) : Except Fault α := .error (.refused (.malformed text))

def scheme : String := "athena://"

/-- The parameters that a pair can set, by all the names that they go by. -/
inductive Parameter
  | role
  | workgroup
  | schema
  | output
  | timeout
  | pollInterval
  | sessionName
  deriving DecidableEq, Repr

def parameterNames : List (String × Parameter) :=
  [("role", .role), ("role_arn", .role), ("workgroup", .workgroup), ("schema", .schema),
    ("database", .schema), ("output", .output), ("output_location", .output), ("timeout", .timeout),
    ("poll_interval", .pollInterval), ("session_name", .sessionName)]

def decodePart (what : String) (text : List Char) : Except Fault String :=
  match Text.Percent.decode text with
  | .ok decoded => .ok decoded
  | .error fault => malformed ("Failed to decode " ++ what ++ ": " ++ fault.message)

def decodePair (piece : List Char) : Except Fault (String × String) :=
  match Text.cut? (· == '=') piece with
  | none => malformed ("Invalid query parameter format: " ++ String.ofList piece)
  | some (name, value) => do
    let name ← decodePart "key" name
    let value ← decodePart "value" value
    return (name, value)

/-- The value of a name is set, in the place of the name if it is there. -/
def setPair (pair : String × String) : List (String × String) → List (String × String)
  | [] => [pair]
  | (name, value) :: rest =>
    if name = pair.1 then pair :: rest else (name, value) :: setPair pair rest

/-- The pairs of the pieces between the ampersands, of which empty ones are passed over. -/
def decodePairs (pairs : List (String × String)) :
    List (List Char) → Except Fault (List (String × String))
  | [] => .ok pairs
  | piece :: pieces =>
    if piece.isEmpty then decodePairs pairs pieces
    else do
      let pair ← decodePair piece
      decodePairs (setPair pair pairs) pieces

def readSeconds (parameter value : String) : Except Fault Duration :=
  let layout := Number.FloatLayout.binary64
  let number := Number.FloatValue.read? layout value.toList
  match number.bind (Number.FloatValue.nonnegative? layout) with
  | none =>
    .error (.refused (.invalidParameter parameter ("Invalid duration in seconds: " ++ value)))
  | some (mantissa, exponent) =>
    let duration := Duration.ofBinarySeconds mantissa exponent
    if duration.fits then .ok duration
    else .error (.durationOverflow parameter)

def applyPair (settings : ConnectionSettings) (name value : String) :
    Except Fault ConnectionSettings :=
  match parameterNames.lookup name with
  | none => .error (.refused (.invalidParameter name "Unknown connection parameter"))
  | some .role => .ok { settings with roleArn := some value }
  | some .workgroup => .ok { settings with workgroup := some value }
  | some .schema => .ok { settings with schema := some value }
  | some .output => .ok { settings with outputLocation := some value }
  | some .timeout => do
    let duration ← readSeconds name value
    return { settings with timeout := some duration }
  | some .pollInterval => do
    let duration ← readSeconds name value
    return { settings with pollInterval := some duration }
  | some .sessionName => .ok { settings with sessionName := some value }

def applyPairs (settings : ConnectionSettings) :
    List (String × String) → Except Fault ConnectionSettings
  | [] => .ok settings
  | (name, value) :: pairs => do
    let settings ← applyPair settings name value
    applyPairs settings pairs

/-- The order in which collected pairs are taken out again, which may be any. -/
structure Arrangement where
  order : List (String × String) → List (String × String)
  perm (pairs : List (String × String)) : (order pairs).Perm pairs

/-- Pairs taken out as their names first occur. -/
def Arrangement.occurring : Arrangement := ⟨id, fun pairs => .refl pairs⟩

/-- Region and catalog; slashes at the end of the catalog do not belong to it. -/
def splitPlace (place : List Char) : List Char × Option (List Char) :=
  match Text.cut? (· == '/') place with
  | none => (place, none)
  | some (region, catalog) =>
    let catalog := (catalog.reverse.dropWhile (· == '/')).reverse
    (region, if catalog.isEmpty then none else some catalog)

def readPlace (place : List Char) : Except Fault ConnectionSettings :=
  let (region, catalog) := splitPlace place
  if region.isEmpty then malformed "Region is required after 'athena://'"
  else do
    let region ← decodePart "region" region
    match catalog with
    | none => return { region := some region }
    | some catalog =>
      let catalog ← decodePart "catalog" catalog
      return { region := some region, catalog := some catalog }

def afterScheme? (text : List Char) : Option (List Char) :=
  if scheme.toList.isPrefixOf text then some (text.drop scheme.length) else none

/-- The place in front of the first question mark and the pieces of what follows it. -/
def splitPairs (text : List Char) : List Char × List (List Char) :=
  match Text.cut? (· == '?') text with
  | none => (text, [])
  | some (place, pairs) => (place, pairs.splitOnP (· == '&'))

/-- What a string gives before the first pair is applied: the settings of its place and the pairs.
-/
def readParts (text : String) : Except Fault (ConnectionSettings × List (String × String)) :=
  match afterScheme? (Text.trim text.toList) with
  | none => malformed ("Connection string must start with '" ++ scheme ++ "'")
  | some rest => do
    let (place, pieces) := splitPairs rest
    let pairs ← decodePairs [] pieces
    let settings ← readPlace place
    return (settings, pairs)

def read (arrangement : Arrangement) (text : String) : Except Fault ConnectionParams := do
  let (settings, pairs) ← readParts text
  let settings ← applyPairs settings (arrangement.order pairs)
  match settings.build with
  | .ok params => return params
  | .error error => throw (.refused error)

end RemoteQuery.Address
