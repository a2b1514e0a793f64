import RemoteQuery.Duration
import RemoteQuery.Error
import RemoteQuery.Text.Quoted

/-!
# Connection parameters

Settings may all be left out; parameters are what settings become once those that are required are
found and the others have their defaults. An empty optional text counts as left out. Parameters are
only made here, so what is checked here holds of all of them.
-/
namespace RemoteQuery

structure ConnectionParams where
  roleArn : String
  region : String
  workgroup : Option String
  catalog : String
  schema : Option String
  outputLocation : Option String
  timeout : Duration
  pollInterval : Duration
  sessionName : String
  deriving DecidableEq, Repr

structure ConnectionSettings where
  roleArn : Option String := none
  region : Option String := none
  workgroup : Option String := none
  catalog : Option String := none
  schema : Option String := none
  outputLocation : Option String := none
  timeout : Option Duration := none
  pollInterval : Option Duration := none
  sessionName : Option String := none
  deriving DecidableEq, Repr

namespace ConnectionSettings

def defaultCatalog : String := "AwsDataCatalog"

def defaultSessionName : String := "athena-cursor"

def defaultTimeout : Duration := .ofSeconds 3600

def defaultPollInterval : Duration := .ofSeconds 1

def nonEmpty? (text : Option String) : Option String := text.filter fun text => !text.isEmpty

/-- A text that must be given and must not be blank. -/
def required (parameter label : String) : Option String → Except ConnectionError String
  | none => .error (.invalidParameter parameter (label ++ " is required"))
  | some text =>
    if Text.isBlankText text then .error (.invalidParameter parameter (label ++ " cannot be empty"))
    else .ok text

/-- A duration that must be longer than nothing. -/
def positive (parameter label : String) (duration : Duration) : Except ConnectionError Duration :=
  if duration.isZero then .error (.invalidParameter parameter (label ++ " must be greater than 0"))
  else .ok duration

def build (settings : ConnectionSettings) : Except ConnectionError ConnectionParams := do
  let roleArn ← required "role_arn" "Role ARN" settings.roleArn
  let region ← required "region" "Region" settings.region
  let catalog := settings.catalog.getD defaultCatalog
  if catalog.isEmpty then throw (.invalidParameter "catalog" "Catalog cannot be empty")
  let timeout ← positive "timeout" "Timeout" (settings.timeout.getD defaultTimeout)
  let pollInterval ←
    positive "poll_interval" "Poll interval" (settings.pollInterval.getD defaultPollInterval)
  return {
    roleArn, region, catalog, timeout, pollInterval
    workgroup := nonEmpty? settings.workgroup
    schema := nonEmpty? settings.schema
    outputLocation := nonEmpty? settings.outputLocation
    sessionName := (nonEmpty? settings.sessionName).getD defaultSessionName }

end ConnectionSettings

namespace ConnectionParams

def display (params : ConnectionParams) : String :=
  "ConnectionParams \x7b role: " ++ params.roleArn ++ ", region: " ++ params.region ++ ", catalog: "
    ++ params.catalog ++ ", workgroup: " ++ Text.quotedOption params.workgroup ++ ", timeout: "
    ++ toString params.timeout.wholeSeconds ++ "s \x7d"

def describe (params : ConnectionParams) : String :=
  "ConnectionParams \x7b role_arn: " ++ Text.quoted params.roleArn
    ++ ", region: " ++ Text.quoted params.region
    ++ ", workgroup: " ++ Text.quotedOption params.workgroup
    ++ ", catalog: " ++ Text.quoted params.catalog
    ++ ", schema: " ++ Text.quotedOption params.schema
    ++ ", output_location: " ++ Text.quotedOption params.outputLocation
    ++ ", timeout: " ++ params.timeout.describe
    ++ ", poll_interval: " ++ params.pollInterval.describe
    ++ ", session_name: " ++ Text.quoted params.sessionName ++ " \x7d"

end ConnectionParams

end RemoteQuery
