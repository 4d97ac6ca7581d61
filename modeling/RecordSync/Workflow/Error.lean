import RecordSync.Attribute.Error
import RecordSync.Endpoint.Basic
import RecordSync.Store.Basic

set_option autoImplicit false

namespace RecordSync

inductive WorkflowFault where
  -- A document that is not JSON, or a YAML document that describes no workflow.
  | malformed (message : String)
  | unreadable (e : DecodeError)
  | emptyName
  | emptyField (name : String)
  | mergesObjects
  | identifierAbsent (name : String)
  | identifierUnknown (name : String)
  | otherEndpoint (bound actual : String)
  | noIdentifier
  | identifierUnresolved (name : String)
  | stated (message : String)

namespace WorkflowFault

def message : WorkflowFault → String
  | .malformed message => message
  | .unreadable e => e.message
  | .emptyName => "name is empty"
  | .emptyField name => s!"{name} is empty"
  | .mergesObjects => "MERGE is only valid on array attributes"
  | .identifierAbsent name => s!"identifier '{name}' is declared ABSENT and never resolves"
  | .identifierUnknown name => s!"identifier '{name}' is not a declared attribute"
  | .otherEndpoint bound actual => s!"bound to endpoint '{bound}' but run against '{actual}'"
  | .noIdentifier => "import requires at least one identifier attribute"
  | .identifierUnresolved name => s!"identifier '{name}' did not resolve"
  | .stated message => message

end WorkflowFault

inductive SearchTarget where
  | canonical (collection : String)
  | endpointObject (endpoint : String)
  | relation (attributeName collection : String)
  | stated (text : String)
  deriving DecidableEq, Repr

namespace SearchTarget

def render : SearchTarget → String
  | .canonical collection => s!"canonical object in '{collection}'"
  | .endpointObject endpoint => s!"endpoint '{endpoint}' object"
  | .relation name collection => s!"relation '{name}' target in '{collection}'"
  | .stated text => text

end SearchTarget

inductive WorkflowError where
  | configuration (workflow : String) (fault : WorkflowFault)
  | ambiguous (target : SearchTarget) (count : Nat)
  | mapping (e : MappingError)
  | endpoint (e : EndpointError)
  | store (e : StoreError)

namespace WorkflowError

def code : WorkflowError → String
  | .configuration _ _ => "WORKFLOW_CONFIGURATION"
  | .ambiguous _ _ => "AMBIGUOUS_LOOKUP"
  | .mapping e => e.code
  | .endpoint e => e.code
  | .store e => e.code

def message : WorkflowError → String
  | .configuration workflow fault => s!"configuration error in workflow '{workflow}': {fault.message}"
  | .ambiguous target count => s!"ambiguous {target.render} lookup: {count} matches"
  | .mapping e => s!"mapping error: {e.message}"
  | .endpoint e => s!"endpoint error: {e.message}"
  | .store e => s!"store error: {e.message}"

def isRetryable : WorkflowError → Bool
  | .endpoint e => e.isTransient
  | .store e => e.isTransient
  | .configuration _ _ | .ambiguous _ _ | .mapping _ => false

end WorkflowError

end RecordSync
