import FieldSurvey.Decimal.Render
import FieldSurvey.Mesh.Kind

/-!
Why a request cannot be answered. Each cause is a constructor with what its wording needs; the
wording is `Error.message`, and `Error.category` sorts the causes into the classes that a caller
tells apart.
-/

namespace FieldSurvey

/-- The classes of failure. -/
inductive ErrorCategory where
  | configuration
  | consistency
  | missingData
  | value
  | type
  | key
  | index
  | attribute
  | overflow
  | zeroDivision
  | unavailable
  | notImplemented
  | trailingData
  | packedFormat
  | packedNesting
  | textEncoding
  | deadlock
  deriving DecidableEq, Repr

/-- The causes of failure. Those after `notImplemented` have no wording of their own. -/
inductive Error where
  | unsupportedShape (shape : String)
  | noComponents (field : String)
  | severalComponents (field : String) (components : List String)
  | coordsetMismatch (topology : String) (topologyKind : TopologyKind) (coordsetKind : CoordsetKind)
  | unknownCoordsetKind (kind : String)
  | unknownTopologyKind (kind : String)
  | axesRequired (kind : CoordsetKind)
  | unevenAxes
  | unlocatable (association field : String)
  | unsupportedAssociation (association field : String)
  | associationsDiffer (field : String)
  | typesDiffer (field : String)
  | dimensionsDiffer (topology : String)
  | componentsDiffer (field : String)
  | valuesNotFloating (field typeName : String)
  | coordinatesNotFloating (topology typeName : String)
  | noSuchField (domain : Int) (field : String)
  | noSuchTopology (domain : Int) (topology : String)
  | noTopologies (domain : Int)
  | danglingCoordset (topology coordset : String)
  | averageUndefined (field : String)
  | noDefinedValues (field : String)
  | noFiniteValues (field : String)
  | fieldNowhere (field : String)
  | topologyNowhere (topology : String)
  | stateNowhere (name : String)
  | rangeNotFinite
  | binsNotPositive
  | rangeNotIncreasing
  | quantileOutside (target : Double)
  | unknownInterpolation (mode : String)
  | unsupportedReduction (operation : String)
  | rootOutside (root : String) (size : Nat)
  | rankOutside (rank size : String)
  | notASnapshot
  | snapshotVersion (version : String)
  | unknownSettings (names : List String)
  | binCountSetting (count : String)
  | logLevelSetting (level : String)
  | unknownLogLevel (level : String)
  | topologyRequired
  | unknownQuery (name : String)
  | unpackable (typeName : String)
  | partOutside (part : MeshPart) (index count : Int)
  | domainOutside (index : String) (count : Nat)
  | noMessagePassing
  | notImplemented
  | missingKey
  | wrongType
  | badValue
  | noAttribute
  | badSubscript
  | overflow
  | zeroDivision
  | trailingData
  | packedFormat
  | packedNesting
  | textEncoding
  | deadlock
  deriving DecidableEq, Repr

namespace Error

/-- The interpolation modes and reductions as the wording lists them. -/
def interpolationList : String := "linear, lower, higher, midpoint, nearest"

def reductionList : String := "sum, min, max, lor, land"

def message : Error → Option String
  | unsupportedShape shape => some s!"unsupported element type '{shape}'"
  | noComponents field => some s!"field '{field}' has no components"
  | severalComponents field components =>
      let listed := ", ".intercalate components
      some s!"field '{field}' has multiple components ({listed}); a scalar field is required"
  | coordsetMismatch topology topologyKind coordsetKind =>
      let used := coordsetKind.name
      let joined := topologyKind.name
      some s!"topology '{topology}' of type '{joined}' cannot use a '{used}' coordset"
  | unknownCoordsetKind kind => some s!"unknown coordset type: '{kind}'"
  | unknownTopologyKind kind => some s!"unknown topology type: '{kind}'"
  | axesRequired kind =>
      let kindName := kind.name
      some s!"{kindName} coordset requires 'x' and 'y' values"
  | unevenAxes => some "explicit coordset axes must all have one entry per vertex"
  | unlocatable association field =>
      some s!"location for association '{association}' of field '{field}' not implemented"
  | unsupportedAssociation association field =>
      some s!"association '{association}' of field '{field}' not implemented"
  | associationsDiffer field =>
      some s!"there is disagreement about the association of field '{field}'"
  | typesDiffer field => some s!"there is disagreement about the type of field '{field}'"
  | dimensionsDiffer topology =>
      some s!"there is disagreement about the spatial dims of topology '{topology}'"
  | componentsDiffer field =>
      some s!"there is disagreement about the number of components of field '{field}'"
  | valuesNotFloating field typeName =>
      some s!"field '{field}' is neither float nor double; type is '{typeName}'"
  | coordinatesNotFloating topology typeName =>
      some <| s!"coordinates of topology '{topology}' are neither float nor double; " ++
        s!"type is '{typeName}'"
  | noSuchField domain field => some s!"domain {domain} has no field '{field}'"
  | noSuchTopology domain topology => some s!"domain {domain} has no topology '{topology}'"
  | noTopologies domain => some s!"domain {domain} defines no topologies"
  | danglingCoordset topology coordset =>
      some s!"topology '{topology}' references missing coordset '{coordset}'"
  | averageUndefined field =>
      some s!"field '{field}' has no values on any domain; its average is undefined"
  | noDefinedValues field => some s!"field '{field}' has no defined values on any domain"
  | noFiniteValues field => some s!"field '{field}' has no finite values on any domain"
  | fieldNowhere field => some s!"field '{field}' is not defined on any domain"
  | topologyNowhere topology => some s!"topology '{topology}' is not defined on any domain"
  | stateNowhere name => some s!"unable to retrieve state variable '{name}'"
  | rangeNotFinite => some "histogram range bounds must be finite"
  | binsNotPositive => some "bins must be positive"
  | rangeNotIncreasing => some "histogram range must satisfy min < max"
  | quantileOutside target =>
      let shown := shortestText target.toFloat
      some s!"quantile target must lie in [0, 1], got {shown}"
  | unknownInterpolation mode =>
      some s!"unknown quantile interpolation '{mode}' (expected one of {interpolationList})"
  | unsupportedReduction operation =>
      some s!"unsupported reduce op '{operation}' (expected one of {reductionList})"
  | rootOutside root size => some s!"broadcast root {root} is outside a group of size {size}"
  | rankOutside rank size => some s!"rank {rank} is outside a group of size {size}"
  | notASnapshot => some "payload is not a meshquery snapshot"
  | snapshotVersion version => some s!"unsupported snapshot version {version} (expected 1)"
  | unknownSettings names =>
      let listed := ", ".intercalate names
      some s!"unknown engine config keys: {listed}"
  | binCountSetting count => some s!"histogram_bins must be positive, got {count}"
  | logLevelSetting level => some s!"unknown log level '{level}'"
  | unknownLogLevel level => some s!"unknown log level: {level}"
  | topologyRequired =>
      some "a topology name is required (pass one or set default_topology)"
  | unknownQuery name => some s!"unknown query '{name}'"
  | unpackable typeName => some s!"cannot pack object of type {typeName}"
  | partOutside part index count =>
      let counted := part.name
      some s!"{counted} index {index} is out of range for {count} {counted}s"
  | domainOutside index count =>
      some s!"domain index {index} is out of range for {count} local domains"
  | noMessagePassing =>
      some "mpi4py is required for MPIGroup. Install the 'mpi' extra: pip install meshquery[mpi]"
  | notImplemented => some ""
  | _ => none

def category : Error → ErrorCategory
  | unsupportedShape _ | noComponents _ | severalComponents _ _ | coordsetMismatch _ _ _
  | unknownCoordsetKind _ | unknownTopologyKind _ | axesRequired _ | unevenAxes | unlocatable _ _
  | unsupportedAssociation _ _ => .configuration
  | associationsDiffer _ | typesDiffer _ | dimensionsDiffer _ | componentsDiffer _
  | valuesNotFloating _ _ | coordinatesNotFloating _ _ => .consistency
  | noSuchField _ _ | noSuchTopology _ _ | noTopologies _ | danglingCoordset _ _
  | averageUndefined _ | noDefinedValues _ | noFiniteValues _ | fieldNowhere _ | topologyNowhere _
  | stateNowhere _ => .missingData
  | rangeNotFinite | binsNotPositive | rangeNotIncreasing | quantileOutside _
  | unknownInterpolation _ | unsupportedReduction _ | rootOutside _ _ | rankOutside _ _
  | notASnapshot | snapshotVersion _ | unknownSettings _ | binCountSetting _ | logLevelSetting _
  | unknownLogLevel _ | topologyRequired | unknownQuery _ | badValue => .value
  | unpackable _ | wrongType => .type
  | partOutside _ _ _ | domainOutside _ _ | badSubscript => .index
  | noMessagePassing => .unavailable
  | notImplemented => .notImplemented
  | missingKey => .key
  | noAttribute => .attribute
  | overflow => .overflow
  | zeroDivision => .zeroDivision
  | trailingData => .trailingData
  | packedFormat => .packedFormat
  | packedNesting => .packedNesting
  | textEncoding => .textEncoding
  | deadlock => .deadlock

end Error

end FieldSurvey
