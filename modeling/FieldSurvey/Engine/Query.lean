import FieldSurvey.Error
import FieldSurvey.Value.Basic

/-!
The queries that an engine answers, and how arguments are bound to their parameters: by position, or
by name.
-/

namespace FieldSurvey

/-- The queries. -/
inductive Query where
  | sum
  | average
  | least
  | greatest
  | histogram
  | entropy
  | density
  | cumulative
  | quantile
  | undefinedCount
  | infiniteCount
  | fieldAssociation
  | fieldType
  | fieldTopology
  | spatialDimensions
  | hasField
  | hasTopology
  | elementCount
  | pointCount
  | vertexLocation
  | elementLocation
  | elementPoints
  | coordinateType
  | topologyKinds
  | isScalarField
  | stateVariable
  deriving DecidableEq, Repr

namespace Query

def name : Query → String
  | sum => "sum"
  | average => "avg"
  | least => "min"
  | greatest => "max"
  | histogram => "histogram"
  | entropy => "entropy"
  | density => "pdf"
  | cumulative => "cdf"
  | quantile => "quantile"
  | undefinedCount => "nan_count"
  | infiniteCount => "inf_count"
  | fieldAssociation => "field_assoc"
  | fieldType => "field_type"
  | fieldTopology => "field_topology"
  | spatialDimensions => "spatial_dims"
  | hasField => "has_field"
  | hasTopology => "has_topology"
  | elementCount => "num_cells"
  | pointCount => "num_points"
  | vertexLocation => "vertex_location"
  | elementLocation => "element_location"
  | elementPoints => "element_vertex_indices"
  | coordinateType => "coord_type"
  | topologyKinds => "topology_types"
  | isScalarField => "is_scalar_field"
  | stateVariable => "get_state_var"

def all : List Query :=
  [sum, average, least, greatest, histogram, entropy, density, cumulative, quantile,
    undefinedCount, infiniteCount, fieldAssociation, fieldType, fieldTopology, spatialDimensions,
    hasField, hasTopology, elementCount, pointCount, vertexLocation, elementLocation, elementPoints,
    coordinateType, topologyKinds, isScalarField, stateVariable]

def ofName? (name : String) : Option Query := all.find? fun query => query.name == name

def ofValue? : Value → Option Query
  | .text name => ofName? name
  | _ => none

end Query

/-- The parameters of something that can be called: those that may be given by position, how many of
them have to be given, and those that are given by name only. -/
structure Signature where
  positional : List String
  required : Nat
  named : List String

/-- Arguments by position and by name. -/
structure Arguments (ω : Type) where
  positional : List ω
  named : List (String × ω)

namespace Signature

/-- Binds arguments to parameters. Too many arguments, an unknown name, a parameter given twice and
a required one that is missing are refused. -/
def bind {ω : Type} (signature : Signature) (arguments : Arguments ω) :
    Except Error (List (String × ω)) :=
  let byPosition := signature.positional.zip arguments.positional
  let isKnown (name : String) : Bool :=
    signature.positional.contains name || signature.named.contains name
  let isGiven (name : String) : Bool := byPosition.any fun entry => entry.1 == name
  let bound := byPosition ++ arguments.named
  if signature.positional.length < arguments.positional.length then .error .wrongType
  else if !arguments.named.all fun entry => isKnown entry.1 && !isGiven entry.1 then
    .error .wrongType
  else if !(signature.positional.take signature.required).all fun name =>
      (bound.lookup name).isSome then .error .wrongType
  else .ok bound

end Signature

namespace Query

def signature : Query → Signature
  | histogram => ⟨["field"], 1, ["num_bins", "min_val", "max_val"]⟩
  | entropy | density | cumulative => ⟨["hist"], 1, ["num_bins"]⟩
  | quantile => ⟨["cdf", "target"], 2, ["interpolation", "num_bins"]⟩
  | spatialDimensions | coordinateType | topologyKinds => ⟨["topology"], 0, []⟩
  | hasTopology => ⟨["topology"], 1, []⟩
  | stateVariable => ⟨["name"], 1, []⟩
  | elementCount | pointCount => ⟨["topology"], 0, ["domain"]⟩
  | vertexLocation | elementLocation | elementPoints => ⟨["index"], 1, ["domain", "topology"]⟩
  | _ => ⟨["field"], 1, []⟩

end Query

end FieldSurvey
