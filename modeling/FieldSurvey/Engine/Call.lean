import FieldSurvey.Agreement
import FieldSurvey.Engine.Answer
import FieldSurvey.Engine.Query
import FieldSurvey.Engine.Settings
import FieldSurvey.Statistics.Distribution

/-!
An engine answers queries about the domains that a process owns, together with the other processes
of its group. Arguments that are left out fall back to the engine's settings.
-/

-- The sums of whole numbers start from the built-in zero.
attribute [local instance (1100)] Zero.ofOfNat0

namespace FieldSurvey

/-- An engine of one process. -/
structure Engine where
  group : ProcessGroup
  settings : Settings

namespace Engine

def aloneGroup : ProcessGroup := ⟨.alone, 0, 1⟩

/-- An engine in a group in which it has a place. Without a group it works alone, unless its
settings ask for message passing, which is not available. -/
def start (group : Option ProcessGroup) (settings : Settings) : Except Error Engine := do
  match group with
  | some group =>
      let _ ← group.rank?
      return ⟨group, settings⟩
  | none =>
      if ← settings.useMessagePassing.isTrue then throw .noMessagePassing
      return ⟨aloneGroup, settings⟩

abbrev Bound := List (String × Answer)

namespace Bound

def get (name : String) (bound : Bound) : Answer := (bound.lookup name).getD (.value .null)

def valueOf (name : String) (bound : Bound) : Value := (bound.get name).toValue

/-- The argument of a parameter as a value, or what stands for it if it is left out. -/
def valueOr (name : String) (default : Value) (bound : Bound) : Value :=
  (bound.lookup name).elim default Answer.toValue

end Bound

/-- A topology that was asked for, or else the one in the settings. -/
def topologyOr (engine : Engine) (requested : Answer) : Value :=
  if requested.isNull then engine.settings.topology else requested.toValue

def requiredTopology (engine : Engine) (requested : Answer) : Except Error Value := do
  let topology := engine.topologyOr requested
  if ← topology.isTrue then return topology else throw .topologyRequired

/-- One of the domains by its place; negative places count from the end. -/
def localDomain (place : Value) (dataset : Dataset) : Except Error Domain := do
  let index ← place.toPlace
  match entryAt dataset index with
  | .ok domain => return domain
  | .error _ => throw (.domainOutside place.putInto dataset.length)

/-- The upper bound of a histogram; bounds that are equal are drawn apart. -/
def raisedBound (low high : Value) : Except Error Value := do
  if ← high.equals low then low.operate .plus (.ofFloat 1.0) else return high

/-- The histogram of a field. A bound that is left out is that of the finite entries. -/
def histogramOf (engine : Engine) (dataset : Dataset) (field binCount low high : Value) :
    Collective Float (Histogram Float) := do
  let share := dataset.fieldShare field
  let isLeftOut (value : Value) : Bool := (Answer.value value).isNull
  let count ← if isLeftOut binCount then pure engine.settings.binCount
    else (Value.whole <$> binCount.toWhole : Except Error Value)
  let (low, high) ←
    if isLeftOut low || isLeftOut high then do
      let (least, greatest) ← share.finiteRange engine.group
      pure (if isLeftOut low then .ofFloat least else low,
        if isLeftOut high then .ofFloat greatest else high)
    else pure (low, high)
  let high ← raisedBound low high
  let count ← count.toWhole
  let binning ← Binning.ofValues low high count
  share.histogram engine.group binning

def asHistogram (engine : Engine) (dataset : Dataset) (given : Answer) (binCount : Value) :
    Collective Float (Histogram Float) :=
  match given with
  | .histogram result => return result
  | other => engine.histogramOf dataset other.toValue binCount .null .null

/-- Running sums of probabilities that are given, or those of a field that is named. -/
def asCumulative (engine : Engine) (dataset : Dataset) (given : Answer) (binCount : Value) :
    Collective Float (Histogram Float) :=
  match given with
  | .histogram result => return result
  | other => do
      let histogram ← engine.asHistogram dataset other binCount
      return histogram.cumulative

/-- A count over one local domain, or over all domains of all processes that define a topology; if
none is named, over the first topology of every domain that has one. -/
def countOver (engine : Engine) (dataset : Dataset) (count : String → Domain → Except Error Int)
    (requested domain : Answer) : Collective Float Int := do
  let topology := engine.topologyOr requested
  let inDomain (wanted : Value) (domain : Domain) : Except Error Int := do
    let found ← domain.chooseTopology wanted
    count found domain
  if !domain.isNull then
    let found ← localDomain domain.toValue dataset
    inDomain topology found
  else
    let isNamed ← topology.isTrue
    let own ←
      if isNamed then do
        let holders ← dataset.havingTopology topology
        (holders.mapM fun holder => inDomain topology holder.1 : Except Error (List Int))
      else
        ((dataset.filter fun domain => !domain.topologies.isEmpty).mapM (inDomain .null) :
          Except Error (List Int))
    engine.group.sumWhole own.sum

def inLocalDomain {β : Type} (engine : Engine) (dataset : Dataset)
    (look : String → Except Error Int → Domain → Except Error β) (bound : Bound) :
    Except Error β := do
  let domain ← localDomain (bound.valueOr "domain" (.whole 0)) dataset
  let topology ← domain.chooseTopology (engine.topologyOr (bound.get "topology"))
  look topology (bound.valueOf "index").toWhole domain

def ofPosition (position : Position Float) : Answer :=
  .value (.row (.ofFloats position.toList))

def ofKinds (kinds : List (TopologyKind × Int)) : Answer :=
  .value (.record (kinds.map fun (kind, count) => (kind.name, .whole count)))

def answer (engine : Engine) (dataset : Dataset) (query : Query) (bound : Bound) :
    Collective Float Answer := do
  let group := engine.group
  let field := bound.valueOf "field"
  let binCount := bound.valueOf "num_bins"
  let share := dataset.fieldShare field
  match query with
  | .sum => return .sum (← share.sum group)
  | .average => return .scalar (.ofFloat (← share.average group))
  | .least => return .extremum (← share.loggedExtremum .least group)
  | .greatest => return .extremum (← share.loggedExtremum .greatest group)
  | .histogram =>
      return .histogram (← engine.histogramOf dataset field binCount (bound.valueOf "min_val")
        (bound.valueOf "max_val"))
  | .entropy =>
      let histogram ← engine.asHistogram dataset (bound.get "hist") binCount
      return .scalar (.ofFloat histogram.entropy)
  | .density =>
      let histogram ← engine.asHistogram dataset (bound.get "hist") binCount
      return .histogram histogram.density
  | .cumulative =>
      let histogram ← engine.asHistogram dataset (bound.get "hist") binCount
      return .histogram histogram.cumulative
  | .quantile =>
      let histogram ← engine.asCumulative dataset (bound.get "cdf") binCount
      let mode := bound.get "interpolation"
      let mode := if mode.isNull then .text engine.settings.interpolation.name else mode.toValue
      return .scalar (.ofFloat (← histogram.quantileAsked (bound.valueOf "target") mode))
  | .undefinedCount => return .scalar (.whole (← share.undefinedCount group))
  | .infiniteCount => return .scalar (.whole (← share.infiniteCount group))
  | .fieldAssociation => return .value (.text (← dataset.fieldAssociation group field))
  | .fieldType => return .value (.text (← dataset.fieldType group field))
  | .fieldTopology => return .value (.text (← dataset.fieldTopology group field))
  | .spatialDimensions =>
      let topology ← engine.requiredTopology (bound.get "topology")
      return .value (.whole (← dataset.spatialDimensions group topology))
  | .hasField => return .value (.truth (← dataset.hasField group field))
  | .hasTopology =>
      return .value (.truth (← dataset.hasTopology group (bound.valueOf "topology")))
  | .elementCount =>
      return .value (.whole (← engine.countOver dataset Domain.elementCount (bound.get "topology")
        (bound.get "domain")))
  | .pointCount =>
      return .value (.whole (← engine.countOver dataset Domain.pointCount (bound.get "topology")
        (bound.get "domain")))
  | .vertexLocation =>
      return ofPosition (← engine.inLocalDomain dataset Domain.vertexLocation bound)
  | .elementLocation =>
      return ofPosition (← engine.inLocalDomain dataset Domain.elementLocation bound)
  | .elementPoints =>
      let points ← engine.inLocalDomain dataset Domain.elementPoints bound
      return .value (.row (.ofWholes points))
  | .coordinateType =>
      let topology ← engine.requiredTopology (bound.get "topology")
      return .value (.text (← dataset.coordinateType group topology))
  | .topologyKinds =>
      let topology ← engine.requiredTopology (bound.get "topology")
      return ofKinds (← dataset.topologyKinds group topology)
  | .isScalarField => return .value (.truth (← dataset.isScalarField group field))
  | .stateVariable =>
      return .value (← dataset.stateVariable group (bound.valueOf "name"))

def call (engine : Engine) (dataset : Dataset) (query : Query) (arguments : Arguments Answer) :
    Collective Float Answer := do
  let bound ← query.signature.bind arguments
  engine.answer dataset query bound

/-- Answers the query of a name. The name is itself a parameter, so no argument may be called by its
name, nor by that of the engine. -/
def evaluate (engine : Engine) (dataset : Dataset) (name : Value) (arguments : Arguments Answer) :
    Collective Float Answer :=
  if arguments.named.any fun entry => entry.1 == "name" || entry.1 == "self" then
    .fail .wrongType
  else
    match Query.ofValue? name with
    | some query => engine.call dataset query arguments
    | none => .fail (.unknownQuery name.putInto)

end Engine

end FieldSurvey
