import FieldSurvey.Mesh.Document

/-!
Changes to single parts of a domain. What is put in is read from a description first, so that a
description that cannot be read changes nothing.
-/

namespace FieldSurvey

/-- A change to one part of a domain, by its name. A name can be a value of any kind that may be a
key. -/
inductive DomainChange where
  | putState (name value : Value)
  | dropState (name : Value)
  | putField (name description : Value)
  | dropField (name : Value)
  | putTopology (name description : Value)
  | dropTopology (name : Value)
  | putCoordset (name description : Value)
  | dropCoordset (name : Value)

namespace DomainChange

def keyOf (name : Value) : Except Error Value :=
  if name.isKey then .ok name else .error .wrongType

def partName (name : Value) : Except Error String := Value.spelled <$> keyOf name

/-- A domain after the part of a name is erased. The parts are named by texts, so that a name of
another kind names none of them. -/
def erasing (erase : String → Domain) (name : Value) (domain : Domain) : Except Error Domain := do
  match ← keyOf name with
  | .text name => return erase name
  | _ => return domain

def apply (change : DomainChange) (domain : Domain) : Except Error Domain :=
  match change with
  | putState name value => do
      let key ← keyOf name
      return { domain with state := Value.setEntry key value domain.state }
  | dropState name => do
      let key ← keyOf name
      return { domain with state := Value.eraseEntry key domain.state }
  | putField name description => do
      let field ← Field.ofValue name.spelled description
      return { domain with fields := domain.fields.put (← partName name) field }
  | dropField name =>
      erasing (fun name => { domain with fields := domain.fields.erase name }) name domain
  | putTopology name description => do
      let topology ← Topology.ofValue description
      return { domain with topologies := domain.topologies.put (← partName name) topology }
  | dropTopology name =>
      erasing (fun name => { domain with topologies := domain.topologies.erase name }) name domain
  | putCoordset name description => do
      let coordset ← Coordset.ofValue description
      return { domain with coordsets := domain.coordsets.put (← partName name) coordset }
  | dropCoordset name =>
      erasing (fun name => { domain with coordsets := domain.coordsets.erase name }) name domain

end DomainChange

end FieldSurvey
