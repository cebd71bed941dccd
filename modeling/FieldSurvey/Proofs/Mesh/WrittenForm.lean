import FieldSurvey.Proofs.Mesh.Reload

/-!
The written form of a domain is canonical. However a description spells its names, nests its numbers
and leaves out what has a default, the domain read from it is written in one form; reading that form
and writing it again changes nothing. What is read back may differ along the third axis of grids in
the plane, but this is not written.
-/

namespace FieldSurvey

/-- The written form of the domain that is read from a description. -/
def Domain.rewritten (description : Value) : Except Error Value := do
  let domain ← Domain.ofValue description
  return domain.toValue

theorem Coordset.toValue_flattened (coordset : Coordset) :
    coordset.flattened.toValue = coordset.toValue := by
  match coordset with
  | .uniform ⟨_, _, none⟩ _ _ => rfl
  | .uniform ⟨_, _, some _⟩ _ _ => rfl
  | .rectilinear _ => rfl
  | .explicit _ => rfl

/-- What is lost along the third axis has not been written in the first place. -/
theorem Domain.toValue_flattened (domain : Domain) : domain.flattened.toValue = domain.toValue := by
  have coordsets : (domain.coordsets.map fun entry => (entry.1, entry.2.flattened)).map
      (fun entry => (entry.1, entry.2.toValue)) =
        domain.coordsets.map fun entry => (entry.1, entry.2.toValue) := by
    rw [List.map_map]
    refine List.map_congr_left fun entry _ => ?_
    exact Prod.ext rfl entry.2.toValue_flattened
  unfold Domain.toValue Domain.flattened
  rw [coordsets]

/-- A written form is its own written form. -/
theorem Domain.rewritten_of_rewritten {description written : Value}
    (isWritten : Domain.rewritten description = .ok written) :
    Domain.rewritten written = .ok written := by
  obtain ⟨domain, read, isForm⟩ := bind_eq_ok.mp isWritten
  cases isForm
  unfold rewritten
  rw [domain_ofValue_toValue (isLoaded_of_ofValue read), ok_bind, toValue_flattened]
  rfl

/-- The names `1` and `"1"` collide, a plane grid has one coordinate of its origin, a height and no
spacing, the values of a field are nested, and those of a component are a single number. -/
def roughDescription : Value :=
  .record [
    ("coordsets", .map [
      (.text "1", .record [("type", .text "explicit"),
        ("values", .record [("y", .whole 4), ("x", .list [.truth true])])]),
      (.whole 1, .record [("type", .text "uniform"),
        ("dims", .record [("j", .text " 1"), ("i", .real ⟨0x4004000000000000⟩)]),
        ("origin", .record [("z", .whole 5), ("y", .whole 3)])])]),
    ("topologies", .record [("cells", .record [("type", .text "unstructured"),
      ("elements", .record [("shape", .null),
        ("connectivity", .list [.list [.truth true, .whole 0]])])])]),
    ("fields", .map [
      (.null, .record [("values", .list [.list [.whole 1, .whole 2], .list [.whole 3, .whole 4]])]),
      (.text "wind", .record [("values", .map [(.whole 0, .real ⟨0⟩), (.text "0", .text "calm")]),
        ("topology", .whole 1)])])]

theorem rewritten_rough_is_steady :
    ∃ written, Domain.rewritten roughDescription = .ok written ∧
      Domain.rewritten written = .ok written := by
  obtain ⟨written, isWritten⟩ : ∃ written, Domain.rewritten roughDescription = .ok written :=
    ⟨_, rfl⟩
  exact ⟨written, isWritten, Domain.rewritten_of_rewritten isWritten⟩

end FieldSurvey
