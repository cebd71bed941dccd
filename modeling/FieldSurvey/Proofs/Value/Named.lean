import FieldSurvey.Proofs.Registry
import FieldSurvey.Value.Basic

/-!
Mappings whose keys are texts. They are the registries of what stands under these names.
-/

namespace FieldSurvey

def Value.textEntry (entry : String × Value) : Value × Value := (.text entry.1, entry.2)

theorem setEntry_texts (name : String) (value : Value) (registry : Registry Value) :
    Value.setEntry (.text name) value (registry.map Value.textEntry) =
      (registry.put name value).map Value.textEntry := by
  induction registry with
  | nil => rfl
  | cons head rest inductionHypothesis =>
      show (if (head.1 == name) = true then _ else _) =
        (if (head.1 == name) = true then _ else _ : Registry Value).map Value.textEntry
      split
      · rfl
      · rw [List.map_cons]
        exact congrArg _ inductionHypothesis

/-- Texts that are set one after the other as the keys of a mapping are put into it as names. -/
theorem mapOf_texts (named : List (String × Value)) :
    Value.mapOf (named.map Value.textEntry) = .record (Registry.ofEntries named) := by
  refine congrArg Value.map ?_
  rw [List.foldl_map]
  show named.foldl _ (([] : Registry Value).map Value.textEntry) = List.map Value.textEntry _
  unfold Registry.ofEntries
  exact List.foldl_hom (List.map Value.textEntry) fun registry entry =>
    setEntry_texts entry.1 entry.2 registry

theorem find?_texts (name : String) (named : List (String × Value)) :
    Value.find? name (named.map Value.textEntry) = Registry.find? name named := by
  unfold Registry.find?
  induction named with
  | nil => rfl
  | cons head rest inductionHypothesis =>
      rw [List.lookup_cons]
      unfold Value.find? at inductionHypothesis ⊢
      rw [List.map_cons, List.find?_cons, BEq.comm]
      show (match head.1 == name with | true => _ | false => _ : Option _).map Prod.snd = _
      cases head.1 == name with
      | true => rfl
      | false => exact inductionHypothesis

end FieldSurvey
