import FieldSurvey.Proofs.Packed.Transit

/-!
Why a value cannot be packed, or cannot be read again once it is. Both are failures of the process
that packs or reads: it does not wait for another one, and there is nothing to disagree about.
-/

namespace FieldSurvey

section Packing

theorem failsAlone_sizedHead (head : Nat → Bytes) (size : Nat) :
    FailsAlone (sizedHead head size) := by
  unfold sizedHead
  split <;> simp [Error.category]

theorem failsAlone_packWhole (number : Int) : FailsAlone (packWhole number) := by
  unfold packWhole
  simp only
  repeat' split
  all_goals simp [Error.category]

theorem failsAlone_plain (number : TypedNumber) : FailsAlone number.plain := by
  unfold TypedNumber.plain
  split <;> simp [Error.category]

theorem failsAlone_packScalar (value : Value) : FailsAlone (packScalar value) := by
  cases value with
  | whole number => exact failsAlone_packWhole number
  | text content =>
      apply (failsAlone_sizedHead _ _).bind
      simp
  | bytes content =>
      apply (failsAlone_sizedHead _ _).bind
      simp
  | _ => simp [packScalar, Error.category]

theorem failsAlone_packEntries {pack : Value → Except Error Bytes}
    (each : ∀ value, FailsAlone (pack value)) (entries : List (Value × Value)) :
    FailsAlone (packEntries pack entries) := by
  apply (failsAlone_sizedHead _ _).bind
  intro head
  apply FailsAlone.bind
  · apply FailsAlone.mapM
    intro entry _
    apply (each entry.1).bind
    intro key
    apply (each entry.2).bind
    simp
  · simp

theorem failsAlone_packWithin (depth : Nat) (value : Value) :
    FailsAlone (packWithin depth value) := by
  induction depth generalizing value with
  | zero => simp [packWithin, Error.category]
  | succ depth inductionHypothesis =>
      cases value with
      | list items =>
          apply (failsAlone_sizedHead _ _).bind
          intro head
          apply (FailsAlone.mapM fun item _ => inductionHypothesis item).bind
          simp
      | map entries => exact failsAlone_packEntries inductionHypothesis entries
      | array shape column => exact failsAlone_packEntries inductionHypothesis _
      | typed number =>
          apply (failsAlone_plain number).bind
          exact failsAlone_packScalar
      | _ => simpa only [packWithin] using failsAlone_packScalar _

/-- A value that cannot be packed is refused by the process that packs it. -/
theorem failsAlone_pack (value : Value) : FailsAlone (pack value) :=
  failsAlone_packWithin writingDepth value

end Packing

section Restoring

namespace Value

theorem failsAlone_item (key : String) (value : Value) : FailsAlone (value.item key) := by
  unfold item
  repeat' split
  all_goals simp [Error.category]

theorem failsAlone_items? (value : Value) : FailsAlone value.items? := by
  unfold items?
  split <;> simp [Error.category]

theorem failsAlone_toPlace (value : Value) : FailsAlone value.toPlace := by
  unfold toPlace
  split <;> simp [Error.category]

theorem failsAlone_isTrue (value : Value) : FailsAlone value.isTrue := by
  unfold isTrue
  repeat' split
  all_goals simp [Error.category]

theorem failsAlone_toContent (value : Value) : FailsAlone value.toContent := by
  unfold toContent
  split <;> simp [Error.category]

theorem failsAlone_resolveShape (count : Nat) (lengths : List Int) :
    FailsAlone (resolveShape count lengths) := by
  unfold resolveShape
  simp only
  repeat' split
  all_goals simp [Error.category]

end Value

theorem ElementType.failsAlone_ofValue (value : Value) : FailsAlone (ElementType.ofValue value) := by
  unfold ElementType.ofValue
  simp only
  split
  case h_4 =>
    apply (Value.failsAlone_items? _).bind
    simp [Error.category]
  all_goals repeat' split
  all_goals simp [Error.category]

theorem Column.failsAlone_ofBytes (type : ElementType) (isHighFirst : Bool) (count : Nat)
    (bytes : Bytes) : FailsAlone (Column.ofBytes type isHighFirst count bytes) := by
  cases type <;> simp [Column.ofBytes, Error.category]

theorem Value.failsAlone_ofArrayForm (entries : List (Value × Value)) :
    FailsAlone (ofArrayForm entries) := by
  unfold ofArrayForm
  apply (failsAlone_item _ _).bind
  intro data
  apply (failsAlone_item _ _).bind
  intro code
  apply (ElementType.failsAlone_ofValue code).bind
  intro type
  obtain ⟨type, isHighFirst⟩ := type
  simp only [throw_eq_error, error_bind, pure_eq_ok]
  have badValueIsOwn : Error.badValue.IsOwn := by simp [Error.category]
  apply FailsAlone.refusal badValueIsOwn
  apply (failsAlone_toContent data).bind
  intro content
  apply FailsAlone.refusal badValueIsOwn
  apply (Column.failsAlone_ofBytes _ _ _ _).bind
  intro column
  apply (failsAlone_item _ _).bind
  intro shape
  apply (failsAlone_items? shape).bind
  intro items
  apply (FailsAlone.mapM fun item _ => failsAlone_toPlace item).bind
  intro lengths
  apply FailsAlone.refusal badValueIsOwn
  apply (failsAlone_resolveShape _ _).bind
  simp

theorem Value.failsAlone_restore (entries : List (Value × Value)) :
    FailsAlone (restore entries) := by
  unfold restore
  split
  · apply (failsAlone_isTrue _).bind
    intro isArray
    split
    · exact failsAlone_ofArrayForm entries
    · exact failsAlone_ok _
  · exact failsAlone_ok _

/-- A value that is packed but cannot be read again is refused by every process that reads it. -/
theorem Value.failsAlone_transit (value : Value) : FailsAlone value.transit := by
  induction value using Value.transit.induct
    (motive_2 := fun entries read => FailsAlone (transitEntries entries read))
    (motive_3 := fun items => FailsAlone (transitItems items)) with
  | case1 items inItems =>
      rw [transit]
      apply inItems.bind
      simp
  | case2 entries inEntries =>
      rw [transit]
      apply inEntries.bind
      exact failsAlone_restore
  | case3 shape column =>
      rw [transit]
      exact failsAlone_restore _
  | case4 number =>
      rw [transit]
      exact failsAlone_plain number
  | case5 typeName spelling =>
      rw [transit]
      simp [Error.category]
  | case6 value notList notMap notArray notTyped notForeign =>
      have arrives : value.transit = .ok value := by rw [transit] <;> assumption
      rw [arrives]
      exact failsAlone_ok value
  | case7 => exact failsAlone_ok []
  | case8 item rest inItem inRest =>
      rw [transitItems]
      apply inItem.bind
      intro first
      apply inRest.bind
      simp
  | case9 entries => exact failsAlone_ok entries
  | case10 key value rest entries inKey inValue inRest =>
      rw [transitEntries]
      apply inKey.bind
      intro key
      apply inValue.bind
      intro value
      split
      · exact inRest key value
      · simp [Error.category]

end Restoring

end FieldSurvey
