import FieldSurvey.Proofs.Kernel.Search
import FieldSurvey.Proofs.Mesh.AnyNumbers
import FieldSurvey.Proofs.Statistics.Counting

/-!
What the computations on an array take to be defined. Of real numbers, the sum counts what the count
of undefined entries leaves, and the search for an extreme entry finds one exactly if something is
left. Of complex numbers the sum takes all entries, also those that count as undefined.
-/

namespace FieldSurvey

def Column.HoldsComplexes {ω : Type} : Column ω → Prop
  | .complex _ _ => True
  | _ => False

/-- The column without its undefined entries. -/
def Column.definedPart : Column Value → Column Value
  | .float width words =>
      .float width (words.filter fun word => !Scalar.isUndefined (width.toFloat word))
  | .complex width entries =>
      .complex width (entries.filter fun parts =>
        !(Scalar.isUndefined (width.toFloat parts.1) || Scalar.isUndefined (width.toFloat parts.2)))
  | others => others

/-- The sum and the count of a column are those of its defined entries, and what else is computed
from the column takes the same entries to be defined. -/
structure Column.AgreesOnDefined (column : Column Value) (total : Float) (count : Nat) : Prop where
  summed : column.entries.sum = .ok (total, count)
  complement : count + column.entries.undefinedCount = column.size
  ofDefined : column.definedPart.entries.sum = .ok (total, count)
  infinite : column.HoldsNumbers → column.entries.infiniteCount ≤ count
  extremes : column.HoldsNumbers → ∀ extreme, ∃ found,
    column.entries.extremum extreme = .ok found ∧ (found = none ↔ count = 0)

section Sums

variable {α : Type} [Scalar α]

theorem Entries.sum_complexes (numbers : List (α × α)) :
    ∃ total, (Entries.complexes numbers).sum = .ok (total, numbers.length) := by
  unfold Entries.sum
  by_cases noEntries : (Entries.complexes numbers).count = 0
  · refine ⟨Scalar.zero, ?_⟩
    simp only [if_pos noEntries]
    exact congrArg (fun count => Except.ok (Scalar.zero, count)) noEntries.symm
  · refine ⟨blockedSum (numbers.map Prod.fst), ?_⟩
    simp only [if_neg noEntries]
    rfl

/-- Undefined real numbers have no part in the sum. -/
theorem Entries.sum_definedReals (numbers : List α) :
    (Entries.reals (numbers.filter fun number => !Scalar.isUndefined number)).sum =
      (Entries.reals numbers).sum := by
  unfold Entries.sum
  simp only [List.filter_filter, Bool.and_self]

end Sums

namespace Column

variable {column : Column Value}

theorem sum_definedPart (numbers : column.HoldsNumbers) :
    column.definedPart.entries.sum = column.entries.sum := by
  cases column with
  | float width words =>
      show (Entries.reals ((words.filter _).map width.toFloat)).sum = _
      refine Eq.trans ?_ (Entries.sum_definedReals (words.map width.toFloat))
      rw [List.filter_map]
      rfl
  | truth entries => rfl
  | int type entries => rfl
  | _ => exact numbers.elim

theorem infiniteCount_add_undefinedCount_le (numbers : column.HoldsNumbers) :
    column.entries.infiniteCount + column.entries.undefinedCount ≤ column.entries.count := by
  cases column with
  | float width words =>
      have infinite : (words.map width.toFloat).countP Entries.isInfinite ≤
          (words.map width.toFloat).countP fun number => !Scalar.isUndefined number := by
        refine List.countP_mono_left fun number _ isInfinite => ?_
        exact (Bool.and_eq_true_iff.mp isInfinite).1
      have all := (Entries.reals (words.map width.toFloat)).definedCount_add_undefinedCount
      exact (Nat.add_le_add_right infinite _).trans all.le
  | truth entries => exact Nat.zero_le _
  | int type entries => exact Nat.zero_le _
  | _ => exact numbers.elim

/-- The search finds something exactly if an entry is defined. -/
theorem extremum_eq_none_iff (numbers : column.HoldsNumbers) (extreme : Extreme) :
    ∃ found, column.entries.extremum extreme = .ok found ∧
      (found = none ↔ column.entries.undefinedCount = column.entries.count) := by
  cases column with
  | float width words =>
      refine ⟨_, Extreme.extremum_eq_foundIn, ?_⟩
      rw [Extreme.foundIn_eq_none_iff, List.any_eq_false]
      refine Iff.trans ?_ List.countP_eq_length.symm
      simp only [Bool.not_eq_true', Bool.not_eq_false]
  | truth entries =>
      refine ⟨_, rfl, ?_⟩
      rw [Option.map_eq_none_iff, firstBest?_eq_none]
      exact eq_comm
  | int type entries =>
      refine ⟨_, rfl, ?_⟩
      rw [Option.map_eq_none_iff, firstBest?_eq_none]
      exact eq_comm
  | _ => exact numbers.elim

/-- On truth values, whole numbers and real numbers all computations agree on what is defined. -/
theorem agreesOnDefined_of_holdsNumbers (numbers : column.HoldsNumbers) :
    ∃ total count, column.AgreesOnDefined total count := by
  obtain ⟨total, summed⟩ := column.sum_entries numbers
  have all := column.entries.definedCount_add_undefinedCount
  refine ⟨total, _, ⟨summed, all.trans column.count_entries,
    (sum_definedPart numbers).trans summed, fun _ => ?_, fun _ extreme => ?_⟩⟩
  · have atMost := infiniteCount_add_undefinedCount_le numbers
    omega
  · obtain ⟨found, searched, isNone⟩ := extremum_eq_none_iff numbers extreme
    exact ⟨found, searched, isNone.trans (by omega)⟩

theorem definedPart_of_all_defined (noneUndefined : column.entries.undefinedCount = 0) :
    column.definedPart = column := by
  cases column with
  | float width words =>
      refine congrArg (Column.float width) (List.filter_eq_self.mpr fun word isEntry => ?_)
      have isDefined := List.countP_eq_zero.mp noneUndefined _ (List.mem_map_of_mem isEntry)
      exact (Bool.not_eq_true' _).mpr (Bool.eq_false_iff.mpr isDefined)
  | complex width entries =>
      refine congrArg (Column.complex width) (List.filter_eq_self.mpr fun parts isEntry => ?_)
      have isDefined := List.countP_eq_zero.mp noneUndefined _ (List.mem_map_of_mem isEntry)
      exact (Bool.not_eq_true' _).mpr (Bool.eq_false_iff.mpr isDefined)
  | _ => rfl

/-- Of a column of numbers, the computations agree on what is defined, unless the numbers are complex
and some of them are undefined: these are not counted out of the sum. -/
theorem agreesOnDefined_iff (column : Column Value)
    (areNumbers : column.HoldsNumbers ∨ column.HoldsComplexes) :
    (∃ total count, column.AgreesOnDefined total count) ↔
      ¬(column.HoldsComplexes ∧ 0 < column.entries.undefinedCount) := by
  cases column with
  | complex width entries =>
      obtain ⟨total, summed⟩ := Entries.sum_complexes (α := Float)
        (entries.map fun parts => (width.toFloat parts.1, width.toFloat parts.2))
      have ofAll : (Column.complex width entries).entries.sum =
          .ok (total, (Column.complex width entries : Column Value).size) := by
        rw [← count_entries]
        exact summed
      constructor
      · rintro ⟨other, count, agrees⟩ ⟨_, someUndefined⟩
        cases ofAll.symm.trans agrees.summed
        have complement := agrees.complement
        omega
      · intro noneUndefined
        have allDefined : (Column.complex width entries).entries.undefinedCount = 0 := by
          by_contra someUndefined
          exact noneUndefined ⟨trivial, Nat.pos_of_ne_zero someUndefined⟩
        refine ⟨total, _, ⟨ofAll, by omega, ?_, nofun, nofun⟩⟩
        rw [definedPart_of_all_defined allDefined]
        exact ofAll
  | truth entries =>
      exact iff_of_true (agreesOnDefined_of_holdsNumbers trivial) fun isComplex => isComplex.1
  | int type entries =>
      exact iff_of_true (agreesOnDefined_of_holdsNumbers trivial) fun isComplex => isComplex.1
  | float width words =>
      exact iff_of_true (agreesOnDefined_of_holdsNumbers trivial) fun isComplex => isComplex.1
  | _ => exact (areNumbers.elim id id).elim

/-- An undefined entry and an infinite one among real numbers. -/
theorem agreesOnDefined_on_glow :
    (Column.float .double [0x7ff8000000000000, 0x7ff0000000000000, 0] : Column Value).HoldsNumbers ∧
      ∃ total count, (Column.float .double
        [0x7ff8000000000000, 0x7ff0000000000000, 0]).AgreesOnDefined total count :=
  ⟨trivial, (agreesOnDefined_iff (.float .double _) (.inl trivial)).mpr fun isComplex => isComplex.1⟩

/-- Of two complex numbers one is undefined, but both are summed and counted. -/
theorem undefined_complex_is_summed :
    (Column.complex .double [(0x3ff0000000000000, 0x7ff8000000000000),
        (0x4000000000000000, 0)]).entries.undefinedCount = 1 ∧
      (Column.complex .double [(0x3ff0000000000000, 0x7ff8000000000000),
        (0x4000000000000000, 0)]).entries.sum = .ok (3, 2) := by
  constructor
  · decide +kernel
  · decide +kernel

end Column

end FieldSurvey
