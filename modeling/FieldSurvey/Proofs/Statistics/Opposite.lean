import FieldSurvey.Proofs.Kernel.Opposite
import FieldSurvey.Proofs.Registry
import FieldSurvey.Proofs.Statistics.Search

/-!
The least and the greatest entry of a field are mirror images. Where a field holds the numbers with
the other signs, each process finds its own entry at the same place, the vote elects the same
process, and this process has the same place to tell; so the search for the opposite end has the
same outcome with the value of the other sign.
-/

namespace FieldSurvey

open Collective ProcessGroup OwnExtremum

section Negated

/-- The field with the other sign at every entry of a column of reals. -/
def Field.negated (field : Field) : Field :=
  match field.values with
  | .scalar (.float width words) =>
      { field with values := .scalar (.float width (words.map width.negate)) }
  | _ => field

def Domain.negated (name : String) (domain : Domain) : Domain :=
  { domain with
    fields := domain.fields.map fun entry =>
      if entry.1 = name then (entry.1, entry.2.negated) else entry }

/-- The dataset in which the entries of one field have the other signs. -/
def Dataset.negated (name : String) (dataset : Dataset) : Dataset :=
  dataset.map (Domain.negated name)

def Entries.negated : Entries Float → Entries Float
  | reals entries => .reals (entries.map fun number => -number)
  | others => others

def FieldPart.negated (part : FieldPart Float) : FieldPart Float :=
  { part with entries := Entries.negated <$> part.entries }

def OwnExtremum.negated (own : OwnExtremum Float) : OwnExtremum Float :=
  ⟨-own.value, own.index, own.part.negated⟩

def FieldExtremum.negated (found : FieldExtremum Float) : FieldExtremum Float :=
  { found with value := -found.value }

end Negated

section Fields

variable {name : String}

theorem toFloat_negated (width : FloatWidth) (words : List (BitVec width.bits)) :
    (words.map width.negate).map width.toFloat =
      (words.map width.toFloat).map fun number => -number := by
  rw [List.map_map, List.map_map]
  exact List.map_congr_left fun word _ => width.toFloat_negate word

theorem reals?_negated (field : Field) :
    field.negated.reals? = field.reals?.map fun entries => entries.map fun number => -number := by
  obtain ⟨own, association, topology, values⟩ := field
  cases values with
  | components columns => rfl
  | scalar column =>
      cases column with
      | float width words =>
          exact congrArg some (toFloat_negated width words)
      | truth => rfl
      | int => rfl
      | complex => rfl
      | text => rfl
      | bytes => rfl
      | mixed => rfl

theorem find?_negated (domain : Domain) :
    (domain.negated name).fields.find? name = (domain.fields.find? name).map Field.negated :=
  Registry.find?_changed Field.negated name domain.fields

theorem holders_negated (dataset : Dataset) :
    (dataset.negated name).holders name =
      (dataset.holders name).map fun holder => (holder.1.negated name, holder.2.negated) := by
  unfold Dataset.holders Dataset.negated
  rw [List.filterMap_map, List.map_filterMap]
  refine List.filterMap_congr fun domain _ => ?_
  show ((domain.negated name).fields.find? name).map _ = _
  rw [find?_negated, Option.map_map, Option.map_map]
  rfl

theorem HoldsReals.negated {datasets : List Dataset} (holdsReals : HoldsReals name datasets) :
    HoldsReals name (datasets.map (Dataset.negated name)) := by
  intro dataset isShare holder isHolder
  obtain ⟨original, isOriginal, rfl⟩ := List.mem_map.mp isShare
  rw [holders_negated] at isHolder
  obtain ⟨holder, isOriginalHolder, rfl⟩ := List.mem_map.mp isHolder
  obtain ⟨entries, areReals⟩ := holdsReals original isOriginal holder isOriginalHolder
  exact ⟨_, by rw [reals?_negated, areReals]; rfl⟩

theorem entryAt?_negated (datasets : List Dataset) (rank place index : Nat) :
    entryAt? name (datasets.map (Dataset.negated name)) rank place index =
      (entryAt? name datasets rank place index).map fun number => -number := by
  unfold entryAt?
  simp only [Option.bind_eq_bind, List.getElem?_map, Option.bind_map, Option.map_bind]
  refine congrArg _ (funext fun dataset => ?_)
  simp only [Function.comp_apply, holders_negated, List.getElem?_map, Option.bind_map,
    Option.map_bind]
  refine congrArg _ (funext fun holder => ?_)
  simp only [Function.comp_apply, reals?_negated, Option.bind_map]
  refine congrArg _ (funext fun entries => ?_)
  exact List.getElem?_map

/-- An entry of the field lies where it did. -/
theorem locate_negated (domain : Domain) (index : Except Error Int) :
    (domain.negated name).locate name index = domain.locate name index := by
  have associationOf (field : Field) : field.negated.association = field.association := by
    unfold Field.negated
    split <;> rfl
  have topologyOf (field : Field) : field.negated.topology = field.topology := by
    unfold Field.negated
    split <;> rfl
  have ofField : (domain.negated name).field name = Field.negated <$> domain.field name := by
    unfold Domain.field
    rw [find?_negated]
    cases domain.fields.find? name with
    | some field => rfl
    | none =>
        show (domain.id >>= _) = Field.negated <$> (domain.id >>= _)
        cases domain.id <;> rfl
  unfold Domain.locate
  rw [ofField]
  cases domain.field name with
  | error cause => rfl
  | ok field =>
      show (if field.negated.association = "vertex" then _ else _) = _
      rw [associationOf, topologyOf]
      rfl

theorem fieldPart_negated (domain : Domain) (field : Field) :
    (domain.negated name).fieldPart name field.negated = (domain.fieldPart name field).negated := by
  have sameEntries : ((domain.negated name).fieldPart name field.negated).entries =
      Entries.negated <$> (domain.fieldPart name field).entries := by
    obtain ⟨own, association, topology, values⟩ := field
    cases values with
    | components columns => rfl
    | scalar column =>
        cases column with
        | float width words =>
            exact congrArg (fun entries => Except.ok (Entries.reals entries))
              (toFloat_negated width words)
        | truth => rfl
        | int => rfl
        | complex => rfl
        | text => rfl
        | bytes => rfl
        | mixed => rfl
  have sameLocate : ((domain.negated name).fieldPart name field.negated).locate =
      (domain.fieldPart name field).locate :=
    funext fun index => locate_negated domain (.ok index)
  exact FieldPart.mk.injEq .. |>.mpr ⟨sameEntries, sameLocate, rfl⟩

end Fields

section Search

variable {extreme : Extreme} {name : String}

/-- Each process finds its own entry where it did. -/
theorem ownFound_negated (extreme : Extreme) (name : String) (dataset : Dataset) :
    (dataset.negated name).ownFound extreme.opposite name =
      (dataset.ownFound extreme name).map OwnExtremum.negated := by
  have leadsAlike (candidates : List (Option (OwnExtremum Float))) :
      leader (fun candidate best => extreme.opposite.beats candidate.value best.value)
          (candidates.map (Option.map OwnExtremum.negated)) =
        (leader (fun candidate best => extreme.beats candidate.value best.value) candidates).map
          OwnExtremum.negated :=
    leader_map OwnExtremum.negated
      (fun candidate best => extreme.beats_opposite candidate.value best.value) candidates
  unfold Dataset.ownFound
  rw [← leadsAlike, holders_negated, List.map_map, List.map_map]
  congr 1
  apply List.map_congr_left
  intro holder _
  have searched : extreme.opposite.foundIn (holder.2.negated.reals?.getD []) =
      (extreme.foundIn (holder.2.reals?.getD [])).map fun found => (-found.1, found.2) := by
    rw [← extreme.foundIn_opposite, reals?_negated]
    cases holder.2.reals? <;> rfl
  simp only [Function.comp_apply, searched, fieldPart_negated, Option.map_map]
  rfl

theorem presentSubmissions_negated (rank : Nat) (own : List (Option (OwnExtremum Float))) :
    presentSubmissions rank (own.map fun own => submission (own.map OwnExtremum.negated)) =
      (presentSubmissions rank (own.map submission)).map
        (Option.map (Prod.map (fun number => -number) id)) := by
  induction own generalizing rank with
  | nil => rfl
  | cons first rest inductionHypothesis =>
      have others := inductionHypothesis (rank + 1)
      unfold presentSubmissions at others ⊢
      rw [List.map_cons, List.map_cons, List.zipIdx_cons, List.zipIdx_cons, List.map_cons,
        List.map_cons, List.map_cons, others]
      cases first <;> rfl

/-- The vote elects the same process. -/
theorem select_opposite (extreme : Extreme) (own : List (Option (OwnExtremum Float))) :
    select extreme.opposite (own.map fun own => submission (own.map OwnExtremum.negated)) =
      (select extreme (own.map submission)).map (Prod.map (fun number => -number) id) := by
  rw [select_eq_leader, select_eq_leader, presentSubmissions_negated]
  exact leader_map _ (fun candidate best => extreme.beats_opposite candidate.1 best.1) _

theorem told_negated (own : Option (OwnExtremum Float)) :
    told (own.map OwnExtremum.negated) = told own := by
  cases own <;> rfl

theorem leftWaiting_negated {β : Type} (prepared : Except Error β) :
    FieldExtremum.negated <$> (leftWaiting prepared : Except Error (FieldExtremum Float)) =
      leftWaiting prepared := by
  cases prepared <;> rfl

/-- Where each process finds its own entry with the other sign at the same place, the group ends the
search for the opposite end as it does for the given one, with the value of the other sign. -/
theorem together_extremum_opposite {ω : Type} {kind : GroupKind} {shares : List ω}
    (shareOf mirrored : ω → FieldShare Float) (connects : kind.Connects shares.length)
    (named : ∀ share, (shareOf share).name = name)
    (namedAlike : ∀ share, (mirrored share).name = name)
    (own : ProcessGroup × ω → Option (OwnExtremum Float))
    (scans : ∀ seat ∈ seats kind shares, (shareOf seat.2).ownExtremum extreme = .ok (own seat))
    (scansMirrored : ∀ seat ∈ seats kind shares,
      (mirrored seat.2).ownExtremum extreme.opposite = .ok ((own seat).map OwnExtremum.negated)) :
    together kind (fun group share => (mirrored share).loggedExtremum extreme.opposite group)
        shares =
      (together kind (fun group share => (shareOf share).loggedExtremum extreme group) shares).map
        fun outcome => FieldExtremum.negated <$> outcome := by
  let ownNegated : ProcessGroup × ω → Option (OwnExtremum Float) := fun seat =>
    (own seat).map OwnExtremum.negated
  have elects : select extreme.opposite
        ((seats kind shares).map fun seat => submission (ownNegated seat)) =
      (select extreme ((seats kind shares).map fun seat => submission (own seat))).map
        (Prod.map (fun number => -number) id) := by
    have ofOwn := select_opposite extreme ((seats kind shares).map own)
    rwa [List.map_map, List.map_map] at ofOwn
  cases chosen : select extreme ((seats kind shares).map fun seat => submission (own seat)) with
  | none =>
      rw [chosen] at elects
      rw [extremum_none mirrored extreme.opposite connects namedAlike ownNegated scansMirrored elects,
        extremum_none shareOf extreme connects named own scans chosen, List.map_map]
      rfl
  | some winner =>
      obtain ⟨value, rank⟩ := winner
      obtain ⟨teller, isSeat, rfl, found, holds, _⟩ := exists_winner extreme chosen
      rw [chosen] at elects
      have tellsAlike (seat : ProcessGroup × ω) :
          seat.1.placeOffer (told (ownNegated seat)) teller.1.rank =
            seat.1.placeOffer (told (own seat)) teller.1.rank :=
        congrArg (fun place => seat.1.placeOffer place teller.1.rank) (told_negated (own seat))
      cases offers : teller.1.placeOffer (told (own teller)) teller.1.rank with
      | error cause =>
          rw [extremum_untold mirrored extreme.opposite connects namedAlike ownNegated scansMirrored
              isSeat elects ((tellsAlike teller).trans offers),
            extremum_untold shareOf extreme connects named own scans isSeat chosen offers,
            List.map_map]
          refine List.map_congr_left fun seat _ => ?_
          rw [tellsAlike]
          exact (leftWaiting_negated _).symm
      | ok payload =>
          have toldPlace := offers
          rw [holds] at toldPlace
          obtain ⟨position, domain, rfl⟩ := placeOffer_winner toldPlace
          rw [extremum_told mirrored extreme.opposite connects namedAlike ownNegated scansMirrored
              isSeat elects ((tellsAlike teller).trans offers),
            extremum_told shareOf extreme connects named own scans isSeat chosen offers,
            List.map_map]
          rfl

end Search

/-- With the other signs at all entries of a field of reals, whatever their size and whether they are
defined, the search for the opposite end has the same outcome on every process of a group, with the
value of the other sign. -/
theorem extremum_opposite (extreme : Extreme) (name : String) (kind : GroupKind)
    (datasets : List Dataset) (connects : kind.Connects datasets.length)
    (holdsReals : HoldsReals name datasets) :
    (∀ rank place index, entryAt? name (datasets.map (Dataset.negated name)) rank place index =
        (entryAt? name datasets rank place index).map fun number => -number) ∧
      together kind (extremumProgram extreme.opposite (.text name))
          (datasets.map (Dataset.negated name)) =
        (together kind (extremumProgram extreme (.text name)) datasets).map fun outcome =>
          FieldExtremum.negated <$> outcome := by
  refine ⟨entryAt?_negated datasets, ?_⟩
  let own : ProcessGroup × Dataset → Option (OwnExtremum Float) := fun seat =>
    seat.2.ownFound extreme name
  have scans : ∀ seat ∈ seats kind datasets,
      (Dataset.fieldShare (.text name) seat.2).ownExtremum extreme = .ok (own seat) :=
    fun seat isSeat => ownExtremum_found holdsReals (share_mem_of_mem_seats isSeat)
  have scansNegated : ∀ seat ∈ seats kind datasets,
      (Dataset.fieldShare (.text name) (seat.2.negated name)).ownExtremum extreme.opposite =
        .ok ((own seat).map OwnExtremum.negated) := by
    intro seat isSeat
    have isShare := List.mem_map_of_mem (f := Dataset.negated name) (share_mem_of_mem_seats isSeat)
    exact (ownExtremum_found holdsReals.negated isShare).trans
      (congrArg Except.ok (ownFound_negated extreme name seat.2))
  rw [together_map]
  exact together_extremum_opposite (Dataset.fieldShare (.text name))
    (fun dataset => Dataset.fieldShare (.text name) (dataset.negated name)) connects
    (fun _ => rfl) (fun _ => rfl) own scans scansNegated

/-- An undefined entry beside an infinite one. -/
theorem extremum_opposite_in_glow :
    GroupKind.lockstep.Connects 2 ∧ HoldsReals "warmth" [[], [glowDomain]] ∧
      together .lockstep (extremumProgram .greatest (.text "warmth"))
          [[], [glowDomain.negated "warmth"]] =
        (together .lockstep (extremumProgram .least (.text "warmth")) [[], [glowDomain]]).map
          fun outcome => FieldExtremum.negated <$> outcome := by
  have holdsReals : HoldsReals "warmth" [[], [glowDomain]] := by decide +kernel
  exact ⟨by decide, holdsReals, (extremum_opposite .least "warmth" .lockstep [[], [glowDomain]]
    (by decide) holdsReals).2⟩

end FieldSurvey
