import FieldSurvey.Engine.Settings
import FieldSurvey.Proofs.Outcome
import FieldSurvey.Proofs.Value.Named

/-!
Settings of an engine that are given by a mapping of names, each setting at most once. Only the bin
count and the use of message passing are changed on the way; what is not given has its default.
-/

namespace FieldSurvey.Settings

section Adjust

variable {name : String} {change : Value → Except Error Value} {named : List (String × Value)}

theorem adjust_cons (first : String × Value) (rest : List (String × Value)) :
    adjust name change ((first :: rest).map Value.textEntry) = do
      let adjusted ← if first.1 = name then (first.1, ·) <$> change first.2 else .ok first
      let others ← adjust name change (rest.map Value.textEntry)
      return Value.textEntry adjusted :: others := by
  unfold adjust
  rw [List.map_cons, List.mapM_cons]
  show (if (first.1 == name) = true then _ else _) >>= _ = _
  by_cases isSame : first.1 = name
  · rw [if_pos (beq_iff_eq.mpr isSame), if_pos isSame]
    show (change first.2 >>= _) >>= _ = _
    cases change first.2 <;> rfl
  · rw [if_neg (fun same => isSame (beq_iff_eq.mp same)), if_neg isSame]
    rfl

theorem adjust_of_not_mem (isAbsent : name ∉ Registry.names named) :
    adjust name change (named.map Value.textEntry) = .ok (named.map Value.textEntry) := by
  induction named with
  | nil => rfl
  | cons first rest inductionHypothesis =>
      have isOther : first.1 ≠ name := fun same => isAbsent (same ▸ List.mem_cons_self)
      rw [adjust_cons, if_neg isOther,
        inductionHypothesis fun isLater => isAbsent (List.mem_cons_of_mem _ isLater)]
      rfl

/-- What stands under a name once is changed there, or its change fails. -/
theorem adjust_texts (distinct : (Registry.names named).Nodup) {value : Value}
    (found : Registry.find? name named = some value) :
    adjust name change (named.map Value.textEntry) = do
      let changed ← change value
      return (named.map fun entry =>
        if entry.1 = name then (entry.1, changed) else entry).map Value.textEntry := by
  induction named with
  | nil => cases found
  | cons first rest inductionHypothesis =>
      obtain ⟨isNew, distinctLater⟩ := List.nodup_cons.mp distinct
      unfold Registry.find? at found inductionHypothesis
      rw [List.lookup_cons] at found
      rw [adjust_cons]
      by_cases isSame : first.1 = name
      · rw [beq_iff_eq.mpr isSame.symm] at found
        cases found
        rw [isSame] at isNew
        have othersKept (changed : Value) : (rest.map fun entry =>
            if entry.1 = name then (entry.1, changed) else entry) = rest := by
          refine (List.map_congr_left fun entry isEntry => if_neg fun same => isNew ?_).trans
            (List.map_id rest)
          exact same ▸ List.mem_map_of_mem isEntry
        rw [if_pos isSame, adjust_of_not_mem isNew]
        cases change first.2 with
        | error cause => rfl
        | ok changed =>
            simp only [List.map_cons, if_pos isSame, othersKept]
            rfl
      · rw [beq_eq_false_iff_ne.mpr (Ne.symm isSame)] at found
        rw [if_neg isSame, inductionHypothesis distinctLater found]
        cases change value with
        | error cause => rfl
        | ok changed =>
            simp only [List.map_cons, if_neg isSame]
            rfl

end Adjust

section Mapping

/-- What becomes of a setting that may be given: a change that may fail, or else its default. -/
def changedOr (change : Value → Except Error Value) (otherwise : Value) :
    Option Value → Except Error Value
  | none => .ok otherwise
  | some value => change value

/-- The check of settings given by name, with the bin count and the use of message passing as they
have been read. -/
def checkNamed (named : List (String × Value)) (count use : Value) : Except Error Settings :=
  check ((Registry.find? "default_topology" named).getD default.topology) count
    ((Registry.find? "quantile_interpolation" named).getD (.text default.interpolation.name))
    ((Registry.find? "log_level" named).getD (.text default.logLevel)) use

variable {named : List (String × Value)}

theorem given_texts (name : String) (named : List (String × Value)) :
    given (named.map Value.textEntry) name =
      (Registry.find? name named).getD ((defaults.lookup name).getD .null) :=
  congrArg (fun found => Option.getD found _) (find?_texts name named)

/-- Where all names are known, what remains is to adjust two of the settings. -/
theorem ofMapping_known (known : ∀ name ∈ Registry.names named, name ∈ names) :
    ofMapping (.record named) =
      (adjust "histogram_bins" (fun count => Value.whole <$> count.toWhole)
        (named.map Value.textEntry) >>= fun entries =>
          adjust "use_mpi" (fun use => Value.truth <$> use.isTrue) entries >>= ofKnown) := by
  have areKeys : ((named.map Value.textEntry).map Prod.fst).all Value.isKey = true := by
    rw [List.all_eq_true, List.map_map]
    intro key isKey
    obtain ⟨entry, _, rfl⟩ := List.mem_map.mp isKey
    rfl
  have noneUnknown : ((named.map Value.textEntry).map Prod.fst).filter
      (fun key => !isKnown key) = [] := by
    rw [List.filter_eq_nil_iff, List.map_map]
    intro key isKey
    obtain ⟨entry, isEntry, rfl⟩ := List.mem_map.mp isKey
    have isName := known entry.1 (List.mem_map_of_mem isEntry)
    have isKnownKey : isKnown (.text entry.1) = true :=
      List.any_eq_true.mpr ⟨entry.1, isName, beq_self_eq_true _⟩
    show ¬(!isKnown (.text entry.1)) = true
    rw [isKnownKey]
    exact Bool.false_ne_true
  unfold ofMapping
  show (if (!((named.map Value.textEntry).map Prod.fst).all Value.isKey) = true then _ else _) = _
  rw [areKeys]
  show keyTexts (((named.map Value.textEntry).map Prod.fst).filter
    fun key => !isKnown key) >>= _ = _
  rw [noneUnknown]
  rfl

theorem ofKnown_texts (named : List (String × Value)) :
    ofKnown (named.map Value.textEntry) =
      checkNamed named ((Registry.find? "histogram_bins" named).getD default.binCount)
        ((Registry.find? "use_mpi" named).getD default.useMessagePassing) := by
  unfold ofKnown
  simp only [given_texts]
  rfl

theorem adjust_use (distinct : (Registry.names named).Nodup) :
    (adjust "use_mpi" (fun use => Value.truth <$> use.isTrue) (named.map Value.textEntry) >>=
        ofKnown) =
      changedOr (fun use => Value.truth <$> use.isTrue) default.useMessagePassing
          (Registry.find? "use_mpi" named) >>=
        checkNamed named ((Registry.find? "histogram_bins" named).getD default.binCount) := by
  cases found : Registry.find? "use_mpi" named with
  | none =>
      rw [adjust_of_not_mem (Registry.find?_eq_none_iff.mp found), ok_bind, ofKnown_texts, found]
      rfl
  | some value =>
      rw [adjust_texts distinct found]
      simp only [changedOr]
      cases Value.truth <$> value.isTrue with
      | error cause => rfl
      | ok changed =>
          show ofKnown (List.map Value.textEntry _) = checkNamed named _ changed
          have kept {other : String} (isOther : other ≠ "use_mpi") :=
            Registry.find?_changed_of_ne isOther (fun _ => changed) named
          unfold checkNamed
          rw [ofKnown_texts, Registry.find?_changed (fun _ => changed), found, checkNamed,
            kept (by decide), kept (by decide), kept (by decide), kept (by decide)]
          rfl

/-- The settings that a mapping of known names gives. -/
theorem ofMapping_record (distinct : (Registry.names named).Nodup)
    (known : ∀ name ∈ Registry.names named, name ∈ names) :
    ofMapping (.record named) =
      changedOr (fun count => Value.whole <$> count.toWhole) default.binCount
          (Registry.find? "histogram_bins" named) >>= fun count =>
        changedOr (fun use => Value.truth <$> use.isTrue) default.useMessagePassing
          (Registry.find? "use_mpi" named) >>= checkNamed named count := by
  rw [ofMapping_known known]
  cases found : Registry.find? "histogram_bins" named with
  | none =>
      rw [adjust_of_not_mem (Registry.find?_eq_none_iff.mp found), ok_bind, adjust_use distinct,
        found]
      rfl
  | some value =>
      rw [adjust_texts distinct found]
      simp only [changedOr]
      cases Value.whole <$> value.toWhole with
      | error cause => rfl
      | ok changed =>
          show adjust "use_mpi" _ (List.map Value.textEntry _) >>= ofKnown =
            _ >>= checkNamed named changed
          have kept {other : String} (isOther : other ≠ "histogram_bins") :=
            Registry.find?_changed_of_ne isOther (fun _ => changed) named
          have stillDistinct : (Registry.names (named.map fun entry =>
              if entry.1 = "histogram_bins" then (entry.1, changed) else entry)).Nodup := by
            rw [Registry.names_changed (fun _ => changed)]
            exact distinct
          rw [adjust_use stillDistinct, Registry.find?_changed (fun _ => changed), found,
            kept (by decide)]
          refine congrArg _ (funext fun use => ?_)
          unfold checkNamed
          rw [kept (by decide), kept (by decide), kept (by decide)]
          rfl

end Mapping

end FieldSurvey.Settings
