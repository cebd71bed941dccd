import Mathlib.Data.List.Nodup
import FieldSurvey.Registry

/-!
Registries hold each name once, and building one from entries with distinct names keeps them as they
are.
-/

namespace FieldSurvey.Registry

variable {β γ : Type}

theorem nodup_names_put (name : String) (entry : β) {registry : Registry β}
    (distinct : (names registry).Nodup) : (names (put name entry registry)).Nodup := by
  rw [names_put]
  split
  · exact distinct
  · rename_i notTaken
    rw [List.nodup_append]
    refine ⟨distinct, List.nodup_singleton name, ?_⟩
    intro first isFirst second isSecond same
    rw [List.mem_singleton] at isSecond
    rw [same, isSecond] at isFirst
    exact notTaken isFirst

theorem nodup_names_ofEntries (entries : List (String × β)) : (names (ofEntries entries)).Nodup := by
  have kept (entries : List (String × β)) (registry : Registry β)
      (distinct : (names registry).Nodup) :
      (names (entries.foldl (fun registry entry => registry.put entry.1 entry.2) registry)).Nodup := by
    induction entries generalizing registry with
    | nil => exact distinct
    | cons first rest inductionHypothesis =>
        exact inductionHypothesis _ (nodup_names_put first.1 first.2 distinct)
  exact kept entries [] List.nodup_nil

theorem forall_put {holds : String → β → Prop} {name : String} {entry : β} {registry : Registry β}
    (ofRegistry : ∀ item ∈ registry, holds item.1 item.2) (ofEntry : holds name entry) :
    ∀ item ∈ put name entry registry, holds item.1 item.2 := by
  induction registry with
  | nil =>
      intro item isItem
      rw [List.mem_singleton.mp isItem]
      exact ofEntry
  | cons head rest inductionHypothesis =>
      obtain ⟨other, old⟩ := head
      intro item isItem
      unfold put at isItem
      split at isItem
      · rename_i isSame
        rcases List.mem_cons.mp isItem with rfl | isLater
        · rw [beq_iff_eq] at isSame
          rw [isSame]
          exact ofEntry
        · exact ofRegistry item (List.mem_cons_of_mem _ isLater)
      · rcases List.mem_cons.mp isItem with rfl | isLater
        · exact ofRegistry (other, old) List.mem_cons_self
        · exact inductionHypothesis
            (fun other isOther => ofRegistry other (List.mem_cons_of_mem _ isOther)) item isLater

theorem forall_ofEntries (holds : String → β → Prop) {entries : List (String × β)}
    (ofEntries_holds : ∀ item ∈ entries, holds item.1 item.2) :
    ∀ item ∈ ofEntries entries, holds item.1 item.2 := by
  have kept (entries : List (String × β)) (registry : Registry β)
      (ofAll : ∀ item ∈ entries, holds item.1 item.2)
      (ofRegistry : ∀ item ∈ registry, holds item.1 item.2) :
      ∀ item ∈ entries.foldl (fun registry entry => registry.put entry.1 entry.2) registry,
        holds item.1 item.2 := by
    induction entries generalizing registry with
    | nil => exact ofRegistry
    | cons first rest inductionHypothesis =>
        apply inductionHypothesis
        · exact fun item isLater => ofAll item (List.mem_cons_of_mem _ isLater)
        · exact forall_put ofRegistry (ofAll first List.mem_cons_self)
  exact kept entries [] ofEntries_holds (fun _ isItem => by cases isItem)

theorem mem_of_find? {name : String} {entry : β} {registry : Registry β}
    (found : find? name registry = some entry) : (name, entry) ∈ registry := by
  unfold find? at found
  induction registry with
  | nil => cases found
  | cons head rest inductionHypothesis =>
      rw [List.lookup_cons] at found
      by_cases isSame : name = head.1
      · rw [beq_iff_eq.mpr isSame] at found
        cases found
        rw [isSame]
        exact List.mem_cons_self
      · rw [beq_eq_false_iff_ne.mpr isSame] at found
        exact List.mem_cons_of_mem _ (inductionHypothesis found)

theorem exists_find? {name : String} {registry : Registry β} (isTaken : name ∈ names registry) :
    ∃ entry, find? name registry = some entry := by
  unfold find?
  induction registry with
  | nil => cases isTaken
  | cons head rest inductionHypothesis =>
      rw [List.lookup_cons]
      by_cases isSame : name = head.1
      · rw [beq_iff_eq.mpr isSame]
        exact ⟨head.2, rfl⟩
      · rw [beq_eq_false_iff_ne.mpr isSame]
        rcases List.mem_cons.mp isTaken with isFirst | isLater
        · exact absurd isFirst isSame
        · exact inductionHypothesis isLater

theorem isSome_find?_iff {name : String} {registry : Registry β} :
    (find? name registry).isSome = true ↔ name ∈ names registry := by
  rw [Option.isSome_iff_exists]
  exact ⟨fun ⟨_, found⟩ => List.mem_map_of_mem (mem_of_find? found), exists_find?⟩

theorem find?_map (change : β → γ) (name : String) (registry : Registry β) :
    find? name (registry.map fun entry => (entry.1, change entry.2)) =
      (find? name registry).map change := by
  unfold find?
  induction registry with
  | nil => rfl
  | cons head rest inductionHypothesis =>
      rw [List.map_cons, List.lookup_cons, List.lookup_cons]
      cases name == head.1 with
      | false => exact inductionHypothesis
      | true => rfl

/-- Changing what stands under one name changes what is found there. -/
theorem find?_changed (change : β → β) (name : String) (registry : Registry β) :
    find? name (registry.map fun entry =>
        if entry.1 = name then (entry.1, change entry.2) else entry) =
      (find? name registry).map change := by
  unfold find?
  induction registry with
  | nil => rfl
  | cons head rest inductionHypothesis =>
      rw [List.map_cons, List.lookup_cons]
      by_cases isSame : head.1 = name
      · rw [if_pos isSame, List.lookup_cons, beq_iff_eq.mpr isSame.symm]
        rfl
      · rw [if_neg isSame, List.lookup_cons, beq_eq_false_iff_ne.mpr (Ne.symm isSame)]
        exact inductionHypothesis

/-- Changing what stands under one name changes nothing under other names. -/
theorem find?_changed_of_ne {name other : String} (isOther : other ≠ name) (change : β → β)
    (registry : Registry β) :
    find? other (registry.map fun entry =>
        if entry.1 = name then (entry.1, change entry.2) else entry) = find? other registry := by
  unfold find?
  induction registry with
  | nil => rfl
  | cons head rest inductionHypothesis =>
      rw [List.map_cons, List.lookup_cons, List.lookup_cons]
      by_cases isSame : head.1 = name
      · have notSame : (other == head.1) = false := by
          rw [beq_eq_false_iff_ne, isSame]
          exact isOther
        rw [if_pos isSame, notSame]
        exact inductionHypothesis
      · rw [if_neg isSame, inductionHypothesis]

theorem names_changed (change : β → β) (name : String) (registry : Registry β) :
    names (registry.map fun entry =>
      if entry.1 = name then (entry.1, change entry.2) else entry) = names registry := by
  unfold names
  rw [List.map_map]
  refine List.map_congr_left fun entry _ => ?_
  show (if entry.1 = name then (entry.1, change entry.2) else entry).1 = entry.1
  split <;> rfl

theorem find?_eq_none_iff {name : String} {registry : Registry β} :
    find? name registry = none ↔ name ∉ names registry := by
  rw [← isSome_find?_iff, Option.isSome_iff_ne_none, not_ne_iff]

theorem put_of_not_mem {name : String} {entry : β} {registry : Registry β}
    (isNew : name ∉ names registry) : put name entry registry = registry ++ [(name, entry)] := by
  induction registry with
  | nil => rfl
  | cons head rest inductionHypothesis =>
      obtain ⟨other, old⟩ := head
      have isOther : (other == name) = false := by
        rw [beq_eq_false_iff_ne]
        intro same
        exact isNew (by rw [← same]; exact List.mem_cons_self)
      have isNewInRest : name ∉ names rest := fun isTaken => isNew (List.mem_cons_of_mem _ isTaken)
      unfold put
      rw [isOther, inductionHypothesis isNewInRest]
      rfl

theorem ofEntries_of_nodup {entries : List (String × β)} (distinct : (names entries).Nodup) :
    ofEntries entries = entries := by
  have kept (entries : List (String × β)) (registry : Registry β)
      (distinct : (names (registry ++ entries)).Nodup) :
      entries.foldl (fun registry entry => registry.put entry.1 entry.2) registry =
        registry ++ entries := by
    induction entries generalizing registry with
    | nil => rw [List.append_nil]; rfl
    | cons first rest inductionHypothesis =>
        have isNew : first.1 ∉ names registry := by
          intro isTaken
          unfold names at distinct
          rw [List.map_append, List.nodup_append] at distinct
          exact distinct.2.2 _ isTaken first.1 List.mem_cons_self rfl
        rw [List.foldl_cons, put_of_not_mem isNew, inductionHypothesis]
        · rw [List.append_assoc]
          rfl
        · rw [List.append_assoc]
          exact distinct
  exact kept entries [] distinct

/-- What stands under the names of those that are there. -/
def present (registry : Registry (Option β)) : Registry β :=
  registry.filterMap fun entry => entry.2.map (entry.1, ·)

theorem mem_present {registry : Registry (Option β)} {entry : String × β} :
    entry ∈ present registry ↔ (entry.1, some entry.2) ∈ registry := by
  obtain ⟨name, value⟩ := entry
  unfold present
  rw [List.mem_filterMap]
  constructor
  · rintro ⟨⟨other, found⟩, isEntry, isThere⟩
    obtain ⟨_, rfl, same⟩ := Option.map_eq_some_iff.mp isThere
    cases same
    exact isEntry
  · exact fun isEntry => ⟨_, isEntry, rfl⟩

theorem names_present_sublist (registry : Registry (Option β)) :
    (names (present registry)).Sublist (names registry) := by
  induction registry with
  | nil => exact .slnil
  | cons first rest inductionHypothesis =>
      obtain ⟨name, value⟩ := first
      cases value with
      | none => exact inductionHypothesis.cons name
      | some value => exact inductionHypothesis.cons_cons name

theorem find?_present {name : String} {registry : Registry (Option β)}
    (distinct : (names registry).Nodup) :
    find? name (present registry) = (find? name registry).join := by
  induction registry with
  | nil => rfl
  | cons first rest inductionHypothesis =>
      obtain ⟨isNew, distinctLater⟩ := List.nodup_cons.mp distinct
      have others := inductionHypothesis distinctLater
      obtain ⟨other, value⟩ := first
      unfold find? at others ⊢
      rw [List.lookup_cons]
      by_cases isSame : name = other
      · rw [beq_iff_eq.mpr isSame]
        cases value with
        | none =>
            have isAbsent : find? name (present rest) = none := find?_eq_none_iff.mpr fun isPresent =>
              isNew (isSame ▸ (names_present_sublist rest).subset isPresent)
            exact isAbsent
        | some value =>
            show List.lookup name ((other, value) :: present rest) = some value
            rw [List.lookup_cons, beq_iff_eq.mpr isSame]
      · rw [beq_eq_false_iff_ne.mpr isSame]
        cases value with
        | none => exact others
        | some value =>
            show List.lookup name ((other, value) :: present rest) = _
            rw [List.lookup_cons, beq_eq_false_iff_ne.mpr isSame]
            exact others

end FieldSurvey.Registry
