import FieldSurvey.Proofs.Engine.Solitary
import FieldSurvey.Proofs.Statistics.Counting

/-!
Queries that count over a whole dataset. What they count is the sum of what is counted in each domain,
whichever process holds it: the entries of a field, the topologies of each kind, and the points and
elements of a mesh. So the counts depend on the domains only, and they account for every entry of a
field and for every domain that defines a topology.
-/

-- The sums of whole numbers start from the built-in zero.
attribute [local instance (1100)] Zero.ofOfNat0

namespace FieldSurvey

open ProcessGroup Collective

section Topologies

/-- The topology of a domain that a count covers: the one of a name, if the domain defines it, and
the first one of the domain if no name is given. -/
def Domain.countedTopology? (name : Option String) (domain : Domain) : Option String :=
  match name with
  | some name => if domain.hasTopology name then some name else none
  | none => domain.topologies.head?.map Prod.fst

/-- The topologies that a count covers, each with its domain. -/
def Dataset.countedTopologies (name : Option String) (dataset : Dataset) : List (Domain × String) :=
  dataset.filterMap fun domain => (domain.countedTopology? name).map (domain, ·)

/-- A value that asks for a topology by its name, or for no name. -/
def Value.AsksTopology (value : Value) : Option String → Prop
  | some name => name ≠ "" ∧ value = .text name
  | none => value.isTrue = .ok false

theorem Value.isTrue_of_asksTopology {wanted : Value} {name : Option String}
    (asks : wanted.AsksTopology name) : wanted.isTrue = .ok name.isSome := by
  cases name with
  | none => exact asks
  | some name =>
      obtain ⟨isName, rfl⟩ := asks
      have notEmpty : name.isEmpty = false := by
        rw [Bool.eq_false_iff, Ne, String.isEmpty_iff]
        exact isName
      simp only [Value.isTrue, Value.scalarIsTrue, notEmpty, Bool.not_false, Option.isSome_some]

theorem Domain.chooseTopology_named {name : String} {domain : Domain} (isName : name ≠ "")
    (has : domain.hasTopology name = true) : domain.chooseTopology (.text name) = .ok name := by
  have kept : (some name).filter (fun name => !name.isEmpty) = some name := by
    simp [Option.filter, isName]
  simp only [chooseTopology, topologyName, kept, has, if_true, pure_eq_ok]

theorem Dataset.mapM_named {name : String} (isName : name ≠ "")
    (count : String → Domain → Except Error Int) (dataset : Dataset) :
    ((dataset.filterMap fun domain => (domain.topologies.find? name).map (domain, ·)).mapM
        fun holder => holder.1.chooseTopology (.text name) >>= fun found => count found holder.1) =
      (dataset.countedTopologies (some name)).mapM fun counted => count counted.2 counted.1 := by
  induction dataset with
  | nil => rfl
  | cons domain rest inductionHypothesis =>
      have isDefined : domain.hasTopology name = (domain.topologies.find? name).isSome := rfl
      cases found : domain.topologies.find? name with
      | none =>
          simp only [countedTopologies, List.filterMap_cons, Domain.countedTopology?, isDefined,
            found]
          exact inductionHypothesis
      | some topology =>
          have has : domain.hasTopology name = true := by rw [isDefined, found, Option.isSome_some]
          simp only [countedTopologies, List.filterMap_cons, Domain.countedTopology?, has, found,
            Option.map_some, if_true, List.mapM_cons, Domain.chooseTopology_named isName has,
            ok_bind]
          rw [inductionHypothesis]
          rfl

theorem Dataset.mapM_first (count : String → Domain → Except Error Int) (dataset : Dataset) :
    ((dataset.filter fun domain => !domain.topologies.isEmpty).mapM fun domain =>
        domain.chooseTopology .null >>= fun found => count found domain) =
      (dataset.countedTopologies none).mapM fun counted => count counted.2 counted.1 := by
  induction dataset with
  | nil => rfl
  | cons domain rest inductionHypothesis =>
      cases topologies : domain.topologies with
      | nil =>
          simp only [countedTopologies, List.filterMap_cons, List.filter_cons, topologies,
            Domain.countedTopology?]
          exact inductionHypothesis
      | cons first others =>
          have chosen : domain.chooseTopology .null = .ok first.1 := by
            simp only [Domain.chooseTopology, Domain.topologyName, topologies]
            rfl
          simp only [countedTopologies, List.filterMap_cons, List.filter_cons, topologies,
            List.isEmpty_cons, Bool.not_false, if_true, Domain.countedTopology?, List.head?_cons,
            Option.map_some, List.mapM_cons, chosen, ok_bind]
          rw [inductionHypothesis]
          rfl

/-- What a process counts is the sum over the topologies that the count covers. -/
theorem Dataset.ownTotal_eq {wanted : Value} {name : Option String}
    (asks : wanted.AsksTopology name) (count : String → Domain → Except Error Int)
    (dataset : Dataset) :
    dataset.ownTotal count wanted = (fun counts : List Int => counts.sum) <$>
      (dataset.countedTopologies name).mapM fun counted => count counted.2 counted.1 := by
  unfold ownTotal
  simp only [Value.isTrue_of_asksTopology asks, ok_bind]
  cases name with
  | some name =>
      obtain ⟨isName, rfl⟩ := asks
      rw [← mapM_named isName]
      simp only [Option.isSome_some, if_true, havingTopology, having_text, ok_bind]
      rfl
  | none =>
      rw [← mapM_first]
      rfl

end Topologies

section Kinds

def Domain.hasTopologyOfKind (name : String) (kind : TopologyKind) (domain : Domain) : Bool :=
  (domain.topologies.find? name).any fun topology => topology.kind = kind

/-- The number of domains in which the topology of a name is of a kind. -/
def Dataset.topologiesOfKind (name : String) (kind : TopologyKind) (dataset : Dataset) : Nat :=
  dataset.countP (Domain.hasTopologyOfKind name kind)

theorem Dataset.count_kinds (name : String) (kind : TopologyKind) (dataset : Dataset) :
    ((dataset.filterMap fun domain => (domain.topologies.find? name).map (domain, ·)).map
        fun holder => holder.2.kind).count kind = dataset.topologiesOfKind name kind := by
  rw [List.count, List.countP_map, List.countP_filterMap]
  apply List.countP_congr
  intro domain _
  unfold Domain.hasTopologyOfKind
  cases domain.topologies.find? name <;> simp

theorem Dataset.topologiesOfKind_dealt {domains : Dataset} {datasets : List Dataset}
    (dealt : datasets.flatten.Perm domains) (name : String) (kind : TopologyKind) :
    (datasets.map fun dataset => (dataset.topologiesOfKind name kind : Int)).sum =
      domains.topologiesOfKind name kind := by
  unfold topologiesOfKind
  rw [← dealt.countP_eq, List.countP_flatten, ← sum_map_ofNat, List.map_map]
  rfl

/-- Every domain that defines a topology counts for one kind. -/
theorem Dataset.sum_topologiesOfKind (name : String) (dataset : Dataset) :
    (TopologyKind.all.map fun kind => dataset.topologiesOfKind name kind).sum =
      dataset.countP (Domain.hasTopology name) := by
  induction dataset with
  | nil => rfl
  | cons domain rest inductionHypothesis =>
      have ofDomain : (TopologyKind.all.map fun kind =>
          if domain.hasTopologyOfKind name kind then 1 else 0).sum =
            if domain.hasTopology name then 1 else 0 := by
        unfold Domain.hasTopologyOfKind Domain.hasTopology Registry.has
        cases domain.topologies.find? name with
        | none => rfl
        | some topology => cases kind : topology.kind <;> simp [kind, TopologyKind.all]
      simp only [topologiesOfKind, List.countP_cons, List.sum_map_add]
      rw [ofDomain, ← inductionHypothesis]
      rfl

theorem countTotals_map {γ δ : Type} (things : List γ) (count : δ → γ → Int) (items : List δ) :
    countTotals things.length (items.map fun item => things.map (count item)) =
      things.map fun thing => (items.map fun item => count item thing).sum := by
  apply List.ext_getElem
  · simp [countTotals]
  · intro place _ inThings
    have isThing : place < things.length := by simpa using inThings
    simp [countTotals, Function.comp_def, isThing]

end Kinds

section Answers

/-- However the arguments of a query are written and however the domains are dealt to a connected
group, all its processes return one answer, and it meets a condition. -/
def Dataset.AnsweredByAll (domains : Dataset) (settings : Settings) (query : Query)
    (isAsked : Engine.Bound → Prop) (condition : Answer → Prop) : Prop :=
  ∀ (arguments : Arguments Answer) (bound : Engine.Bound),
    query.signature.bind arguments = .ok bound → isAsked bound →
    ∀ (kind : GroupKind) (datasets : List Dataset), kind.Connects datasets.length →
      datasets.flatten.Perm domains →
      ∃ whole, together kind (fun group dataset =>
          (Engine.mk group settings).call dataset query arguments) datasets =
        datasets.map (fun _ => .ok whole) ∧ condition whole

namespace Engine.Bound

def AsksField (name : String) (bound : Bound) : Prop := bound.valueOf "field" = .text name

/-- Asks for all domains, and for a topology by its name or for no name. Where no topology is given,
it is the one in the settings. -/
def AsksTopology (settings : Settings) (name : Option String) (bound : Bound) : Prop :=
  (bound.get "domain").isNull = true ∧
    (Engine.topologyOr ⟨aloneGroup, settings⟩ (bound.get "topology")).AsksTopology name

end Engine.Bound

theorem Engine.call_of_bind {query : Query} {arguments : Arguments Answer} {bound : Bound}
    (binds : query.signature.bind arguments = .ok bound) (engine : Engine) (dataset : Dataset) :
    engine.call dataset query arguments = engine.answer dataset query bound := by
  unfold call
  rw [binds]
  rfl

variable {settings : Settings} {domains : Dataset} {query : Query} {isAsked : Engine.Bound → Prop}

/-- A query for which each process adds up what it counts in its own domains, and for which the sums
are then added over the group. -/
theorem Dataset.answeredByAll_of_own {β : Type} {lookUp : Domain → Option β} {count : β → Int}
    (own : Engine.Bound → Dataset → Except Error Int) (conclude : Int → Answer)
    (isProgram : ∀ bound, isAsked bound → ∀ group dataset,
      (Engine.mk group settings).answer dataset query bound =
        Collective.ofExcept (own bound dataset) >>= fun count =>
          group.sumWhole count >>= fun total => Collective.ofExcept (.ok (conclude total)))
    (counts : ∀ bound, isAsked bound → ∀ dataset ⊆ domains,
      own bound dataset = .ok ((dataset.filterMap lookUp).map count).sum) :
    domains.AnsweredByAll settings query isAsked
      (· = conclude ((domains.filterMap lookUp).map count).sum) := by
  intro arguments bound binds asked kind datasets connects dealt
  refine ⟨_, ?_, rfl⟩
  simp only [Engine.call_of_bind binds, isProgram bound asked]
  rw [together_own_step _ _ fun dataset isShare =>
      counts bound asked dataset (share_subset dealt isShare),
    together_sumWhole connects, sum_dealt dealt]
  exact together_finish _

theorem Dataset.answeredByAll_countOf {name : String} {pick : Entries Float → Nat}
    (isProgram : ∀ bound group dataset, (Engine.mk group settings).answer dataset query bound =
      (dataset.fieldShare (bound.valueOf "field")).countOf pick group >>= fun count =>
        Collective.ofExcept (.ok (.scalar (.whole count))))
    (numbers : domains.HoldsNumbers name) :
    domains.AnsweredByAll settings query (Engine.Bound.AsksField name)
      (· = .scalar (.whole (domains.countOf pick name))) := by
  refine answeredByAll_of_own
    (fun bound dataset => (dataset.fieldShare (bound.valueOf "field")).ownCount pick)
    (fun count => .scalar (.whole count)) ?_ ?_
  · intro bound _ group dataset
    rw [isProgram]
    simp only [FieldShare.countOf, FieldShare.ownCount, liftM_eq_ofExcept, bind_bind]
  · intro bound asked dataset isPart
    simp only [show bound.valueOf "field" = .text name from asked, FieldShare.ownCount_eq,
      (numbers.of_subset isPart).counts_pick]
    rfl

theorem Dataset.answeredByAll_summed {name : String} (numbers : domains.HoldsNumbers name) :
    domains.AnsweredByAll settings .sum (Engine.Bound.AsksField name) fun whole =>
      ∃ total, whole = .sum ⟨total, domains.countOf Entries.definedCount name⟩ := by
  intro arguments bound binds asked kind datasets connects dealt
  have isProgram (group : ProcessGroup) (dataset : Dataset) :
      (Engine.mk group settings).answer dataset .sum bound =
        (dataset.fieldShare (bound.valueOf "field")).sum group >>= fun sum =>
          Collective.ofExcept (.ok (.sum sum)) := rfl
  simp only [Engine.call_of_bind binds, isProgram, show bound.valueOf "field" = .text name from asked]
  have sums : ∀ dataset ∈ datasets, ∃ own, (dataset.fieldShare (.text name)).ownSum = .ok own ∧
      own.count = dataset.countOf Entries.definedCount name := by
    intro dataset isShare
    have counted := (dataset.fieldShare (.text name)).ownSum_count
    rw [(numbers.of_subset (share_subset dealt isShare)).counts_summed] at counted
    exact map_eq_ok.mp counted
  have someSum : Nonempty (FieldSum Float) := ⟨⟨Scalar.zero, 0⟩⟩
  obtain ⟨own, owns⟩ := exists_results fun dataset isShare =>
    (sums dataset isShare).imp fun _ => And.left
  have counts : ∀ dataset ∈ datasets,
      (own dataset).count = dataset.countOf Entries.definedCount name := by
    intro dataset isShare
    obtain ⟨other, isOther, counted⟩ := sums dataset isShare
    rw [Except.ok.inj ((owns dataset isShare).symm.trans isOther), counted]
  have total : (datasets.map fun dataset => (own dataset).count).sum =
      domains.countOf Entries.definedCount name := by
    rw [List.map_congr_left counts]
    exact sum_dealt dealt _ _
  have ended := FieldShare.together_sum connects (Dataset.fieldShare (.text name)) own owns
    fun sum => .ok (Answer.sum sum)
  rw [total] at ended
  exact ⟨_, ended, _, rfl⟩

theorem Dataset.answeredByAll_countOver {name : Option String}
    (count : String → Domain → Except Error Int) {counts : List Int}
    (isProgram : ∀ bound group dataset, (Engine.mk group settings).answer dataset query bound =
      (Engine.mk group settings).countOver dataset count (bound.get "topology")
        (bound.get "domain") >>= fun total => Collective.ofExcept (.ok (.value (.whole total))))
    (counted : ((domains.countedTopologies name).mapM fun counted => count counted.2 counted.1) =
      .ok counts) :
    domains.AnsweredByAll settings query (Engine.Bound.AsksTopology settings name)
      (· = .value (.whole counts.sum)) := by
  obtain ⟨found, finds, rfl⟩ := exists_results_of_mapM counted
  refine answeredByAll_of_own
    (fun bound dataset => dataset.ownTotal count
      (Engine.topologyOr ⟨Engine.aloneGroup, settings⟩ (bound.get "topology")))
    (fun total => .value (.whole total)) ?_ ?_
  · intro bound asked group dataset
    rw [isProgram, Engine.countOver_eq, if_pos asked.1, bind_bind]
  · intro bound asked dataset isPart
    have findsOwn : ∀ counted ∈ dataset.countedTopologies name,
        count counted.2 counted.1 = .ok (found counted) := by
      intro counted isCounted
      obtain ⟨domain, isOwn, covers⟩ := List.mem_filterMap.mp isCounted
      exact finds counted (List.mem_filterMap.mpr ⟨domain, isPart isOwn, covers⟩)
    rw [ownTotal_eq asked.2, mapM_of_forall_ok findsOwn]
    rfl

theorem Engine.requiredTopology_named {engine : Engine} {requested : Answer} {name : String}
    (asks : (engine.topologyOr requested).AsksTopology (some name)) :
    engine.requiredTopology requested = .ok (.text name) := by
  unfold requiredTopology
  simp only [Value.isTrue_of_asksTopology asks, ok_bind, Option.isSome_some, if_true, pure_eq_ok]
  rw [asks.2]

theorem Dataset.topologyKinds_named (group : ProcessGroup) (name : String) (dataset : Dataset) :
    (dataset.topologyKinds group (.text name) : Collective Float (List (TopologyKind × Int))) =
      group.sumCounts (TopologyKind.all.map fun kind => (dataset.topologiesOfKind name kind : Int))
        >>= fun counts => pure (TopologyKind.all.zip counts) := by
  unfold topologyKinds havingTopology
  simp only [having_text, liftM_eq_ofExcept, ofExcept_ok_bind, count_kinds]

theorem Dataset.answeredByAll_kinds (name : String) (domains : Dataset) :
    domains.AnsweredByAll settings .topologyKinds (Engine.Bound.AsksTopology settings (some name))
      (· = Engine.ofKinds (TopologyKind.all.map fun kind =>
        (kind, (domains.topologiesOfKind name kind : Int)))) := by
  intro arguments bound binds asked kind datasets connects dealt
  have isProgram (group : ProcessGroup) (dataset : Dataset) :
      (Engine.mk group settings).answer dataset .topologyKinds bound =
        group.sumCounts (TopologyKind.all.map fun kind =>
          (dataset.topologiesOfKind name kind : Int)) >>= fun counts =>
            Collective.ofExcept (.ok (Engine.ofKinds (TopologyKind.all.zip counts))) := by
    have required : (Engine.mk group settings).requiredTopology (bound.get "topology") =
        .ok (.text name) := Engine.requiredTopology_named asked.2
    simp only [Engine.answer, required, liftM_eq_ofExcept, ofExcept_ok_bind, topologyKinds_named,
      bind_bind]
    rfl
  have totals : countTotals TopologyKind.all.length (datasets.map fun dataset =>
        TopologyKind.all.map fun kind => (dataset.topologiesOfKind name kind : Int)) =
      TopologyKind.all.map fun kind => (domains.topologiesOfKind name kind : Int) := by
    rw [countTotals_map]
    exact List.map_congr_left fun kind _ => topologiesOfKind_dealt dealt name kind
  simp only [Engine.call_of_bind binds, isProgram]
  rw [together_sumCounts connects _ fun _ _ => List.length_map _, totals]
  exact ⟨_, together_finish _, rfl⟩

end Answers

/-- Counting queries do not depend on who holds which domain: however the domains are dealt to a
group, all its processes return the sum of what is counted in each domain. Of a field that is a column
of numbers wherever it is defined, each entry is either summed or undefined. The topologies of a name
are counted by their kinds, once for each domain that defines one. Points and elements are counted in
each domain for the topology of a name, or for the first one. -/
theorem counts_whoever_holds (settings : Settings) (domains : Dataset) :
    (∀ name, domains.HoldsNumbers name →
      domains.AnsweredByAll settings .sum (Engine.Bound.AsksField name) (fun whole =>
        ∃ total, whole = .sum ⟨total, domains.countOf Entries.definedCount name⟩) ∧
      domains.AnsweredByAll settings .undefinedCount (Engine.Bound.AsksField name)
        (· = .scalar (.whole (domains.countOf Entries.undefinedCount name))) ∧
      domains.AnsweredByAll settings .infiniteCount (Engine.Bound.AsksField name)
        (· = .scalar (.whole (domains.countOf Entries.infiniteCount name))) ∧
      domains.countOf Entries.definedCount name + domains.countOf Entries.undefinedCount name =
        domains.countOf Entries.count name) ∧
    (∀ name,
      domains.AnsweredByAll settings .topologyKinds (Engine.Bound.AsksTopology settings (some name))
        (· = Engine.ofKinds (TopologyKind.all.map fun kind =>
          (kind, (domains.topologiesOfKind name kind : Int)))) ∧
      (TopologyKind.all.map fun kind => domains.topologiesOfKind name kind).sum =
        domains.countP (Domain.hasTopology name)) ∧
    ∀ (name : Option String) (counts : List Int),
      (((domains.countedTopologies name).mapM fun counted => counted.1.pointCount counted.2) =
          .ok counts →
        domains.AnsweredByAll settings .pointCount (Engine.Bound.AsksTopology settings name)
          (· = .value (.whole counts.sum))) ∧
      (((domains.countedTopologies name).mapM fun counted => counted.1.elementCount counted.2) =
          .ok counts →
        domains.AnsweredByAll settings .elementCount (Engine.Bound.AsksTopology settings name)
          (· = .value (.whole counts.sum))) := by
  refine ⟨fun name numbers => ⟨?_, ?_, ?_, ?_⟩, fun name => ⟨?_, ?_⟩, fun name counts => ⟨?_, ?_⟩⟩
  · exact Dataset.answeredByAll_summed numbers
  · exact Dataset.answeredByAll_countOf (fun _ _ _ => rfl) numbers
  · exact Dataset.answeredByAll_countOf (fun _ _ _ => rfl) numbers
  · exact Dataset.countOf_defined_add_undefined name domains
  · exact Dataset.answeredByAll_kinds name domains
  · exact Dataset.sum_topologiesOfKind name domains
  · exact Dataset.answeredByAll_countOver Domain.pointCount fun _ _ _ => rfl
  · exact Dataset.answeredByAll_countOver Domain.elementCount fun _ _ _ => rfl

/-- Three columns and two rows of vertices, one entry of the field undefined and one infinite. -/
def warmGrid : Domain :=
  ⟨[("coords", .rectilinear ⟨.float .double [0, 0x3ff0000000000000, 0x4000000000000000],
      .float .double [0, 0x3ff0000000000000], none⟩)],
    [("mesh", ⟨"coords", .rectilinear⟩)],
    [("warmth", ⟨"warmth", "vertex", "mesh", .scalar (.float .double
      [0, 0x7ff8000000000000, 0x3ff0000000000000, 0x7ff0000000000000, 0x4000000000000000, 0])⟩)], []⟩

/-- Two single points that whole numbers are given at. -/
def warmPoints : Domain :=
  ⟨[("coords", .explicit ⟨.float .double [0, 0], .float .double [0, 0], none⟩)],
    [("spots", ⟨"coords", .points⟩)],
    [("warmth", ⟨"warmth", "vertex", "spots", .scalar (.int .int64 [3, 4])⟩)], []⟩

theorem warmDomains_holdNumbers : Dataset.HoldsNumbers "warmth" [warmGrid, warmPoints] := by
  intro holder isHolder
  rcases List.mem_cons.mp isHolder with rfl | isHolder
  · exact ⟨_, rfl, trivial⟩
  · cases List.mem_singleton.mp isHolder
    exact ⟨_, rfl, trivial⟩

theorem counts_whoever_holds_for_grid_and_points :
    Dataset.HoldsNumbers "warmth" [warmGrid, warmPoints] ∧
    GroupKind.lockstep.Connects 2 ∧
    (∃ total, together .lockstep (fun group dataset => (Engine.mk group .default).call dataset .sum
        ⟨[.value (.text "warmth")], []⟩) [[warmPoints], [warmGrid]] =
      [.ok (.sum ⟨total, 7⟩), .ok (.sum ⟨total, 7⟩)]) ∧
    together .lockstep (fun group dataset => (Engine.mk group .default).call dataset .undefinedCount
        ⟨[], [("field", .value (.text "warmth"))]⟩) [[warmPoints], [warmGrid]] =
      [.ok (.scalar (.whole 1)), .ok (.scalar (.whole 1))] ∧
    together .lockstep (fun group dataset => (Engine.mk group .default).call dataset .topologyKinds
        ⟨[.value (.text "mesh")], []⟩) [[warmPoints], [warmGrid]] =
      List.replicate 2 (.ok (Engine.ofKinds [(.points, 0), (.uniform, 0), (.rectilinear, 1),
        (.structured, 0), (.unstructured, 0)])) ∧
    together .lockstep (fun group dataset => (Engine.mk group .default).call dataset .pointCount
        ⟨[.value (.text "mesh")], []⟩) [[warmPoints], [warmGrid]] =
      [.ok (.value (.whole 6)), .ok (.value (.whole 6))] ∧
    together .lockstep (fun group dataset => (Engine.mk group .default).call dataset .elementCount
        ⟨[], []⟩) [[warmPoints], [warmGrid]] =
      [.ok (.value (.whole 4)), .ok (.value (.whole 4))] := by
  have numbers := warmDomains_holdNumbers
  have connects : GroupKind.lockstep.Connects 2 := by decide
  have dealt : [[warmPoints], [warmGrid]].flatten.Perm [warmGrid, warmPoints] := .swap ..
  have points : ((Dataset.countedTopologies (some "mesh") [warmGrid, warmPoints]).mapM
      fun counted => counted.1.pointCount counted.2) = .ok [6] := by rfl
  have elements : ((Dataset.countedTopologies none [warmGrid, warmPoints]).mapM
      fun counted => counted.1.elementCount counted.2) = .ok [2, 2] := by rfl
  obtain ⟨ofFields, ofKinds, ofMeshes⟩ := counts_whoever_holds .default [warmGrid, warmPoints]
  obtain ⟨summed, undefined, _, _⟩ := ofFields "warmth" numbers
  have definedEntries : Dataset.countOf Entries.definedCount "warmth" [warmGrid, warmPoints] = 7 := by
    decide +kernel
  have undefinedEntries :
      Dataset.countOf Entries.undefinedCount "warmth" [warmGrid, warmPoints] = 1 := by
    decide +kernel
  rw [definedEntries] at summed
  rw [undefinedEntries] at undefined
  refine ⟨numbers, connects, ?_, ?_, ?_, ?_, ?_⟩
  · obtain ⟨_, ends, total, rfl⟩ :=
      summed ⟨[.value (.text "warmth")], []⟩ _ rfl rfl .lockstep [[warmPoints], [warmGrid]] connects dealt
    exact ⟨total, ends⟩
  · obtain ⟨_, ends, rfl⟩ := undefined ⟨[], [("field", .value (.text "warmth"))]⟩ _ rfl rfl
      .lockstep [[warmPoints], [warmGrid]] connects dealt
    exact ends
  · obtain ⟨_, ends, rfl⟩ := (ofKinds "mesh").1 ⟨[.value (.text "mesh")], []⟩ _ rfl
      ⟨rfl, by decide, rfl⟩ .lockstep [[warmPoints], [warmGrid]] connects dealt
    exact ends
  · obtain ⟨_, ends, rfl⟩ := (ofMeshes (some "mesh") _).1 points ⟨[.value (.text "mesh")], []⟩ _ rfl
      ⟨rfl, by decide, rfl⟩ .lockstep [[warmPoints], [warmGrid]] connects dealt
    exact ends
  · obtain ⟨_, ends, rfl⟩ := (ofMeshes none _).2 elements ⟨[], []⟩ _ rfl ⟨rfl, rfl⟩
      .lockstep [[warmPoints], [warmGrid]] connects dealt
    exact ends

end FieldSurvey
