import SignalBox.Proofs.Answers
import SignalBox.Proofs.Lists
import SignalBox.Proofs.ShortestWalks

namespace SignalBox

/-!
# The order of signals

Signals and signal types are given in lists, and the edges of the graph are taken from the
signals one after another.  None of these orders is seen in the network.  Types and signals are
kept by name, and of a name there is one only; in the graph the order of two edges matters only
where they have the same source, and the edges of one source come from one signal, in the order
in which it names the signals ahead of it.

So it is the same whether the signals are visited as they are listed or as they come out of the
table that keeps them.  Only a refusal may name another fault.
-/

/-! ## Graphs with the same edges of each source -/

namespace SignalGraph

variable {edges others : List (String × String)} {repeaters otherRepeaters : List String}

theorem declared_congr {signal : String}
    (same : edges.filter (fun edge => edge.1 == signal) =
      others.filter fun edge => edge.1 == signal) :
    declared edges signal = declared others signal := by
  rw [declared, declared, same]

theorem mem_sources_iff {signal : String} :
    signal ∈ edges.map Prod.fst ↔
      ∃ edge, edge ∈ edges.filter fun edge => edge.1 == signal := by
  rw [List.mem_map]
  simp only [List.mem_filter, beq_iff_eq]

/-- A graph is built from the edges of each source, in their order, and from the set of the
repeaters. -/
theorem build_congr
    (same : ∀ source, edges.filter (fun edge => edge.1 == source) =
      others.filter fun edge => edge.1 == source)
    (members : ∀ name, name ∈ repeaters ↔ name ∈ otherRepeaters) (maxDepth : Nat) :
    build edges repeaters maxDepth = build others otherRepeaters maxDepth := by
  have declares : declared edges = declared others :=
    funext fun signal => declared_congr (same signal)
  have sources : Ascending.ofList (edges.map Prod.fst) = Ascending.ofList (others.map Prod.fst) := by
    refine Ascending.ofList_congr fun name => ?_
    rw [mem_sources_iff, mem_sources_iff, same]
  have contains : ∀ name, repeaters.contains name = otherRepeaters.contains name := by
    intro name
    rw [Bool.eq_iff_iff, List.contains_iff_mem, List.contains_iff_mem, members]
  have ahead : directlyAhead edges repeaters = directlyAhead others otherRepeaters := by
    funext signal
    simp only [directlyAhead, repeated, declares, sources, contains]
  rw [build, build, sources, ahead]

end SignalGraph

namespace SignalNetwork

/-! ## Networks that are created -/

variable {signals others : List SignalDefinition} {types otherTypes : List SignalType}
  {maxDepth : Nat} {network : SignalNetwork}

/-- A name that is known is not one of the new ones. -/
private theorem not_nodup_of_known {known rest : List String} {name : String}
    (listed : name ∈ known) : ¬ (known ++ name :: rest).Nodup := fun distinct =>
  (List.nodup_append.1 distinct).2.2 name listed name List.mem_cons_self rfl

/-- The tables are collected if their names are new and distinct, and they are kept in order. -/
theorem collectTypes_eq_ok {collected tables : Table String SignalType} :
    collectTypes collected types = .ok tables ↔
      (collected.keys ++ types.map SignalType.name).Nodup ∧
        tables.entries = collected.entries ++ types.map fun table => (table.name, table) := by
  induction types generalizing collected with
  | nil =>
    rw [collectTypes, List.map_nil, List.map_nil, List.append_nil, List.append_nil,
      Except.ok.injEq]
    constructor
    · rintro rfl
      exact ⟨collected.nodup, rfl⟩
    · rintro ⟨_, same⟩
      exact Table.ext_entries same.symm
  | cons table rest inductionHypothesis =>
    rw [collectTypes]
    by_cases known : table.name ∈ collected.keys
    · rw [if_pos ((Table.contains_iff_mem_keys _ _).2 known)]
      exact iff_of_false nofun fun both => not_nodup_of_known known both.1
    · rw [if_neg fun stored => known ((Table.contains_iff_mem_keys _ _).1 stored),
        inductionHypothesis, Table.keys_insert_of_not_mem known,
        Table.entries_insert_of_not_mem known, List.append_assoc, List.append_assoc]
      rfl

/-- A signal with the table of its type. -/
def tabled (tables : Table String SignalType) (signal : SignalDefinition) :
    Except PlantFault Signal :=
  match tables.get? signal.typeName with
  | none => .error (.unknownSignalType signal.name signal.typeName)
  | some table => .ok ⟨signal, table⟩

theorem tabled_eq_ok {tables : Table String SignalType} {signal : SignalDefinition}
    {stored : Signal} :
    tabled tables signal = .ok stored ↔
      stored.definition = signal ∧ tables.get? signal.typeName = some stored.table := by
  rcases stored with ⟨definition, own⟩
  unfold tabled
  cases tables.get? signal.typeName with
  | none => simp
  | some table => simp [eq_comm]

/-- The signals are collected if their names are new and distinct and each of them has a table,
and they are kept in order. -/
theorem collectSignals_eq_ok {tables : Table String SignalType}
    {collected all : Table String Signal} :
    collectSignals tables collected signals = .ok all ↔
      (collected.keys ++ signals.map SignalDefinition.name).Nodup ∧
        ∃ stored, signals.mapM (tabled tables) = .ok stored ∧
          all.entries = collected.entries ++ stored.map fun signal =>
            (signal.definition.name, signal) := by
  induction signals generalizing collected with
  | nil =>
    rw [collectSignals, List.map_nil, List.append_nil, Except.ok.injEq]
    constructor
    · rintro rfl
      exact ⟨collected.nodup, [], rfl, (List.append_nil _).symm⟩
    · rintro ⟨_, stored, nothing, same⟩
      cases Except.ok.inj nothing
      exact Table.ext_entries (same.trans (List.append_nil collected.entries)).symm
  | cons signal rest inductionHypothesis =>
    rw [collectSignals]
    cases typed : tables.get? signal.typeName with
    | none =>
      refine iff_of_false nofun ?_
      rintro ⟨_, stored, traversed, _⟩
      rcases Fallible.mapM_cons_eq_ok.1 traversed with ⟨own, _, found, _⟩
      cases typed.symm.trans (tabled_eq_ok.1 found).2
    | some table =>
      dsimp only
      by_cases known : signal.name ∈ collected.keys
      · rw [if_pos ((Table.contains_iff_mem_keys _ _).2 known)]
        exact iff_of_false nofun fun both => not_nodup_of_known known both.1
      · rw [if_neg fun stored => known ((Table.contains_iff_mem_keys _ _).1 stored),
          inductionHypothesis, Table.keys_insert_of_not_mem known,
          Table.entries_insert_of_not_mem known, List.append_assoc]
        refine and_congr_right fun _ => ?_
        constructor
        · rintro ⟨later, traversed, same⟩
          refine ⟨⟨signal, table⟩ :: later, Fallible.mapM_cons_eq_ok.2
            ⟨_, _, tabled_eq_ok.2 ⟨rfl, typed⟩, traversed, rfl⟩, ?_⟩
          rw [same, List.append_assoc]
          rfl
        · rintro ⟨stored, traversed, same⟩
          rcases Fallible.mapM_cons_eq_ok.1 traversed with ⟨⟨_, own⟩, later, found, rests, rfl⟩
          rcases tabled_eq_ok.1 found with ⟨rfl, other⟩
          cases typed.symm.trans other
          refine ⟨later, rests, ?_⟩
          rw [same, List.append_assoc]
          rfl

/-- What signals and tables need for a network: names of their own, and a table for each
signal. -/
structure Creatable (signals : List SignalDefinition) (types : List SignalType) : Prop where
  types_nodup : (types.map SignalType.name).Nodup
  names_nodup : (signals.map SignalDefinition.name).Nodup
  typed : ∀ signal, signal ∈ signals → ∃ table, table ∈ types ∧ table.name = signal.typeName

/-- A network holds the signals of a list, each with its table, in the order of the list. -/
structure Holds (network : SignalNetwork) (signals : List SignalDefinition)
    (types : List SignalType) (maxDepth : Nat) : Prop where
  keys : network.signals.keys = signals.map SignalDefinition.name
  definitions : network.signals.values.map Signal.definition = signals
  signal?_iff : ∀ name signal, network.signal? name = some signal ↔
    (signal.definition ∈ signals ∧ signal.definition.name = name) ∧
      signal.table ∈ types ∧ signal.table.name = signal.definition.typeName
  graph : network.graph = graphOf signals maxDepth

theorem get?_of_collectTypes {tables : Table String SignalType}
    (collected : collectTypes .empty types = .ok tables) {name : String} {table : SignalType} :
    tables.get? name = some table ↔ table ∈ types ∧ table.name = name := by
  rw [Table.get?_eq_some_iff, (collectTypes_eq_ok.1 collected).2]
  simp [Table.empty]

/-- The parts of a network that is created. -/
theorem create_eq_ok :
    create signals types maxDepth = .ok network ↔
      ∃ tables, collectTypes .empty types = .ok tables ∧
        collectSignals tables .empty signals = .ok network.signals ∧
        network.graph = graphOf signals maxDepth := by
  rw [create, Fallible.bind_eq_ok]
  refine exists_congr fun tables => and_congr_right fun _ => ?_
  rw [Fallible.bind_eq_ok]
  constructor
  · rintro ⟨all, collected, same⟩
    cases Except.ok.inj same
    exact ⟨collected, rfl⟩
  · rintro ⟨collected, graph⟩
    refine ⟨network.signals, collected, ?_⟩
    rw [← graph]

theorem creatable_of_create (created : create signals types maxDepth = .ok network) :
    Creatable signals types := by
  rcases create_eq_ok.1 created with ⟨tables, typed, collected, _⟩
  rcases collectSignals_eq_ok.1 collected with ⟨distinct, stored, traversed, _⟩
  refine ⟨(collectTypes_eq_ok.1 typed).1, distinct, fun signal member => ?_⟩
  rcases Fallible.mem_of_mapM traversed member with ⟨own, _, found⟩
  exact ⟨own.table, (get?_of_collectTypes typed).1 (tabled_eq_ok.1 found).2⟩

theorem holds_of_create (created : create signals types maxDepth = .ok network) :
    network.Holds signals types maxDepth := by
  rcases create_eq_ok.1 created with ⟨tables, typed, collected, graph⟩
  rcases collectSignals_eq_ok.1 collected with ⟨_, stored, traversed, entries⟩
  have listed : network.signals.entries =
      stored.map fun signal => (signal.definition.name, signal) := entries
  have definitions : stored.map Signal.definition = signals.map id :=
    Fallible.map_of_mapM traversed fun _ _ found => (tabled_eq_ok.1 found).1
  have mem_stored : ∀ signal, signal ∈ stored ↔ signal.definition ∈ signals ∧
      tables.get? signal.definition.typeName = some signal.table := by
    intro signal
    constructor
    · intro member
      rcases Fallible.exists_of_mem_mapM traversed member with ⟨definition, own, found⟩
      rcases tabled_eq_ok.1 found with ⟨rfl, table⟩
      exact ⟨own, table⟩
    · rintro ⟨own, table⟩
      rcases Fallible.mem_of_mapM traversed own with ⟨other, member, found⟩
      cases found.symm.trans (tabled_eq_ok.2 ⟨rfl, table⟩)
      exact member
  refine ⟨?_, ?_, fun name signal => ?_, graph⟩
  · rw [Table.keys, listed, List.map_map, ← List.map_id signals, ← definitions, List.map_map]
    rfl
  · rw [Table.values, listed, List.map_map, List.map_map, ← List.map_id signals, ← definitions]
    rfl
  · rw [signal?, Table.get?_eq_some_iff, listed, List.mem_map]
    constructor
    · rintro ⟨other, member, same⟩
      cases same
      rcases (mem_stored signal).1 member with ⟨own, table⟩
      exact ⟨⟨own, rfl⟩, (get?_of_collectTypes typed).1 table⟩
    · rintro ⟨⟨own, rfl⟩, table⟩
      exact ⟨signal, (mem_stored signal).2 ⟨own, (get?_of_collectTypes typed).2 table⟩, rfl⟩

theorem create_succeeds_iff :
    Succeeds (create signals types maxDepth) ↔ Creatable signals types := by
  constructor
  · rintro ⟨network, created⟩
    exact creatable_of_create created
  · intro creatable
    have distinct : ((types.map fun table => (table.name, table)).map Prod.fst).Nodup := by
      rw [List.map_map]
      exact creatable.types_nodup
    have typed : collectTypes .empty types = .ok ⟨_, distinct⟩ :=
      collectTypes_eq_ok.2 ⟨creatable.types_nodup, rfl⟩
    have found : ∀ signal, signal ∈ signals → Succeeds (tabled ⟨_, distinct⟩ signal) := by
      intro signal member
      rcases creatable.typed signal member with ⟨table, own⟩
      exact ⟨⟨signal, table⟩, tabled_eq_ok.2 ⟨rfl, (get?_of_collectTypes typed).2 own⟩⟩
    rcases Fallible.mapM_succeeds found with ⟨stored, traversed⟩
    have names : stored.map (fun signal => signal.definition.name) =
        signals.map SignalDefinition.name :=
      Fallible.map_of_mapM traversed fun _ _ own =>
        congrArg SignalDefinition.name (tabled_eq_ok.1 own).1
    have apart : ((stored.map fun signal => (signal.definition.name, signal)).map
        Prod.fst).Nodup := by
      rw [List.map_map]
      exact names ▸ creatable.names_nodup
    exact ⟨⟨⟨_, apart⟩, graphOf signals maxDepth⟩, create_eq_ok.2 ⟨_, typed,
      collectSignals_eq_ok.2 ⟨creatable.names_nodup, stored, traversed, rfl⟩, rfl⟩⟩

/-! ## Lists in another order -/

theorem Creatable.perm (creatable : Creatable signals types) (sameSignals : signals.Perm others)
    (sameTypes : types.Perm otherTypes) : Creatable others otherTypes where
  types_nodup := (sameTypes.map SignalType.name).nodup_iff.1 creatable.types_nodup
  names_nodup := (sameSignals.map SignalDefinition.name).nodup_iff.1 creatable.names_nodup
  typed := fun signal member => by
    rcases creatable.typed signal (sameSignals.mem_iff.2 member) with ⟨table, listed, own⟩
    exact ⟨table, sameTypes.mem_iff.1 listed, own⟩

/-- The edges of a source are those of the signals of its name. -/
theorem filter_edges (signals : List SignalDefinition) (source : String) :
    (signals.flatMap SignalDefinition.edges).filter (fun edge => edge.1 == source) =
      (signals.filter fun signal => signal.name == source).flatMap SignalDefinition.edges := by
  induction signals with
  | nil => rfl
  | cons signal rest inductionHypothesis =>
    rw [List.flatMap_cons, List.filter_append, inductionHypothesis]
    by_cases own : signal.name = source
    · have all : signal.edges.filter (fun edge => edge.1 == source) = signal.edges := by
        refine List.filter_eq_self.2 fun edge member => ?_
        rcases List.mem_map.1 member with ⟨next, _, rfl⟩
        exact beq_iff_eq.2 own
      rw [all, List.filter_cons, if_pos (beq_iff_eq.2 own), List.flatMap_cons]
    · have none : signal.edges.filter (fun edge => edge.1 == source) = [] := by
        refine List.filter_eq_nil_iff.2 fun edge member same => ?_
        rcases List.mem_map.1 member with ⟨next, _, rfl⟩
        exact own (beq_iff_eq.1 same)
      rw [none, List.filter_cons, if_neg fun same => own (beq_iff_eq.1 same), List.nil_append]

/-- The names of the repeaters of a list of signals. -/
def repeatersOf (signals : List SignalDefinition) : List String :=
  (signals.filter fun signal => signal.repeated.isSome).map SignalDefinition.name

/-- The edges can be taken from the signals in any order, and the repeaters in another one. -/
theorem build_of_perm (distinct : (signals.map SignalDefinition.name).Nodup)
    (visited : signals.Perm others) {repeaters : List String}
    (members : ∀ name, name ∈ repeatersOf signals ↔ name ∈ repeaters) (maxDepth : Nat) :
    graphOf signals maxDepth =
      SignalGraph.build (others.flatMap SignalDefinition.edges) repeaters maxDepth := by
  refine SignalGraph.build_congr (fun source => ?_) members maxDepth
  rw [filter_edges, filter_edges, Lists.filter_eq_of_perm visited distinct]

theorem mem_repeatersOf_perm (same : signals.Perm others) (name : String) :
    name ∈ repeatersOf signals ↔ name ∈ repeatersOf others :=
  ((same.filter _).map SignalDefinition.name).mem_iff

/-! ## Networks that are alike -/

/-- Two networks have the same names and the same graph, and show the same aspects or fail for the
same reason, whatever the state and the names that are asked for. -/
structure Alike (first second : SignalNetwork) : Prop where
  names : first.names = second.names
  graph : first.graph = second.graph
  signal? : ∀ name, first.signal? name = second.signal? name
  aspects : ∀ state names, first.aspects state names = second.aspects state names
  aspectsWithNext : ∀ state names,
    first.aspectsWithNext state names = second.aspectsWithNext state names

/-- What a network shows depends on its graph and on the signals by name. -/
theorem aspects_congr {first second : SignalNetwork} (graph : first.graph = second.graph)
    (same : ∀ name, first.signal? name = second.signal? name) (state : State)
    (names : List String) : first.aspects state names = second.aspects state names := by
  have plain : ∀ steps, first.plain state steps = second.plain state steps := by
    intro steps
    induction steps with
    | zero =>
      funext name
      simp only [SignalNetwork.plain, plainAnswer, same]
    | succ steps inductionHypothesis =>
      funext name
      simp only [SignalNetwork.plain, plainAnswer, same, graph, inductionHypothesis]
  rw [aspects_eq, aspects_eq, graph, plain]

theorem alike_of_holds {first second : SignalNetwork} (holds : first.Holds signals types maxDepth)
    (otherHolds : second.Holds others otherTypes maxDepth)
    (distinct : (signals.map SignalDefinition.name).Nodup) (sameSignals : signals.Perm others)
    (sameTypes : types.Perm otherTypes) : Alike first second := by
  have graph : first.graph = second.graph := by
    rw [holds.graph, otherHolds.graph]
    exact build_of_perm distinct sameSignals (mem_repeatersOf_perm sameSignals) maxDepth
  have same : ∀ name, first.signal? name = second.signal? name := by
    refine fun name => Option.ext fun signal => ?_
    rw [holds.signal?_iff, otherHolds.signal?_iff, sameSignals.mem_iff, sameTypes.mem_iff]
  refine ⟨?_, graph, same, aspects_congr graph same, fun state names => ?_⟩
  · rw [names, names, holds.keys, otherHolds.keys]
    exact Ascending.ofList_congr fun name =>
      (sameSignals.map SignalDefinition.name).mem_iff
  · rw [aspectsWithNext, aspectsWithNext, graph]
    exact aspects_congr graph same state _

/-- Signals and types can be listed in any order: a network is created of both lists or of
neither, and the networks are alike.  A created network does not depend either on the order in
which its signals are visited for their edges, nor on the one in which they are visited for the
repeaters.  A graph is given by the edges of each source in their order. -/
theorem network_is_independent_of_order (sameSignals : signals.Perm others)
    (sameTypes : types.Perm otherTypes) (maxDepth : Nat) :
    (Succeeds (create signals types maxDepth) ↔ Succeeds (create others otherTypes maxDepth)) ∧
    (∀ first second, create signals types maxDepth = .ok first →
      create others otherTypes maxDepth = .ok second → Alike first second) ∧
    (∀ network, create signals types maxDepth = .ok network →
      ∀ visited repeating : List SignalDefinition,
        visited.Perm (network.signals.values.map Signal.definition) →
        repeating.Perm (network.signals.values.map Signal.definition) →
        SignalGraph.build (visited.flatMap SignalDefinition.edges) (repeatersOf repeating)
          maxDepth = network.graph) ∧
    (∀ edges otherEdges : List (String × String),
      (∀ source, edges.filter (fun edge => edge.1 == source) =
        otherEdges.filter fun edge => edge.1 == source) →
      ∀ repeaters, SignalGraph.build edges repeaters maxDepth =
        SignalGraph.build otherEdges repeaters maxDepth) := by
  refine ⟨?_, fun first second created otherCreated => ?_,
    fun network created visited repeating sameVisited sameRepeating => ?_,
    fun edges otherEdges same repeaters =>
      SignalGraph.build_congr same (fun _ => Iff.rfl) maxDepth⟩
  · rw [create_succeeds_iff, create_succeeds_iff]
    exact ⟨fun creatable => creatable.perm sameSignals sameTypes,
      fun creatable => creatable.perm sameSignals.symm sameTypes.symm⟩
  · exact alike_of_holds (holds_of_create created) (holds_of_create otherCreated)
      (creatable_of_create created).names_nodup sameSignals sameTypes
  · have holds := holds_of_create created
    rw [holds.definitions] at sameVisited sameRepeating
    rw [holds.graph]
    exact (build_of_perm (creatable_of_create created).names_nodup sameVisited.symm
      (mem_repeatersOf_perm sameRepeating.symm) maxDepth).symm

/-- Two signals that share a target with a repeater. -/
def sharingSignals : List SignalDefinition :=
  [{ name := "A", typeName := "three", nextSignals := ["C", "B"] },
    { name := "R", typeName := "two", nextSignals := ["B"], repeated := some "B" },
    { name := "B", typeName := "three" }]

/-- The tables of the signals. -/
def sharingTypes : List SignalType :=
  [⟨"three", .y, .y, .g, .g, .g⟩, ⟨"two", .y, .y, .y, .g, .g⟩]

/-- Listed backwards, the signals make a network as before.  Of two edges of one signal the order
is seen. -/
theorem reversed_signals_make_the_same_network :
    (∃ first second, create sharingSignals sharingTypes 3 = .ok first ∧
      create sharingSignals.reverse sharingTypes.reverse 3 = .ok second ∧ Alike first second ∧
      second.graph.nextSignals "A" = ["C", "B", "R"]) ∧
    SignalGraph.build [("A", "B"), ("A", "C")] [] 1 ≠
      SignalGraph.build [("A", "C"), ("A", "B")] [] 1 := by
  refine ⟨?_, by decide +kernel⟩
  rcases network_is_independent_of_order sharingSignals.reverse_perm.symm
    sharingTypes.reverse_perm.symm 3 with ⟨succeeds, alike, _⟩
  have creatable : Creatable sharingSignals sharingTypes := by
    refine ⟨by decide, by decide, ?_⟩
    decide
  rcases create_succeeds_iff.2 creatable with ⟨first, created⟩
  rcases succeeds.1 ⟨first, created⟩ with ⟨second, otherCreated⟩
  refine ⟨first, second, created, otherCreated, alike first second created otherCreated, ?_⟩
  rw [(holds_of_create otherCreated).graph]
  decide +kernel

end SignalNetwork

end SignalBox
