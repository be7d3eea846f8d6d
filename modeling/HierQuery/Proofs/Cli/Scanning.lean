import HierQuery.Proofs.Cli.Lines
import HierQuery.Proofs.Cli.Planning

/-!
# Scanning from the command line

A scan that has an aim lists the rows of a group in the order of their keys,
unless the rows of the fixture cannot be stored.  Nothing else can go wrong
but the output: a cursor over a memory store has no failure of its own.
-/

namespace HierQuery.Cli

open Fixture MemoryStore

/-! ## Rows -/

namespace Aim

variable {aim : Aim}

/-- Whether the scan comes to a row of its group. -/
def visits (aim : Aim) (row : Row) : Bool :=
  match aim.start?, aim.reach with
  | none, _ => true
  | some start, .deep => row.key?.any start.isPrefixOf
  | some start, .shallow => row.key? == some start

/--
The rows that the scan lists: those of the fixture which lie in its group and
which it visits, in the order of their keys, and no more than its options allow.
-/
def Lists (aim : Aim) (group : GroupTable) (rows : List Row) : Prop :=
  ∃ visited : List Row,
    visited.Perm
        (aim.fixture.rows.filter fun row =>
          aim.visits row && keeps aim.fixture.schema group.id row) ∧
      (visited.Pairwise fun first second =>
        ∃ lower upper,
          first.key? = some lower ∧
            second.key? = some upper ∧ lower.before upper = true) ∧
        rows =
          match aim.config.maxRows with
          | none => visited
          | some most => visited.take most

/-- There is one way to list the rows of a scan. -/
theorem Lists.unique
    {group : GroupTable}
    {rows others : List Row}
    (lists : aim.Lists group rows)
    (alsoLists : aim.Lists group others) :
    rows = others := by
  rcases lists with ⟨visited, perm, ascending, rfl⟩
  rcases alsoLists with ⟨alsoVisited, alsoPerm, alsoAscending, rfl⟩
  have same : visited = alsoVisited := by
    refine (perm.trans alsoPerm.symm).eq_of_pairwise ?_ ascending alsoAscending
    rintro first second - - ⟨lower, upper, itsLower, itsUpper, before⟩
      ⟨_, _, isUpper, isLower, after⟩
    cases itsUpper.symm.trans isUpper
    cases itsLower.symm.trans isLower
    cases (HKey.before_irrefl lower).symm.trans
      (HKey.before_trans before after)
  rw [same]

theorem visits_eq
    (aim : Aim)
    {row : Row}
    {key : HKey}
    (itsKey : row.key? = some key) :
    aim.visits row = aim.range.contains key := by
  rw [visits, range, itsKey]
  cases aim.start? with
  | none =>
      rfl
  | some start =>
      cases aim.reach with
      | deep =>
          rfl
      | shallow =>
          change (some key == some start) = (start == key)
          rw [Option.some_beq_some, Bool.beq_comm]

theorem rangeUnder (aim : Aim) (group : GroupTable) :
    (aim.scan group).rangeUnder aim.bindings = .ok aim.range := by
  rw [GroupScan.rangeUnder, scan, mode, bindings, range]
  cases aim.start? <;> rfl

/-- There is a slot for the key that the scan starts at. -/
theorem roomy (aim : Aim) (group : GroupTable) :
    (aim.job group).plan.bindingSlots ≤ aim.bindings.reserved := by
  change aim.mode.bindingSlots ≤ aim.bindings.reserved
  rw [mode, bindings]
  cases aim.start? <;> exact Nat.le_refl _

/-- The rows within the range of the scan are those of the fixture which it visits. -/
theorem perm_rowsWithin
    (aim : Aim)
    (group : GroupTable)
    {sessionId : String}
    {countMode : CountMode}
    {store : MemoryStore}
    (ok : (aim.fixture.load sessionId countMode).1 = .ok store) :
    ((aim.scan group).rowsWithin store aim.range).Perm
      (aim.fixture.rows.filter fun row =>
        aim.visits row && keeps aim.fixture.schema group.id row) := by
  have placed := placed_load ok
  have sameRows :
      (aim.scan group).rowsWithin store aim.range =
        ((store.groupRows group.id).entries.map Prod.snd).filter
          aim.visits := by
    rw [List.filter_map]
    refine congrArg _ (List.filter_congr fun entry inside => ?_)
    exact (aim.visits_eq (placed.row inside).itsKey).symm
  rw [sameRows, ← List.filter_filter]
  exact (perm_groupRows_load ok group.id).filter aim.visits

/-- What the scan means over a store that has the rows of the fixture. -/
theorem lists_eval
    {group : GroupTable}
    {sessionId : String}
    {countMode : CountMode}
    {store : MemoryStore}
    (ok : (aim.fixture.load sessionId countMode).1 = .ok store) :
    ∃ rows,
      aim.Lists group rows ∧
        ((aim.scan group).eval store aim.bindings).answer = .ok rows := by
  have placed := placed_load ok
  let visited := (aim.scan group).rowsWithin store aim.range
  refine ⟨aim.limit.cut visited, ⟨visited, ?_, ?_, ?_⟩, ?_⟩
  · exact aim.perm_rowsWithin group ok
  · exact Plan.ascending_rowsWithin placed (aim.scan group) aim.range
  · rw [limit]
    cases aim.config.maxRows with
    | none =>
        exact Limit.cut_unlimited visited
    | some most =>
        exact Limit.cut_rows most visited
  · rw [GroupScan.eval, rangeUnder]
    rfl

end Aim

/-! ## Reports -/

/-- The line that explains the plan of a job. -/
def explanationBytes (job : Job) : List UInt8 :=
  documentBytes
    (Json.canonical
      (.record
        [("status", .text "ok"),
          ("data",
            .record
              [("plan", .text job.plan.render),
                ("row_type", .text job.plan.rowType.render),
                ("binding_slots", .nat job.plan.bindingSlots),
                ("bindings", .text job.bindings.render)])]))

/-- What is told of rows with one key. -/
def repeatedKey (key : HKey) : Error :=
  .ofFixture (.execution (.ofStorage (.duplicateKey key.render)))

namespace Job

/-- A job on a fixture that cannot be loaded writes nothing. -/
theorem run_of_unloaded
    (job : Job)
    {surroundings : Surroundings}
    {config : Config}
    {error : FixtureError}
    (refused :
      (job.fixture.load surroundings.sessionId config.countMode).1 =
        .error error)
    (output : Sink)
    (log : Log) :
    let report := job.run surroundings config output log
    report.result = .error (.ofFixture error) ∧ report.output = output := by
  obtain ⟨loading, unloaded⟩ :
      ∃ loading,
        job.fixture.load surroundings.sessionId config.countMode =
          (.error error, loading) :=
    ⟨_, Prod.ext refused rfl⟩
  simp only [run, unloaded, and_self]

/-- A job ends with the rows of its plan, as far as the output takes them. -/
theorem run_of_loaded
    (job : Job)
    {surroundings : Surroundings}
    {config : Config}
    {store : MemoryStore}
    (ok :
      (job.fixture.load surroundings.sessionId config.countMode).1 =
        .ok store)
    {rows : List Row}
    (answers :
      ∀ log,
        (Execution.run (MemoryStore.adapter fun _ => 0) job.plan job.bindings
            { id := surroundings.queryId, config, store, log }).answer =
          .ok rows)
    (output : Sink)
    (log : Log) :
    let report := job.run surroundings config output log
    output.Writes (rowBytes (rows.map Row.toJson)) report.result
      report.output := by
  obtain ⟨loading, loaded⟩ :
      ∃ loading,
        job.fixture.load surroundings.sessionId config.countMode =
          (.ok store, loading) :=
    ⟨_, Prod.ext ok rfl⟩
  simp only [run, loaded, answers]
  exact writes_writeRows output (rows.map Row.toJson)

end Job

section

variable
  {surroundings : Surroundings}
  {request : ScanRequest}
  {aim : Aim}
  {group : GroupTable}

/-- The scan is one over the schema of the store that its fixture is loaded into. -/
theorem Aim.Within.over_scan
    (within : aim.Within group)
    {sessionId : String}
    {countMode : CountMode}
    {store : MemoryStore}
    (ok : (aim.fixture.load sessionId countMode).1 = .ok store) :
    (aim.job group).plan.Over store.schema := by
  have known : group ∈ store.schema.groups := by
    rw [schema_load ok]
    rcases Option.bind_eq_some_iff.1 within with ⟨table, -, itsGroup⟩
    exact Schema.mem_groups_of_groupOf? itsGroup
  exact .scan ⟨group, known, rfl⟩

/-- The scan of a loaded fixture ends with the rows that it lists. -/
theorem Aim.run_of_loaded
    (within : aim.Within group)
    {store : MemoryStore}
    (ok :
      (aim.fixture.load surroundings.sessionId aim.config.countMode).1 =
        .ok store)
    (output : Sink)
    (log : Log) :
    let report := (aim.job group).run surroundings aim.config output log
    ∃ rows,
      aim.Lists group rows ∧
        output.Writes (rowBytes (rows.map Row.toJson)) report.result
          report.output := by
  rcases aim.lists_eval ok with ⟨rows, lists, meaning⟩
  have built := within.over_scan ok
  refine ⟨rows, lists, (aim.job group).run_of_loaded ok ?_ output log⟩
  intro log
  exact (Execution.answer_run (fun _ => 0) (aim.roomy group) rfl
    (placed_load ok) built).trans meaning

theorem Aims.run_scan
    (aims : Aims surroundings request aim)
    (within : aim.Within group)
    (output : Sink) :
    Command.run surroundings output (.scan request) =
      (aim.job group).run surroundings aim.config output
        [configRecord aim.config] := by
  simp only [Command.run, Command.config?, aims.config.loadConfig,
    Command.prepare, Command.fixture, aims.fixture.loadFixture, bind,
    Except.bind, Job.ofCommand, aims.ofScan within]

theorem Aims.run_explain
    (aims : Aims surroundings request aim)
    (within : aim.Within group)
    (output : Sink) :
    let report := Command.run surroundings output (.explain request)
    output.Writes (explanationBytes (aim.job group)) report.result
      report.output := by
  simp only [Command.run, Command.config?, aims.config.loadConfig,
    Command.prepare, Command.fixture, aims.fixture.loadFixture, bind,
    Except.bind, Job.ofCommand, aims.ofScan within]
  have writes :=
    output.writes_putLines [resultDocument (aim.job group).explanation]
  rwa [List.flatMap_singleton] at writes

/-- A refused request writes nothing, be it for a scan or for its plan. -/
theorem Refused.run
    {error : Error}
    (refused : Refused surroundings request error)
    {command : Command}
    (asks : command = .scan request ∨ command = .explain request)
    (output : Sink) :
    let report := command.run surroundings output
    report.result = .error error ∧ report.output = output := by
  rcases refused.stops with unread | ⟨config, read, unprepared⟩
  · rcases asks with rfl | rfl <;>
      simp only [Command.run, Command.config?, unread, and_self]
  · have alike :
        Command.prepare surroundings config (.explain request) =
          .error error :=
      unprepared
    rcases asks with rfl | rfl <;>
      simp only [Command.run, Command.config?, read, unprepared, alike,
        and_self]

/-- With an aim it only matters for a scan whether the keys of the rows differ. -/
theorem Aims.reports
    (aims : Aims surroundings request aim)
    (output : Sink) :
    let scanned := Command.run surroundings output (.scan request)
    let explained := Command.run surroundings output (.explain request)
    ∃ group,
      aim.Within group ∧
        output.Writes (explanationBytes (aim.job group)) explained.result
            explained.output ∧
          ((aim.fixture.rows.map Row.key?).Nodup ∧
              (∃ rows,
                aim.Lists group rows ∧
                  output.Writes (rowBytes (rows.map Row.toJson))
                    scanned.result scanned.output) ∨
            ∃ key,
              FirstRepeat aim.fixture.rows key ∧
                scanned.result = .error (repeatedKey key) ∧
                  scanned.output = output) := by
  intro scanned explained
  rcases aims.exists_group with ⟨group, within⟩
  refine ⟨group, within, aims.run_explain within output, ?_⟩
  have ran :
      scanned =
        (aim.job group).run surroundings aim.config output
          [configRecord aim.config] :=
    aims.run_scan within output
  rw [ran]
  rcases aims.fixture.coherent.load_cases surroundings.sessionId
      aim.config.countMode with
    ⟨distinct, store, ok⟩ | ⟨key, repeated, refused⟩
  · exact .inl ⟨distinct, Aim.run_of_loaded within ok output _⟩
  · exact .inr ⟨key, repeated, (aim.job group).run_of_unloaded refused output _⟩

/-- A scan succeeds if it has an aim and the keys of the rows differ. -/
theorem result_scan_iff
    {output : Sink}
    (roomy : output.room? = none)
    (flushes : output.flushes = true) :
    (Command.run surroundings output (.scan request)).result = .ok () ↔
      ∃ aim,
        Aims surroundings request aim ∧
          (aim.fixture.rows.map Row.key?).Nodup := by
  constructor
  · intro succeeds
    rcases aims_or_refused surroundings request with
      ⟨aim, aims⟩ | ⟨error, refused⟩
    · rcases aims.reports output with
        ⟨-, -, -, ⟨distinct, -⟩ | ⟨key, -, fails, -⟩⟩
      · exact ⟨aim, aims, distinct⟩
      · cases succeeds.symm.trans fails
    · cases succeeds.symm.trans (refused.run (.inl rfl) output).1
  · rintro ⟨aim, aims, distinct⟩
    rcases aims.reports output with
      ⟨-, -, -, ⟨-, rows, -, listed⟩ | ⟨key, repeated, -⟩⟩
    · exact (listed.all_of_roomy roomy flushes).1
    · exact absurd distinct repeated.not_nodup

/-- An explanation succeeds if the request has an aim. -/
theorem result_explain_iff
    {output : Sink}
    (roomy : output.room? = none)
    (flushes : output.flushes = true) :
    (Command.run surroundings output (.explain request)).result = .ok () ↔
      ∃ aim, Aims surroundings request aim := by
  constructor
  · intro succeeds
    rcases aims_or_refused surroundings request with
      known | ⟨error, refused⟩
    · exact known
    · cases succeeds.symm.trans (refused.run (.inr rfl) output).1
  · rintro ⟨aim, aims⟩
    rcases aims.reports output with ⟨_, _, shown, _⟩
    exact (shown.all_of_roomy roomy flushes).1

/-- A scan or an explanation fails for its input or its output, never for the query. -/
theorem code_of_run
    {output : Sink}
    {command : Command}
    (asks : command = .scan request ∨ command = .explain request)
    {error : Error}
    (fails : (command.run surroundings output).result = .error error) :
    error.code ≠ .execution ∧ error.code ≠ .canceled := by
  rcases aims_or_refused surroundings request with
    ⟨aim, aims⟩ | ⟨reason, refused⟩
  · rcases aims.reports output with ⟨group, -, shown, scans⟩
    rcases asks with rfl | rfl
    · rcases scans with ⟨-, rows, -, listed⟩ | ⟨key, -, stopped, -⟩
      · rw [listed.code error fails]
        decide
      · cases fails.symm.trans stopped
        exact ⟨nofun, nofun⟩
    · rw [shown.code error fails]
      decide
  · cases fails.symm.trans (refused.run asks output).1
    rcases refused.code with code | code | code <;>
      rw [code] <;> decide

end

/--
A request of a scan has an aim or is refused.  A refused one fails for the
first thing that is wrong with it, and so does the explanation of its plan.
With an aim the explanation is written, and so are the lines of the rows that the
scan lists, unless two rows of the fixture have one key.  Nothing is written of a
scan that fails but for the output, and no failure is one of the query.
-/
theorem scan_end_to_end
    (surroundings : Surroundings)
    (output : Sink)
    (request : ScanRequest) :
    let scanned := Command.run surroundings output (.scan request)
    let explained := Command.run surroundings output (.explain request)
    ((∃ aim, Aims surroundings request aim) ∨
        ∃ error, Refused surroundings request error) ∧
      (∀ error,
        Refused surroundings request error →
          (scanned.result = .error error ∧ scanned.output = output) ∧
            explained.result = .error error ∧ explained.output = output) ∧
        (∀ aim,
          Aims surroundings request aim →
            ∃ group,
              aim.Within group ∧
                output.Writes (explanationBytes (aim.job group))
                    explained.result explained.output ∧
                  ((aim.fixture.rows.map Row.key?).Nodup →
                      ∃ rows,
                        aim.Lists group rows ∧
                          (∀ others,
                            aim.Lists group others → others = rows) ∧
                            output.Writes (rowBytes (rows.map Row.toJson))
                              scanned.result scanned.output) ∧
                    (¬ (aim.fixture.rows.map Row.key?).Nodup →
                      ∃ key,
                        FirstRepeat aim.fixture.rows key ∧
                          scanned.result = .error (repeatedKey key) ∧
                            scanned.output = output)) ∧
          (output.room? = none →
            output.flushes = true →
              (scanned.result = .ok () ↔
                  ∃ aim,
                    Aims surroundings request aim ∧
                      (aim.fixture.rows.map Row.key?).Nodup) ∧
                (explained.result = .ok () ↔
                  ∃ aim, Aims surroundings request aim)) ∧
            ∀ error,
              scanned.result = .error error ∨
                  explained.result = .error error →
                error.code ≠ .execution ∧ error.code ≠ .canceled := by
  intro scanned explained
  have refuses :
      ∀ error, Refused surroundings request error →
        (scanned.result = .error error ∧ scanned.output = output) ∧
          explained.result = .error error ∧ explained.output = output :=
    fun error refused =>
      ⟨refused.run (.inl rfl) output, refused.run (.inr rfl) output⟩
  refine ⟨aims_or_refused surroundings request, refuses, ?_, ?_, ?_⟩
  · intro aim aims
    rcases aims.reports output with
      ⟨group, within, shown, ⟨distinct, listed⟩ | ⟨key, repeated, stopped⟩⟩
    · rcases listed with ⟨rows, lists, writes⟩
      exact ⟨group, within, shown,
        fun _ => ⟨rows, lists, fun _ others => others.unique lists, writes⟩,
        fun repeated => absurd distinct repeated⟩
    · exact ⟨group, within, shown,
        fun distinct => absurd distinct repeated.not_nodup,
        fun _ => ⟨key, repeated, stopped⟩⟩
  · exact fun roomy flushes =>
      ⟨result_scan_iff roomy flushes, result_explain_iff roomy flushes⟩
  · rintro error (fails | fails)
    · exact code_of_run (.inl rfl) fails
    · exact code_of_run (.inr rfl) fails

namespace Sample

/-- The lines of a customer and its order. -/
def shopLines : String :=
  "\x7b\"_hkey\":\"\x7b(1)1\x7d\",\"_type\":\"customer\",\"id\":1\x7d\n" ++
    "\x7b\"_hkey\":\"\x7b(1)1,(2)7\x7d\",\"_type\":\"order\",\"id\":7\x7d\n"

theorem lists_shop :
    aimOfShop.Lists MemoryStore.Sample.group
      [MemoryStore.Sample.customerRow, MemoryStore.Sample.orderRow] := by
  refine ⟨_, ?_, ?_, rfl⟩
  · decide +kernel
  · refine List.pairwise_pair.2 ⟨_, _, rfl, rfl, ?_⟩
    decide +kernel

theorem rowBytes_shop :
    rowBytes
        ([MemoryStore.Sample.customerRow, MemoryStore.Sample.orderRow].map
          Row.toJson) =
      Text.bytes shopLines := by
  decide +kernel

end Sample

/--
A customer is listed with its order, a key that is no list is refused, and a
customer that is given twice stops the scan.
-/
theorem scan_end_to_end_of_sample :
    let scanned :=
      Command.run Sample.surroundings {} (.scan (Sample.request "shop.json"))
    (scanned.result = .ok () ∧
        scanned.output.accepted = Text.bytes Sample.shopLines) ∧
      (Command.run Sample.surroundings {}
          (.explain Sample.misplaced)).result = .error .malformedKey ∧
        ∃ key,
          (Command.run Sample.surroundings {}
              (.scan (Sample.request "twins.json"))).result =
              .error (repeatedKey key) ∧
            (repeatedKey key).code ≠ .execution := by
  dsimp only
  have ofListed :=
    scan_end_to_end Sample.surroundings {} (Sample.request "shop.json")
  have ofMisplaced :=
    scan_end_to_end Sample.surroundings {} Sample.misplaced
  have ofRepeated :=
    scan_end_to_end Sample.surroundings {} (Sample.request "twins.json")
  have lists := ofListed.2.2.1 _ Sample.aims_shop
  have stops := ofRepeated.2.2.1 _ Sample.aims_twins
  refine ⟨?_, ?_, ?_⟩
  · rcases lists with ⟨group, within, -, lists, -⟩
    rcases lists (by decide +kernel) with ⟨rows, -, only, writes⟩
    have itsGroup : MemoryStore.Sample.group = group :=
      Option.some.inj within
    have listed := only _ (itsGroup ▸ Sample.lists_shop)
    rw [← listed, Sample.rowBytes_shop] at writes
    rcases writes.all_of_roomy rfl rfl with ⟨succeeds, all⟩
    refine ⟨succeeds, ?_⟩
    rw [all]
    exact List.nil_append _
  · exact (ofMisplaced.2.1 _ Sample.refused).2.1
  · rcases stops with ⟨-, -, -, -, stops⟩
    rcases stops (by decide +kernel) with ⟨key, -, stopped, -⟩
    exact ⟨key, stopped, (ofRepeated.2.2.2.2 _ (.inl stopped)).1⟩

end HierQuery.Cli
