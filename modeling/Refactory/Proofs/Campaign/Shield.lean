import Refactory.Proofs.Analysis.ImportGraph
import Refactory.Proofs.Campaign.Verdict

/-! What the console tells the coder of the files that import its target.

The graph knows files by absolute paths, and the console looks its target up by the path it was given.
A relative path is never found, so the coder is not told of any importer.
-/

set_option autoImplicit false

namespace Refactory.Campaign

open Workspace Analysis

variable {α : Type}

/-! ## Messages to a model -/

def Event.messageTo (model : Nat) : Event → Option String
  | .sent number message => if number = model then some message else none
  | _ => none

def messagesTo (model : Nat) (events : List Event) : List String :=
  events.filterMap (Event.messageTo model)

def World.Sends (model : Nat) (messages : List String) (before after : World) : Prop :=
  ∃ events, after.events = before.events ++ events ∧ messagesTo model events = messages

theorem perform_bind_result {β : Type} {action : Action α} {next : α → Action β}
    (ends : ∀ found, ∃ result, next found = pure result) (world : World) :
    (perform (action >>= next) world).2 = (perform action world).2 := by
  rw [perform_bind]
  rcases perform action world with ⟨outcome, after⟩
  cases outcome with
  | error failure => rfl
  | ok found =>
    obtain ⟨result, same⟩ := ends found
    dsimp only
    rw [same, perform_pure]

namespace World.Sends

variable {model : Nat}

theorem trans {first second third : World} {earlier later : List String}
    (left : Sends model earlier first second) (right : Sends model later second third) :
    Sends model (earlier ++ later) first third := by
  obtain ⟨before, begun, rfl⟩ := left
  obtain ⟨after, ended, rfl⟩ := right
  refine ⟨before ++ after, ?_, List.filterMap_append⟩
  rw [ended, begun, List.append_assoc]

theorem quietly {first second third : World} {messages : List String}
    (left : Sends model messages first second) (right : Sends model [] second third) :
    Sends model messages first third := by
  rw [← List.append_nil messages]
  exact left.trans right

theorem note (world : World) {events : List Event} (silent : messagesTo model events = []) :
    Sends model [] world (world.note events) :=
  ⟨events, rfl, silent⟩

theorem asked (world : World) (agent : Agent) (message : String) :
    Sends agent.model [message] world (world.asked agent message) :=
  ⟨_, world.asked_events agent message, by simp [messagesTo, Event.messageTo]⟩

theorem asked_other (world : World) {agent : Agent} (other : agent.model ≠ model) (message : String) :
    Sends model [] world (world.asked agent message) :=
  ⟨_, world.asked_events agent message, by simp [messagesTo, Event.messageTo, other]⟩

theorem save (world : World) (path text : String) : Sends model [] world (world.save path text) :=
  ⟨_, world.save_events path text, rfl⟩

theorem enlist (world : World) (profile : Profile) : Sends model [] world (world.enlist profile) :=
  ⟨_, world.enlist_events profile, rfl⟩

theorem tested (world : World) (path : String) : Sends model [] world (world.tested path) :=
  ⟨_, world.tested_events path, rfl⟩

theorem searched (world : World) (query : String) : Sends model [] world (world.searched query) :=
  ⟨[.searched query], rfl, rfl⟩

end World.Sends

namespace Console

open ImportGraph (ofFolder filesBelow)

/-! ## The stages of the console -/

def graphFor (tree : Tree) (path : String) : ImportGraph :=
  ofFolder tree (graphRoot path)

def constraintsFor (tree : Tree) (path level : String) : String :=
  effectiveConstraints path level ((graphFor tree path).constraints path)

def resultsFor (script : Script) (old : String) : String :=
  usableResults (queryFor old) (reportOfSearch script.findings)

def shield (constraints : String) : Event :=
  if constraints = "" then pageText .success "🛡️ Shield Status: Green (No External Dependencies)"
  else pageText .error ("🛡️ **DEPENDENCY SHIELD ACTIVATED**\n\n" ++ constraints)

theorem perform_showShield (constraints : String) (world : World) :
    perform (showShield constraints) world = (.ok (), world.note [shield constraints]) := by
  unfold showShield shield
  split <;> rw [perform_showText]

def survey (context path level old : String) (tree : Tree) : List Event :=
  [pageText .caption ("🧠 Memory Bank: Loaded " ++ toString context.length ++ " bytes of user preferences."),
    stageHeading "inquisitor" "🔍 <b>INQUISITOR AGENT</b>" "Scanning AST...",
    .slept (.float 0.5),
    pageText .document (describeComplexity tree path),
    stageHeading "shield" "🕸️ <b>GRAPH AGENT</b>" "Building Dependency Tree...",
    .slept (.float 0.5),
    shield (constraintsFor tree path level),
    stageHeading "researcher" "🌍 <b>RESEARCHER AGENT</b>" "Querying Knowledge Base...",
    pageText .information ("🔎 Googling: '" ++ queryFor old ++ "'")]

def prepared (context path level old : String) (world : World) : World :=
  (((world.note (survey context path level old world.tree)).searched (queryFor old)).note
    [.shown .page .code [.text (resultsFor world.script old)] [.language "text"],
      stageHeading "surgeon" "👨‍⚕️ <b>SURGEON AGENT</b>" "Applying Semantic Refactoring..."]).enlist refactorer

theorem perform_produce {bank : Memory.Bank} {context : String} (remembered : bank.context = .ok context)
    (path level old : String) (world : World) :
    perform (produce bank path level old) world = (world.script.reply.outcome,
      (prepared context path level old world).asked (world.nextAgent refactorer)
        (prompt (resultsFor world.script old) (constraintsFor world.tree path level) old)) := by
  unfold produce
  simp only [remembered, perform_bind, perform_orFault_ok, perform_showText, perform_showStage,
    Dashboard.sleep, perform_record, perform_measureComplexity, perform_get, perform_showShield,
    perform_search, perform_showWith, perform_make, perform_ask, World.note_note, World.note_tree,
    World.note_script]
  rfl

theorem perform_produce_forgotten {bank : Memory.Bank} {fault : ValueFault}
    (forgotten : bank.context = .error fault) (path level old : String) (world : World) :
    perform (produce bank path level old) world = (.error (.value fault), world) := by
  have failed : perform (orFault bank.context) world = (.error (.value fault), world) := by
    rw [forgotten]
    exact perform_throw ..
  rw [produce, perform_bind_error failed]

theorem prepared_sends {model : Nat} (context path level old : String) (world : World) :
    World.Sends model [] world (prepared context path level old world) := by
  have silent : messagesTo model (survey context path level old world.tree) = [] := by
    unfold survey shield
    split <;> rfl
  exact (((World.Sends.note world silent).trans (.searched ..)).trans (.note _ rfl)).trans (.enlist ..)

theorem perform_examine_empty {path code : String} {world : World}
    (empty : world.script.reply.code? = none) :
    perform (examine path code) world =
      (.error emptyReply, (staged world).asked (world.nextAgent tester) (testPrompt code)) := by
  have answered : perform ((world.nextAgent tester).ask (testPrompt code)) (staged world) =
      (.error emptyReply, (staged world).asked (world.nextAgent tester) (testPrompt code)) := by
    simp only [perform_ask, staged, World.enlist_script, World.note_script, Reply.outcome, empty]
  unfold examine
  rw [perform_bind_ok (perform_showStage ..), perform_bind_ok (perform_make ..)]
  exact perform_bind_error answered _

/-- The stage of tests only sends messages to the model that it makes. -/
theorem examine_sends {model : Nat} {world : World} (other : world.models ≠ model) (path code : String) :
    World.Sends model [] world (perform (examine path code) world).2 := by
  have asking : World.Sends model [] world
      ((staged world).asked (world.nextAgent tester) (testPrompt code)) :=
    ((World.Sends.note world rfl).trans (.enlist ..)).trans (.asked_other _ other _)
  -- an empty reply leaves it at the message; otherwise the tests are saved, run and told of
  cases given : world.script.reply.code? with
  | none =>
    rw [perform_examine_empty given]
    exact asking
  | some tests =>
    have silent : messagesTo model (closing world.script.testRun.report) = [] := by
      unfold closing
      split <;> rfl
    rw [perform_examine given]
    exact ((asking.trans (.save ..)).trans (.tested ..)).trans (.note _ silent)

def guardHeading : Event :=
  stageHeading "guardian" "⚖️ <b>GUARDIAN AGENT</b>" "Verifying Semantic Equivalency..."

/-- What follows new code: the tests, if the check of the global names accepts it. -/
theorem perform_stages_produced {bank : Memory.Bank} {path level old code : String} {world after : World}
    (produced : perform (produce bank path level old) world = (.ok code, after)) :
    (perform (stages bank path level old) world).2 =
      if (checkScope old code).isAccepted then
        (perform (examine path code)
          (after.note [guardHeading, pageText .success "✅ Scope Safety Check Passed."])).2
      else after.note [guardHeading,
        pageText .error ("🛑 GUARDIAN INTERVENTION: " ++ (checkScope old code).message),
        .shown .status .statusUpdate []
          [.label "❌ Refactor Rejected by Safety Protocols", .state "error"]] := by
  unfold stages
  rw [perform_bind_ok produced, perform_bind_ok (perform_showStage ..)]
  by_cases accepted : (checkScope old code).isAccepted
  · simp only [accepted, if_true]
    rw [perform_bind_ok (perform_showText ..), perform_bind_result fun _ => ⟨_, rfl⟩, World.note_note]
    rfl
  · simp only [accepted, Bool.false_eq_true, if_false, perform_bind, perform_showText, updateStatus,
      perform_showWith, perform_pure, World.note_note]
    rfl

def sentFor (bank : Memory.Bank) (message : String) : List String :=
  match bank.context with
  | .ok _ => [message]
  | .error _ => []

/-- The model made for new code is sent the prompt and nothing else. -/
theorem stages_sends (bank : Memory.Bank) (path level old : String) (world : World) :
    World.Sends world.models
      (sentFor bank (prompt (resultsFor world.script old) (constraintsFor world.tree path level) old))
      world (perform (stages bank path level old) world).2 := by
  let message := prompt (resultsFor world.script old) (constraintsFor world.tree path level) old
  cases remembered : bank.context with
  | error fault =>
    rw [sentFor, remembered, stages,
      perform_bind_error (perform_produce_forgotten remembered path level old world)]
    exact ⟨[], (List.append_nil _).symm, rfl⟩
  | ok context =>
    let after := (prepared context path level old world).asked (world.nextAgent refactorer) message
    have producing : World.Sends world.models (sentFor bank message) world after := by
      rw [sentFor, remembered]
      exact (prepared_sends context path level old world).trans (.asked ..)
    have produced : perform (produce bank path level old) world = (world.script.reply.outcome, after) :=
      perform_produce remembered path level old world
    cases replied : world.script.reply.outcome with
    | error failure =>
      rw [replied] at produced
      rw [stages, perform_bind_error produced]
      exact producing
    | ok code =>
      rw [replied] at produced
      rw [perform_stages_produced produced]
      split
      · -- the model made for the tests comes after this one
        have later (events : List Event) : (after.note events).models ≠ world.models :=
          Nat.succ_ne_self world.models
        exact (producing.quietly (.note after rfl)).quietly (examine_sends (later _) path code)
      · exact producing.quietly (.note after rfl)

/-- In a run for a file the model made for new code is sent one prompt, with these constraints. -/
def Told (bank : Memory.Bank) (path level : String) (world : World) (constraints : String) : Prop :=
  World.Sends world.models
    (sentFor bank (prompt (resultsFor world.script (readOrExplain world.tree path)) constraints
      (readOrExplain world.tree path)))
    world (perform (process bank path level) world).2

theorem process_told (bank : Memory.Bank) {path : String} {world : World}
    (present : world.tree.has path = true) (level : String) :
    Told bank path level world (constraintsFor world.tree path level) := by
  unfold Told process
  rw [perform_bind_ok (perform_get world)]
  simp only [present, if_true]
  -- after the stages the new code is only made into an outcome
  rw [perform_bind_ok (perform_fileText ..), perform_bind_ok (perform_showWith ..),
    perform_bind_result fun found => ?results, perform_within, World.note_note]
  case results => cases found <;> exact ⟨_, rfl⟩
  have going := stages_sends bank path level (readOrExplain world.tree path)
    (world.note [.shown .page .status [.text ("Processing " ++ level ++ "...")] [.expanded],
      .entered .status])
  exact (World.Sends.trans (.note world rfl) going).quietly (.note _ rfl)

/-! ## Relative paths -/

def standIn (path level : String) : String :=
  if Text.contains path "level3" || Text.contains level "Dependency" then assumedConstraints else ""

theorem contains_standIn (path level : String) :
    Text.contains (standIn path level) "- Imported by: " = false := by
  unfold standIn
  split <;> decide +kernel

theorem isAbsolute_graphRoot (path : String) : Path.isAbsolute (graphRoot path) = true :=
  Path.isAbsolute_parent (Path.isAbsolute_parent (Path.isAbsolute_absolute path))

theorem constraintsFor_relative {path : String} (relative : Path.isAbsolute path = false) (tree : Tree)
    (level : String) : constraintsFor tree path level = standIn path level := by
  have nothing : (graphFor tree path).constraints path =
      "No external dependencies found. You have full freedom to refactor." := by
    rw [ImportGraph.constraints, graphFor,
      ImportGraph.importersOf_relative (isAbsolute_graphRoot path) relative]
  have free : Text.contains "No external dependencies found. You have full freedom to refactor."
      "No external dependencies" = true := by decide +kernel
  have calm : Text.contains "No external dependencies found. You have full freedom to refactor."
      "CRITICAL" = false := by decide +kernel
  rw [constraintsFor, nothing, effectiveConstraints, free, calm, standIn, Bool.true_and]
  simp only [Bool.false_eq_true, if_false]

theorem constraintsFor_imported {tree : Tree} {path importer : String}
    (member : importer ∈ (graphFor tree path).importersOf path)
    (plain : Text.contains ((graphFor tree path).constraints path) "No external dependencies" = false)
    (level : String) : constraintsFor tree path level = (graphFor tree path).constraints path := by
  rw [constraintsFor, effectiveConstraints, plain, ImportGraph.contains_critical member, Bool.false_and,
    if_neg Bool.false_ne_true, if_pos rfl]

/-- Given a relative path, the console tells the coder a text in the stead of what the graph has for the
target, and no importer is named in it. Given the path that the graph lists the target by, it hands on
the text of the graph, which names the importers. -/
theorem importers_told_by_listed_path_only (bank : Memory.Bank) {world : World} {path : String}
    (present : world.tree.has path = true) (level : String) :
    (Path.isAbsolute path = false → Told bank path level world (standIn path level)) ∧
    Text.contains (standIn path level) "- Imported by: " = false ∧
    ∀ module target name importer program,
      ((filesBelow world.tree (graphRoot path)).map Prod.fst).Nodup →
      (module ++ ".py", target) ∈ filesBelow world.tree (graphRoot path) →
      (name, importer) ∈ filesBelow world.tree (graphRoot path) →
      ProgramAt world.tree importer program → Leads program module →
      Text.contains ((graphFor world.tree path).constraints target)
        ("- Imported by: " ++ Path.fileName importer) = true ∧
      (path = target →
        Text.contains ((graphFor world.tree path).constraints target)
          "No external dependencies" = false →
        Told bank path level world ((graphFor world.tree path).constraints target)) := by
  have told := process_told bank present level
  refine ⟨fun relative => ?_, contains_standIn path level, ?_⟩
  · rw [← constraintsFor_relative relative world.tree level]
    exact told
  · intro module target name importer program distinct listed among held leads
    -- what the graph tells of the target does not depend on how the console was given its path
    have known : importer ∈ (graphFor world.tree path).importersOf target :=
      ImportGraph.mem_importersOf_of_leads distinct among held listed leads
    refine ⟨ImportGraph.contains_constraints known, ?_⟩
    rintro rfl plain
    rw [← constraintsFor_imported known plain level]
    exact told

def blankBank : Memory.Bank := ⟨Memory.defaultPath, Memory.emptyMemory⟩

def libraryWorld : World := World.start (ImportGraph.pairTree "import lib\n") Script.empty

theorem library_importer_untold :
    World.Sends 0 [prompt "Found: 'PEP 8 Style Guide', 'Refactoring Spaghetti Code'" "" "x = 1\n"]
      libraryWorld (perform (process blankBank "pkg/lib.py" "Custom") libraryWorld).2 ∧
    Text.contains ((graphFor libraryWorld.tree "pkg/lib.py").constraints "/ROOT/pkg/lib.py")
      "- Imported by: main.py" = true := by
  have present : libraryWorld.tree.has "pkg/lib.py" = true := by decide +kernel
  obtain ⟨untold, _, named⟩ := importers_told_by_listed_path_only blankBank present "Custom"
  constructor
  · have old : readOrExplain libraryWorld.tree "pkg/lib.py" = "x = 1\n" := by decide +kernel
    have results : resultsFor libraryWorld.script "x = 1\n" =
        "Found: 'PEP 8 Style Guide', 'Refactoring Spaghetti Code'" := by decide +kernel
    have nothing : standIn "pkg/lib.py" "Custom" = "" := by decide +kernel
    rw [Told, old, results, nothing] at untold
    exact untold (by decide)
  · have root : graphRoot "pkg/lib.py" = "/ROOT" := by decide +kernel
    rw [root] at named
    exact (named _ _ _ _ _ (ImportGraph.pairTree_distinct _) (ImportGraph.pairTree_library _)
      (ImportGraph.pairTree_user _) ImportGraph.pairTree_import
      (ImportGraph.leads_import_iff.mpr rfl)).1

end Console

end Refactory.Campaign
