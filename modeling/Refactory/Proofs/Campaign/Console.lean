import Refactory.Proofs.Campaign.Attempts
import Refactory.Proofs.Campaign.Frame
import Refactory.Proofs.Campaign.Shield
import Refactory.Proofs.Workspace.Unlinked

/-! What a run of the console leaves behind.

It never writes its target. Code that the check of the global names accepts has its tests saved beside the
target and run; code that it rejects leaves all files as they were.
-/

set_option autoImplicit false

namespace Refactory.Campaign

open Workspace Analysis
variable {α β : Type}

theorem ok_of_perform_bind {action : Action α} {next : α → Action β} {world after : World} {found : β}
    (done : perform (action >>= next) world = (.ok found, after)) :
    ∃ first between, perform action world = (.ok first, between) ∧
      perform (next first) between = (.ok found, after) := by
  rw [perform_bind] at done
  split at done
  · next first between begun => exact ⟨first, between, begun, done⟩
  · cases done

def World.Does (saves : List (String × String)) (runs : Nat) (before after : World) : Prop :=
  ∃ events, World.Leads before events after ∧ savesOf events = saves ∧ testRuns events = runs

namespace World.Does

theorem trans {saves moreSaves : List (String × String)} {runs moreRuns : Nat} {first second third : World}
    (left : Does saves runs first second) (right : Does moreSaves moreRuns second third) :
    Does (saves ++ moreSaves) (runs + moreRuns) first third := by
  obtain ⟨earlier, begun, saved, tested⟩ := left
  obtain ⟨later, ended, saved', tested'⟩ := right
  refine ⟨earlier ++ later, begun.trans ended, ?_, ?_⟩
  · rw [savesOf_append, saved, saved']
  · rw [testRuns_append, tested, tested']

theorem note {events : List Event} (idle : events.all Event.isIdle = true) (world : World) :
    Does [] 0 world (world.note events) :=
  ⟨events, .note world (savesOf_of_idle idle), savesOf_of_idle idle, testRuns_of_idle idle⟩

theorem asked (world : World) (agent : Agent) (message : String) :
    Does [] 0 world (world.asked agent message) :=
  ⟨_, .asked world agent message, rfl, rfl⟩

theorem tested (world : World) (path : String) : Does [] 1 world (world.tested path) :=
  ⟨_, .tested world path, rfl, rfl⟩

theorem save (world : World) (path text : String) : Does [(path, text)] 0 world (world.save path text) :=
  ⟨_, .save world path text, rfl, rfl⟩

theorem enlist (world : World) (profile : Profile) : Does [] 0 world (world.enlist profile) :=
  ⟨_, .enlist world profile, rfl, rfl⟩

theorem searched (world : World) (query : String) : Does [] 0 world (world.searched query) :=
  ⟨[.searched query], ⟨rfl, rfl⟩, rfl, rfl⟩

end World.Does

namespace Console

open World (Does)

/-! ## The stages -/

/-- New code comes from the reply, and nothing is saved or tested for it. -/
theorem produce_does {bank : Memory.Bank} {path level old code : String} {world after : World}
    (done : perform (produce bank path level old) world = (.ok code, after)) :
    world.script.reply.code? = some code ∧ Does [] 0 world after := by
  cases remembered : bank.context with
  | error fault =>
    rw [perform_produce_forgotten remembered] at done
    cases done
  | ok context =>
    rw [perform_produce remembered] at done
    obtain ⟨replied, rfl⟩ := Prod.mk.inj done
    constructor
    · unfold Reply.outcome at replied
      split at replied
      · next given =>
        cases replied
        exact given
      · cases replied
    · have surveyed : (survey context path level old world.tree).all Event.isIdle = true := by
        unfold survey shield
        split <;> rfl
      have shown (results : String) : List.all [.shown .page .code [.text results] [.language "text"],
          stageHeading "surgeon" "👨‍⚕️ <b>SURGEON AGENT</b>" "Applying Semantic Refactoring..."]
          Event.isIdle = true := rfl
      exact (Does.note surveyed world).trans ((Does.searched ..).trans
        ((Does.note (shown _) _).trans ((Does.enlist ..).trans (.asked ..))))

theorem examine_does {path code : String} {world after : World}
    (done : perform (examine path code) world = (.ok (), after)) :
    ∃ tests, Does [(testPath path, tests)] 1 world after := by
  cases given : world.script.reply.code? with
  | none =>
    rw [perform_examine_empty given] at done
    cases done
  | some tests =>
    rw [perform_examine given] at done
    obtain ⟨_, rfl⟩ := Prod.mk.inj done
    have closed : (closing world.script.testRun.report).all Event.isIdle = true := by
      unfold closing
      split <;> rfl
    have headed (heading : Event) (idle : heading.isIdle = true) : List.all [heading] Event.isIdle = true := by
      rw [List.all_cons, idle]
      rfl
    have staged : Does [] 0 world (staged world) := (Does.note (headed _ rfl) world).trans (.enlist ..)
    have saved := staged.trans ((Does.asked _ (world.nextAgent tester) (testPrompt code)).trans
      (.save _ (testPath path) tests))
    exact ⟨tests, saved.trans ((Does.tested ..).trans (.note closed _))⟩

/-- What the stages come to, by the check of the global names. -/
theorem stages_does {bank : Memory.Bank} {path level old : String} {found : Option String}
    {world after : World} (done : perform (stages bank path level old) world = (.ok found, after)) :
    ∃ code, world.script.reply.code? = some code ∧
      ((checkScope old code).isAccepted = true →
        found = some code ∧ ∃ tests, Does [(testPath path, tests)] 1 world after) ∧
      ((checkScope old code).isAccepted = false → found = none ∧ Does [] 0 world after) := by
  obtain ⟨code, produced, coded, rest⟩ := ok_of_perform_bind done
  obtain ⟨given, producing⟩ := produce_does coded
  rw [perform_bind_ok (perform_showStage ..)] at rest
  -- a run that rejects the code stops here, and one that accepts it has its tests left to do
  refine ⟨code, given, fun accepted => ?_, fun rejected => ?_⟩
  · simp only [accepted, if_true] at rest
    rw [perform_bind_ok (perform_showText ..), World.note_note] at rest
    obtain ⟨_, examined, tested, last⟩ := ok_of_perform_bind rest
    rw [perform_pure] at last
    obtain ⟨same, rfl⟩ := Prod.mk.inj last
    obtain ⟨tests, examining⟩ := examine_does tested
    exact ⟨(Except.ok.inj same).symm, tests, producing.trans ((Does.note rfl _).trans examining)⟩
  · simp only [rejected, Bool.false_eq_true, if_false] at rest
    rw [perform_bind_ok (perform_showText ..), updateStatus, perform_bind_ok (perform_showWith ..),
      perform_pure, World.note_note, World.note_note] at rest
    obtain ⟨same, rfl⟩ := Prod.mk.inj rest
    exact ⟨(Except.ok.inj same).symm, producing.trans (.note rfl _)⟩

/-- What a run for a file that is there comes to. -/
theorem process_does {bank : Memory.Bank} {path level : String} {outcome : Outcome} {world after : World}
    (present : world.tree.has path = true)
    (done : perform (process bank path level) world = (.ok outcome, after)) :
    ∃ code, world.script.reply.code? = some code ∧
      ((checkScope (readOrExplain world.tree path) code).isAccepted = true →
        outcome.status = .success ∧ ∃ tests, Does [(testPath path, tests)] 1 world after) ∧
      ((checkScope (readOrExplain world.tree path) code).isAccepted = false →
        outcome.status = .pending ∧ Does [] 0 world after) := by
  unfold process at done
  rw [perform_bind_ok (perform_get world)] at done
  simp only [present, if_true] at done
  rw [perform_bind_ok (perform_fileText ..), perform_bind_ok (perform_showWith ..)] at done
  obtain ⟨found, left, staged, last⟩ := ok_of_perform_bind done
  rw [perform_within, World.note_note] at staged
  obtain ⟨result, rfl⟩ := Prod.mk.inj staged
  obtain ⟨code, given, accepting, rejecting⟩ := stages_does (Prod.ext result rfl)
  -- the area is left in any case, and the outcome is made from what was found
  refine ⟨code, given, fun accepted => ?_, fun rejected => ?_⟩
  · obtain ⟨rfl, tests, going⟩ := accepting accepted
    rw [perform_pure] at last
    obtain ⟨same, rfl⟩ := Prod.mk.inj last
    refine ⟨?_, tests, (Does.note rfl world).trans (going.trans (.note rfl _))⟩
    rw [← Except.ok.inj same]
  · obtain ⟨rfl, going⟩ := rejecting rejected
    rw [perform_pure] at last
    obtain ⟨same, rfl⟩ := Prod.mk.inj last
    refine ⟨?_, (Does.note rfl world).trans (going.trans (.note rfl _))⟩
    rw [← Except.ok.inj same]

/-! ## Files -/

/-- The path of the tests of a source file whose path has the ending only once. -/
theorem testPath_of_once {start : String} (once : Text.contains start ".py" = false) :
    testPath (start ++ ".py") = start ++ "_reaper_test.py" := by
  rw [testPath_append_ending, testPath_eq_self_iff.mpr once]

theorem target_ne_tests (folder : Place) (stem : String) :
    folder ++ [stem ++ ".py"] ≠ folder ++ [stem ++ "_reaper_test.py"] := by
  intro same
  have length := congrArg (fun name => name.toList.length) (List.singleton_inj.mp (List.append_cancel_left same))
  simp only [String.toList_append, List.length_append] at length
  exact absurd (Nat.add_left_cancel length) (by decide)

theorem lookup_of_has {tree : Tree} {path : String} (present : tree.has path = true) :
    ∃ place entry, tree.lookup path = .ok (place, entry) := by
  unfold Tree.has Tree.checked at present
  split at present
  · cases present
  · cases found : tree.lookup path with
    | ok there => exact ⟨there.1, there.2, rfl⟩
    | error cause =>
      rw [found] at present
      cases present

/-- In files without links, a run of the console for a file that is there leaves it as it is and changes at
most the tests beside it. Exactly if the check of the global names accepts the new code, tests are saved and run
and the run is a success; otherwise no file changes. -/
theorem tests_beside_kept_target {bank : Memory.Bank} {start level : String} {outcome : Outcome}
    {world after : World} (unlinked : world.tree.Unlinked []) (present : world.tree.has (start ++ ".py") = true)
    (once : Text.contains start ".py" = false)
    (done : perform (process bank (start ++ ".py") level) world = (.ok outcome, after)) :
    ∃ folder entry code events,
      world.tree.lookup (start ++ ".py") = .ok (folder ++ [Path.fileName start ++ ".py"], entry) ∧
      after.tree.lookup (start ++ ".py") = .ok (folder ++ [Path.fileName start ++ ".py"], entry) ∧
      (∀ place, Changed world.tree after.tree place →
        place = folder ++ [Path.fileName start ++ "_reaper_test.py"]) ∧
      world.script.reply.code? = some code ∧ after.events = world.events ++ events ∧
      ((checkScope (readOrExplain world.tree (start ++ ".py")) code).isAccepted = true →
        (savesOf events).map Prod.fst = [start ++ "_reaper_test.py"] ∧ testRuns events = 1 ∧
          outcome.status.text = "Success") ∧
      ((checkScope (readOrExplain world.tree (start ++ ".py")) code).isAccepted = false →
        after.tree = world.tree ∧ savesOf events = [] ∧ testRuns events = 0 ∧
          outcome.status.text = "Pending") := by
  obtain ⟨code, given, accepting, rejecting⟩ := process_does present done
  obtain ⟨place, entry, found⟩ := lookup_of_has present
  have plain : Path.endsInSlash (start ++ ".py") = false := Path.endsInSlash_append rfl (by decide) start
  obtain rfl := Tree.resolved_of_lookup unlinked plain found
  let folder := (Path.names (Path.parent start)).foldl Path.step (Tree.base (start ++ ".py"))
  have target : Tree.resolved (start ++ ".py") = folder ++ [Path.fileName start ++ ".py"] :=
    Tree.resolved_append start (by decide) (by decide)
  have tests : Tree.resolved (start ++ "_reaper_test.py") =
      folder ++ [Path.fileName start ++ "_reaper_test.py"] := by
    rw [Tree.resolved_append start (by decide) (by decide), ← testPath_of_once once, base_testPath]
  rw [target] at found
  cases verdict : (checkScope (readOrExplain world.tree (start ++ ".py")) code).isAccepted with
  | true =>
    obtain ⟨success, text, events, leads, saves, runs⟩ := accepting verdict
    rw [testPath_of_once once] at saves
    have saved : after.tree = (world.tree.saveText (start ++ "_reaper_test.py") text).1 := by
      rw [leads.tree, replay, saves, List.foldl_cons, List.foldl_nil]
    -- only the place of the tests is written, and it is not that of the target
    have frame := Tree.saveText_frame_resolved unlinked (start ++ "_reaper_test.py") text
    have grows := Tree.saveText_grows world.tree (start ++ "_reaper_test.py") text
    rw [tests, ← saved] at frame
    rw [← saved] at grows
    have kept := Tree.lookup_kept grows found (frame.fileAt?_eq (target_ne_tests folder (Path.fileName start)))
    refine ⟨folder, entry, code, events, found, kept, fun place changed => ?_, given, leads.record,
      fun _ => ⟨?_, runs, ?_⟩, fun rejected => ?_⟩
    · exact Classical.byContradiction fun apart => changed (frame.fileAt?_eq apart)
    · rw [saves, List.map_singleton]
    · rw [success, Status.text]
    · exact absurd (rejected.symm.trans verdict) Bool.false_ne_true
  | false =>
    obtain ⟨pending, events, leads, saves, runs⟩ := rejecting verdict
    have same : after.tree = world.tree := by rw [leads.tree, replay_of_no_saves saves]
    refine ⟨folder, entry, code, events, found, ?_, fun place changed => ?_, given, leads.record,
      fun accepted => ?_, fun _ => ⟨same, saves, runs, ?_⟩⟩
    · rw [same, found]
    · exact absurd (by rw [same]) changed
    · exact absurd (verdict.symm.trans accepted) Bool.false_ne_true
    · rw [pending, Status.text]

def counterSession : World := World.start
  ⟨[(["ROOT"], .folder), (["ROOT", "pkg"], .folder),
    (["ROOT", "pkg", "counter.py"], .file (Text.Utf8.encode "x = 1\n"))], .sorted⟩
  { Script.empty with
    replies := [.text "x = 2", .text "assert True"]
    tests := [.finished 0 "1 passed" ""] }

theorem counterSession_holds :
    ((perform (process blankBank ("pkg/../pkg/counter" ++ ".py") "Custom") counterSession).1.toOption.map
      Outcome.status = some .success) ∧
    counterSession.tree.has ("pkg/../pkg/counter" ++ ".py") = true ∧
    Text.contains "pkg/../pkg/counter" ".py" = false ∧
    ∀ entry ∈ counterSession.tree.entries, entry.2.isLink = false := by
  decide +kernel

theorem counter_tests_beside : ∃ outcome after events folder,
    perform (process blankBank ("pkg/../pkg/counter" ++ ".py") "Custom") counterSession = (.ok outcome, after) ∧
      outcome.status = .success ∧ after.events = events ∧ testRuns events = 1 ∧
      (savesOf events).map Prod.fst = ["pkg/../pkg/counter" ++ "_reaper_test.py"] ∧
      after.tree.lookup ("pkg/../pkg/counter" ++ ".py") =
        counterSession.tree.lookup ("pkg/../pkg/counter" ++ ".py") ∧
      ∀ place, Changed counterSession.tree after.tree place →
        place = folder ++ [Path.fileName "pkg/../pkg/counter" ++ "_reaper_test.py"] := by
  obtain ⟨ended, present, once, plain⟩ := counterSession_holds
  rcases done : perform (process blankBank ("pkg/../pkg/counter" ++ ".py") "Custom") counterSession with
    ⟨result, after⟩
  rw [done] at ended
  cases result with
  | error failure => cases ended
  | ok outcome =>
    have success : outcome.status = .success := Option.some.inj ended
    obtain ⟨folder, entry, code, events, before, kept, only, _, record, accepting, rejecting⟩ :=
      tests_beside_kept_target (.of_entries plain) present once done
    cases verdict : (checkScope (readOrExplain counterSession.tree ("pkg/../pkg/counter" ++ ".py"))
      code).isAccepted with
    | true =>
      obtain ⟨saves, runs, _⟩ := accepting verdict
      exact ⟨outcome, after, events, folder, rfl, success, record, runs, saves, kept.trans before.symm, only⟩
    | false =>
      obtain ⟨_, _, _, pending⟩ := rejecting verdict
      rw [success] at pending
      exact absurd pending (by decide)

end Console

end Refactory.Campaign
