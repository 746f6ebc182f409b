import Refactory.Campaign.Repository
import Refactory.Proofs.Campaign.Action

/-! Making a fresh copy takes no answer of the collaborators and hands over no text to be saved.

All that it does is to note events of its own and to change files, so every relation between worlds that
allows for these two holds between the world before a copy and the world after it.
-/

set_option autoImplicit false

namespace Refactory.Campaign

open Workspace

variable {α β : Type}

/-! ## What a copy keeps to -/

inductive Event.IsCopying : Event → Prop
  | printed (text : String) : IsCopying (.printed text)
  | removed (folder : String) : IsCopying (.removed folder)
  | cloned (address folder : String) : IsCopying (.cloned address folder)
  | repositoryOpened (folder : String) : IsCopying (.repositoryOpened folder)

/-- A relation between worlds that allows for the events of a copy and for changes of the files. -/
structure AllowsCopying (related : World → World → Prop) : Prop where
  refl (world : World) : related world world
  trans {first second third : World} :
    related first second → related second third → related first third
  note {event : Event} (copying : event.IsCopying) (world : World) : related world (world.note [event])
  withTree (world : World) (tree baseline : Tree) : related world { world with tree, baseline }

namespace AllowsCopying

variable {related : World → World → Prop} (allows : AllowsCopying related)

include allows

/-- Two actions in a row keep to the relation if the second one does in the world that the first one
leads to. -/
theorem bind {action : Action α} {next : α → Action β} {world : World}
    (first : related world (perform action world).2)
    (rest : ∀ found after, related after (perform (next found) after).2) :
    related world (perform (action >>= next) world).2 := by
  rw [perform_bind]
  rcases done : perform action world with ⟨outcome, after⟩
  rw [done] at first
  cases outcome with
  | ok found => exact allows.trans first (rest found after)
  | error failure => exact first

theorem pure (found : α) (world : World) :
    related world (perform (Pure.pure found : Action α) world).2 := by
  rw [perform_pure]
  exact allows.refl world

theorem record {event : Event} (copying : event.IsCopying) (world : World) :
    related world (perform (Campaign.record event) world).2 := by
  rw [perform_record]
  exact allows.note copying world

theorem setTree (outcome : Except Fault Tree) (world : World) (next : Tree → World)
    (kept : ∀ tree, related world (next tree)) :
    related world (perform (do set (next (← orFail outcome)) : Action PUnit) world).2 := by
  cases outcome with
  | error fault =>
    rw [perform_bind_error (perform_orFail_error fault world)]
    exact allows.refl world
  | ok tree =>
    rw [perform_bind_ok (perform_orFail_ok tree world), perform_set]
    exact kept tree

theorem discard (folder : String) (world : World) :
    related world (perform (Campaign.discard folder) world).2 := by
  refine allows.bind (allows.record (.removed folder) world) fun _ noted => ?_
  rw [perform_bind_ok (perform_get noted)]
  by_cases denied : noted.script.removalDenied
  · rw [if_pos denied]
    exact allows.record (.printed _) noted
  · rw [if_neg denied]
    exact allows.setTree _ noted _ fun tree => allows.withTree noted tree noted.baseline

theorem fetch (address folder : String) (world : World) :
    related world (perform (Campaign.fetch address folder) world).2 := by
  refine allows.bind (allows.record (.cloned address folder) world) fun _ noted => ?_
  rw [perform_bind_ok (perform_get noted)]
  cases noted.script.cloneFailure with
  | some message =>
    simp only [perform_throw]
    exact allows.refl noted
  | none =>
    cases placeFolder noted.tree folder with
    | error fault =>
      simp only [perform_bind_error (perform_orFail_error fault noted)]
      exact allows.refl noted
    | ok ready =>
      simp only [perform_bind_ok (perform_orFail_ok ready noted)]
      exact allows.setTree _ noted _ fun tree => allows.withTree noted tree tree

theorem cloneRepository (address folder : String) (world : World) :
    related world (perform (Campaign.cloneRepository address folder) world).2 := by
  -- what follows once an earlier copy has been dealt with
  have copied (before : World) : related before (perform (do
      if (← get).tree.has folder then Campaign.record (.repositoryOpened folder)
      else
        say ("📦 Cloning " ++ address ++ "...")
        Campaign.fetch address folder
      return folder : Action String) before).2 := by
    rw [perform_bind_ok (perform_get before)]
    by_cases present : before.tree.has folder
    · simp only [present, if_true]
      exact allows.bind (allows.record (.repositoryOpened folder) before) fun _ after =>
        allows.pure folder after
    · simp only [present]
      refine allows.bind (allows.record (.printed _) before) fun _ said => ?_
      exact allows.bind (allows.fetch address folder said) fun _ after => allows.pure folder after
  rw [Campaign.cloneRepository, perform_bind_ok (perform_get world)]
  by_cases present : world.tree.has folder
  · simp only [present, if_true]
    exact allows.bind (allows.discard folder world) fun _ after => copied after
  · simp only [present]
    exact copied world

end AllowsCopying

/-! ## Copies -/

/-- A campaign opens with a line and then makes its copy: the world in which it goes on. -/
def Copied (opening : String) (world copy : World) : Prop :=
  perform (do announce opening; cloneRepository repositoryAddress repositoryFolder) world =
    (.ok repositoryFolder, copy)

def GivesOnly (found : α) (action : Action α) : Prop :=
  ∀ world other after, perform action world = (.ok other, after) → other = found

theorem GivesOnly.pure (found : α) : GivesOnly found (Pure.pure found) := by
  intro world other after done
  rw [perform_pure] at done
  cases done
  rfl

theorem GivesOnly.bind {action : Action α} {next : α → Action β} {found : β}
    (rest : ∀ between, GivesOnly found (next between)) : GivesOnly found (action >>= next) := by
  intro world other after done
  rw [perform_bind] at done
  split at done
  · next between middle _ => exact rest between middle other after done
  · cases done

/-- A copy that is made is found in the folder that was asked for. -/
theorem cloneRepository_givesOnly (address folder : String) :
    GivesOnly folder (cloneRepository address folder) := by
  have copied : GivesOnly folder (do
      if (← get).tree.has folder then record (.repositoryOpened folder)
      else
        say ("📦 Cloning " ++ address ++ "...")
        fetch address folder
      return folder : Action String) := by
    refine .bind fun world => ?_
    split
    · exact .bind fun _ => .pure folder
    · exact .bind fun _ => .bind fun _ => .pure folder
  refine .bind fun world => ?_
  split
  · exact .bind fun _ => copied
  · exact copied

/-- A copy is made, or the campaign ends with it. -/
theorem copied_or_failed (opening : String) (world : World) :
    (∃ copy, Copied opening world copy) ∨ ∃ failure after, perform (do
      announce opening
      cloneRepository repositoryAddress repositoryFolder) world = (.error failure, after) := by
  rcases done : perform (do
    announce opening
    cloneRepository repositoryAddress repositoryFolder) world with ⟨outcome, after⟩
  cases outcome with
  | error failure => exact .inr ⟨failure, after, rfl⟩
  | ok folder =>
    have only : GivesOnly repositoryFolder (do
        announce opening
        cloneRepository repositoryAddress repositoryFolder) :=
      .bind fun _ => cloneRepository_givesOnly repositoryAddress repositoryFolder
    have same : folder = repositoryFolder := only world folder after done
    exact .inl ⟨after, done.trans (by rw [same])⟩

/-- What a campaign does after its copy is done in the world of the copy. -/
theorem Copied.perform_bind {opening : String} {world copy : World} (copied : Copied opening world copy)
    (next : String → Action α) :
    perform (do announce opening; next (← cloneRepository repositoryAddress repositoryFolder)) world =
      perform (next repositoryFolder) copy := by
  have done := perform_bind_ok copied next
  rwa [bind_assoc] at done

theorem perform_bind_of_uncopied {opening : String} {world after : World} {failure : Failure}
    (failed : perform (do announce opening; cloneRepository repositoryAddress repositoryFolder) world =
      (.error failure, after)) (next : String → Action α) :
    perform (do announce opening; next (← cloneRepository repositoryAddress repositoryFolder)) world =
      (.error failure, after) := by
  have done := perform_bind_error failed next
  rwa [bind_assoc] at done

/-- A relation that allows for copying holds between the worlds before and after a copy, whether or not
it is made. -/
theorem AllowsCopying.opened {related : World → World → Prop} (allows : AllowsCopying related)
    {opening : String} {world after : World} {outcome : Except Failure String}
    (done : perform (do announce opening; Campaign.cloneRepository repositoryAddress repositoryFolder) world =
      (outcome, after)) : related world after := by
  have made : related world (perform (do
      announce opening
      Campaign.cloneRepository repositoryAddress repositoryFolder) world).2 :=
    allows.bind (allows.record (.printed _) world) fun _ after =>
      allows.cloneRepository repositoryAddress repositoryFolder after
  rwa [done] at made

/-- Between two worlds no answer was taken and no text handed over; files may have changed. -/
structure World.Quiet (before after : World) : Prop where
  script : after.script = before.script
  texts (path : String) : textsFor path after.events = textsFor path before.events

theorem World.quiet_allowsCopying : AllowsCopying Quiet where
  refl _ := ⟨rfl, fun _ => rfl⟩
  trans left right :=
    ⟨right.script.trans left.script, fun path => (right.texts path).trans (left.texts path)⟩
  note copying _ := by
    refine ⟨rfl, fun path => ?_⟩
    cases copying <;> simp [Event.textFor]
  withTree _ _ _ := ⟨rfl, fun _ => rfl⟩

theorem Copied.quiet {opening : String} {world copy : World} (copied : Copied opening world copy) :
    World.Quiet world copy :=
  World.quiet_allowsCopying.opened copied

end Refactory.Campaign
