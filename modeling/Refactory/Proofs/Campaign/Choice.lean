import Refactory.Proofs.Campaign.Saved

/-! The file that the guarded campaign chooses.

The scan is followed through a list of files. What it has found after some of them is told by the files themselves:
the prime targets are the first three of their kind, the last of them leads the queue, and as long as there is none
the queue holds the other targets in their order.
-/

set_option autoImplicit false

namespace Refactory.Campaign

open Workspace Analysis

/-! ## Making agents -/

def makesAgent : Event → Bool
  | .modelMade _ _ => true
  | _ => false

structure World.Unstaffed (before after : World) : Prop where
  models : after.models = before.models
  events : after.events.filter makesAgent = before.events.filter makesAgent

theorem World.Unstaffed.note {events : List Event} (none_made : events.filter makesAgent = []) (world : World) :
    Unstaffed world (world.note events) :=
  ⟨rfl, by rw [World.note_events, List.filter_append, none_made, List.append_nil]⟩

theorem World.unstaffed_allowsCopying : AllowsCopying Unstaffed where
  refl _ := ⟨rfl, rfl⟩
  trans left right := ⟨right.models.trans left.models, right.events.trans left.events⟩
  note copying world := by
    refine .note ?_ world
    cases copying <;> rfl
  withTree _ _ _ := ⟨rfl, rfl⟩

namespace Guarded

/-! ## The scan -/

def named (tree : Tree) (word : String) (files : List String) : List String :=
  files.filter fun path => isEligible tree path && Text.contains path word

/-- The files with a word in their path that a scan can take for targets: it looks at fifty files. -/
def candidates (tree : Tree) (word : String) (files : List String) : List String :=
  named tree word (files.take 50)

section Scan

variable {tree : Tree} {seen : List String} {path : String}

theorem named_append (tree : Tree) (word : String) (first second : List String) :
    named tree word (first ++ second) = named tree word first ++ named tree word second :=
  List.filter_append ..

theorem named_singleton_of_contains {word : String} (eligible : isEligible tree path = true)
    (holds : Text.contains path word = true) : named tree word [path] = [path] := by
  simp [named, eligible, holds]

theorem named_singleton_of_not {word : String}
    (other : isEligible tree path = false ∨ Text.contains path word = false) : named tree word [path] = [] := by
  rcases other with small | lacks
  · simp [named, small]
  · simp [named, lacks]

structure Scanned (tree : Tree) (seen : List String) (scan : Scan) : Prop where
  primes : scan.primes = (named tree "binary_search" seen).take primeLimit
  queue : ∃ others, scan.queue = scan.primes.reverse ++ others ∧
    (scan.primes = [] → others = named tree "permutation" seen)

namespace Scanned

variable {scan : Scan}

theorem start (tree : Tree) : Scanned tree [] ⟨[], []⟩ := ⟨rfl, [], rfl, fun _ => rfl⟩

theorem skip (scanned : Scanned tree seen scan) (notPrime : named tree "binary_search" [path] = [])
    (notOther : named tree "permutation" [path] = []) : Scanned tree (seen ++ [path]) scan where
  primes := by rw [named_append, notPrime, List.append_nil, scanned.primes]
  queue := by
    rw [named_append, notOther, List.append_nil]
    exact scanned.queue

/-- With enough prime targets a scan looks at no file any more. -/
theorem stop (scanned : Scanned tree seen scan) (enough : primeLimit ≤ scan.primes.length) (path : String) :
    Scanned tree (seen ++ [path]) scan where
  primes := by
    rw [scanned.primes, List.length_take] at enough
    rw [named_append, List.take_append_of_le_length (by omega), scanned.primes]
  queue := by
    obtain ⟨others, queue, _⟩ := scanned.queue
    refine ⟨others, queue, fun none_yet => ?_⟩
    rw [none_yet] at enough
    exact absurd enough (by decide)

/-- A prime target comes before all others. -/
theorem prime (scanned : Scanned tree seen scan) (few : ¬ primeLimit ≤ scan.primes.length)
    (found : named tree "binary_search" [path] = [path]) :
    Scanned tree (seen ++ [path]) ⟨path :: scan.queue, scan.primes ++ [path]⟩ where
  primes := by
    -- so far no prime target has been left out
    have all : scan.primes = named tree "binary_search" seen := by
      rw [scanned.primes, List.length_take] at few
      rw [scanned.primes, List.take_of_length_le (by omega)]
    rw [named_append, found, ← all, List.take_of_length_le]
    simp only [List.length_append, List.length_singleton]
    omega
  queue := by
    obtain ⟨others, queue, _⟩ := scanned.queue
    refine ⟨others, ?_, fun none_found => absurd none_found (by simp)⟩
    rw [queue, List.reverse_append]
    rfl

theorem other (scanned : Scanned tree seen scan) (notPrime : named tree "binary_search" [path] = [])
    (found : named tree "permutation" [path] = [path]) :
    Scanned tree (seen ++ [path]) ⟨scan.queue ++ [path], scan.primes⟩ where
  primes := by rw [named_append, notPrime, List.append_nil, scanned.primes]
  queue := by
    obtain ⟨others, queue, known⟩ := scanned.queue
    refine ⟨others ++ [path], by rw [queue, List.append_assoc], fun none_yet => ?_⟩
    rw [named_append, found, known none_yet]

theorem take (scanned : Scanned tree seen scan) (path : String) :
    Scanned tree (seen ++ [path]) (scan.take tree path) := by
  unfold Scan.take
  -- the tests of the scan, in their order
  split
  · next enough => exact scanned.stop enough path
  · next few =>
    split
    · next small =>
      have ineligible : isEligible tree path = false := by simpa using small
      exact scanned.skip (named_singleton_of_not (.inl ineligible)) (named_singleton_of_not (.inl ineligible))
    · next large =>
      have eligible : isEligible tree path = true := by simpa using large
      split
      · next prime => exact scanned.prime few (named_singleton_of_contains eligible prime)
      · next notPrime =>
        have unprime : named tree "binary_search" [path] = [] :=
          named_singleton_of_not (.inr (Bool.not_eq_true _ ▸ notPrime))
        split
        · next other => exact scanned.other unprime (named_singleton_of_contains eligible other)
        · next notOther => exact scanned.skip unprime (named_singleton_of_not (.inr (Bool.not_eq_true _ ▸ notOther)))

theorem foldl (scanned : Scanned tree seen scan) (files : List String) :
    Scanned tree (seen ++ files) (files.foldl (Scan.take tree) scan) := by
  induction files generalizing seen scan with
  | nil => rwa [List.append_nil]
  | cons path rest ih =>
    have step := ih (scanned.take path)
    rwa [List.append_assoc] at step

end Scanned

theorem scanFiles_scanned (tree : Tree) (files : List String) :
    Scanned tree (files.take 50) (scanFiles tree files) :=
  (Scanned.start tree).foldl (files.take 50)

/-- The first target of a scan is the last of the first three prime ones; without these it is the first of the
others. -/
theorem head?_queue (tree : Tree) (files : List String) :
    (scanFiles tree files).queue.head? =
      ((candidates tree "binary_search" files).take 3).getLast?.or (candidates tree "permutation" files).head? := by
  obtain ⟨primes, others, queue, known⟩ := scanFiles_scanned tree files
  change _ = (List.take primeLimit _).getLast?.or _
  rw [queue, List.head?_append, List.head?_reverse, candidates, ← primes]
  -- the others are known as long as no prime target came before them
  cases found : (scanFiles tree files).primes with
  | nil => rw [known found, candidates]
  | cons first rest =>
    rw [List.getLast?_cons]
    rfl

end Scan

theorem isEligible_iff (tree : Tree) (path : String) :
    isEligible tree path = true ↔
      ∃ size, tree.byteCount path = .ok size ∧ 500 ≤ size ∧ Text.contains path "__init__" = false := by
  unfold isEligible
  cases tree.byteCount path with
  | error fault => simp
  | ok size =>
    rw [Bool.and_eq_true, decide_eq_true_iff, Bool.not_eq_true']
    constructor
    · exact fun holds => ⟨size, rfl, holds⟩
    · rintro ⟨_, ⟨⟩, holds⟩
      exact holds

/-! ## The campaign -/

theorem surveyLines_unstaffed (tree : Tree) : (surveyLines tree).filter makesAgent = [] := by
  simp [surveyLines, Event.line, makesAgent]

/-- The campaign works on the last of the first three eligible files that are named for a binary search; without one,
on the first eligible file that is named for permutations; and without that it ends, and makes no agent. -/
theorem chooses_last_prime_or_first_other :
    (∀ (tree : Tree) (path : String), isEligible tree path = true ↔
      ∃ size, tree.byteCount path = .ok size ∧ 500 ≤ size ∧ Text.contains path "__init__" = false) ∧
    (∀ (tree : Tree) (files : List String), (scanFiles tree files).queue.head? =
      ((candidates tree "binary_search" files).take 3).getLast?.or (candidates tree "permutation" files).head?) ∧
    ∀ {world copy : World}, Copied opening world copy →
      (∀ target, ((candidates copy.tree "binary_search" (sourceFiles copy.tree repositoryFolder)).take 3).getLast? =
          some target →
        perform campaign world = perform (treat (ImportGraph.ofFolder copy.tree repositoryFolder) target)
          (copy.note (surveyLines copy.tree))) ∧
      (candidates copy.tree "binary_search" (sourceFiles copy.tree repositoryFolder) = [] →
        (∀ target, (candidates copy.tree "permutation" (sourceFiles copy.tree repositoryFolder)).head? = some target →
          perform campaign world = perform (treat (ImportGraph.ofFolder copy.tree repositoryFolder) target)
            (copy.note (surveyLines copy.tree))) ∧
        (candidates copy.tree "permutation" (sourceFiles copy.tree repositoryFolder) = [] →
          (perform campaign world).1 = .ok () ∧ World.Unstaffed world (perform campaign world).2)) := by
  refine ⟨isEligible_iff, head?_queue, fun {world copy} copied => ?_⟩
  have chosen : target? copy.tree = _ := head?_queue copy.tree (sourceFiles copy.tree repositoryFolder)
  rw [perform_campaign copied, chosen]
  refine ⟨fun target last => ?_, fun noPrime => ⟨fun target first => ?_, fun noOther => ?_⟩⟩
  · rw [last]
    rfl
  · rw [noPrime, first]
    rfl
  · rw [noPrime, noOther]
    have ended := perform_announce "No targets found. Try increasing scan_limit." (copy.note (surveyLines copy.tree))
    refine ⟨congrArg Prod.fst ended, ?_⟩
    have unstaffed : World.Unstaffed world (copy.note (surveyLines copy.tree)) :=
      World.unstaffed_allowsCopying.trans (World.unstaffed_allowsCopying.opened copied)
        (.note (surveyLines_unstaffed copy.tree) copy)
    exact World.unstaffed_allowsCopying.trans unstaffed (congrArg Prod.snd ended ▸ .note rfl _)

def searchTree : Tree :=
  ["permutation.py", "binary_search.py", "binary_search_tree.py", "binary_search_left.py", "binary_search_right.py"].foldl
    (fun tree name => tree.put (Path.home ++ [name]) (.file (List.replicate 500 35))) Tree.empty

def bareCopy : World :=
  (perform (do announce opening; cloneRepository repositoryAddress repositoryFolder)
    (World.start Tree.empty Script.empty)).2

theorem search_candidates :
    (candidates searchTree "binary_search" ["permutation.py", "missing/binary_search.py", "binary_search.py",
        "binary_search_tree.py", "binary_search_left.py", "binary_search_right.py"]).take 3 =
        ["binary_search.py", "binary_search_tree.py", "binary_search_left.py"] ∧
      candidates searchTree "binary_search" ["sort.py", "permutation.py"] = [] ∧
      candidates searchTree "permutation" ["sort.py", "permutation.py"] = ["permutation.py"] ∧
      candidates ratedCopy.tree "binary_search" (sourceFiles ratedCopy.tree repositoryFolder) = [ratedPath] ∧
      (perform (do announce opening; cloneRepository repositoryAddress repositoryFolder)
        (World.start Tree.empty Script.empty)).1.toOption = some repositoryFolder ∧
      sourceFiles bareCopy.tree repositoryFolder = [] := by
  decide +kernel

theorem third_search_chosen :
    (scanFiles searchTree ["permutation.py", "missing/binary_search.py", "binary_search.py", "binary_search_tree.py",
        "binary_search_left.py", "binary_search_right.py"]).queue.head? = some "binary_search_left.py" ∧
      (scanFiles searchTree ["sort.py", "permutation.py"]).queue.head? = some "permutation.py" ∧
      perform campaign (World.start Tree.empty rateScript) =
        perform (treat (ImportGraph.ofFolder ratedCopy.tree repositoryFolder) ratedPath)
          (ratedCopy.note (surveyLines ratedCopy.tree)) ∧
      (perform campaign (World.start Tree.empty Script.empty)).2.models = 0 := by
  obtain ⟨_, scan, run⟩ := chooses_last_prime_or_first_other
  obtain ⟨primes, noPrime, other, rated, made, no_files⟩ := search_candidates
  have bare : Copied opening (World.start Tree.empty Script.empty) bareCopy := Prod.ext (eq_ok_of_toOption made) rfl
  refine ⟨?_, ?_, (run ratedCopy_copied).1 ratedPath (by rw [rated]; rfl), ?_⟩
  · rw [scan, primes]
    rfl
  · rw [scan, noPrime, other]
    rfl
  · have ended := (run bare).2 (by rw [no_files]; rfl)
    exact (ended.2 (by rw [no_files]; rfl)).2.models

end Guarded

end Refactory.Campaign
