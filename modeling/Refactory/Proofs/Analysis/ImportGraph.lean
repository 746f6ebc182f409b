import Refactory.Analysis.ImportGraph
import Refactory.Proofs.Source.Outline
import Refactory.Proofs.Table
import Refactory.Proofs.Text.Search
import Refactory.Proofs.Workspace.Walk

/-! Which imports the graph of a folder holds. -/

set_option autoImplicit false

namespace Refactory.Analysis

open Source Workspace

/-! ## Imports of a program -/

/-- A statement of the program, at any depth, leads to the module: it imports from the module, or the
module is the last of the names that it imports. -/
def Leads (program : Program) (module : String) : Prop :=
  (∃ origin names level, origin.text = module ∧
    program.Holds (.stmt (.importFrom (some origin) names level))) ∨
  ∃ names last, last.name.text = module ∧ program.Holds (.stmt (.importNames (names ++ [last])))

theorem importedName?_eq_some_iff {node : Node} {module : String} :
    importedName? node = some module ↔
      (∃ origin names level, origin.text = module ∧
        node = .stmt (.importFrom (some origin) names level)) ∨
      ∃ names last, last.name.text = module ∧ node = .stmt (.importNames (names ++ [last])) := by
  fun_cases importedName? node with
  | case1 aliases =>
    constructor
    · intro found
      obtain ⟨last, final, named⟩ := Option.map_eq_some_iff.mp found
      obtain ⟨names, rfl⟩ := List.getLast?_eq_some_iff.mp final
      exact Or.inr ⟨names, last, named, rfl⟩
    · rintro (⟨_, _, _, _, other⟩ | ⟨names, last, named, same⟩)
      · cases other
      · cases same
        simp [named]
  | case2 source names level =>
    constructor
    · intro found
      obtain ⟨origin, rfl, named⟩ := Option.map_eq_some_iff.mp found
      exact Or.inl ⟨origin, names, level, named, rfl⟩
    · rintro (⟨origin, _, _, named, same⟩ | ⟨_, _, _, other⟩)
      · cases same
        simp [named]
      · cases other
  | case3 node notNames notFrom =>
    constructor
    · intro found
      cases found
    · rintro (⟨origin, names, level, named, rfl⟩ | ⟨names, last, named, rfl⟩)
      · exact absurd rfl (notFrom _ _ _)
      · exact absurd rfl (notNames _)

theorem mem_importedNames {program : Program} {module : String} :
    module ∈ importedNames program ↔ Leads program module := by
  unfold importedNames Leads
  rw [List.mem_filterMap]
  constructor
  · rintro ⟨node, listed, found⟩
    rw [Program.mem_nodes] at listed
    rcases importedName?_eq_some_iff.mp found with
      ⟨origin, names, level, named, rfl⟩ | ⟨names, last, named, rfl⟩
    · exact Or.inl ⟨origin, names, level, named, listed⟩
    · exact Or.inr ⟨names, last, named, listed⟩
  · rintro (⟨origin, names, level, named, holds⟩ | ⟨names, last, named, holds⟩)
    · exact ⟨_, Program.mem_nodes.mpr holds,
        importedName?_eq_some_iff.mpr (Or.inl ⟨origin, names, level, named, rfl⟩)⟩
    · exact ⟨_, Program.mem_nodes.mpr holds,
        importedName?_eq_some_iff.mpr (Or.inr ⟨names, last, named, rfl⟩)⟩

def ProgramAt (tree : Tree) (path : String) (program : Program) : Prop :=
  ∃ text, tree.readText path = .ok text ∧ Program.parse text = .ok program

theorem ProgramAt.unique {tree : Tree} {path : String} {first second : Program}
    (one : ProgramAt tree path first) (other : ProgramAt tree path second) : first = second := by
  obtain ⟨text, read, parsed⟩ := one
  obtain ⟨again, reread, reparsed⟩ := other
  obtain rfl := Except.ok.inj (read.symm.trans reread)
  exact Except.ok.inj (parsed.symm.trans reparsed)

namespace ImportGraph

theorem mem_importsOf {tree : Tree} {path module : String} :
    module ∈ importsOf tree path ↔ ∃ program, ProgramAt tree path program ∧ module ∈ importedNames program := by
  unfold importsOf ProgramAt
  cases tree.readText path with
  | error fault => simp
  | ok text => cases parsed : Program.parse text <;> simp [parsed]

/-! ## Importers noted one after another -/

section Importers

variable (graph : ImportGraph) (path importer : String)

theorem importersOf_addImporter (other : String) :
    (graph.addImporter path importer).importersOf other =
      if other = path ∧ importer ∉ graph.importersOf path then graph.importersOf path ++ [importer]
      else graph.importersOf other := by
  unfold addImporter importersOf
  by_cases known : importer ∈ (graph.get? path).getD []
  · simp [known]
  · have fresh : ((graph.get? path).getD []).contains importer = false := by simpa using known
    simp only [fresh, Bool.false_eq_true, if_false, Table.get?_set]
    by_cases same : other = path
    · simp [same, known]
    · simp [same]

structure Tidy (graph : ImportGraph) : Prop where
  distinct : (Table.keys graph).Nodup
  imported : ∀ entry ∈ graph, entry.2 ≠ []

variable {graph}

theorem Tidy.addImporter (tidy : Tidy graph) : Tidy (graph.addImporter path importer) := by
  unfold ImportGraph.addImporter
  dsimp only
  split
  · exact tidy
  · have distinct : (Table.keys (Table.set path ((graph.get? path).getD [] ++ [importer]) graph)).Nodup := by
      rw [Table.keys_set]
      have before := tidy.distinct
      split <;> grind
    refine ⟨distinct, fun entry member => ?_⟩
    -- an entry is either the one just stored or one from before
    have stored := Table.get?_of_mem distinct member
    rw [Table.get?_set] at stored
    split at stored
    · rw [← Option.some.inj stored]
      simp
    · exact tidy.imported _ (Table.mem_of_get? stored)

end Importers

def targetsOf (tree : Tree) (index : Table String) (path : String) : List String :=
  (importsOf tree path).filterMap fun name => index.get? (name ++ ".py")

theorem addImports_eq (tree : Tree) (index : Table String) (graph : ImportGraph) (path : String) :
    addImports tree index graph path =
      (targetsOf tree index path).foldl (fun graph target => graph.addImporter target path) graph := rfl

theorem importersOf_foldl_addImporter (targets : List String) (graph : ImportGraph)
    (path other : String) :
    (targets.foldl (fun graph target => graph.addImporter target path) graph).importersOf other =
      if other ∈ targets ∧ path ∉ graph.importersOf other then graph.importersOf other ++ [path]
      else graph.importersOf other := by
  induction targets generalizing graph with
  | nil => simp
  | cons target rest ih =>
    rw [List.foldl_cons, ih, importersOf_addImporter]
    by_cases same : other = target
    · subst same
      by_cases known : path ∈ graph.importersOf other <;> simp [known]
    · simp [same]

theorem Tidy.foldl_addImporter {graph : ImportGraph} (tidy : Tidy graph) (targets : List String)
    (path : String) : Tidy (targets.foldl (fun graph target => graph.addImporter target path) graph) := by
  induction targets generalizing graph with
  | nil => exact tidy
  | cons target rest ih => exact ih (tidy.addImporter target path)

/-- The graph holds the imports of the files of a list, and nothing else. The importers of a file come
in the order of the list. -/
structure Records (tree : Tree) (index : Table String) (files : List (String × String))
    (graph : ImportGraph) : Prop extends Tidy graph where
  mem_iff (target importer : String) : importer ∈ graph.importersOf target ↔
    (∃ file ∈ files, file.2 = importer) ∧ target ∈ targetsOf tree index importer
  unique (target : String) : (graph.importersOf target).Nodup
  ordered (target : String) : ∃ chosen : List (String × String), chosen.Sublist files ∧
    chosen.map Prod.snd = graph.importersOf target

theorem Records.noteFile {tree : Tree} {index : Table String} {files : List (String × String)}
    {graph : ImportGraph} (records : Records tree index files graph) (file : String × String) :
    Records tree index (files ++ [file]) (graph.addImports tree index file.2) := by
  -- the file is noted where it leads and is not known yet
  have noted (target : String) : (graph.addImports tree index file.2).importersOf target =
      if target ∈ targetsOf tree index file.2 ∧ file.2 ∉ graph.importersOf target then
        graph.importersOf target ++ [file.2]
      else graph.importersOf target := by
    rw [addImports_eq, importersOf_foldl_addImporter]
  refine { toTidy := ?_, mem_iff := ?_, unique := ?_, ordered := ?_ }
  · rw [addImports_eq]
    exact records.toTidy.foldl_addImporter _ _
  · intro target importer
    rw [noted]
    have before := records.mem_iff target
    simp only [List.mem_append, List.mem_singleton]
    grind
  · intro target
    have before := records.unique target
    rw [noted]
    split
    · rename_i fresh
      rw [List.nodup_append]
      refine ⟨before, by simp, fun known member last new => ?_⟩
      rintro rfl
      exact fresh.2 (List.mem_singleton.mp new ▸ member)
    · exact before
  · intro target
    obtain ⟨chosen, among, paths⟩ := records.ordered target
    rw [noted]
    split
    · exact ⟨chosen ++ [file], among.append (List.Sublist.refl _), by simp [paths]⟩
    · exact ⟨chosen, among.trans (List.sublist_append_left ..), paths⟩

theorem Records.noteFiles {tree : Tree} {index : Table String} {files : List (String × String)}
    {graph : ImportGraph} (records : Records tree index files graph) (rest : List (String × String)) :
    Records tree index (files ++ rest) ((rest.map Prod.snd).foldl (addImports tree index) graph) := by
  induction rest generalizing files graph with
  | nil => simpa using records
  | cons file rest ih =>
    have noted := ih (records.noteFile file)
    rwa [List.append_assoc] at noted

theorem Records.empty (tree : Tree) (index : Table String) : Records tree index [] [] where
  distinct := List.nodup_nil
  imported := by simp
  mem_iff := by simp [importersOf]
  unique := by simp [importersOf]
  ordered := by simp [importersOf]

/-! ## The files of a walk -/

def filesBelow (tree : Tree) (folder : String) : List (String × String) :=
  (tree.visits folder).flatMap fun visit =>
    (visit.files.filter isPythonFile).map fun name => (name, Path.join visit.folder name)

section Folder

variable {tree : Tree} {folder : String}

theorem fileIndex_eq : fileIndex (tree.visits folder) = Table.storeAll [] (filesBelow tree folder) := rfl

theorem fileIndex_keyed :
    Table.KeyedBy ((filesBelow tree folder).map Prod.fst) (fileIndex (tree.visits folder)) := by
  have empty : Table.KeyedBy [] ([] : Table String) := ⟨by simp, .nil⟩
  exact empty.storeAll (filesBelow tree folder)

/-- Of the files of a name the index has the last one. -/
theorem get?_fileIndex {name path : String} :
    (fileIndex (tree.visits folder)).get? name = some path ↔
      Table.IsLast (filesBelow tree folder) name path := by
  rw [fileIndex_eq, Table.get?_storeAll]
  simp

theorem isLast_of_mem_fileIndex {file : String × String}
    (member : file ∈ fileIndex (tree.visits folder)) :
    Table.IsLast (filesBelow tree folder) file.1 file.2 :=
  get?_fileIndex.mp (Table.get?_of_mem fileIndex_keyed.nodup member)

theorem ofFolder_records :
    Records tree (fileIndex (tree.visits folder)) (fileIndex (tree.visits folder))
      (ofFolder tree folder) :=
  (Records.empty tree (fileIndex (tree.visits folder))).noteFiles (fileIndex (tree.visits folder))

theorem mem_targetsOf {target importer : String} :
    target ∈ targetsOf tree (fileIndex (tree.visits folder)) importer ↔
      ∃ module, Table.IsLast (filesBelow tree folder) (module ++ ".py") target ∧
        ∃ program, ProgramAt tree importer program ∧ Leads program module := by
  unfold targetsOf
  simp only [List.mem_filterMap, get?_fileIndex, mem_importsOf, mem_importedNames]
  constructor
  · rintro ⟨module, ⟨program, held, leads⟩, last⟩
    exact ⟨module, last, program, held, leads⟩
  · rintro ⟨module, last, program, held, leads⟩
    exact ⟨module, ⟨program, held, leads⟩, last⟩

theorem mem_importersOf {target importer : String} :
    importer ∈ (ofFolder tree folder).importersOf target ↔
      ∃ module name, Table.IsLast (filesBelow tree folder) (module ++ ".py") target ∧
        Table.IsLast (filesBelow tree folder) name importer ∧
        ∃ program, ProgramAt tree importer program ∧ Leads program module := by
  rw [ofFolder_records.mem_iff, mem_targetsOf]
  constructor
  · rintro ⟨⟨⟨name, path⟩, member, rfl⟩, module, last, leads⟩
    exact ⟨module, name, last, isLast_of_mem_fileIndex member, leads⟩
  · rintro ⟨module, name, last, own, leads⟩
    have member := Table.mem_of_get? (get?_fileIndex.mpr own)
    exact ⟨⟨(name, importer), member, rfl⟩, module, last, leads⟩

theorem mem_importersOf_of_leads (distinct : ((filesBelow tree folder).map Prod.fst).Nodup)
    {name importer module target : String} {program : Program}
    (listed : (name, importer) ∈ filesBelow tree folder) (held : ProgramAt tree importer program)
    (present : (module ++ ".py", target) ∈ filesBelow tree folder) (leads : Leads program module) :
    importer ∈ (ofFolder tree folder).importersOf target :=
  mem_importersOf.mpr ⟨module, name, (Table.isLast_iff_mem distinct).mpr present,
    (Table.isLast_iff_mem distinct).mpr listed, program, held, leads⟩

theorem isAbsolute_of_mem_filesBelow (absolute : Path.isAbsolute folder = true) {name path : String}
    (member : (name, path) ∈ filesBelow tree folder) : Path.isAbsolute path = true := by
  obtain ⟨visit, visited, among⟩ := List.mem_flatMap.mp member
  obtain ⟨_, _, same⟩ := List.mem_map.mp among
  obtain ⟨rfl, rfl⟩ := Prod.mk.inj same
  exact Path.isAbsolute_join (Tree.isAbsolute_of_mem_visitsWithin _ absolute visited) _

/-- A graph from an absolute path knows nothing of a relative one. -/
theorem importersOf_relative (absolute : Path.isAbsolute folder = true) {path : String}
    (relative : Path.isAbsolute path = false) : (ofFolder tree folder).importersOf path = [] := by
  rw [List.eq_nil_iff_forall_not_mem]
  intro importer member
  -- a file with importers is one of the walk, and the walk never leaves the absolute paths
  obtain ⟨_, _, last, _⟩ := mem_importersOf.mp member
  rw [isAbsolute_of_mem_filesBelow absolute last.mem] at relative
  cases relative

end Folder

/-! ## Programs of one import -/

def isImportOf (names : List Alias) : Program → Bool
  | ⟨[.importNames found]⟩ => found = names
  | _ => false

theorem eq_of_isImportOf {names : List Alias} {program : Program}
    (single : isImportOf names program = true) : program = ⟨[.importNames names]⟩ := by
  unfold isImportOf at single
  split at single
  · rw [of_decide_eq_true single]
  · cases single

theorem holds_import_iff {names : List Alias} {node : Node} :
    Program.Holds ⟨[.importNames names]⟩ node ↔
      node = .program ⟨[.importNames names]⟩ ∨ node = .stmt (.importNames names) := by
  rw [← Program.mem_nodes]
  have nodes : Program.nodes ⟨[.importNames names]⟩ =
      [.program ⟨[.importNames names]⟩, .stmt (.importNames names)] := rfl
  rw [nodes, List.mem_cons, List.mem_singleton]

theorem leads_import_iff {names : List Alias} {module : String} :
    Leads ⟨[.importNames names]⟩ module ↔ names.getLast?.map (·.name.text) = some module := by
  unfold Leads
  simp only [holds_import_iff]
  constructor
  · rintro (⟨_, _, _, _, other | other⟩ | ⟨before, last, named, other | same⟩)
    · cases other
    · cases other
    · cases other
    · cases same
      simp [named]
  · intro found
    obtain ⟨last, final, named⟩ := Option.map_eq_some_iff.mp found
    obtain ⟨before, rfl⟩ := List.getLast?_eq_some_iff.mp final
    exact Or.inr ⟨before, last, named, Or.inr rfl⟩

theorem programAt_import {tree : Tree} {path text : String} {names : List Alias}
    (read : (tree.readText path).toOption = some text)
    (parsed : (Program.parse text).toOption.map (isImportOf names) = some true) :
    ProgramAt tree path ⟨[.importNames names]⟩ := by
  cases found : tree.readText path with
  | error fault =>
    rw [found] at read
    cases read
  | ok content =>
    rw [found] at read
    obtain rfl := Option.some.inj read
    cases whole : Program.parse content with
    | error fault =>
      rw [whole] at parsed
      cases parsed
    | ok program =>
      rw [whole] at parsed
      rw [← eq_of_isImportOf (Option.some.inj parsed)]
      exact ⟨content, found, whole⟩

def pairTree (text : String) : Tree where
  entries := [(["ROOT"], .folder), (["ROOT", "pkg"], .folder),
    (["ROOT", "pkg", "lib.py"], .file (Text.Utf8.encode "x = 1\n")),
    (["ROOT", "pkg", "main.py"], .file (Text.Utf8.encode text))]
  listing := .sorted

-- Paths are compared character by character, which goes deep.
set_option maxRecDepth 4000 in
theorem pairTree_visits (text : String) :
    (pairTree text).visits "/ROOT" = [⟨"/ROOT", []⟩, ⟨"/ROOT/pkg", ["lib.py", "main.py"]⟩] := by
  have inner : (pairTree text).visitsWithin 4 "/ROOT/pkg" = [⟨"/ROOT/pkg", ["lib.py", "main.py"]⟩] := by
    have found : (pairTree text).lookup "/ROOT/pkg" = .ok (["ROOT", "pkg"], .folder) := rfl
    have sorted : Text.sorted ["lib.py", "main.py"] = ["lib.py", "main.py"] :=
      List.mergeSort_of_pairwise (by decide)
    have named : (pairTree text).namesIn ["ROOT", "pkg"] = ["lib.py", "main.py"] := sorted
    have entered : ["lib.py", "main.py"].filter (fun name =>
        (pairTree text).isFolder (Path.join "/ROOT/pkg" name) &&
          !(pairTree text).isLink (Path.join "/ROOT/pkg" name)) = [] := rfl
    exact Tree.visitsWithin_folder found named rfl entered 3
  have outer : (pairTree text).visits "/ROOT" = ⟨"/ROOT", []⟩ :: ["pkg"].flatMap fun name =>
      (pairTree text).visitsWithin 4 (Path.join "/ROOT" name) := by
    have found : (pairTree text).lookup "/ROOT" = .ok (["ROOT"], .folder) := rfl
    have sorted : Text.sorted ["pkg"] = ["pkg"] := List.mergeSort_singleton ..
    have named : (pairTree text).namesIn ["ROOT"] = ["pkg"] := sorted
    exact Tree.visitsWithin_folder found named rfl rfl 4
  have joined : Path.join "/ROOT" "pkg" = "/ROOT/pkg" := rfl
  rw [outer, List.flatMap_singleton, joined, inner]

theorem pairTree_files (text : String) : filesBelow (pairTree text) "/ROOT" =
    [("lib.py", "/ROOT/pkg/lib.py"), ("main.py", "/ROOT/pkg/main.py")] := by
  rw [filesBelow, pairTree_visits]
  decide +kernel

theorem pairTree_distinct (text : String) :
    ((filesBelow (pairTree text) "/ROOT").map Prod.fst).Nodup := by
  rw [pairTree_files]
  decide

theorem pairTree_library (text : String) :
    ("lib" ++ ".py", "/ROOT/pkg/lib.py") ∈ filesBelow (pairTree text) "/ROOT" := by
  simp [pairTree_files]

theorem pairTree_user (text : String) :
    ("main.py", "/ROOT/pkg/main.py") ∈ filesBelow (pairTree text) "/ROOT" := by
  simp [pairTree_files]

theorem pairTree_import : ProgramAt (pairTree "import lib\n") "/ROOT/pkg/main.py"
    ⟨[.importNames [⟨⟨"lib", by decide⟩, none⟩]]⟩ := by
  have read : ((pairTree "import lib\n").readText "/ROOT/pkg/main.py").toOption =
      some "import lib\n" := by decide +kernel
  exact programAt_import read (by decide +kernel)

/-! ## All imports of a folder -/

/-- The files that a file is listed with are exactly those that lead to it, where of the files of one
name only the last in the walk counts. No file comes twice, and none without importers; importers are
in the order in which their names first come up in the walk. -/
theorem graph_holds_last_imports (tree : Tree) (folder : String) :
    (∀ target importer, importer ∈ (ofFolder tree folder).importersOf target ↔
      ∃ module name, Table.IsLast (filesBelow tree folder) (module ++ ".py") target ∧
        Table.IsLast (filesBelow tree folder) name importer ∧
        ∃ program, ProgramAt tree importer program ∧ Leads program module) ∧
    (Table.keys (ofFolder tree folder)).Nodup ∧
    ∀ entry ∈ ofFolder tree folder, entry.2 ≠ [] ∧ entry.2.Nodup ∧
      ∃ chosen : List (String × String), chosen.map Prod.snd = entry.2 ∧
        (∀ file ∈ chosen, Table.IsLast (filesBelow tree folder) file.1 file.2) ∧
        chosen.Pairwise fun first second =>
          ((filesBelow tree folder).map Prod.fst).idxOf first.1 <
            ((filesBelow tree folder).map Prod.fst).idxOf second.1 := by
  have records : Records tree _ _ (ofFolder tree folder) := ofFolder_records
  refine ⟨fun target importer => mem_importersOf, records.distinct, fun entry member => ?_⟩
  have listed : (ofFolder tree folder).importersOf entry.1 = entry.2 := by
    rw [importersOf, Table.get?_of_mem records.distinct member, Option.getD_some]
  -- the importers are taken from the index in its order, which is that of the first files of each name
  obtain ⟨chosen, among, paths⟩ := records.ordered entry.1
  refine ⟨records.imported entry member, listed ▸ records.unique entry.1, chosen, paths.trans listed,
    fun file chose => isLast_of_mem_fileIndex (among.subset chose), ?_⟩
  exact (List.pairwise_map.mp fileIndex_keyed.ordered).sublist among

theorem library_listed_with_importer :
    ∃ importers, ("/ROOT/pkg/lib.py", importers) ∈ ofFolder (pairTree "import lib\n") "/ROOT" ∧
      "/ROOT/pkg/main.py" ∈ importers ∧ importers.Nodup := by
  obtain ⟨members, _, entries⟩ := graph_holds_last_imports (pairTree "import lib\n") "/ROOT"
  have known := (members "/ROOT/pkg/lib.py" "/ROOT/pkg/main.py").mpr
    ⟨"lib", "main.py", (Table.isLast_iff_mem (pairTree_distinct _)).mpr (pairTree_library _),
      (Table.isLast_iff_mem (pairTree_distinct _)).mpr (pairTree_user _), _, pairTree_import,
      leads_import_iff.mpr rfl⟩
  cases found : (ofFolder (pairTree "import lib\n") "/ROOT").get? "/ROOT/pkg/lib.py" with
  | none => simp [importersOf, found] at known
  | some importers =>
    have member := Table.mem_of_get? found
    refine ⟨importers, member, ?_, (entries _ member).2.1⟩
    simpa [importersOf, found] using known

/-! ## Imports that are reported -/

theorem fileName_of_mem_filesBelow {tree : Tree} {folder : String} (proper : tree.Proper)
    {name path : String} (member : (name, path) ∈ filesBelow tree folder) :
    Path.fileName path = name := by
  obtain ⟨visit, visited, among⟩ := List.mem_flatMap.mp member
  obtain ⟨_, kept, same⟩ := List.mem_map.mp among
  obtain ⟨rfl, rfl⟩ := Prod.mk.inj same
  exact Path.fileName_join (proper.of_mem_files _ visited (List.mem_filter.mp kept).1)

theorem constraints_imported {graph : ImportGraph} {path importer : String}
    (member : importer ∈ graph.importersOf path) :
    graph.constraints path = String.intercalate "\n" (
      ["CRITICAL: This file is imported by " ++ toString (graph.importersOf path).length ++ " other files.",
        "You MUST preserve the following potential interfaces:"]
      ++ (graph.importersOf path).map (fun importer => "- Imported by: " ++ Path.fileName importer)
      ++ ["DO NOT change public function names or class names.",
        "DO NOT change argument order in public functions."]) := by
  unfold constraints
  cases found : graph.importersOf path with
  | nil =>
    rw [found] at member
    cases member
  | cons first rest => rfl

theorem contains_constraints {graph : ImportGraph} {path importer : String}
    (member : importer ∈ graph.importersOf path) :
    Text.contains (graph.constraints path) ("- Imported by: " ++ Path.fileName importer) = true := by
  rw [constraints_imported member]
  apply Text.contains_intercalate
  exact List.mem_append_left _ (List.mem_append_right _ (List.mem_map.mpr ⟨importer, member, rfl⟩))

theorem contains_critical {graph : ImportGraph} {path importer : String}
    (member : importer ∈ graph.importersOf path) :
    Text.contains (graph.constraints path) "CRITICAL" = true := by
  have heading : Text.contains ("CRITICAL: This file is imported by " ++
      toString (graph.importersOf path).length ++ " other files.") "CRITICAL" = true := by
    rw [String.append_assoc]
    exact Text.contains_append_left (by decide) _
  rw [constraints_imported member]
  exact Text.contains_trans (Text.contains_intercalate List.mem_cons_self) heading

def Imports (program : Program) (module : String) : Prop :=
  (∃ origin names level, origin.text = module ∧
    program.Holds (.stmt (.importFrom (some origin) names level))) ∨
  ∃ names, program.Holds (.stmt (.importNames names)) ∧ ∃ found ∈ names, found.name.text = module

/-- Among files of different names, an importer of a module is known, and reported, exactly if one of
its statements imports from the module or has it as its last name. A module that is only imported
before other names is missed. -/
theorem importer_known_iff_leads {tree : Tree} {folder : String} (proper : tree.Proper)
    (distinct : ((filesBelow tree folder).map Prod.fst).Nodup) {name importer module target : String}
    {program : Program} (listed : (name, importer) ∈ filesBelow tree folder)
    (held : ProgramAt tree importer program)
    (present : (module ++ ".py", target) ∈ filesBelow tree folder) :
    (importer ∈ (ofFolder tree folder).importersOf target ↔ Leads program module) ∧
      (Leads program module → Text.contains ((ofFolder tree folder).constraints target)
        ("- Imported by: " ++ Path.fileName importer) = true) := by
  have known : importer ∈ (ofFolder tree folder).importersOf target ↔ Leads program module := by
    constructor
    · intro member
      obtain ⟨other, _, last, _, found, read, leads⟩ := mem_importersOf.mp member
      -- the path of the target tells its name, and so the module
      have ofOther : Path.fileName target = other ++ ".py" :=
        fileName_of_mem_filesBelow proper last.mem
      have ofModule : Path.fileName target = module ++ ".py" :=
        fileName_of_mem_filesBelow proper present
      have same : other = module := by simpa using ofOther.symm.trans ofModule
      rw [← same, held.unique read]
      exact leads
    · exact mem_importersOf_of_leads distinct listed held present
  exact ⟨known, fun leads => contains_constraints (known.mpr leads)⟩

theorem first_of_two_names_missed :
    ∃ program, ProgramAt (pairTree "import lib, os\n") "/ROOT/pkg/main.py" program ∧
      Imports program "lib" ∧ "/ROOT/pkg/main.py" ∉
        (ofFolder (pairTree "import lib, os\n") "/ROOT").importersOf "/ROOT/pkg/lib.py" := by
  let tree := pairTree "import lib, os\n"
  have read : (tree.readText "/ROOT/pkg/main.py").toOption = some "import lib, os\n" := by
    decide +kernel
  let names : List Alias := [⟨⟨"lib", by decide⟩, none⟩, ⟨⟨"os", by decide⟩, none⟩]
  have held : ProgramAt tree "/ROOT/pkg/main.py" ⟨[.importNames names]⟩ :=
    programAt_import read (by decide +kernel)
  have proper : tree.Proper := by
    unfold Tree.Proper
    decide
  have imports : Imports ⟨[.importNames names]⟩ "lib" :=
    Or.inr ⟨names, holds_import_iff.mpr (Or.inr rfl), _, List.mem_cons_self, rfl⟩
  refine ⟨_, held, imports, ?_⟩
  rw [(importer_known_iff_leads proper (pairTree_distinct _) (pairTree_user _) held
    (pairTree_library _)).1, leads_import_iff]
  decide

end ImportGraph

end Refactory.Analysis
