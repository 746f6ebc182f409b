import Refactory.Proofs.Analysis.ImportGraph
import Refactory.Proofs.Workspace.Refill

/-! Files that are no programs, in the graph of imports.

The graph of a folder depends on the files that a walk comes by and on what each of them imports. A file
that cannot be read as a program is listed like any other and imports nothing.
-/

set_option autoImplicit false

namespace Refactory.Analysis

open Source Workspace

/-- The bytes are no text, or a text that is no program. -/
def Broken (bytes : List UInt8) : Prop :=
  (∃ fault, Text.Utf8.decode bytes = .error fault) ∨ ∃ text, Text.Utf8.decode bytes = .ok text ∧
    ∃ error, Program.parse (String.ofList (Text.unifyLineEnds text.toList)) = .error error

namespace ImportGraph

theorem ofFolder_congr {tree other : Tree} {folder : String}
    (visits : other.visits folder = tree.visits folder)
    (imports : ∀ path, importsOf other path = importsOf tree path) :
    ofFolder other folder = ofFolder tree folder := by
  have added (index : Table String) : addImports other index = addImports tree index := by
    funext graph path
    rw [addImports, addImports, imports]
  simp only [ofFolder, visits, added]

theorem importsOf_congr {tree other : Tree} {path : String}
    (same : other.readBytes path = tree.readBytes path) : importsOf other path = importsOf tree path := by
  simp only [importsOf, Tree.readText, same]

theorem importsOf_of_text {tree : Tree} {path text : String} (read : tree.readText path = .ok text) :
    importsOf tree path = ((Program.parse text).toOption.map importedNames).getD [] := by
  simp only [importsOf, read]
  cases Program.parse text <;> rfl

theorem readText_of_bytes {tree : Tree} {path : String} {bytes : List UInt8}
    (read : tree.readBytes path = .ok bytes) : tree.readText path =
      ((Text.Utf8.decode bytes).mapError Fault.encoding).map fun text =>
        String.ofList (Text.unifyLineEnds text.toList) := by
  unfold Tree.readText
  rw [read]
  change ((Text.Utf8.decode bytes).mapError Fault.encoding >>= _) = _
  cases Text.Utf8.decode bytes <;> rfl

theorem importsOf_broken {tree : Tree} {path : String} {bytes : List UInt8}
    (read : tree.readBytes path = .ok bytes) (broken : Broken bytes) : importsOf tree path = [] := by
  have found := readText_of_bytes read
  rcases broken with ⟨fault, undecoded⟩ | ⟨text, decoded, error, unparsed⟩
  · rw [undecoded] at found
    unfold importsOf
    rw [found]
    rfl
  · rw [decoded] at found
    rw [importsOf_of_text found, unparsed]
    rfl

theorem importsOf_empty {tree : Tree} {path : String} (read : tree.readBytes path = .ok []) :
    importsOf tree path = [] := by
  have text : tree.readText path = .ok "" := readText_of_bytes read
  have bare : ((Program.parse "").toOption.map importedNames).getD [] = [] := by decide +kernel
  rw [importsOf_of_text text, bare]

/-- A file that is no program counts in the graph of imports like a file without content: the same files
are listed, in the same order, and each with the same importers. -/
theorem broken_file_as_empty {tree : Tree} {place : Place} {bytes : List UInt8}
    (held : tree.get? place = some (.file bytes)) (broken : Broken bytes) (folder : String) :
    ofFolder tree folder = ofFolder (tree.refill place []) folder := by
  symm
  apply ofFolder_congr (Tree.visits_refill [] held folder)
  intro path
  rcases Tree.readBytes_refill [] held path with same | ⟨before, after⟩
  · exact importsOf_congr same
  · rw [importsOf_broken before broken, importsOf_empty after]

def garbledPair : Tree := (pairTree "import lib\n").refill ["ROOT", "pkg", "lib.py"] [0xff]

theorem garbledPair_files : filesBelow garbledPair "/ROOT" = filesBelow (pairTree "import lib\n") "/ROOT" := by
  have there : (pairTree "import lib\n").get? ["ROOT", "pkg", "lib.py"] =
      some (.file (Text.Utf8.encode "x = 1\n")) := rfl
  rw [filesBelow, filesBelow, garbledPair, Tree.visits_refill _ there]

theorem garbledPair_importer :
    "/ROOT/pkg/main.py" ∈ (ofFolder garbledPair "/ROOT").importersOf "/ROOT/pkg/lib.py" := by
  have read : (garbledPair.readText "/ROOT/pkg/main.py").toOption = some "import lib\n" := by
    decide +kernel
  have imports : ProgramAt garbledPair "/ROOT/pkg/main.py"
      ⟨[.importNames [⟨⟨"lib", by decide⟩, none⟩]]⟩ := programAt_import read (by decide +kernel)
  have distinct : ((filesBelow garbledPair "/ROOT").map Prod.fst).Nodup := by
    rw [garbledPair_files]
    exact pairTree_distinct _
  have user : ("main.py", "/ROOT/pkg/main.py") ∈ filesBelow garbledPair "/ROOT" := by
    rw [garbledPair_files]
    exact pairTree_user _
  have library : ("lib" ++ ".py", "/ROOT/pkg/lib.py") ∈ filesBelow garbledPair "/ROOT" := by
    rw [garbledPair_files]
    exact pairTree_library _
  exact mem_importersOf_of_leads distinct user imports library (leads_import_iff.mpr rfl)

theorem broken_byte : Broken [0xff] := by
  have undecoded : (Text.Utf8.decode [0xff]).isOk = false := by decide
  cases decoded : Text.Utf8.decode [0xff] with
  | error fault => exact Or.inl ⟨fault, decoded⟩
  | ok text =>
    rw [decoded] at undecoded
    cases undecoded

theorem garbled_library_listed :
    garbledPair.get? ["ROOT", "pkg", "lib.py"] = some (.file [0xff]) ∧ Broken [0xff] ∧
      ofFolder garbledPair "/ROOT" = ofFolder (garbledPair.refill ["ROOT", "pkg", "lib.py"] []) "/ROOT" ∧
      "/ROOT/pkg/main.py" ∈ (ofFolder (garbledPair.refill ["ROOT", "pkg", "lib.py"] []) "/ROOT").importersOf
        "/ROOT/pkg/lib.py" := by
  have held : garbledPair.get? ["ROOT", "pkg", "lib.py"] = some (.file [0xff]) := by decide
  have same := broken_file_as_empty held broken_byte "/ROOT"
  refine ⟨held, broken_byte, same, ?_⟩
  rw [← same]
  exact garbledPair_importer

end ImportGraph

end Refactory.Analysis
