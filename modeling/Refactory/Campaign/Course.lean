import Refactory.Campaign.World

/-! The course: sample files that show what a campaign is up against. -/

set_option autoImplicit false

namespace Refactory.Campaign.Course

open Workspace

def createFile (path text : String) : Action Unit := do
  record (.saved path text)
  let world ← get
  let (tree, fault) := world.tree.saveText path text
  set { world with tree }
  match fault with
  | some fault => throw (.file fault)
  | none => say ("Created: " ++ path)

def nestedConditions : String :=
  String.intercalate "\n" ["",
    "def calc(x, y, op):",
    "    if op == 'add':",
    "        return x + y",
    "    elif op == 'sub':",
    "        return x - y",
    "    elif op == 'mul':",
    "        if x > 0:",
    "            if y > 0:",
    "                return x * y",
    "        return 0",
    "    else:",
    "        return None",
    ""]

def globalRate : String :=
  String.intercalate "\n" ["",
    "TAX_RATE = 0.15",
    "",
    "def calculate_total(price):",
    "    # Implicitly uses global TAX_RATE",
    "    # If refactored to a pure function without passing TAX_RATE, this breaks.",
    "    return price + (price * TAX_RATE)",
    ""]

def importedFunction : String :=
  String.intercalate "\n" ["",
    "def process_data(data):",
    "    # This function is spaghetti, BUT its signature (data) is locked by dependency.",
    "    res = []",
    "    for i in data:",
    "        if i > 5:",
    "            res.append(i * 2)",
    "    return res",
    ""]

def importer : String :=
  String.intercalate "\n" ["",
    "from lib import process_data",
    "",
    "data = [1, 6, 3, 8]",
    "# If the Agent changes process_data to take 2 arguments, this line CRASHES.",
    "result = process_data(data) ",
    "print(result)",
    ""]

def files : List (String × String) :=
  [("demo_gauntlet/level1_spaghetti.py", nestedConditions),
    ("demo_gauntlet/level2_global_trap.py", globalRate),
    ("demo_gauntlet/level3_dependency/lib.py", importedFunction),
    ("demo_gauntlet/level3_dependency/main.py", importer)]

def setUp : Action Unit := do
  files.forM fun file => createFile file.1 file.2
  say "✅ Gauntlet Created. Ready for Streamlit Demo."

def run (others : List (String × String)) : Action Unit := do
  setUp
  others.forM fun file => createFile file.1 file.2

end Refactory.Campaign.Course
