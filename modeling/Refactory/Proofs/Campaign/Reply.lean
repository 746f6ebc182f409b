import Refactory.Analysis.SyntaxCheck
import Refactory.Campaign.Agent
import Refactory.Proofs.Source.Sentence
import Refactory.Proofs.Text.Blank
import Refactory.Proofs.Text.Search

/-! The code of a reply: what becomes of fences, and of the message of a failure. -/

set_option autoImplicit false

namespace Refactory.Campaign

open Analysis Source

def unfenced (reply : String) : String :=
  Text.replace (Text.replace reply "```python" "") "```" ""

theorem codeOf_eq (reply : String) : codeOf reply = Text.trim (unfenced reply) := rfl

def fence : List Char := List.replicate 3 '`'

def namedFence : List Char := fence ++ ['p', 'y', 't', 'h', 'o', 'n']

theorem toList_unfenced (reply : String) : (unfenced reply).toList =
    Text.replaceFrom fence [] 0 (Text.replaceFrom namedFence [] 0 reply.toList) := by
  rw [unfenced, Text.replace, Text.replace]
  repeat rw [String.toList_ofList]
  rfl

theorem contains_fence_iff (text : String) : Text.contains text "```" = true ↔ fence <:+: text.toList :=
  Text.contains_iff text "```"

theorem unfenced_of_no_fence {reply : String} (plain : Text.contains reply "```" = false) :
    unfenced reply = reply := by
  have unnamed : Text.contains reply "```python" = false := by
    rw [← Bool.not_eq_true] at plain ⊢
    exact fun found => plain (Text.contains_trans found (by decide))
  rw [unfenced, Text.replace_of_not_contains unnamed, Text.replace_of_not_contains plain]

/-- What a reply begins with before any fence is still there when the fences are gone. -/
theorem toList_unfenced_append (start : String) (free : '`' ∉ start.toList) (rest : String) :
    ∃ more, (unfenced (start ++ rest)).toList = start.toList ++ more := by
  refine ⟨Text.replaceFrom fence [] 0 (Text.replaceFrom namedFence [] 0 rest.toList), ?_⟩
  rw [toList_unfenced, String.toList_append]
  exact (congrArg _ (Text.replaceFrom_append free _ _ _)).trans (Text.replaceFrom_append free _ _ _)

/-! ## Fences in a reply -/

/-- A fence has no blanks, so trimming neither makes one nor takes one away. -/
theorem contains_trim_fence (text : String) :
    Text.contains (Text.trim text) "```" = Text.contains text "```" := by
  have inked : ∀ c ∈ fence, Text.isBlank c = false := Text.isBlank_of_any (by decide)
  rw [Bool.eq_iff_iff, contains_fence_iff, contains_fence_iff, Text.trim, String.toList_ofList]
  exact Text.infix_trimChars_iff (by decide) inked text.toList

theorem codeOf_no_fence (reply : String) : Text.contains (codeOf reply) "```" = false := by
  rw [codeOf_eq, contains_trim_fence, ← Bool.not_eq_true, contains_fence_iff, toList_unfenced]
  exact Text.not_infix_replaceFrom '`' (by decide) _

/-- The code of a reply is the reply, but for blanks around it, exactly if the reply has no fence. -/
theorem codeOf_eq_trim_iff (reply : String) :
    codeOf reply = Text.trim reply ↔ Text.contains reply "```" = false := by
  constructor
  · intro same
    rw [← contains_trim_fence, ← same]
    exact codeOf_no_fence reply
  · intro plain
    rw [codeOf_eq, unfenced_of_no_fence plain]

/-- Of a code block, the lines between its fences are left, without the fences among them. -/
theorem toList_unfenced_block (code : String) : (unfenced ("```python\n" ++ code ++ "\n```")).toList =
    ['\n'] ++ (unfenced code).toList ++ ['\n'] := by
  have block : ("```python\n" ++ code ++ "\n```").toList =
      namedFence ++ '\n' :: (code.toList ++ '\n' :: fence) := by
    rw [String.toList_append, String.toList_append]
    exact List.append_assoc namedFence ('\n' :: code.toList) ('\n' :: fence)
  -- a line end is no part of a fence, so the three parts of the block are read on their own
  have parts_named := @Text.replaceFrom_parted '\n' namedFence (by decide) (by decide) []
  have parts := @Text.replaceFrom_parted '\n' fence (by decide) (by decide) []
  have opening : Text.replaceFrom namedFence [] 0 namedFence = [] := by decide
  have unnamed : Text.replaceFrom namedFence [] 0 fence = fence := by decide
  have closing : Text.replaceFrom fence [] 0 fence = [] := by decide
  rw [toList_unfenced, toList_unfenced, block, parts_named, parts_named, opening, unnamed, parts, parts,
    closing]
  rfl

theorem codeOf_block (code : String) : codeOf ("```python\n" ++ code ++ "\n```") = codeOf code := by
  have lineEnd : Text.AllBlank ['\n'] := List.forall_mem_singleton.mpr (by decide)
  rw [codeOf_eq, codeOf_eq, Text.trim, Text.trim, toList_unfenced_block,
    Text.trimChars_around lineEnd lineEnd]

/-- The code of a reply has no fences, and is its own code. It is the same for a reply that stands in a
block of code, and but for blanks around it, it is the reply itself exactly if that has no fences. -/
theorem code_unfenced_and_settled (reply : String) :
    Text.contains (codeOf reply) "```" = false ∧
    codeOf (codeOf reply) = codeOf reply ∧
    codeOf ("```python\n" ++ reply ++ "\n```") = codeOf reply ∧
    (codeOf reply = Text.trim reply ↔ Text.contains reply "```" = false) := by
  have clean := codeOf_no_fence reply
  refine ⟨clean, ?_, codeOf_block reply, codeOf_eq_trim_iff reply⟩
  rw [(codeOf_eq_trim_iff (codeOf reply)).mpr clean, codeOf_eq, Text.trim_trim]

-- a fence that comes about where a named one is taken out goes with the others
example : codeOf "x `````python` y ````" = "x  y `" := by decide +kernel

/-! ## Failures -/

theorem codeOf_failure (message : String) :
    ∃ rest, (codeOf ("Agent Error: " ++ message)).toList =
      "Agent".toList ++ ' ' :: ("Error".toList ++ ':' :: rest) := by
  obtain ⟨more, begun⟩ := toList_unfenced_append "Agent Error: " (by decide) message
  have solid : Text.Solid "Agent Error:".toList := .of_any (by decide) (by decide)
  obtain ⟨rest, kept⟩ := Text.prefix_trimChars solid (' ' :: more)
  refine ⟨rest, ?_⟩
  rw [codeOf_eq, Text.trim, String.toList_ofList, begun]
  -- as lists of characters the literals are compared without unfolding them
  repeat rw [String.toList_ofList] at kept
  repeat rw [String.toList_ofList]
  exact kept.symm

/-- No failure of a model, whatever its message, gives code that is a program. -/
theorem failure_invalid (message : String) :
    (checkSyntax (codeOf ("Agent Error: " ++ message))).isValid = false := by
  obtain ⟨rest, spelled⟩ := codeOf_failure message
  have agent : PlainWord "Agent".toList := ⟨by decide, List.all_eq_true.mp (by decide), by decide⟩
  have error : PlainWord "Error".toList := ⟨by decide, List.all_eq_true.mp (by decide), by decide⟩
  have unread := parse_of_words spelled agent (by decide) error (by decide) (by decide) (by decide)
  unfold checkSyntax
  cases parsed : Program.parse (codeOf ("Agent Error: " ++ message)) with
  | ok program => simp [parsed, Except.isOk, Except.toBool] at unread
  | error fault => rfl

end Refactory.Campaign
