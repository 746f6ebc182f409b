import Refactory.Text.Blank
import Refactory.Text.Search

/-! The code in a reply of a language model. -/

set_option autoImplicit false

namespace Refactory.Campaign

/-- The code of a reply: without the fences around code blocks and without blanks around it. -/
def codeOf (reply : String) : String :=
  Text.trim (Text.replace (Text.replace reply "```python" "") "```" "")

end Refactory.Campaign
