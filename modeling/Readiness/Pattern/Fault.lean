/-! Why a text is not a pattern. -/

namespace Readiness.Pattern

/-- What keeps a text from being used as a pattern. -/
inductive Fault
  /-- The text is not in the grammar of patterns. -/
  | malformed
  /-- The text is well formed, but part of it means nothing for Unicode text. -/
  | meaningless
  /-- The pattern is too large to be searched for. -/
  | tooLarge
deriving DecidableEq, Repr

end Readiness.Pattern
