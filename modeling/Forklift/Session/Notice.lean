/-! # Notices

What the operator is told. Each simulation sends exactly one notice, on the channel for successes or
on the one for errors.
-/

namespace Forklift

/-- The channels for notices. -/
inductive NoticeKind where
  | success
  | error
deriving DecidableEq, Repr

def NoticeKind.name : NoticeKind → String
  | success => "success"
  | error => "error"

/-- A message on a channel. -/
structure Notice where
  kind : NoticeKind
  message : String
deriving DecidableEq, Repr

end Forklift
