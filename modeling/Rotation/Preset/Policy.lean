/-!
# Policies of a skill node

How a node decides that its action has started and that it is complete, and
what it does while another attempt holds the cast lock.
-/

namespace Rotation

/-- What counts as the start of the action: the key press itself, the ready
indicator going dark, or the cast bar leaving its baseline. -/
inductive StartMode where
  | none
  | pixel
  | castBar
  deriving DecidableEq, Repr, Inhabited

namespace StartMode

/-- The name of a start mode in documents. -/
def name : StartMode → String
  | .none => "none"
  | .pixel => "pixel"
  | .castBar => "cast_bar"

/-- The start mode with a name. -/
def ofName? (s : String) : Option StartMode :=
  [.none, .pixel, .castBar].find? fun m => m.name == s

end StartMode

/-- What completes the action: the cast time alone; a signal, or failure; a
signal, or success all the same; a signal once it has been observable. -/
inductive CompletionPolicy where
  | assumeSuccess
  | requireSignal
  | hybrid
  | hybridIfObservable
  deriving DecidableEq, Repr, Inhabited

namespace CompletionPolicy

/-- The name of a completion policy in documents. -/
def name : CompletionPolicy → String
  | .assumeSuccess => "assume_success"
  | .requireSignal => "require_signal"
  | .hybrid => "hybrid"
  | .hybridIfObservable => "hybrid_if_observable"

/-- The completion policy with a name. -/
def ofName? (s : String) : Option CompletionPolicy :=
  [.assumeSuccess, .requireSignal, .hybrid, .hybridIfObservable].find? fun p => p.name == s

end CompletionPolicy

/-- What to do while another attempt holds the cast lock. -/
inductive LockPolicy where
  | skipAndAdvance
  | skipButHold
  | wait
  deriving DecidableEq, Repr, Inhabited

namespace LockPolicy

/-- The name of a lock policy in documents. -/
def name : LockPolicy → String
  | .skipAndAdvance => "skip_and_advance"
  | .skipButHold => "skip_but_hold"
  | .wait => "wait"

/-- The lock policy with a name. -/
def ofName? (s : String) : Option LockPolicy :=
  [.skipAndAdvance, .skipButHold, .wait].find? fun p => p.name == s

end LockPolicy

/-- A lock policy and how long it may wait. -/
structure LockOptions where
  policy : LockPolicy
  timeoutMs : UInt64
  deriving DecidableEq, Repr, Inhabited

/-- The lock options of a node that does not give any. -/
def LockOptions.standard : LockOptions :=
  ⟨.skipAndAdvance, 500⟩

end Rotation
