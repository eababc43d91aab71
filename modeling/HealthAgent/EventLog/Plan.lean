import HealthAgent.EventLog.Entry
/-!
# What one cycle has to handle (specification §4.2)

The cursor is the record number of the last entry that was handled. The entries after it are
unseen; if no entry carries its number, the log was cleared or has rotated past it and all of its
entries are unseen. Of each device type the last unseen entry is terminal.

Results:
* `unseen_entries`: a plan lists the entries after the cursor.
-/
namespace HealthAgent

namespace TailPlan

/-- An entry that was not handled yet. -/
structure Unseen where
  entry : LogEntry
  /-- Whether no later unseen entry has the same device type. -/
  terminal : Bool
  deriving DecidableEq, Repr

end TailPlan

/-- What one cycle has to handle. -/
structure TailPlan where
  unseen : List TailPlan.Unseen
  /-- Whether the log holds an entry with the cursor's number. -/
  cursorFound : Bool
  deriving DecidableEq, Repr

namespace TailPlan

/-- The entries after the first one with the cursor's number, if there is one. -/
def after? (cursor : UInt64) : List LogEntry → Option (List LogEntry)
  | [] => none
  | e :: rest => if e.index = cursor then some rest else after? cursor rest

/-- Each entry with the mark whether it is the last of its device type. -/
def markTerminal : List LogEntry → List Unseen
  | [] => []
  | e :: rest => ⟨e, rest.all (·.deviceType ≠ e.deviceType)⟩ :: markTerminal rest

def make (entries : List LogEntry) (cursor : UInt64) : TailPlan :=
  match after? cursor entries with
  | some rest => ⟨markTerminal rest, true⟩
  | none => ⟨markTerminal entries, false⟩

/-- The cursor once every unseen entry was handled; none if there is no unseen entry. -/
def nextCursor (p : TailPlan) : Option UInt64 :=
  p.unseen.getLast?.map (·.entry.index)

def isEmpty (p : TailPlan) : Bool := p.unseen.isEmpty

theorem map_entry_markTerminal (es : List LogEntry) :
    (markTerminal es).map (·.entry) = es := by
  induction es with
  | nil => rfl
  | cons e rest ih => simp [markTerminal, ih]

theorem unseen_entries (es : List LogEntry) (cursor : UInt64) :
    (make es cursor).unseen.map (·.entry) = (after? cursor es).getD es := by
  unfold make
  split <;> simp_all [map_entry_markTerminal]

end TailPlan
end HealthAgent
