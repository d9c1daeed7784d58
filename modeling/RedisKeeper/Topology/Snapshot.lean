import RedisKeeper.Text.Blank
import RedisKeeper.Topology.Record

/-
The table of a cluster's nodes, as one node sees it at one moment.

Reading works line by line (`ofText_append`): a line that is blank or names no
node is left out, and the others are read all the same.
-/
namespace RedisKeeper

structure Snapshot where
  records : List Record
deriving DecidableEq, Inhabited

namespace Snapshot

def empty : Snapshot := ⟨[]⟩

/-- The row of one line, without any carriage returns at its end. -/
def recordOfLine? (line : List Char) : Option Record :=
  let line := Text.trimEnd (· = '\r') line
  if Text.blank line then none else Record.read? line

def recordsOf (text : List Char) : List Record :=
  (Text.cut '\n' text).filterMap recordOfLine?

def ofText (text : String) : Snapshot := ⟨recordsOf text.toList⟩

def isEmpty (s : Snapshot) : Bool := s.records.isEmpty

def size (s : Snapshot) : Nat := s.records.length

/-- The number of rows that carry a group's word. -/
def countRole (s : Snapshot) (role : Role) : Nat := s.records.countP (·.plays role)

def countFailing (s : Snapshot) : Nat := s.records.countP (·.isFailing)

/-- Whether a text occurs in some row's address. -/
def mentions (s : Snapshot) (needle : String) : Bool :=
  s.records.any fun r => Text.contains needle.toList r.address

/-- Whether some row's address has a host with a colon behind it, in brackets or
not.  The colon keeps a host from being found at the start of a longer one. -/
def lists (s : Snapshot) (host : String) : Bool :=
  s.records.any fun r =>
    Text.contains (host.toList ++ [':']) r.address ||
      Text.contains ('[' :: host.toList ++ [']', ':']) r.address

theorem recordsOf_append (a b : List Char) :
    recordsOf (a ++ '\n' :: b) = recordsOf a ++ recordsOf b := by
  simp [recordsOf, Text.cut_append]

theorem ofText_append (a b : String) :
    (ofText (a ++ "\n" ++ b)).records = (ofText a).records ++ (ofText b).records := by
  simp [ofText, ← recordsOf_append]

end Snapshot
end RedisKeeper
