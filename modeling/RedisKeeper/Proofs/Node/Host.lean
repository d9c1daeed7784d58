import Mathlib.Data.List.Basic
import RedisKeeper.Proofs.Address.RoundTrip
import RedisKeeper.Proofs.Node.Log
import RedisKeeper.Proofs.Text.Searching
import RedisKeeper.Proofs.Topology.Table

/-
Which hosts a table lists.

A host is searched for with a colon behind it, so it is found where the address of a
row is the host, but also where the address ends in it and where the address goes on
with a colon behind it (`Column.found_iff`).  Brackets around an address only rule out
the second.  A table thus lists the hosts of its rows and those that the addresses of
its rows are mistaken for (`lists_iff_of_columns`).
-/
namespace RedisKeeper

/-! ## Addresses as text -/

/-- The canonical text of an address of version 6.  One that stands for an address of
version 4 ends in the text of that one. -/
def Ipv6.canonical (a : Ipv6) : List Char :=
  match a.mapped? with
  | some b => "::ffff:".toList ++ b.text
  | none => a.text

/-- Whether a text is the canonical text of an address. -/
inductive IsIp : List Char → Prop
  | v4 (a : Ipv4) : IsIp a.text
  | v6 (a : Ipv6) : IsIp a.canonical

theorem Address.isIp_host (a : Address) : IsIp a.host.toList := by
  cases a with
  | v4 a =>
    rw [host, String.toList_ofList]
    exact .v4 a
  | v6 a unmapped =>
    have hcanonical : a.canonical = a.text := by rw [Ipv6.canonical, unmapped]
    rw [host, String.toList_ofList, ← hcanonical]
    exact .v6 a

theorem IsIp.bracket_not_mem {ip : List Char} (h : IsIp ip) {c : Char}
    (hc : c = '[' ∨ c = ']') : c ∉ ip := by
  have hdigit : ∀ d < 16, Nat.digitChar d ≠ c := by rcases hc with rfl | rfl <;> decide
  have hdot : c ≠ '.' := by rcases hc with rfl | rfl <;> decide
  have hcolon : c ≠ ':' := by rcases hc with rfl | rfl <;> decide
  have hv4 : ∀ b : Ipv4, c ∉ b.text := Ipv4.not_mem_text (fun d hd => hdigit d (by omega)) hdot
  cases h with
  | v4 a => exact hv4 a
  | v6 a =>
    rw [Ipv6.canonical]
    split
    · rename_i b _
      rw [List.mem_append, not_or]
      exact ⟨by rcases hc with rfl | rfl <;> decide, hv4 b⟩
    · exact a.not_mem_text hdigit hcolon

theorem Ipv4.text_ne_nil (a : Ipv4) : a.text ≠ [] := Text.join_ne_nil Nat.toDigits_ne_nil _

theorem Ipv6.text_ne_nil (a : Ipv6) : a.text ≠ [] := by
  have hgroups : groupsText a.groups ≠ [] := by
    cases hg : a.groups with
    | nil => exact absurd a.length_eq (by rw [hg]; decide)
    | cons group groups => exact groupsText_ne_nil group groups
  dsimp only [text]
  split
  · exact hgroups
  · simp

theorem IsIp.ne_nil {ip : List Char} (h : IsIp ip) : ip ≠ [] := by
  cases h with
  | v4 a => exact a.text_ne_nil
  | v6 a =>
    rw [Ipv6.canonical]
    split
    · exact List.append_ne_nil_of_left_ne_nil (by decide) _
    · exact a.text_ne_nil

/-! ## The address column -/

/-- The address column of a row: an address, in brackets or not, with the ports for
clients and for the other nodes. -/
structure Column where
  ip : List Char
  bracketed : Bool
  port : Nat
  bus : Nat

namespace Column

def ports (c : Column) : List Char := Nat.toDigits 10 c.port ++ '@' :: Nat.toDigits 10 c.bus

def text (c : Column) : List Char :=
  (if c.bracketed then '[' :: c.ip ++ [']'] else c.ip) ++ ':' :: c.ports

/-- Whether another address is mistaken for a host: it ends in the host, outside of
brackets, or goes on with a colon behind it. -/
def Misleads (c : Column) (host : List Char) : Prop :=
  c.ip ≠ host ∧
    (c.bracketed = false ∧ host <:+ c.ip ∨ Text.contains (host ++ [':']) c.ip = true)

variable {c : Column} {host : List Char}

theorem not_mem_ports {x : Char} (hx : x = '[' ∨ x = ']' ∨ x = ':') (c : Column) :
    x ∉ c.ports := by
  have hdigits : ∀ n, x ∉ Nat.toDigits 10 n :=
    Text.not_mem_toDigits (by decide) (by rcases hx with rfl | rfl | rfl <;> decide)
  have hat : x ≠ '@' := by rcases hx with rfl | rfl | rfl <;> decide
  simp [ports, hdigits, hat]

theorem found_iff (hip : IsIp c.ip) (hhost : IsIp host) :
    (Text.contains (host ++ [':']) c.text ||
        Text.contains ('[' :: host ++ [']', ':']) c.text) = true ↔
      c.ip = host ∨ c.Misleads host := by
  have hcolon : ':' ∉ c.ports := not_mem_ports (.inr (.inr rfl)) c
  have hports : ∀ x, x = '[' ∨ x = ']' → x ∉ c.ports :=
    fun x hx => not_mem_ports (hx.imp_right .inl) c
  rw [Bool.or_eq_true, Misleads, text]
  cases hbracketed : c.bracketed with
  | false =>
    have hnot : Text.contains ('[' :: host ++ [']', ':']) (c.ip ++ ':' :: c.ports) = false :=
      Text.contains_eq_false List.mem_cons_self (by simp [hip.bracket_not_mem, hports])
    rw [if_neg Bool.false_ne_true, Text.contains_concat_iff hcolon, hnot]
    by_cases heq : c.ip = host <;> simp [heq]
  | true =>
    have hneedle : ∀ x, x = '[' ∨ x = ']' → x ∉ host ++ [':'] := by
      rintro x (rfl | rfl) <;> simp [hhost.bracket_not_mem]
    have hne : host ++ [':'] ≠ [] := by simp
    have hnone : Text.contains (host ++ [':']) (':' :: c.ports) = false := by
      refine Bool.eq_false_iff.mpr fun h => ?_
      rcases (Text.contains_concat_iff (s := []) hcolon).mp h with hsuffix | hnil
      · exact hhost.ne_nil (List.suffix_nil.mp hsuffix)
      · exact hne (List.isEmpty_iff.mp hnil)
    have hplain : Text.contains (host ++ [':']) ('[' :: c.ip ++ ']' :: ':' :: c.ports) =
        Text.contains (host ++ [':']) c.ip := by
      rw [List.cons_append, Text.contains_cons (hneedle '[' (.inl rfl)) hne,
        Text.contains_append_cons (hneedle ']' (.inr rfl)) hne, hnone, Bool.or_false]
    have htext : '[' :: c.ip ++ [']'] ++ ':' :: c.ports = '[' :: c.ip ++ ']' :: ':' :: c.ports := by
      simp
    rw [if_pos rfl, htext, hplain,
      Text.contains_bracketed_iff (fun x => hip.bracket_not_mem) hports]
    by_cases heq : c.ip = host <;> simp [heq]

end Column

/-- Whether a column is that of the row, with a canonical address. -/
def Record.Shows (r : Record) (c : Column) : Prop := IsIp c.ip ∧ r.address = c.text

namespace Snapshot

/-- Whether some row has a host for its address. -/
def HasHost (table : Snapshot) (host : List Char) : Prop :=
  ∃ r ∈ table.records, ∃ c, r.Shows c ∧ c.ip = host

/-- Whether the address of some row is mistaken for a host. -/
def Misleads (table : Snapshot) (host : List Char) : Prop :=
  ∃ r ∈ table.records, ∃ c, r.Shows c ∧ c.Misleads host

variable {table : Snapshot} {host : List Char}

theorem lists_iff (hcolumns : ∀ r ∈ table.records, ∃ c, r.Shows c) (hhost : IsIp host) :
    table.lists (String.ofList host) = true ↔ table.HasHost host ∨ table.Misleads host := by
  rw [lists, List.any_eq_true, String.toList_ofList]
  constructor
  · rintro ⟨r, hr, hfound⟩
    obtain ⟨c, hip, haddress⟩ := hcolumns r hr
    rw [haddress, Column.found_iff hip hhost] at hfound
    rcases hfound with hfound | hfound
    · exact .inl ⟨r, hr, c, ⟨hip, haddress⟩, hfound⟩
    · exact .inr ⟨r, hr, c, ⟨hip, haddress⟩, hfound⟩
  · rintro (⟨r, hr, c, ⟨hip, haddress⟩, hfound⟩ | ⟨r, hr, c, ⟨hip, haddress⟩, hfound⟩)
    · exact ⟨r, hr, by rw [haddress, Column.found_iff hip hhost]; exact .inl hfound⟩
    · exact ⟨r, hr, by rw [haddress, Column.found_iff hip hhost]; exact .inr hfound⟩

end Snapshot

namespace Node

variable {tools : Tools} {t : Target} {table : Snapshot}

theorem skipped_iff {index : Nat} {a : Address} :
    (attach tools t table index).Yields [resolved (t.pod .follower index) (.ok a)] .skipped ↔
      index < t.leaders ∧ table.lists a.host = true := by
  constructor
  · intro h
    generalize hlog : [resolved (t.pod .follower index) (.ok a)] = log at h
    cases attached_of_yields h with
    | skipped b hindex hlists =>
      obtain ⟨-, hb⟩ := (Exchange.mk.injEq ..).mp (List.cons.inj hlog).1
      obtain rfl := Except.ok.inj (eq_of_heq hb)
      exact ⟨hindex, hlists⟩
  · rintro ⟨hindex, hlists⟩
    rw [attach, if_neg (Nat.not_le.mpr hindex)]
    refine ⟨.ok a, [], rfl, ?_⟩
    simp only [Program.bind]
    rw [if_pos hlists]
    exact ⟨rfl, rfl⟩

/-- A table lists the hosts that its rows have and those that they are mistaken for, and
followers with these hosts are taken for attached. -/
theorem lists_iff_of_columns (hcolumns : ∀ r ∈ table.records, ∃ c, r.Shows c) :
    (∀ host, IsIp host → (table.lists (String.ofList host) = true ↔
      table.HasHost host ∨ table.Misleads host)) ∧
    ∀ tools t index a,
      (attach tools t table index).Yields [resolved (t.pod .follower index) (.ok a)] .skipped ↔
        index < t.leaders ∧ (table.HasHost a.host.toList ∨ table.Misleads a.host.toList) := by
  refine ⟨fun host hhost => Snapshot.lists_iff hcolumns hhost, fun tools t index a => ?_⟩
  rw [skipped_iff, ← Snapshot.lists_iff hcolumns a.isIp_host, String.ofList_toList]

/-- The row of a node at `fd00::10`. -/
def bracketedTable : Snapshot :=
  ⟨[⟨["b1", "[fd00::10]:6379@16379", "slave", "a1", "0", "0", "1", "connected"].map
    String.toList⟩]⟩

theorem lists_of_bracketedTable :
    (∀ r ∈ bracketedTable.records, ∃ c, r.Shows c) ∧ IsIp "fd00::10".toList ∧
      bracketedTable.lists "fd00::10" = true := by
  have hip : IsIp "fd00::10".toList := by
    have htext : "fd00::10".toList = Ipv6.canonical ⟨[0xfd00, 0, 0, 0, 0, 0, 0, 0x10], rfl⟩ := by
      decide
    rw [htext]
    exact .v6 _
  have hshows : ∀ r ∈ bracketedTable.records, r.Shows ⟨"fd00::10".toList, true, 6379, 16379⟩ :=
    List.forall_mem_cons.mpr ⟨⟨hip, by decide⟩, nofun⟩
  have hcolumns : ∀ r ∈ bracketedTable.records, ∃ c, r.Shows c := fun r hr => ⟨_, hshows r hr⟩
  refine ⟨hcolumns, hip, ((lists_iff_of_columns hcolumns).1 _ hip).mpr (.inl ?_)⟩
  exact ⟨_, List.mem_cons_self, _, hshows _ List.mem_cons_self, rfl⟩

/-- The table of a cluster that has a node at `110.0.0.5`. -/
def longerTable : Snapshot :=
  .ofText "b1 110.0.0.5:6379@16379 slave a1 0 0 1 connected\n"

/-- No row has the host `10.0.0.5`, and still the table lists it and a follower there is
not attached. -/
theorem lists_of_longerTable :
    (∀ r ∈ longerTable.records, ∃ c, r.Shows c) ∧
      ¬ longerTable.HasHost (Address.v4 ⟨10, 0, 0, 5⟩).host.toList ∧
      longerTable.lists (Address.v4 ⟨10, 0, 0, 5⟩).host = true ∧
      ∀ tools t, 0 < t.leaders → (attach tools t longerTable 0).Yields
        [resolved (t.pod .follower 0) (.ok (.v4 ⟨10, 0, 0, 5⟩))] .skipped := by
  have hrecords : longerTable.records =
      [⟨["b1", "110.0.0.5:6379@16379", "slave", "a1", "0", "0", "1", "connected"].map
        String.toList⟩] := by decide
  have hlonger : IsIp "110.0.0.5".toList := by
    have htext : "110.0.0.5".toList = Ipv4.text ⟨110, 0, 0, 5⟩ := by decide
    exact htext ▸ .v4 _
  have hlists : longerTable.lists (Address.v4 ⟨10, 0, 0, 5⟩).host = true := by decide
  refine ⟨?_, ?_, hlists, fun tools t ht => skipped_iff.mpr ⟨ht, hlists⟩⟩
  · rw [hrecords]
    exact List.forall_mem_cons.mpr ⟨⟨⟨_, false, 6379, 16379⟩, hlonger, by decide⟩, nofun⟩
  · rw [Snapshot.HasHost, hrecords]
    rintro ⟨r, hr, c, ⟨-, haddress⟩, hip⟩
    obtain rfl := List.mem_singleton.mp hr
    -- Neither a bracket nor the host begins like the row's address.
    cases hbracketed : c.bracketed with
    | false =>
      rw [Column.text, hip, hbracketed] at haddress
      exact absurd (List.cons.inj (List.cons.inj haddress).2).1 (by decide)
    | true =>
      rw [Column.text, hip, hbracketed] at haddress
      exact absurd (List.cons.inj haddress).1 (by decide)

end Node
end RedisKeeper
